import Mathlib.Data.List.Range
import Mathlib.Data.List.Nodup
import Mathlib.Data.Nat.ModEq
import Mathlib.Order.Interval.Finset.Nat
import MemService.Lib.SlotTable

/-!
# Numbered rings

A ring keeps the newest values of a numbered sequence in a table of fixed size: the value with number
`n` goes to slot `(n - 1) % cap`, over the one that is `cap` numbers older.  Numbers start at one.

Two things are said of a ring with next number `next`.  `Recent` says that every value is in its slot
and among the last `cap` numbers.  `Holds` says more: the ring holds exactly the numbers of the interval
`[next - count, next)`.

A ring can be filled from a log of values in file order, where the later of two values in one slot
stays.  `recent_of_find?_reverse` is the fact that makes this work for a log of consecutive numbers that
is longer than the ring: the last value of a slot is always recent.
-/

namespace SeqRing

variable {α : Type*} {cap : ℕ}

/-- The slot of a number. -/
def slot (cap n : ℕ) : ℕ := (n - 1) % cap

lemma slot_lt (hcap : 0 < cap) (n : ℕ) : slot cap n < cap := Nat.mod_lt _ hcap

/-- A number and the one a whole ring later share their slot. -/
lemma slot_add_cap {n : ℕ} (hn : 0 < n) : slot cap (n + cap) = slot cap n := by
  rw [slot, slot, show n + cap - 1 = n - 1 + cap by omega, Nat.add_mod_right]

/-- Less than a ring apart, different numbers have different slots. -/
lemma eq_of_slot_eq {m n : ℕ} (hm : 0 < m) (hmn : m ≤ n) (hlt : n < m + cap)
    (h : slot cap m = slot cap n) : m = n := by
  have hdvd : cap ∣ n - m := by
    have hmod : Nat.ModEq cap (m - 1) (n - 1) := h
    have := (Nat.modEq_iff_dvd' (show m - 1 ≤ n - 1 by omega)).mp hmod
    rwa [show n - 1 - (m - 1) = n - m by omega] at this
  have hzero : n - m = 0 := Nat.eq_zero_of_dvd_of_lt hdvd (by omega)
  omega

/-! ## Recent values -/

section Recent

variable (seq : α → ℕ)

/-- Every value is in its slot and among the last `cap` numbers before `next`. -/
structure Recent (t : SlotTable α cap) (next : ℕ) : Prop where
  slots : ∀ i a, t.get i = some a → i = slot cap (seq a)
  positive : ∀ i a, t.get i = some a → 0 < seq a
  below : ∀ i a, t.get i = some a → seq a < next
  since : ∀ i a, t.get i = some a → next ≤ seq a + cap

variable {seq} {t : SlotTable α cap} {next : ℕ}

lemma recent_empty (next : ℕ) : Recent seq (SlotTable.empty : SlotTable α cap) next :=
  ⟨by simp, by simp, by simp, by simp⟩

/-- The next value takes the slot of the oldest one. -/
lemma Recent.push (h : Recent seq t next) (hcap : 0 < cap) (hnext : 0 < next) {a : α}
    (ha : seq a = next) : Recent seq (t.put (slot cap next) a) (next + 1) := by
  have hget := @SlotTable.get_put _ _ t _ (slot_lt hcap next) a
  refine ⟨?_, ?_, ?_, ?_⟩
  all_goals
    intro i b hb
    rw [hget] at hb
    split at hb
  · cases hb
    rw [ha]
    assumption
  · exact h.slots i b hb
  · cases hb
    omega
  · exact h.positive i b hb
  · cases hb
    omega
  · have := h.below i b hb
    omega
  · cases hb
    omega
  · rename_i hne
    have hsince := h.since i b hb
    by_contra hlt
    -- otherwise the value was the oldest, in the slot that was just taken
    have hold : next = seq b + cap := by omega
    refine hne ?_
    rw [h.slots i b hb, hold, slot_add_cap (h.positive i b hb)]

lemma Recent.keep (h : Recent seq t next) (p : α → Bool) : Recent seq (t.keep p) next := by
  have hsub : ∀ i a, (t.keep p).get i = some a → t.get i = some a := by
    intro i a ha
    rw [SlotTable.get_keep, Option.filter_eq_some_iff] at ha
    exact ha.1
  exact ⟨fun i a ha => h.slots i a (hsub i a ha), fun i a ha => h.positive i a (hsub i a ha),
    fun i a ha => h.below i a (hsub i a ha), fun i a ha => h.since i a (hsub i a ha)⟩

end Recent

/-! ## Intervals -/

section Holds

variable (seq : α → ℕ)

/-- The ring holds exactly the numbers from `next - count` to `next`, and it is empty only at the
start. -/
structure Holds (t : SlotTable α cap) (next count : ℕ) : Prop extends Recent seq t next where
  count_le : count ≤ cap
  count_lt : count < next
  started : count = 0 → next = 1
  within : ∀ i a, t.get i = some a → next - count ≤ seq a
  filled : ∀ n, next - count ≤ n → n < next → ∃ a, t.get (slot cap n) = some a ∧ seq a = n

variable {seq} {t t' : SlotTable α cap} {next count : ℕ}

lemma holds_empty : Holds seq (SlotTable.empty : SlotTable α cap) 1 0 where
  toRecent := recent_empty 1
  count_le := Nat.zero_le _
  count_lt := Nat.one_pos
  started := fun _ => rfl
  within := by simp
  filled := fun n h₁ h₂ => absurd h₁ (by omega)

/-- What a ring holds depends only on the numbers in its slots. -/
lemma Holds.congr (h : Holds seq t next count)
    (hsame : ∀ i, (t'.get i).map seq = (t.get i).map seq) : Holds seq t' next count := by
  have hback : ∀ i a, t'.get i = some a → ∃ b, t.get i = some b ∧ seq b = seq a := by
    intro i a ha
    have := hsame i
    rw [ha, Option.map_some] at this
    exact Option.map_eq_some_iff.mp this.symm
  refine ⟨⟨?_, ?_, ?_, ?_⟩, h.count_le, h.count_lt, h.started, ?_, ?_⟩
  · intro i a ha
    obtain ⟨b, hb, hseq⟩ := hback i a ha
    exact hseq ▸ h.slots i b hb
  · intro i a ha
    obtain ⟨b, hb, hseq⟩ := hback i a ha
    exact hseq ▸ h.positive i b hb
  · intro i a ha
    obtain ⟨b, hb, hseq⟩ := hback i a ha
    exact hseq ▸ h.below i b hb
  · intro i a ha
    obtain ⟨b, hb, hseq⟩ := hback i a ha
    exact hseq ▸ h.since i b hb
  · intro i a ha
    obtain ⟨b, hb, hseq⟩ := hback i a ha
    exact hseq ▸ h.within i b hb
  · intro n hlo hhi
    obtain ⟨b, hb, hn⟩ := h.filled n hlo hhi
    have := hsame (slot cap n)
    rw [hb, Option.map_some, hn] at this
    exact Option.map_eq_some_iff.mp this

/-- A ring with the next value. -/
lemma Holds.push (h : Holds seq t next count) (hcap : 0 < cap) {a : α} (ha : seq a = next) :
    Holds seq (t.put (slot cap next) a) (next + 1) (min (count + 1) cap) := by
  have hnext : 0 < next := Nat.lt_of_le_of_lt (Nat.zero_le _) h.count_lt
  have hle := h.count_le
  have hlt := h.count_lt
  have hget := @SlotTable.get_put _ _ t _ (slot_lt hcap next) a
  have hrecent := h.toRecent.push hcap hnext ha
  refine ⟨hrecent, Nat.min_le_right _ _, by omega, by omega, ?_, ?_⟩
  · intro i b hb
    have hsince := hrecent.since i b hb
    rw [hget] at hb
    split at hb
    · cases hb
      omega
    · have := h.within i b hb
      omega
  · intro n hlo hhi
    by_cases hn : n = next
    · exact ⟨a, by rw [hget, hn, if_pos rfl], ha.trans hn.symm⟩
    · obtain ⟨b, hb, hseq⟩ := h.filled n (by omega) (by omega)
      refine ⟨b, ?_, hseq⟩
      rw [hget, if_neg]
      · exact hb
      · intro heq
        have hpos := h.positive _ b hb
        exact hn (eq_of_slot_eq (by omega) (by omega) (by omega) heq)

/-- A first value may have any number. -/
lemma holds_first (hcap : 0 < cap) {a : α} (ha : 0 < seq a) :
    Holds seq ((SlotTable.empty : SlotTable α cap).put (slot cap (seq a)) a) (seq a + 1) 1 := by
  have hget := @SlotTable.get_put _ _ (SlotTable.empty : SlotTable α cap) _ (slot_lt hcap (seq a)) a
  have honly : ∀ i b, ((SlotTable.empty : SlotTable α cap).put (slot cap (seq a)) a).get i = some b →
      i = slot cap (seq a) ∧ b = a := by
    intro i b hb
    rw [hget] at hb
    split at hb
    · cases hb
      exact ⟨by assumption, rfl⟩
    · simp at hb
  refine ⟨⟨?_, ?_, ?_, ?_⟩, hcap, by omega, by omega, ?_, ?_⟩
  · intro i b hb
    obtain ⟨hi, rfl⟩ := honly i b hb
    exact hi
  · intro i b hb
    obtain ⟨-, rfl⟩ := honly i b hb
    exact ha
  · intro i b hb
    obtain ⟨-, rfl⟩ := honly i b hb
    omega
  · intro i b hb
    obtain ⟨-, rfl⟩ := honly i b hb
    omega
  · intro i b hb
    obtain ⟨-, rfl⟩ := honly i b hb
    omega
  · intro n hlo hhi
    obtain rfl : n = seq a := by omega
    exact ⟨a, by rw [hget, if_pos rfl], rfl⟩

/-- A value that is written over the one with its number. -/
lemma Holds.replace (h : Holds seq t next count) (hcap : 0 < cap) {a : α}
    (hlo : next - count ≤ seq a) (hhi : seq a < next) :
    Holds seq (t.put (slot cap (seq a)) a) next count := by
  refine h.congr fun i => ?_
  rw [SlotTable.get_put (slot_lt hcap (seq a))]
  split
  · rename_i hi
    obtain ⟨b, hb, hseq⟩ := h.filled (seq a) hlo hhi
    rw [hi, hb, Option.map_some, Option.map_some, hseq]
  · rfl

/-- The values from a number on. -/
lemma Holds.keepFrom (h : Holds seq t next count) {first : ℕ} (hfirst : first < next) {p : α → Bool}
    (hp : ∀ a, p a = true ↔ first ≤ seq a) :
    Holds seq (t.keep p) next (min count (next - first)) := by
  have hlt := h.count_lt
  have hle := h.count_le
  have hget : ∀ i a, (t.keep p).get i = some a ↔ t.get i = some a ∧ first ≤ seq a := by
    intro i a
    rw [SlotTable.get_keep, Option.filter_eq_some_iff, hp]
  refine ⟨h.toRecent.keep p, by omega, by omega, ?_, ?_, ?_⟩
  · intro hzero
    exact h.started (by omega)
  · intro i a ha
    obtain ⟨ha, hfrom⟩ := (hget i a).mp ha
    have := h.within i a ha
    omega
  · intro n hlo hhi
    obtain ⟨a, ha, hseq⟩ := h.filled n (by omega) hhi
    exact ⟨a, (hget _ a).mpr ⟨ha, by omega⟩, hseq⟩

/-- The numbers of the values are the interval. -/
lemma Holds.mem_map_entries (h : Holds seq t next count) {n : ℕ} :
    n ∈ t.entries.map seq ↔ n ∈ Finset.Ico (next - count) next := by
  rw [List.mem_map, Finset.mem_Ico]
  constructor
  · rintro ⟨a, ha, rfl⟩
    obtain ⟨i, hi⟩ := SlotTable.mem_entries.mp ha
    exact ⟨h.within i a hi, h.below i a hi⟩
  · rintro ⟨hlo, hhi⟩
    obtain ⟨a, ha, hseq⟩ := h.filled n hlo hhi
    exact ⟨a, SlotTable.mem_entries_of_get ha, hseq⟩

/-- No number occurs twice. -/
lemma Recent.nodup_map_entries (h : Recent seq t next) : (t.entries.map seq).Nodup := by
  rw [← SlotTable.map_snd_indexedFrom, List.map_map, List.Nodup, List.pairwise_map]
  have hpair := (SlotTable.pairwise_indexedFrom t 0).imp_of_mem
    (S := fun s u : ℕ × α => seq s.2 ≠ seq u.2) ?_
  · exact hpair
  · intro s u hs hu hne heq
    refine hne ?_
    rw [h.slots s.1 s.2 (SlotTable.get_of_mem_indexedFrom hs),
      h.slots u.1 u.2 (SlotTable.get_of_mem_indexedFrom hu), heq]

/-- The count is the number of used slots. -/
lemma Holds.count_eq (h : Holds seq t next count) : t.count = count := by
  have hcard : (t.entries.map seq).toFinset = Finset.Ico (next - count) next := by
    ext n
    rw [List.mem_toFinset, h.mem_map_entries]
  have hlt := h.count_lt
  calc t.count = (t.entries.map seq).length := (List.length_map _).symm
    _ = (t.entries.map seq).toFinset.card :=
        (List.toFinset_card_of_nodup h.toRecent.nodup_map_entries).symm
    _ = next - (next - count) := by rw [hcard, Nat.card_Ico]
    _ = count := by omega

end Holds

/-! ## Logs -/

section Logs

variable {seq : α → ℕ} {es : List α} {next m i : ℕ} {e : α}

/-- In a log of consecutive numbers up to `next`, the last value of a slot is recent. -/
lemma recent_of_find?_reverse (hcap : 0 < cap)
    (hes : es.map seq = List.range' (next - m) m) (hm : m < next)
    (hfind : es.reverse.find? (fun a => slot cap (seq a) = i) = some e) : next ≤ seq e + cap := by
  by_contra hold
  have hmem : ∀ a, a ∈ es → next - m ≤ seq a ∧ seq a < next := by
    intro a ha
    have := List.mem_map_of_mem (f := seq) ha
    rw [hes, List.mem_range'_1] at this
    omega
  have he : e ∈ es := by simpa using List.mem_of_find?_eq_some hfind
  have hslot : slot cap (seq e) = i := by simpa using List.find?_some hfind
  -- the value one ring later is in the log too, and comes after
  obtain ⟨e', he', hseq⟩ : ∃ e' ∈ es, seq e' = seq e + cap := by
    have : seq e + cap ∈ es.map seq := by
      rw [hes, List.mem_range'_1]
      have := hmem e he
      omega
    exact List.mem_map.mp this
  have hsorted : es.reverse.Pairwise fun a b => seq b < seq a := by
    rw [List.pairwise_reverse]
    have := List.pairwise_lt_range' (s := next - m) (n := m)
    rw [← hes, List.pairwise_map] at this
    exact this
  obtain ⟨-, before, after, hsplit, hbefore⟩ := List.find?_eq_some_iff_append.mp hfind
  have hin : e' ∈ before ++ e :: after := by
    rw [← hsplit]
    simpa using he'
  rw [hsplit, List.pairwise_append, List.pairwise_cons] at hsorted
  rcases List.mem_append.mp hin with h | h
  · have := hbefore e' h
    rw [hseq, slot_add_cap (by have := hmem e he; omega)] at this
    simp [hslot] at this
  · rcases List.mem_cons.mp h with rfl | h
    · omega
    · have := hsorted.2.1.1 e' h
      omega

end Logs

end SeqRing
