import Mathlib.Data.List.Perm.Basic
import Mathlib.Data.List.Nodup
import Mathlib.Data.List.Range

/-!
# An inbox with selective receive

Messages arrive in a FIFO queue; a receiver pops them one at a time, takes those it wants and puts the
others aside in a stash of bounded room, where later receivers look first.  Messages are told apart by
their place in the order of arrival: the pair `(k, a)` is the message `a` that arrived as number `k`.

`Once` holds whatever happens: no message is in two places, and a consumed one was wanted by its
receiver.  `Conserved` says that no message is lost either, and it survives every move but two, a pop
that goes wrong after the message has left the queue (`lose`) and a message put aside when the stash is
full.
-/

/-- What has arrived, how much of it has been popped, what was put aside, and what was taken by whom. -/
structure Inbox (α ω : Type*) where
  sent : List α
  head : ℕ
  stash : List (ℕ × α)
  consumed : List ((ℕ × α) × ω)

variable {α ω : Type*}

namespace Inbox

/-- Nothing has arrived. -/
def empty : Inbox α ω := ⟨[], 0, [], []⟩

/-- A message arrives. -/
def push (s : Inbox α ω) (a : α) : Inbox α ω := { s with sent := s.sent ++ [a] }

/-- The next message of the queue. -/
def next? (s : Inbox α ω) : Option (ℕ × α) := (s.sent[s.head]?).map fun a => (s.head, a)

/-- The oldest message of the stash that is wanted. -/
def wanted? (s : Inbox α ω) (p : α → Bool) : Option (ℕ × α) := s.stash.find? fun m => p m.2

/-- Take the oldest wanted message out of the stash. -/
def take (s : Inbox α ω) (p : α → Bool) (who : ω) : Inbox α ω :=
  match s.wanted? p with
  | some m => { s with stash := s.stash.eraseP fun m => p m.2, consumed := (m, who) :: s.consumed }
  | none => s

/-- Put a message aside, if there is room. -/
def putAside (s : Inbox α ω) (cap : ℕ) (m : ℕ × α) : Inbox α ω :=
  if s.stash.length < cap then { s with stash := s.stash ++ [m] } else s

/-- Pop the next message and take it if it is wanted, put it aside otherwise. -/
def receive (s : Inbox α ω) (cap : ℕ) (p : α → Bool) (who : ω) : Inbox α ω :=
  match s.next? with
  | some m =>
      if p m.2 then { s with head := s.head + 1, consumed := (m, who) :: s.consumed }
      else putAside { s with head := s.head + 1 } cap m
  | none => s

/-- Pop the next message and do nothing with it. -/
def lose (s : Inbox α ω) : Inbox α ω :=
  match s.next? with
  | some _ => { s with head := s.head + 1 }
  | none => s

/-! ## No message twice -/

/-- The places in the order of arrival of what is in the stash or was taken. -/
def accounted (s : Inbox α ω) : List ℕ := s.stash.map Prod.fst ++ s.consumed.map fun c => c.1.1

/-- No message is in two places, each is what arrived at its place, the stash is in order of arrival,
and what was taken was wanted. -/
structure Once (wants : ω → α → Bool) (s : Inbox α ω) : Prop where
  nodup : s.accounted.Nodup
  popped : ∀ k ∈ s.accounted, k < s.head
  head_le : s.head ≤ s.sent.length
  ordered : (s.stash.map Prod.fst).Pairwise (· < ·)
  stashed : ∀ m ∈ s.stash, s.sent[m.1]? = some m.2
  taken : ∀ c ∈ s.consumed, s.sent[c.1.1]? = some c.1.2
  wanted : ∀ c ∈ s.consumed, wants c.2 c.1.2 = true

/-- Every popped message is in the stash or was taken. -/
def Conserved (s : Inbox α ω) : Prop := (List.range s.head).Perm s.accounted

section Facts

variable {wants : ω → α → Bool} {s : Inbox α ω}

lemma once_empty : Once wants (empty : Inbox α ω) where
  nodup := List.nodup_nil
  popped := by simp [empty, accounted]
  head_le := Nat.le_refl _
  ordered := List.Pairwise.nil
  stashed := by simp [empty]
  taken := by simp [empty]
  wanted := by simp [empty]

lemma conserved_empty : Conserved (empty : Inbox α ω) := List.Perm.refl _

lemma next?_eq_some {m : ℕ × α} (h : s.next? = some m) : m.1 = s.head ∧ s.sent[s.head]? = some m.2 := by
  unfold next? at h
  obtain ⟨a, ha, rfl⟩ := Option.map_eq_some_iff.mp h
  exact ⟨rfl, ha⟩

/-- A message has one taker. -/
lemma Once.taker_unique (h : Once wants s) {k : ℕ} {a a' : α} {who who' : ω}
    (hc : ((k, a), who) ∈ s.consumed) (hc' : ((k, a'), who') ∈ s.consumed) : who = who' := by
  have hnodup : (s.consumed.map fun c => c.1.1).Nodup := h.nodup.of_append_right
  have heq := List.inj_on_of_nodup_map hnodup hc hc' rfl
  exact congrArg Prod.snd heq

lemma Once.push (h : Once wants s) (a : α) : Once wants (s.push a) where
  nodup := h.nodup
  popped := h.popped
  head_le := h.head_le.trans (by simp [Inbox.push])
  ordered := h.ordered
  stashed m hm := by
    have hold := h.stashed m hm
    have hlt := (List.getElem?_eq_some_iff.mp hold).1
    rwa [Inbox.push, List.getElem?_append_left hlt]
  taken c hc := by
    have hold := h.taken c hc
    have hlt := (List.getElem?_eq_some_iff.mp hold).1
    rwa [Inbox.push, List.getElem?_append_left hlt]
  wanted := h.wanted

/-- The message that `take` finds is the first wanted one of the stash, and leaves it for the consumed
ones. -/
lemma take_split {p : α → Bool} (who : ω) {m : ℕ × α} (h : s.wanted? p = some m) :
    p m.2 = true ∧ ∃ before after, s.stash = before ++ m :: after ∧
      (∀ a ∈ before, p a.2 = false) ∧
      s.take p who = { s with stash := before ++ after, consumed := (m, who) :: s.consumed } := by
  obtain ⟨hp, before, after, heq, hbefore⟩ := List.find?_eq_some_iff_append.mp h
  refine ⟨hp, before, after, heq, fun a ha => by simpa using hbefore a ha, ?_⟩
  rw [take, h]
  have herase : s.stash.eraseP (fun m => p m.2) = before ++ after := by
    rw [heq, List.eraseP_append_right _ (by simpa using hbefore)]
    simp [hp]
  simp only [herase]

/-- What `take` does when it finds something: the message leaves the stash for the consumed ones. -/
lemma take_eq {p : α → Bool} (who : ω) {m : ℕ × α} (h : s.wanted? p = some m) :
    p m.2 = true ∧ ∃ before after, s.stash = before ++ m :: after ∧
      s.take p who = { s with stash := before ++ after, consumed := (m, who) :: s.consumed } := by
  obtain ⟨hp, before, after, heq, -, htake⟩ := take_split who h
  exact ⟨hp, before, after, heq, htake⟩

/-- The places accounted for are those of before. -/
lemma accounted_take (p : α → Bool) (who : ω) : (s.take p who).accounted.Perm s.accounted := by
  cases h : s.wanted? p with
  | none => rw [take, h]
  | some m =>
    obtain ⟨-, before, after, heq, htake⟩ := take_eq who h
    rw [htake]
    simp only [accounted, heq, List.map_append, List.map_cons, List.append_assoc]
    refine List.Perm.append_left _ ?_
    exact List.perm_middle

lemma Once.take (h : Once wants s) {p : α → Bool} {who : ω} (hp : ∀ a, p a = true → wants who a = true) :
    Once wants (s.take p who) := by
  have hperm := accounted_take (s := s) p who
  cases hw : s.wanted? p with
  | none => rwa [Inbox.take, hw]
  | some m =>
    obtain ⟨hpm, before, after, heq, htake⟩ := take_eq who hw
    have hsub : (before ++ after).Sublist s.stash := by
      rw [heq]
      exact List.Sublist.append_left (List.sublist_cons_self m after) before
    have hmem : m ∈ s.stash := by
      rw [heq]
      simp
    rw [htake] at hperm ⊢
    refine ⟨hperm.nodup_iff.mpr h.nodup, fun k hk => h.popped k (hperm.mem_iff.mp hk), h.head_le,
      h.ordered.sublist (hsub.map _), fun m' hm' => h.stashed m' (hsub.subset hm'), ?_, ?_⟩
    · rintro c (_ | ⟨_, hc⟩)
      · exact h.stashed m hmem
      · exact h.taken c hc
    · rintro c (_ | ⟨_, hc⟩)
      · exact hp _ hpm
      · exact h.wanted c hc

/-- The number that the next message has is new. -/
lemma Once.head_notMem (h : Once wants s) : s.head ∉ s.accounted :=
  fun hmem => Nat.lt_irrefl _ (h.popped _ hmem)

/-- Popping a message without keeping it. -/
lemma Once.pop (h : Once wants s) {m : ℕ × α} (hm : s.next? = some m) :
    Once wants { s with head := s.head + 1 } where
  nodup := h.nodup
  popped k hk := Nat.lt_succ_of_lt (h.popped k hk)
  head_le := (List.getElem?_eq_some_iff.mp (next?_eq_some hm).2).1
  ordered := h.ordered
  stashed := h.stashed
  taken := h.taken
  wanted := h.wanted

lemma Once.lose (h : Once wants s) : Once wants s.lose := by
  unfold Inbox.lose
  split
  · rename_i m hm
    exact h.pop hm
  · exact h

/-- Popping a message and taking it. -/
lemma Once.consume (h : Once wants s) {m : ℕ × α} (hm : s.next? = some m) {who : ω}
    (hw : wants who m.2 = true) :
    Once wants { s with head := s.head + 1, consumed := (m, who) :: s.consumed } := by
  obtain ⟨hk, hsent⟩ := next?_eq_some hm
  have hpop := h.pop hm
  have hperm : (accounted { s with head := s.head + 1, consumed := (m, who) :: s.consumed }).Perm
      (s.head :: s.accounted) := by
    simp only [accounted, List.map_cons, hk]
    exact List.perm_middle
  refine ⟨hperm.nodup_iff.mpr (List.nodup_cons.mpr ⟨h.head_notMem, h.nodup⟩), ?_, hpop.head_le,
    h.ordered, h.stashed, ?_, ?_⟩
  · intro k hmem
    rcases List.mem_cons.mp (hperm.mem_iff.mp hmem) with rfl | hmem
    · exact Nat.lt_succ_self _
    · exact hpop.popped k hmem
  · rintro c (_ | ⟨_, hc⟩)
    · rw [hk]
      exact hsent
    · exact h.taken c hc
  · rintro c (_ | ⟨_, hc⟩)
    · exact hw
    · exact h.wanted c hc

/-- Popping a message and putting it aside. -/
lemma Once.putAside (h : Once wants s) {m : ℕ × α} (hm : s.next? = some m) (cap : ℕ) :
    Once wants (Inbox.putAside { s with head := s.head + 1 } cap m) := by
  unfold Inbox.putAside
  split_ifs with hroom
  · obtain ⟨hk, hsent⟩ := next?_eq_some hm
    have hpop := h.pop hm
    have hperm : (accounted { s with head := s.head + 1, stash := s.stash ++ [m] }).Perm
        (s.head :: s.accounted) := by
      simp only [accounted, List.map_append, List.map_cons, List.map_nil, hk, List.append_assoc]
      exact List.perm_middle
    refine ⟨hperm.nodup_iff.mpr (List.nodup_cons.mpr ⟨h.head_notMem, h.nodup⟩), ?_, hpop.head_le,
      ?_, ?_, h.taken, h.wanted⟩
    · intro k hmem
      rcases List.mem_cons.mp (hperm.mem_iff.mp hmem) with rfl | hmem
      · exact Nat.lt_succ_self _
      · exact hpop.popped k hmem
    · rw [List.map_append, List.pairwise_append]
      refine ⟨h.ordered, by simp, ?_⟩
      intro k hmem j hj
      rw [List.map_cons, List.map_nil, List.mem_singleton, hk] at hj
      rw [hj]
      exact h.popped k (List.mem_append_left _ hmem)
    · intro m' hm'
      rcases List.mem_append.mp hm' with hm' | hm'
      · exact h.stashed m' hm'
      · rw [List.mem_singleton] at hm'
        rw [hm', hk]
        exact hsent
  · exact h.pop hm

lemma Once.receive (h : Once wants s) {p : α → Bool} {who : ω} (cap : ℕ)
    (hp : ∀ a, p a = true → wants who a = true) : Once wants (s.receive cap p who) := by
  unfold Inbox.receive
  split
  · rename_i m hm
    split_ifs with hw
    · exact h.consume hm (hp _ hw)
    · exact h.putAside hm cap
  · exact h

/-! ## No message lost -/

lemma Conserved.take (h : Conserved s) (p : α → Bool) (who : ω) : Conserved (s.take p who) := by
  have hhead : (s.take p who).head = s.head := by
    unfold Inbox.take
    split <;> rfl
  rw [Conserved, hhead]
  exact h.trans (accounted_take p who).symm

/-- A message that is popped is kept, as long as there is room for it. -/
lemma Conserved.receive (h : Conserved s) {p : α → Bool} {who : ω} {cap : ℕ}
    (hroom : ∀ m, s.next? = some m → p m.2 = false → s.stash.length < cap) :
    Conserved (s.receive cap p who) := by
  have hkeep : ∀ l : List ℕ, l.Perm (s.head :: s.accounted) → (List.range (s.head + 1)).Perm l := by
    intro l hl
    rw [List.range_succ]
    refine List.Perm.trans ?_ hl.symm
    exact (List.perm_append_singleton _ _).trans (List.Perm.cons _ h)
  unfold Inbox.receive
  split
  · rename_i m hm
    obtain ⟨hk, -⟩ := next?_eq_some hm
    split_ifs with hw
    · apply hkeep
      simp only [accounted, List.map_cons, hk]
      exact List.perm_middle
    · unfold Inbox.putAside
      rw [if_pos (hroom m hm (by simpa using hw))]
      apply hkeep
      simp only [accounted, List.map_append, List.map_cons, List.map_nil, hk, List.append_assoc]
      exact List.perm_middle
  · exact h

/-- A message that was popped and not lost is somewhere. -/
lemma Conserved.exists (h : Conserved s) {k : ℕ} (hk : k < s.head) :
    (∃ a, (k, a) ∈ s.stash) ∨ ∃ a who, ((k, a), who) ∈ s.consumed := by
  have hmem := (h.mem_iff (a := k)).mp (List.mem_range.mpr hk)
  rcases List.mem_append.mp hmem with hmem | hmem
  · obtain ⟨m, hm, rfl⟩ := List.mem_map.mp hmem
    exact Or.inl ⟨m.2, hm⟩
  · obtain ⟨c, hc, rfl⟩ := List.mem_map.mp hmem
    exact Or.inr ⟨c.1.2, c.2, hc⟩

/-! ## As time goes on -/

/-- More has arrived, more has been popped, and more has been taken. -/
structure Grows (s t : Inbox α ω) : Prop where
  sent : s.sent <+: t.sent
  head : s.head ≤ t.head
  consumed : s.consumed <:+ t.consumed

variable {t u : Inbox α ω}

lemma Grows.refl (s : Inbox α ω) : Grows s s := ⟨List.prefix_rfl, Nat.le_refl _, List.suffix_rfl⟩

lemma Grows.trans (h : Grows s t) (h' : Grows t u) : Grows s u :=
  ⟨h.sent.trans h'.sent, h.head.trans h'.head, h.consumed.trans h'.consumed⟩

lemma grows_push (s : Inbox α ω) (a : α) : Grows s (s.push a) :=
  ⟨List.prefix_append _ _, Nat.le_refl _, List.suffix_rfl⟩

lemma grows_take (s : Inbox α ω) (p : α → Bool) (who : ω) : Grows s (s.take p who) := by
  unfold Inbox.take
  split
  · exact ⟨List.prefix_rfl, Nat.le_refl _, List.suffix_cons _ _⟩
  · exact Grows.refl s

lemma grows_lose (s : Inbox α ω) : Grows s s.lose := by
  unfold Inbox.lose
  split
  · exact ⟨List.prefix_rfl, Nat.le_succ _, List.suffix_rfl⟩
  · exact Grows.refl s

lemma grows_receive (s : Inbox α ω) (cap : ℕ) (p : α → Bool) (who : ω) :
    Grows s (s.receive cap p who) := by
  unfold Inbox.receive Inbox.putAside
  split
  · split_ifs
    · exact ⟨List.prefix_rfl, Nat.le_succ _, List.suffix_cons _ _⟩
    · exact ⟨List.prefix_rfl, Nat.le_succ _, List.suffix_rfl⟩
    · exact ⟨List.prefix_rfl, Nat.le_succ _, List.suffix_rfl⟩
  · exact Grows.refl s

/-- What arrived keeps its place. -/
lemma Grows.getElem? (h : Grows s t) {k : ℕ} {a : α} (hk : s.sent[k]? = some a) :
    t.sent[k]? = some a := by
  obtain ⟨more, hmore⟩ := h.sent
  rw [← hmore, List.getElem?_append_left (List.getElem?_eq_some_iff.mp hk).1, hk]

/-- **Held until taken.** What was in the stash is still there when nothing was lost since, or somebody
who wanted it has taken it. -/
lemma Conserved.held (h : Conserved t) (hs : Once wants s) (ht : Once wants t) (hg : Grows s t)
    {m : ℕ × α} (hm : m ∈ s.stash) : m ∈ t.stash ∨ ∃ who, (m, who) ∈ t.consumed := by
  have hpop : m.1 < s.head :=
    hs.popped _ (List.mem_append_left _ (List.mem_map_of_mem hm))
  have hsent : t.sent[m.1]? = some m.2 := hg.getElem? (hs.stashed m hm)
  rcases h.exists (lt_of_lt_of_le hpop hg.head) with ⟨a, ha⟩ | ⟨a, who, ha⟩
  · have heq : some a = some m.2 := (ht.stashed _ ha).symm.trans hsent
    rw [Option.some_inj.mp heq] at ha
    exact Or.inl ha
  · have heq : some a = some m.2 := (ht.taken _ ha).symm.trans hsent
    rw [Option.some_inj.mp heq] at ha
    exact Or.inr ⟨who, ha⟩

end Facts

end Inbox
