import Mathlib.Algebra.Order.Ring.Int
import MemService.Lib.CNumeral

/-!
# Formatted input

`sscanf` as ISO C describes it, for the directives a line format is made of: white space, literal text,
`%ns` with a width and integer conversions.  A conversion yields a word or an integer; the integer is the
one that is written, of whatever size, so that a program's narrowing of it to a machine integer is the
program's.

`scan format s` is the values of all conversions with the unread rest, and `none` where one directive
does not match.  A scanner sees a front of the text only as long as the text is cut off.  What a cut does is
`scan_append`: where something is left unread, reading the whole gives the same values, so that only a
last conversion can go on beyond a cut; and a number that goes on gets no nearer to zero
(`scanNumber_append_of_nil`).
-/

namespace Scanf

open ByteText CNumeral

/-- A directive of a format. -/
inductive Directive
  | space
  | text (t : Bytes)
  | word (width : ℕ)
  | number (base : ℕ)

/-- The value of a conversion. -/
inductive Value
  | word (w : Bytes)
  | number (v : ℤ)
  deriving DecidableEq

/-- An optional sign. -/
def scanSign : Bytes → Bool × Bytes
  | [] => (false, [])
  | b :: s => if b = 45 then (true, s) else if b = 43 then (false, s) else (false, b :: s)

/-- The digits behind an optional `0x`, in base 16. -/
def dropHexPrefix (base : ℕ) : Bytes → Bytes
  | b :: x :: s => if base = 16 ∧ b = 48 ∧ (x = 120 ∨ x = 88) then s else b :: x :: s
  | s => s

/-- Digits of `base`, at least one. -/
def scanMagnitude (base : ℕ) : Bytes → Option (ℕ × Bytes)
  | [] => none
  | b :: s => if (digitIn base b).isSome then some (scanDigits base 0 (b :: s)) else none

/-- An integer conversion, behind its white space. -/
def scanNumber (base : ℕ) (s : Bytes) : Option (ℤ × Bytes) :=
  (scanMagnitude base (dropHexPrefix base (scanSign s).2)).map fun p =>
    (if (scanSign s).1 then -(p.1 : ℤ) else p.1, p.2)

/-- One directive. -/
def step : Directive → Bytes → Option (List Value × Bytes)
  | .space, s => some ([], s.dropWhile isSpace)
  | .text t, s => if t.isPrefixOf s then some ([], s.drop t.length) else none
  | .word width, s =>
      let s := s.dropWhile isSpace
      let w := (s.takeWhile fun b => !isSpace b).take width
      if w = [] then none else some ([.word w], s.drop w.length)
  | .number base, s => (scanNumber base (s.dropWhile isSpace)).map fun p => ([.number p.1], p.2)

/-- A format. -/
def scan : List Directive → Bytes → Option (List Value × Bytes)
  | [], s => some ([], s)
  | d :: ds, s => (step d s).bind fun p => (scan ds p.2).map fun q => (p.1 ++ q.1, q.2)

lemma scan_append_format (ds es : List Directive) (s : Bytes) :
    scan (ds ++ es) s =
      (scan ds s).bind fun p => (scan es p.2).map fun q => (p.1 ++ q.1, q.2) := by
  induction ds generalizing s with
  | nil => simp [scan]
  | cons d ds ih =>
      simp only [List.cons_append, scan, Option.bind_assoc, Option.bind_map]
      congr 1
      funext p
      rw [ih]
      cases scan ds p.2 with
      | none => rfl
      | some q =>
          simp only [Option.bind_some, Option.map_map, Function.comp_def]
          cases scan es q.2 with
          | none => rfl
          | some t => simp

/-! ## Reading the front of a text -/

lemma dropWhile_append {p : UInt8 → Bool} {s : Bytes} (u : Bytes) (h : s.dropWhile p ≠ []) :
    (s ++ u).dropWhile p = s.dropWhile p ++ u := by
  induction s with
  | nil => exact absurd rfl h
  | cons b s ih =>
      rw [List.cons_append, List.dropWhile_cons, List.dropWhile_cons]
      split
      · rename_i hb
        refine ih ?_
        rwa [List.dropWhile_cons_of_pos hb] at h
      · rfl

lemma scanDigits_append {base acc m : ℕ} {s r : Bytes} (u : Bytes)
    (h : scanDigits base acc s = (m, r)) (hr : r ≠ []) :
    scanDigits base acc (s ++ u) = (m, r ++ u) := by
  induction s generalizing acc with
  | nil =>
      cases h
      exact absurd rfl hr
  | cons b s ih =>
      rw [List.cons_append]
      unfold scanDigits at h ⊢
      cases hb : digitIn base b with
      | some d =>
          simp only [hb] at h ⊢
          exact ih h
      | none =>
          simp only [hb] at h ⊢
          cases h
          rfl

lemma scanDigits_append_of_nil {base acc m : ℕ} {s : Bytes} (u : Bytes)
    (h : scanDigits base acc s = (m, [])) : scanDigits base acc (s ++ u) = scanDigits base m u := by
  induction s generalizing acc with
  | nil =>
      cases h
      rfl
  | cons b s ih =>
      unfold scanDigits at h
      cases hb : digitIn base b with
      | some d =>
          simp only [hb] at h
          rw [List.cons_append, scanDigits, hb]
          exact ih h
      | none =>
          simp only [hb] at h
          cases h

lemma le_scanDigits {base : ℕ} (hbase : 1 ≤ base) (acc : ℕ) (s : Bytes) :
    acc ≤ (scanDigits base acc s).1 := by
  induction s generalizing acc with
  | nil => exact le_rfl
  | cons b s ih =>
      unfold scanDigits
      cases digitIn base b with
      | some d => exact ((Nat.le_mul_of_pos_right acc hbase).trans (Nat.le_add_right _ d)).trans (ih _)
      | none => exact le_rfl

lemma scanSign_append {s : Bytes} (u : Bytes) (h : s ≠ []) :
    scanSign (s ++ u) = ((scanSign s).1, (scanSign s).2 ++ u) := by
  obtain ⟨b, s, rfl⟩ := List.exists_cons_of_ne_nil h
  simp only [List.cons_append, scanSign]
  split
  · rfl
  · split <;> rfl

lemma dropHexPrefix_append {base : ℕ} {s : Bytes} (u : Bytes) (h : s ≠ []) (hzero : s ≠ [48]) :
    dropHexPrefix base (s ++ u) = dropHexPrefix base s ++ u := by
  match s with
  | [] => exact absurd rfl h
  | [b] =>
      have hb : b ≠ 48 := fun hb => hzero (by rw [hb])
      match u with
      | [] => simp
      | x :: u => simp [dropHexPrefix, hb]
  | b :: x :: s =>
      simp only [List.cons_append, dropHexPrefix]
      split <;> rfl

lemma scanMagnitude_append {base m : ℕ} {s r : Bytes} (u : Bytes)
    (h : scanMagnitude base s = some (m, r)) (hr : r ≠ []) :
    scanMagnitude base (s ++ u) = some (m, r ++ u) := by
  match s with
  | [] => cases h
  | b :: s =>
      simp only [scanMagnitude] at h
      split at h
      · rename_i hb
        rw [List.cons_append, scanMagnitude, if_pos hb, ← List.cons_append,
          scanDigits_append u (Option.some.inj h) hr]
      · cases h

lemma scanMagnitude_append_of_nil {base m : ℕ} (hbase : 1 ≤ base) {s : Bytes} (u : Bytes)
    (h : scanMagnitude base s = some (m, [])) :
    ∃ n r, scanMagnitude base (s ++ u) = some (n, r) ∧ m ≤ n := by
  match s with
  | [] => cases h
  | b :: s =>
      simp only [scanMagnitude] at h
      split at h
      · rename_i hb
        refine ⟨(scanDigits base m u).1, (scanDigits base m u).2, ?_, le_scanDigits hbase m u⟩
        rw [List.cons_append, scanMagnitude, if_pos hb, ← List.cons_append,
          scanDigits_append_of_nil u (Option.some.inj h)]
      · cases h

/-- The digits of a number that is read are not cut off behind the `0` of a `0x`, unless all that is
there is a zero. -/
lemma scanNumber_front {base : ℕ} {s r : Bytes} {v : ℤ} (h : scanNumber base s = some (v, r))
    (hfront : r ≠ [] ∨ v ≠ 0) :
    s ≠ [] ∧ (scanSign s).2 ≠ [] ∧ (scanSign s).2 ≠ [48] := by
  obtain ⟨p, hp, heq⟩ := Option.map_eq_some_iff.mp h
  have hbody : (scanSign s).2 ≠ [] := by
    intro hnil
    rw [hnil] at hp
    cases hp
  refine ⟨?_, hbody, ?_⟩
  · rintro rfl
    exact hbody rfl
  · intro hzero
    rw [hzero] at hp
    have hp0 : p = (0, []) := by
      simp only [dropHexPrefix, scanMagnitude, scanDigits] at hp
      split at hp
      · rename_i hd
        obtain ⟨d, hd⟩ := Option.isSome_iff_exists.mp hd
        have hval : digitVal 48 = some 0 := by decide
        have hd0 : d = 0 := by
          simp only [digitIn, hval, Option.filter_eq_some_iff] at hd
          exact (Option.some.inj hd.1).symm
        simpa [hd, hd0] using (Option.some.inj hp).symm
      · cases hp
    subst hp0
    cases heq
    rcases hfront with hr | hv
    · exact hr rfl
    · exact hv (by simp)

lemma scanNumber_append {base : ℕ} {s r : Bytes} {v : ℤ} (u : Bytes)
    (h : scanNumber base s = some (v, r)) (hr : r ≠ []) :
    scanNumber base (s ++ u) = some (v, r ++ u) := by
  obtain ⟨hs, hbody, hzero⟩ := scanNumber_front h (.inl hr)
  obtain ⟨p, hp, heq⟩ := Option.map_eq_some_iff.mp h
  cases heq
  rw [scanNumber, scanSign_append u hs, dropHexPrefix_append u hbody hzero,
    scanMagnitude_append u hp hr]
  rfl

/-- A number that is cut off by the end of the text goes on in the same direction. -/
lemma scanNumber_append_of_nil {base : ℕ} (hbase : 1 ≤ base) {s : Bytes} {v : ℤ} (u : Bytes)
    (h : scanNumber base s = some (v, [])) (hv : v ≠ 0) :
    ∃ w r, scanNumber base (s ++ u) = some (w, r) ∧ (0 ≤ v → v ≤ w) ∧ (v < 0 → w ≤ v) := by
  obtain ⟨hs, hbody, hzero⟩ := scanNumber_front h (.inr hv)
  obtain ⟨p, hp, heq⟩ := Option.map_eq_some_iff.mp h
  obtain ⟨m, r⟩ := p
  cases heq
  obtain ⟨n, r, hn, hle⟩ := scanMagnitude_append_of_nil hbase u hp
  refine ⟨if (scanSign s).1 then -(n : ℤ) else n, r, ?_, ?_⟩
  · rw [scanNumber, scanSign_append u hs, dropHexPrefix_append u hbody hzero, hn]
    rfl
  · cases (scanSign s).1 <;> simp <;> omega

lemma step_append {d : Directive} {s r : Bytes} {vs : List Value} (u : Bytes)
    (h : step d s = some (vs, r)) (hr : r ≠ []) : step d (s ++ u) = some (vs, r ++ u) := by
  cases d with
  | space =>
      cases h
      rw [step, dropWhile_append u hr]
  | text t =>
      simp only [step] at h
      split at h
      · rename_i ht
        cases h
        obtain ⟨s, rfl⟩ := List.isPrefixOf_iff_prefix.mp ht
        have ht' : t.isPrefixOf (t ++ s ++ u) = true :=
          List.isPrefixOf_iff_prefix.mpr ⟨s ++ u, by simp⟩
        rw [step, if_pos ht', List.append_assoc, List.drop_left, List.drop_left]
      · cases h
  | word width =>
      simp only [step] at h
      split at h
      · cases h
      rename_i hw
      cases h
      have hs : s.dropWhile isSpace ≠ [] := by
        intro hnil
        rw [hnil] at hw
        exact hw (by simp)
      rw [step, dropWhile_append u hs]
      generalize s.dropWhile isSpace = t at hw hr ⊢
      -- the word ends within the front: it is full, or something behind it is left
      have hsame : ((t ++ u).takeWhile fun b => !isSpace b).take width =
          (t.takeWhile fun b => !isSpace b).take width := by
        by_cases hall : t.takeWhile (fun b => !isSpace b) = t
        · have hlt : width < t.length := by
            by_contra hge
            rw [hall, List.take_of_length_le (by omega), List.drop_length] at hr
            exact hr rfl
          rw [List.takeWhile_append, if_pos (by rw [hall]), hall,
            List.take_append_of_le_length (by omega)]
        · have hne : (t.takeWhile fun b => !isSpace b).length ≠ t.length := by
            intro hlen
            exact hall ((List.takeWhile_prefix _).eq_of_length hlen)
          rw [List.takeWhile_append, if_neg hne]
      simp only [hsame]
      have hle : ((t.takeWhile fun b => !isSpace b).take width).length ≤ t.length :=
        ((List.take_prefix _ _).trans (List.takeWhile_prefix _)).length_le
      rw [if_neg hw, List.drop_append_of_le_length hle]
  | number base =>
      obtain ⟨p, hp, heq⟩ := Option.map_eq_some_iff.mp h
      cases heq
      have hs : s.dropWhile isSpace ≠ [] := (scanNumber_front hp (.inl hr)).1
      rw [step, dropWhile_append u hs, scanNumber_append u hp hr]
      rfl

lemma step_nil {d : Directive} {vs : List Value} {r : Bytes} (h : step d [] = some (vs, r)) :
    r = [] := by
  cases d with
  | space =>
      cases h
      rfl
  | text t =>
      simp only [step] at h
      split at h
      · cases h
        exact List.drop_nil
      · cases h
  | word width =>
      simp [step] at h
  | number base => cases h

/-- A conversion reads something. -/
lemma ne_nil_of_step {d : Directive} {v : Value} {s r : Bytes} (h : step d s = some ([v], r)) :
    s ≠ [] := by
  rintro rfl
  cases d with
  | space => cases h
  | text t =>
      simp only [step] at h
      split at h <;> cases h
  | word width =>
      simp [step] at h
  | number base => cases h

lemma exists_word_of_step {width : ℕ} {s r : Bytes} {vs : List Value}
    (h : step (.word width) s = some (vs, r)) : ∃ v, vs = [v] := by
  simp only [step] at h
  split at h
  · cases h
  · cases h
    exact ⟨_, rfl⟩

lemma exists_number_of_step {base : ℕ} {s r : Bytes} {vs : List Value}
    (h : step (.number base) s = some (vs, r)) : ∃ v, vs = [v] := by
  obtain ⟨p, -, heq⟩ := Option.map_eq_some_iff.mp h
  cases heq
  exact ⟨_, rfl⟩

/-- A number conversion of a front and of the whole. -/
lemma step_number_append {base : ℕ} (hbase : 1 ≤ base) {s r : Bytes} {v : ℤ} (u : Bytes)
    (h : step (.number base) s = some ([.number v], r)) (hv : v ≠ 0) :
    ∃ w q, step (.number base) (s ++ u) = some ([.number w], q) ∧ (0 ≤ v → v ≤ w) ∧
      (v < 0 → w ≤ v) := by
  by_cases hr : r = []
  · subst hr
    obtain ⟨p, hp, heq⟩ := Option.map_eq_some_iff.mp h
    obtain ⟨v', r'⟩ := p
    cases heq
    obtain ⟨w, q, hw, hpos, hneg⟩ := scanNumber_append_of_nil hbase u hp hv
    have hs : s.dropWhile isSpace ≠ [] := (scanNumber_front hp (.inr hv)).1
    refine ⟨w, q, ?_, hpos, hneg⟩
    rw [step, dropWhile_append u hs, hw]
    rfl
  · exact ⟨v, r ++ u, step_append u h hr, fun _ => le_rfl, fun _ => le_rfl⟩

lemma scan_nil {ds : List Directive} {vs : List Value} {r : Bytes}
    (h : scan ds [] = some (vs, r)) : r = [] := by
  induction ds generalizing vs with
  | nil =>
      cases h
      rfl
  | cons d ds ih =>
      obtain ⟨p, hp, h⟩ := Option.bind_eq_some_iff.mp h
      obtain ⟨q, hq, heq⟩ := Option.map_eq_some_iff.mp h
      cases heq
      rw [show p.2 = [] from step_nil hp] at hq
      exact ih hq

/-- **Reading the whole of what a front was read of.**  If something is left unread, the values are the
same. -/
theorem scan_append {ds : List Directive} {s r : Bytes} {vs : List Value} (u : Bytes)
    (h : scan ds s = some (vs, r)) (hr : r ≠ []) : scan ds (s ++ u) = some (vs, r ++ u) := by
  induction ds generalizing s vs with
  | nil =>
      cases h
      rfl
  | cons d ds ih =>
      obtain ⟨p, hp, h⟩ := Option.bind_eq_some_iff.mp h
      obtain ⟨q, hq, heq⟩ := Option.map_eq_some_iff.mp h
      cases heq
      have hmid : p.2 ≠ [] := by
        intro hnil
        rw [hnil] at hq
        exact hr (scan_nil hq)
      rw [scan, step_append u hp hmid, Option.bind_some, ih hq]
      rfl

/-- A format that ends with a conversion, read of a front and of the whole: the values in front of the
last one are the same. -/
theorem scan_concat_append {ds : List Directive} {d : Directive} {s r : Bytes} {vs : List Value}
    {v : Value} (u : Bytes) (h : scan (ds ++ [d]) s = some (vs ++ [v], r))
    (hd : ∀ t ws q, step d t = some (ws, q) → ∃ w, ws = [w]) :
    ∃ t, step d t = some ([v], r) ∧
      scan (ds ++ [d]) (s ++ u) = (step d (t ++ u)).map fun p => (vs ++ p.1, p.2) := by
  rw [scan_append_format] at h
  obtain ⟨p, hp, h⟩ := Option.bind_eq_some_iff.mp h
  obtain ⟨q, hq, heq⟩ := Option.map_eq_some_iff.mp h
  have hone : ∀ t, scan [d] t = step d t := by
    intro t
    rw [scan]
    cases step d t <;> simp [scan]
  rw [hone] at hq
  obtain ⟨w, hw⟩ := hd _ _ _ hq
  obtain ⟨q₁, q₂⟩ := q
  obtain rfl : q₁ = [w] := hw
  obtain ⟨hboth, rfl⟩ := Prod.mk.inj heq
  have hboth : p.1 ++ [w] = vs ++ [v] := hboth
  obtain ⟨hvs, hv⟩ := List.append_inj' hboth rfl
  obtain rfl : w = v := (List.cons.inj hv).1
  refine ⟨p.2, hq, ?_⟩
  rw [scan_append_format, scan_append u hp (ne_nil_of_step hq), Option.bind_some, hone, ← hvs]

end Scanf
