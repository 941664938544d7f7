import MemService.Lib.CNumeral
import Mathlib.Data.List.Forall2

/-!
# The grammar of C integer literals

`CNumeral` reads a number the way `strtoull` does.  Here is what there is to read: a decimal, an octal
or a hexadecimal literal without sign, with the number it denotes, as a relation that mentions no
reader.

In base `0` the reader's magnitude is exactly this language (`scanMagnitude_eq_some_iff`).  The reader
itself takes more: white space and a sign may stand in front of the literal (`readU64_eq_some_iff`).
The front of a literal that is cut off after the prefix is a literal again (`Literal.take`), of a smaller
number unless the number is zero.
-/

namespace CNumeral

open ByteText

/-! ## Literals -/

/-- The digits `s` of `base` denote `n`. -/
def IsNumeral (base : ℕ) (s : Bytes) (n : ℕ) : Prop :=
  s ≠ [] ∧ ∃ ds, List.Forall₂ (fun b d => digitIn base b = some d) s ds ∧
    n = Nat.ofDigits base ds.reverse

/-- The unsigned C integer literal `s` denotes `n`. -/
inductive Literal : Bytes → ℕ → Prop
  | decimal {s n} (hs : s.head? ≠ some 48) (h : IsNumeral 10 s n) : Literal s n
  | octal {s n} (hs : s.head? = some 48) (h : IsNumeral 8 s n) : Literal s n
  | hexadecimal {x s n} (hx : x = 120 ∨ x = 88) (h : IsNumeral 16 s n) : Literal (48 :: x :: s) n

/-- What may stand in front of a literal that is read with the sign `neg`. -/
def IsSign (neg : Bool) (s : Bytes) : Prop :=
  (neg = false ∧ (s = [] ∨ s = [43])) ∨ (neg = true ∧ s = [45])

/-! ## Digits -/

lemma digitIn_letterX {base : ℕ} (hbase : base ≤ 16) {x : UInt8} (hx : x = 120 ∨ x = 88) :
    digitIn base x = none := by
  have hval : digitVal x = some 33 := by
    rcases hx with rfl | rfl <;> decide
  simp only [digitIn, hval, Option.filter_eq_none_iff]
  rintro d hd
  cases hd
  simp only [decide_eq_true_eq]
  omega

/-- A digit is neither white space nor a sign. -/
lemma digitIn_front {base d : ℕ} {b : UInt8} (h : digitIn base b = some d) :
    isSpace b = false ∧ b ≠ 45 ∧ b ≠ 43 := by
  refine numeral_front ?_
  have hval : digitVal b ≠ none := by
    rintro hnone
    simp [digitIn, hnone] at h
  unfold digitVal at hval
  rw [UInt8.le_iff_toNat_le]
  by_contra hlt
  have hlt : b.toNat < 48 := by simpa using hlt
  refine hval ?_
  simp only [UInt8.le_iff_toNat_le]
  have h97 : (97 : UInt8).toNat = 97 := rfl
  have h65 : (65 : UInt8).toNat = 65 := rfl
  have h48 : (48 : UInt8).toNat = 48 := rfl
  rw [if_neg (by omega), if_neg (by omega), if_neg (by omega)]

lemma scanDigits_eq_nil_iff {base acc m : ℕ} {s : Bytes} :
    scanDigits base acc s = (m, []) ↔
      ∃ ds, List.Forall₂ (fun b d => digitIn base b = some d) s ds ∧
        m = acc * base ^ ds.length + Nat.ofDigits base ds.reverse := by
  induction s generalizing acc with
  | nil =>
      constructor
      · intro h
        exact ⟨[], .nil, by simpa [scanDigits] using (Prod.mk.inj h).1.symm⟩
      · rintro ⟨ds, hds, rfl⟩
        cases hds
        simp [scanDigits]
  | cons b s ih =>
      cases hb : digitIn base b with
      | none =>
          simp only [scanDigits, hb]
          constructor
          · intro h
            cases (Prod.mk.inj h).2
          · rintro ⟨ds, hds, -⟩
            obtain ⟨d, ds, hd, -, rfl⟩ := List.forall₂_cons_left_iff.mp hds
            rw [hb] at hd
            cases hd
      | some d =>
          simp only [scanDigits, hb, ih]
          have hvalue : ∀ ds : List ℕ, (acc * base + d) * base ^ ds.length +
              Nat.ofDigits base ds.reverse =
              acc * base ^ (d :: ds).length + Nat.ofDigits base (d :: ds).reverse := by
            intro ds
            rw [List.reverse_cons, Nat.ofDigits_append, Nat.ofDigits_singleton, List.length_reverse,
              List.length_cons, pow_succ]
            ring
          constructor
          · rintro ⟨ds, hds, rfl⟩
            exact ⟨d :: ds, .cons hb hds, hvalue ds⟩
          · rintro ⟨ds, hds, rfl⟩
            obtain ⟨e, ds, he, htail, rfl⟩ := List.forall₂_cons_left_iff.mp hds
            obtain rfl : d = e := Option.some.inj (hb.symm.trans he)
            exact ⟨ds, htail, (hvalue ds).symm⟩

lemma isNumeral_iff {base n : ℕ} {s : Bytes} :
    IsNumeral base s n ↔ s ≠ [] ∧ scanDigits base 0 s = (n, []) := by
  simp [IsNumeral, scanDigits_eq_nil_iff]

lemma IsNumeral.unique {base m n : ℕ} {s : Bytes} (hm : IsNumeral base s m)
    (hn : IsNumeral base s n) : m = n :=
  (Prod.mk.inj ((isNumeral_iff.mp hm).2.symm.trans (isNumeral_iff.mp hn).2)).1

/-- A numeral starts with a digit. -/
lemma IsNumeral.cons {base n : ℕ} {s : Bytes} (h : IsNumeral base s n) :
    ∃ b r d, s = b :: r ∧ digitIn base b = some d := by
  obtain ⟨hne, ds, hds, -⟩ := h
  obtain ⟨b, r, rfl⟩ := List.exists_cons_of_ne_nil hne
  obtain ⟨d, -, hd, -, -⟩ := List.forall₂_cons_left_iff.mp hds
  exact ⟨b, r, d, rfl, hd⟩

/-- A numeral cut off is a numeral, of a smaller number unless the number is zero. -/
lemma IsNumeral.take {base n k : ℕ} {s : Bytes} (hbase : 2 ≤ base) (h : IsNumeral base s n)
    (hk : 1 ≤ k) :
    ∃ m, IsNumeral base (s.take k) m ∧ m ≤ n ∧ (k < s.length → m = n → n = 0) := by
  obtain ⟨hne, ds, hds, rfl⟩ := h
  have hlen := hds.length_eq
  have hvalue : Nat.ofDigits base ds.reverse = Nat.ofDigits base (ds.drop k).reverse +
      base ^ (ds.drop k).length * Nat.ofDigits base (ds.take k).reverse := by
    conv_lhs => rw [← List.take_append_drop k ds]
    rw [List.reverse_append, Nat.ofDigits_append, List.length_reverse]
  refine ⟨Nat.ofDigits base (ds.take k).reverse, ⟨?_, ds.take k, List.forall₂_take k hds, rfl⟩,
    ?_, ?_⟩
  · simp only [ne_eq, List.take_eq_nil_iff, hne, or_false]
    omega
  · rw [hvalue]
    exact Nat.le_add_left_of_le (Nat.le_mul_of_pos_left _ (by positivity))
  · intro hlt heq
    rw [hvalue] at heq ⊢
    have hpow : 2 ≤ base ^ (ds.drop k).length := by
      have hpos : 1 ≤ (ds.drop k).length := by
        rw [List.length_drop]
        omega
      calc 2 ≤ base ^ 1 := by simpa using hbase
        _ ≤ base ^ (ds.drop k).length := Nat.pow_le_pow_right (by omega) hpos
    generalize Nat.ofDigits base (ds.take k).reverse = m at heq ⊢
    have hdouble : 2 * m ≤ base ^ (ds.drop k).length * m := Nat.mul_le_mul_right m hpow
    omega

/-! ## Literals and their magnitudes -/

lemma selectBase_cons_of_ne {b : UInt8} {s : Bytes} (h : b ≠ 48) :
    selectBase (b :: s) = (10, b :: s) := by
  match s with
  | [] => simp [selectBase, h]
  | [x] => simp [selectBase, h]
  | x :: d :: s => simp [selectBase, h]

lemma selectBase_hexadecimal {x d : UInt8} {s : Bytes} (hx : x = 120 ∨ x = 88)
    (hd : (digitIn 16 d).isSome) : selectBase (48 :: x :: d :: s) = (16, d :: s) := by
  simp [selectBase, hx, hd]

lemma selectBase_octal {s : Bytes}
    (h : ∀ x d r, s = x :: d :: r → ¬ ((x = 120 ∨ x = 88) ∧ (digitIn 16 d).isSome)) :
    selectBase (48 :: s) = (8, 48 :: s) := by
  match s with
  | [] => simp [selectBase]
  | [x] => simp [selectBase]
  | x :: d :: s => rw [selectBase, if_pos rfl, if_neg (h x d s rfl)]

lemma scanMagnitude_of_selectBase {base : ℕ} {s r : Bytes} (h : selectBase s = (base, r)) {m : ℕ} :
    scanMagnitude 0 s = some (m, []) ↔ IsNumeral base r m := by
  simp only [scanMagnitude, if_true, h]
  constructor
  · intro hm
    split at hm
    · cases hm
    · rename_i b r
      split at hm
      · exact isNumeral_iff.mpr ⟨List.cons_ne_nil b r, Option.some.inj hm⟩
      · cases hm
  · intro hm
    obtain ⟨b, r, d, rfl, hd⟩ := hm.cons
    simp only [hd, Option.isSome_some, if_true]
    rw [(isNumeral_iff.mp hm).2]

/-- **A magnitude in base `0` is the number a literal denotes.** -/
theorem scanMagnitude_eq_some_iff {s : Bytes} {m : ℕ} :
    scanMagnitude 0 s = some (m, []) ↔ Literal s m := by
  constructor
  · intro h
    match s with
    | [] => cases h
    | b :: s =>
        by_cases hb : b = 48
        · subst hb
          by_cases hhex : ∃ x d r, s = x :: d :: r ∧ (x = 120 ∨ x = 88) ∧ (digitIn 16 d).isSome
          · obtain ⟨x, d, r, rfl, hx, hd⟩ := hhex
            exact .hexadecimal hx
              ((scanMagnitude_of_selectBase (selectBase_hexadecimal hx hd)).mp h)
          · refine .octal rfl ((scanMagnitude_of_selectBase (selectBase_octal ?_)).mp h)
            exact fun x d r hs hxd => hhex ⟨x, d, r, hs, hxd⟩
        · refine .decimal ?_ ((scanMagnitude_of_selectBase (selectBase_cons_of_ne hb)).mp h)
          simpa using hb
  · intro h
    cases h with
    | decimal hs h =>
        obtain ⟨b, r, d, rfl, -⟩ := h.cons
        exact (scanMagnitude_of_selectBase (selectBase_cons_of_ne (by simpa using hs))).mpr h
    | octal hs h =>
        obtain ⟨b, r, d, rfl, -⟩ := h.cons
        obtain rfl : b = 48 := by simpa using hs
        refine (scanMagnitude_of_selectBase (selectBase_octal ?_)).mpr h
        -- an octal numeral has no letter
        rintro x d r rfl ⟨hx, -⟩
        obtain ⟨-, ds, hds, -⟩ := h
        obtain ⟨-, ds, -, hds, rfl⟩ := List.forall₂_cons_left_iff.mp hds
        obtain ⟨e, -, he, -, -⟩ := List.forall₂_cons_left_iff.mp hds
        rw [digitIn_letterX (by omega) hx] at he
        cases he
    | hexadecimal hx h =>
        obtain ⟨b, r, d, rfl, hd⟩ := h.cons
        exact (scanMagnitude_of_selectBase (selectBase_hexadecimal hx (by simp [hd]))).mpr h

lemma Literal.unique {s : Bytes} {m n : ℕ} (hm : Literal s m) (hn : Literal s n) : m = n :=
  (Prod.mk.inj (Option.some.inj
    ((scanMagnitude_eq_some_iff.mpr hm).symm.trans (scanMagnitude_eq_some_iff.mpr hn)))).1

/-- A literal starts with a digit. -/
lemma Literal.cons {s : Bytes} {n : ℕ} (h : Literal s n) :
    ∃ b r, s = b :: r ∧ isSpace b = false ∧ b ≠ 45 ∧ b ≠ 43 := by
  cases h with
  | decimal _ h =>
      obtain ⟨b, r, d, rfl, hd⟩ := h.cons
      exact ⟨b, r, rfl, digitIn_front hd⟩
  | octal _ h =>
      obtain ⟨b, r, d, rfl, hd⟩ := h.cons
      exact ⟨b, r, rfl, digitIn_front hd⟩
  | hexadecimal _ _ => exact ⟨48, _, rfl, by decide⟩

/-- The front of a literal that covers the prefix is a literal, of a smaller number unless the number
is zero. -/
lemma Literal.take {s : Bytes} {n k : ℕ} (h : Literal s n) (hk : 3 ≤ k) :
    ∃ m, Literal (s.take k) m ∧ m ≤ n ∧ (k < s.length → m = n → n = 0) := by
  cases h with
  | decimal hs h =>
      obtain ⟨m, hm, hle⟩ := h.take (by norm_num) (show 1 ≤ k by omega)
      exact ⟨m, .decimal (by rwa [List.head?_take, if_neg (by omega)]) hm, hle⟩
  | octal hs h =>
      obtain ⟨m, hm, hle⟩ := h.take (by norm_num) (show 1 ≤ k by omega)
      exact ⟨m, .octal (by rwa [List.head?_take, if_neg (by omega)]) hm, hle⟩
  | @hexadecimal x s n hx h =>
      obtain ⟨k, rfl⟩ : ∃ j, k = j + 2 := ⟨k - 2, by omega⟩
      obtain ⟨m, hm, hle, heq⟩ := h.take (by norm_num) (show 1 ≤ k by omega)
      exact ⟨m, .hexadecimal hx hm, hle, fun hlt => heq (by simpa using hlt)⟩

/-! ## What the reader takes -/

lemma dropWhile_isSpace_append {blanks s : Bytes} (hblanks : ∀ b ∈ blanks, isSpace b = true)
    (hs : ∀ b r, s = b :: r → isSpace b = false) : (blanks ++ s).dropWhile isSpace = s := by
  rw [List.dropWhile_append_of_pos hblanks]
  match s with
  | [] => rfl
  | b :: r => exact List.dropWhile_cons_of_neg (by simp [hs b r rfl])

/-- White space, a sign and a literal, and nothing else, is what `strtoull` reads to the end. -/
theorem scan_eq_some_iff {s : Bytes} {neg : Bool} {m : ℕ} :
    scan 0 s = some (neg, m, []) ↔ ∃ blanks sign lit, s = blanks ++ (sign ++ lit) ∧
      (∀ b ∈ blanks, isSpace b = true) ∧ IsSign neg sign ∧ Literal lit m := by
  constructor
  · intro h
    have hsplit : ∀ r, s.dropWhile isSpace = r → s = s.takeWhile isSpace ++ r :=
      fun r hr => hr ▸ List.takeWhile_append_dropWhile.symm
    have hblanks : ∀ b ∈ s.takeWhile isSpace, isSpace b = true := fun b hb => List.mem_takeWhile_imp hb
    unfold scan at h
    split at h
    · rename_i r hr
      obtain ⟨p, hp, heq⟩ := Option.map_eq_some_iff.mp h
      cases heq
      exact ⟨_, [45], r, hsplit _ hr, hblanks, .inr ⟨rfl, rfl⟩, scanMagnitude_eq_some_iff.mp hp⟩
    · rename_i r hr
      obtain ⟨p, hp, heq⟩ := Option.map_eq_some_iff.mp h
      cases heq
      exact ⟨_, [43], r, hsplit _ hr, hblanks, .inl ⟨rfl, .inr rfl⟩,
        scanMagnitude_eq_some_iff.mp hp⟩
    · obtain ⟨p, hp, heq⟩ := Option.map_eq_some_iff.mp h
      cases heq
      exact ⟨_, [], _, hsplit _ rfl, hblanks, .inl ⟨rfl, .inl rfl⟩, scanMagnitude_eq_some_iff.mp hp⟩
  · rintro ⟨blanks, sign, lit, rfl, hblanks, hsign, hlit⟩
    have hm := scanMagnitude_eq_some_iff.mpr hlit
    obtain ⟨b, r, rfl, hspace, hminus, hplus⟩ := hlit.cons
    unfold scan
    rcases hsign with ⟨rfl, rfl | rfl⟩ | ⟨rfl, rfl⟩
    · rw [dropWhile_isSpace_append hblanks (by rintro c t ht; cases ht; exact hspace)]
      simp only [List.nil_append]
      split
      · rename_i heq; exact absurd (List.cons.inj heq).1 hminus
      · rename_i heq; exact absurd (List.cons.inj heq).1 hplus
      · rw [hm]; rfl
    · rw [dropWhile_isSpace_append hblanks (by rintro c t ht; cases ht; decide)]
      simp [hm]
    · rw [dropWhile_isSpace_append hblanks (by rintro c t ht; cases ht; decide)]
      simp [hm]

lemma readU64_eq_some_iff {s : Bytes} {x : UInt64} :
    readU64 0 s = some x ↔ ∃ neg m, scan 0 s = some (neg, m, []) ∧ m < 2 ^ 64 ∧
      x = UInt64.ofNat (if neg then 2 ^ 64 - m else m) := by
  unfold readU64
  constructor
  · intro h
    split at h
    · rename_i neg m hscan
      split at h
      · rename_i hm
        exact ⟨neg, m, hscan, hm, (Option.some.inj h).symm⟩
      · cases h
    · cases h
  · rintro ⟨neg, m, hscan, hm, rfl⟩
    simp only [hscan, hm, if_true]

/-- A literal in range is read as the number it denotes. -/
lemma Literal.readU64 {s : Bytes} {n : ℕ} (h : Literal s n) (hn : n < 2 ^ 64) :
    readU64 0 s = some (UInt64.ofNat n) :=
  readU64_eq_some_iff.mpr ⟨false, n, scan_eq_some_iff.mpr
    ⟨[], [], s, rfl, by simp, .inl ⟨rfl, .inl rfl⟩, h⟩, hn, rfl⟩

/-- A literal has no white space and no sign in front of it. -/
lemma Literal.bare {blanks sign lit : Bytes} {neg : Bool} {n : ℕ}
    (h : Literal (blanks ++ (sign ++ lit)) n) (hblanks : ∀ b ∈ blanks, isSpace b = true)
    (hsign : IsSign neg sign) : blanks = [] ∧ sign = [] := by
  obtain ⟨b, r, heq, hspace, hminus, hplus⟩ := h.cons
  have hnil : blanks = [] := by
    cases blanks with
    | nil => rfl
    | cons c t =>
        obtain rfl : c = b := (List.cons.inj heq).1
        rw [hblanks c (by simp)] at hspace
        cases hspace
  subst hnil
  refine ⟨rfl, ?_⟩
  rcases hsign with ⟨-, rfl | rfl⟩ | ⟨-, rfl⟩
  · rfl
  · exact absurd (List.cons.inj heq).1.symm hplus
  · exact absurd (List.cons.inj heq).1.symm hminus

end CNumeral
