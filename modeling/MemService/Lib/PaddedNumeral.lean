import MemService.Lib.CNumeral

/-!
# Padded numerals

`printf`'s `%04u` and `%016x`, and `strtoul` and `strtoull` at the front of a text.

`hexadecimal width n` prints `width` digits, so it is `%0*x` for a number that has no more;
`padded width n` prints a decimal numeral with zeros in front up to a width.  Zeros in front do not
change what a reader of digits in a given base makes of a numeral, which gives both round trips and
makes `padded` injective.
-/

namespace CNumeral

open ByteText

/-! ## Reading -/

/-- The digits part of a literal in a given base; base `16` takes an optional `0x`. -/
def magnitudeIn (base : ℕ) (s : Bytes) : Option (ℕ × Bytes) :=
  if base = 16 ∧ (selectBase s).1 = 16 then scanMagnitude 16 (selectBase s).2
  else scanMagnitude base s

/-- A magnitude with its sign as a 64-bit number: too large a one gives the largest. -/
def saturate (neg : Bool) (m : ℕ) : UInt64 :=
  if m < 2 ^ 64 then UInt64.ofNat (if neg then 2 ^ 64 - m else m) else 18446744073709551615

/-- `strtoul` and `strtoull`: the literal at the front of a text, `0` if there is none. -/
def strtoull (base : ℕ) (s : Bytes) : UInt64 :=
  match s.dropWhile isSpace with
  | 45 :: r => (magnitudeIn base r).elim 0 fun p => saturate true p.1
  | 43 :: r => (magnitudeIn base r).elim 0 fun p => saturate false p.1
  | r => (magnitudeIn base r).elim 0 fun p => saturate false p.1

/-! ## Printing -/

/-- The byte of a hexadecimal digit. -/
def hexByte (d : ℕ) : UInt8 := if d < 10 then (48 + d).toUInt8 else (87 + d).toUInt8

/-- The last `width` hexadecimal digits of a number, with zeros in front. -/
def hexadecimal : ℕ → ℕ → Bytes
  | 0, _ => []
  | width + 1, n => hexadecimal width (n / 16) ++ [hexByte (n % 16)]

/-- `%0*u`. -/
def padded (width n : ℕ) : Bytes := List.replicate (width - (decimal n).length) 48 ++ decimal n

/-! ## Round trips -/

lemma digitIn_hexByte {d : ℕ} (hd : d < 16) : digitIn 16 (hexByte d) = some d := by
  have : ∀ d < 16, digitIn 16 (hexByte d) = some d := by decide
  exact this d hd

lemma scanDigits_append {base : ℕ} {s : Bytes} (hs : ∀ b ∈ s, (digitIn base b).isSome)
    (acc : ℕ) (t : Bytes) :
    scanDigits base acc (s ++ t) = scanDigits base (scanDigits base acc s).1 t := by
  induction s generalizing acc with
  | nil => rfl
  | cons b s ih =>
      obtain ⟨d, hd⟩ := Option.isSome_iff_exists.mp (hs b (by simp))
      simp only [List.cons_append, scanDigits, hd]
      exact ih (fun c hc => hs c (by simp [hc])) _

lemma digit_of_mem_hexadecimal {width n : ℕ} {b : UInt8} (h : b ∈ hexadecimal width n) :
    ∃ d < 16, b = hexByte d := by
  induction width generalizing n with
  | zero => cases h
  | succ width ih =>
      rcases List.mem_append.mp h with h | h
      · exact ih h
      · exact ⟨n % 16, Nat.mod_lt _ (by norm_num), List.mem_singleton.mp h⟩

@[simp] lemma length_hexadecimal (width n : ℕ) : (hexadecimal width n).length = width := by
  induction width generalizing n with
  | zero => rfl
  | succ width ih => simp [hexadecimal, ih]

lemma scanDigits_hexadecimal {width n : ℕ} (h : n < 16 ^ width) :
    scanDigits 16 0 (hexadecimal width n) = (n, []) := by
  induction width generalizing n with
  | zero =>
      obtain rfl : n = 0 := by simpa using h
      rfl
  | succ width ih =>
      have hdiv : n / 16 < 16 ^ width := by
        rw [Nat.div_lt_iff_lt_mul (by norm_num), ← pow_succ]
        exact h
      have hdigits : ∀ b ∈ hexadecimal width (n / 16), (digitIn 16 b).isSome := by
        intro b hb
        obtain ⟨d, hd, rfl⟩ := digit_of_mem_hexadecimal hb
        rw [digitIn_hexByte hd]
        rfl
      rw [hexadecimal, scanDigits_append hdigits, ih hdiv]
      simp only [scanDigits, digitIn_hexByte (Nat.mod_lt n (show 0 < 16 by norm_num))]
      rw [Nat.div_add_mod']

lemma hexByte_front {d : ℕ} (hd : d < 16) :
    isSpace (hexByte d) = false ∧ hexByte d ≠ 45 ∧ hexByte d ≠ 43 ∧ hexByte d ≠ 120 ∧
      hexByte d ≠ 88 ∧ hexByte d ≠ NUL ∧ hexByte d ≠ LF ∧ hexByte d ≠ CR := by
  have : ∀ d < 16, isSpace (hexByte d) = false ∧ hexByte d ≠ 45 ∧ hexByte d ≠ 43 ∧
      hexByte d ≠ 120 ∧ hexByte d ≠ 88 ∧ hexByte d ≠ NUL ∧ hexByte d ≠ LF ∧ hexByte d ≠ CR := by
    decide
  exact this d hd

/-- A text whose second byte is no `x` has no hexadecimal prefix. -/
lemma selectBase_ne_sixteen {s : Bytes} (h : ∀ b ∈ s, b ≠ 120 ∧ b ≠ 88) :
    (selectBase s).1 ≠ 16 := by
  match s with
  | [] => decide
  | [b] =>
      simp only [selectBase]
      split <;> simp
  | [b, x] =>
      simp only [selectBase]
      split <;> simp
  | b :: x :: d :: s =>
      have hx := h x (by simp)
      simp only [selectBase, hx.1, hx.2, false_or, false_and, if_false]
      split <;> simp

/-- A text that starts with neither white space nor a sign is read as its magnitude says. -/
lemma strtoull_eq {base n : ℕ} {b : UInt8} {s : Bytes}
    (hb : isSpace b = false ∧ b ≠ 45 ∧ b ≠ 43)
    (hm : magnitudeIn base (b :: s) = some (n, [])) (hn : n < 2 ^ 64) :
    strtoull base (b :: s) = UInt64.ofNat n := by
  rw [strtoull, List.dropWhile_cons_of_neg (by simp [hb.1])]
  split
  · rename_i h
    exact absurd (List.cons.inj h).1 hb.2.1
  · rename_i h
    exact absurd (List.cons.inj h).1 hb.2.2
  · rw [hm]
    simp only [Option.elim_some, saturate, if_pos hn, Bool.false_eq_true, if_false]

/-- `%u` is read back in base `10`. -/
lemma strtoull_decimal {n : ℕ} (hn : n < 2 ^ 64) : strtoull 10 (decimal n) = UInt64.ofNat n := by
  obtain ⟨b, s, hb, -⟩ := decimal_cons n
  have hfront := numeral_front (mem_decimal (show b ∈ decimal n by simp [hb])).1
  have hm : magnitudeIn 10 (decimal n) = some (n, []) := by
    rw [magnitudeIn, if_neg (by simp), scanMagnitude_ten]
  rw [hb] at hm ⊢
  exact strtoull_eq hfront hm hn

/-- `%016x` is read back in base `16`. -/
lemma strtoull_hexadecimal {width n : ℕ} (hwidth : width ≠ 0) (h : n < 16 ^ width)
    (hn : n < 2 ^ 64) : strtoull 16 (hexadecimal width n) = UInt64.ofNat n := by
  have hne : hexadecimal width n ≠ [] := by
    rw [← List.length_pos_iff, length_hexadecimal]
    omega
  obtain ⟨b, s, hb⟩ := List.exists_cons_of_ne_nil hne
  obtain ⟨d, hd, rfl⟩ := digit_of_mem_hexadecimal (show b ∈ hexadecimal width n by simp [hb])
  have hfront := hexByte_front hd
  have hm : magnitudeIn 16 (hexadecimal width n) = some (n, []) := by
    have hbase : (selectBase (hexadecimal width n)).1 ≠ 16 := by
      refine selectBase_ne_sixteen fun c hc => ?_
      obtain ⟨e, he, rfl⟩ := digit_of_mem_hexadecimal hc
      have := hexByte_front he
      exact ⟨this.2.2.2.1, this.2.2.2.2.1⟩
    have hscan := scanDigits_hexadecimal h
    rw [magnitudeIn, if_neg (fun hc => hbase hc.2)]
    rw [hb] at hscan ⊢
    simp [scanMagnitude, digitIn_hexByte hd, hscan]
  rw [hb] at hm ⊢
  exact strtoull_eq ⟨hfront.1, hfront.2.1, hfront.2.2.1⟩ hm hn

lemma scanDigits_zeros (k : ℕ) (s : Bytes) :
    scanDigits 10 0 (List.replicate k 48 ++ s) = scanDigits 10 0 s := by
  induction k with
  | zero => rfl
  | succ k ih =>
      have h0 : digitIn 10 48 = some 0 := by decide
      rw [List.replicate_succ, List.cons_append, scanDigits, h0]
      exact ih

lemma scanDigits_decimal (n : ℕ) : scanDigits 10 0 (decimal n) = (n, []) := by
  obtain ⟨b, s, hb, -⟩ := decimal_cons n
  have h := scanMagnitude_ten n
  rw [hb] at h ⊢
  unfold scanMagnitude at h
  simp only [show (10 : ℕ) ≠ 0 by norm_num, if_false] at h
  split at h
  · exact Option.some.inj h
  · cases h

lemma padded_injective (width : ℕ) : Function.Injective (padded width) := by
  intro m n h
  have hm : scanDigits 10 0 (padded width m) = (m, []) := by
    rw [padded, scanDigits_zeros, scanDigits_decimal]
  rw [h, padded, scanDigits_zeros, scanDigits_decimal] at hm
  exact (Prod.mk.inj hm).1.symm

lemma plain_hexadecimal (width n : ℕ) : Plain (hexadecimal width n) := by
  intro b hb
  obtain ⟨d, hd, rfl⟩ := digit_of_mem_hexadecimal hb
  have := hexByte_front hd
  exact ⟨this.2.2.2.2.2.1, this.2.2.2.2.2.2.1⟩

lemma noTrailingCR_hexadecimal (width n : ℕ) : NoTrailingCR (hexadecimal width n) := by
  intro h
  obtain ⟨d, hd, hcr⟩ := digit_of_mem_hexadecimal (List.mem_of_getLast? h)
  exact (hexByte_front hd).2.2.2.2.2.2.2 hcr.symm

end CNumeral
