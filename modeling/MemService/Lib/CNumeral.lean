import MemService.Lib.ByteText
import Mathlib.Data.Nat.Digits.Lemmas

/-!
# C integer literals

`strtoull`, `strtoll` and `strtol` as ISO C describes them, and `printf`'s `%u` and `%d`.

`scan base s` reads the longest integer literal at the front of `s`: white space, a sign, in base
`0` the prefix that selects octal or hexadecimal, then the digits.  It answers the sign, the
unbounded magnitude and the unread rest, and `none` where the C functions report that they
converted nothing.  The readers a program builds on them accept a text only when the whole of it is
one literal in range; they are `readU64`, `readI64` and `readBounded`.

`decimal` is the printer.  Its round trip with base `0` (`readU64_decimal`) rests on one point: a
decimal numeral of a non-zero number has no leading zero, so the reader does not take it for octal.
-/

namespace CNumeral

open ByteText

/-! ## Reading -/

/-- C's `isspace` in the "C" locale. -/
def isSpace (b : UInt8) : Bool := b == 32 || (9 ≤ b && b ≤ 13)

/-- The value of a digit or letter. -/
def digitVal (b : UInt8) : Option ℕ :=
  if 48 ≤ b ∧ b ≤ 57 then some (b.toNat - 48)
  else if 97 ≤ b ∧ b ≤ 122 then some (b.toNat - 87)
  else if 65 ≤ b ∧ b ≤ 90 then some (b.toNat - 55)
  else none

/-- The value of `b` as a digit of `base`. -/
def digitIn (base : ℕ) (b : UInt8) : Option ℕ := (digitVal b).filter (· < base)

/-- Read digits of `base` onto `acc`; the magnitude and the unread rest. -/
def scanDigits (base : ℕ) : ℕ → Bytes → ℕ × Bytes
  | acc, [] => (acc, [])
  | acc, b :: s =>
      match digitIn base b with
      | some d => scanDigits base (acc * base + d) s
      | none => (acc, b :: s)

/-- The base a literal in base `0` selects, and the literal without its `0x`. -/
def selectBase : Bytes → ℕ × Bytes
  | b :: x :: d :: s =>
      if b = 48 then
        if (x = 120 ∨ x = 88) ∧ (digitIn 16 d).isSome then (16, d :: s)
        else (8, b :: x :: d :: s)
      else (10, b :: x :: d :: s)
  | b :: s => if b = 48 then (8, b :: s) else (10, b :: s)
  | [] => (10, [])

/-- The digits part of a literal, `none` when there is no digit. -/
def scanMagnitude (base : ℕ) (s : Bytes) : Option (ℕ × Bytes) :=
  let p := if base = 0 then selectBase s else (base, s)
  match p.2 with
  | [] => none
  | b :: _ => if (digitIn p.1 b).isSome then some (scanDigits p.1 0 p.2) else none

/-- An integer literal at the front of a text: whether it has a minus sign, its magnitude and the
unread rest. -/
def scan (base : ℕ) (s : Bytes) : Option (Bool × ℕ × Bytes) :=
  match s.dropWhile isSpace with
  | 45 :: r => (scanMagnitude base r).map fun p => (true, p)
  | 43 :: r => (scanMagnitude base r).map fun p => (false, p)
  | r => (scanMagnitude base r).map fun p => (false, p)

/-- `strtoull` over a whole text: `none` when it converts nothing, leaves a rest or overflows.  A
minus sign negates modulo `2 ^ 64`, as ISO C has it. -/
def readU64 (base : ℕ) (s : Bytes) : Option UInt64 :=
  match scan base s with
  | some (neg, m, []) =>
      if m < 2 ^ 64 then some (UInt64.ofNat (if neg then 2 ^ 64 - m else m)) else none
  | _ => none

/-- `strtoll` over a whole text. -/
def readI64 (base : ℕ) (s : Bytes) : Option Int64 :=
  match scan base s with
  | some (true, m, []) => if m ≤ 2 ^ 63 then some (Int64.ofInt (-(m : ℤ))) else none
  | some (false, m, []) => if m < 2 ^ 63 then some (Int64.ofInt m) else none
  | _ => none

/-- `strtol` over a whole text, accepted when it denotes a number between `1` and `bound`. -/
def readBounded (bound : ℕ) (s : Bytes) : Option ℕ :=
  match scan 10 s with
  | some (false, m, []) => if 1 ≤ m ∧ m ≤ bound then some m else none
  | _ => none

/-! ## Printing -/

/-- The byte of a decimal digit. -/
def digitByte (d : ℕ) : UInt8 := (48 + d).toUInt8

/-- `%u`. -/
def decimal (n : ℕ) : Bytes :=
  if n = 0 then [48] else (Nat.digits 10 n).reverse.map digitByte

/-- `%d`. -/
def signedDecimal (i : ℤ) : Bytes :=
  if i < 0 then 45 :: decimal i.natAbs else decimal i.natAbs

/-! ## Round trips -/

lemma digitIn_digitByte {d : ℕ} (hd : d < 10) : digitIn 10 (digitByte d) = some d := by
  have : ∀ d < 10, digitIn 10 (digitByte d) = some d := by decide
  exact this d hd

lemma digitByte_mem {d : ℕ} (hd : d < 10) : 48 ≤ digitByte d ∧ digitByte d ≤ 57 := by
  have : ∀ d < 10, 48 ≤ digitByte d ∧ digitByte d ≤ 57 := by decide
  exact this d hd

lemma scanDigits_map {l : List ℕ} (hl : ∀ d ∈ l, d < 10) (acc : ℕ) :
    scanDigits 10 acc (l.map digitByte) = (l.foldl (fun a d => a * 10 + d) acc, []) := by
  induction l generalizing acc with
  | nil => rfl
  | cons d l ih =>
      have hd := digitIn_digitByte (hl d (by simp))
      simp only [List.map_cons, scanDigits, hd, List.foldl_cons]
      exact ih (fun e he => hl e (by simp [he])) _

lemma foldl_reverse_digits (n : ℕ) :
    (Nat.digits 10 n).reverse.foldl (fun a d => a * 10 + d) 0 = n := by
  rw [List.foldl_reverse]
  conv_rhs => rw [← Nat.ofDigits_digits 10 n, Nat.ofDigits_eq_foldr]
  congr 1
  funext d a
  simp
  ring

/-- The bytes of a decimal numeral are digits. -/
lemma mem_decimal {n : ℕ} {b : UInt8} (h : b ∈ decimal n) : 48 ≤ b ∧ b ≤ 57 := by
  unfold decimal at h
  split at h
  · simp only [List.mem_singleton] at h
    subst h
    decide
  · obtain ⟨d, hd, rfl⟩ := List.mem_map.mp h
    exact digitByte_mem (Nat.digits_lt_base (by norm_num) (List.mem_reverse.mp hd))

lemma decimal_ne_nil (n : ℕ) : decimal n ≠ [] := by
  unfold decimal
  split
  · simp
  · rename_i h
    simpa [Nat.digits_ne_nil_iff_ne_zero] using h

/-- The leading byte of a decimal numeral is no white space and no sign, and it is `0` only in the
numeral `0`. -/
lemma decimal_cons (n : ℕ) :
    ∃ b s, decimal n = b :: s ∧ (b = 48 → n = 0) := by
  by_cases hn : n = 0
  · exact ⟨48, [], by simp [decimal, hn], fun _ => hn⟩
  · have hne : Nat.digits 10 n ≠ [] := Nat.digits_ne_nil_iff_ne_zero.mpr hn
    have hlast := Nat.getLast_digit_ne_zero 10 hn
    refine ⟨digitByte ((Nat.digits 10 n).getLast hne), ((Nat.digits 10 n).dropLast.reverse).map
      digitByte, ?_, ?_⟩
    · rw [decimal, if_neg hn]
      conv_lhs => rw [← List.dropLast_append_getLast hne]
      simp
    · intro h0
      exfalso
      have hlt : (Nat.digits 10 n).getLast hne < 10 :=
        Nat.digits_lt_base (by norm_num) (List.getLast_mem hne)
      have : ∀ d < 10, digitByte d = 48 → d = 0 := by decide
      exact hlast (this _ hlt h0)

lemma scanMagnitude_ten (n : ℕ) : scanMagnitude 10 (decimal n) = some (n, []) := by
  by_cases hn : n = 0
  · subst hn
    decide
  · have hscan : scanDigits 10 0 (decimal n) = (n, []) := by
      rw [decimal, if_neg hn, scanDigits_map, foldl_reverse_digits]
      intro d hd
      exact Nat.digits_lt_base (by norm_num) (List.mem_reverse.mp hd)
    obtain ⟨b, s, hb, -⟩ := decimal_cons n
    have hdig : (digitIn 10 b).isSome := by
      obtain ⟨h48, h57⟩ := mem_decimal (show b ∈ decimal n by simp [hb])
      rw [UInt8.le_iff_toNat_le] at h48 h57
      simp only [digitIn, digitVal, UInt8.le_iff_toNat_le, h48, h57, and_self, if_true]
      have h57' : b.toNat ≤ 57 := h57
      simp [Option.filter_some]
      omega
    simp only [scanMagnitude, hb] at hscan ⊢
    simp [hdig, hscan]

lemma decimal_injective : Function.Injective decimal := by
  intro m n h
  have hm := scanMagnitude_ten m
  rw [h, scanMagnitude_ten n] at hm
  exact (Prod.mk.inj (Option.some.inj hm)).1.symm

lemma scanMagnitude_zero (n : ℕ) : scanMagnitude 0 (decimal n) = some (n, []) := by
  by_cases hn : n = 0
  · subst hn
    decide
  · obtain ⟨b, s, hb, h0⟩ := decimal_cons n
    have hsel : selectBase (decimal n) = (10, decimal n) := by
      have hb0 : b ≠ 48 := fun h => hn (h0 h)
      rw [hb]
      match s with
      | [] => simp [selectBase, hb0]
      | [x] => simp [selectBase, hb0]
      | x :: d :: s => simp [selectBase, hb0]
    have := scanMagnitude_ten n
    simpa [scanMagnitude, hsel] using this

/-- Bytes from `0` on are neither white space nor a sign. -/
lemma numeral_front {b : UInt8} (h : 48 ≤ b) : isSpace b = false ∧ b ≠ 45 ∧ b ≠ 43 := by
  rw [UInt8.le_iff_toNat_le] at h
  have h' : 48 ≤ b.toNat := h
  refine ⟨?_, ?_, ?_⟩
  · simp only [isSpace, Bool.or_eq_false_iff, beq_eq_false_iff_ne, Bool.and_eq_false_iff,
      decide_eq_false_iff_not, UInt8.le_iff_toNat_le]
    refine ⟨?_, .inr ?_⟩
    · rintro rfl
      exact absurd h' (by decide)
    · have : (13 : UInt8).toNat = 13 := rfl
      omega
  · rintro rfl
    exact absurd h' (by decide)
  · rintro rfl
    exact absurd h' (by decide)

lemma scan_decimal {base : ℕ} (hbase : base = 0 ∨ base = 10) (n : ℕ) :
    scan base (decimal n) = some (false, n, []) := by
  have hm : scanMagnitude base (decimal n) = some (n, []) := by
    rcases hbase with rfl | rfl
    · exact scanMagnitude_zero n
    · exact scanMagnitude_ten n
  obtain ⟨b, s, hb, -⟩ := decimal_cons n
  have hfront := numeral_front (mem_decimal (show b ∈ decimal n by simp [hb])).1
  rw [scan, hb, List.dropWhile_cons_of_neg (by simp [hfront.1])]
  split
  · rename_i h; exact absurd (List.cons.inj h).1 hfront.2.1
  · rename_i h; exact absurd (List.cons.inj h).1 hfront.2.2
  · rw [← hb, hm]; rfl

lemma scan_neg_decimal (n : ℕ) : scan 0 (45 :: decimal n) = some (true, n, []) := by
  have hs : isSpace 45 = false := by decide
  simp [scan, hs, scanMagnitude_zero]

/-- `%u` of a 64-bit number is read back as that number. -/
lemma readU64_decimal (x : UInt64) : readU64 0 (decimal x.toNat) = some x := by
  simp only [readU64, scan_decimal (.inl rfl), x.toNat_lt, if_true]
  simp

/-- `%d` of a 64-bit number is read back as that number. -/
lemma readI64_signedDecimal (x : Int64) : readI64 0 (signedDecimal x.toInt) = some x := by
  have hlo : -2 ^ 63 ≤ x.toInt := x.le_toInt
  have hhi : x.toInt < 2 ^ 63 := x.toInt_lt
  unfold signedDecimal
  split
  · rename_i hneg
    have hm : x.toInt.natAbs ≤ 2 ^ 63 := by omega
    have hval : -(x.toInt.natAbs : ℤ) = x.toInt := by omega
    simp only [readI64, scan_neg_decimal, hm, if_true, hval, Int64.ofInt_toInt]
  · rename_i hnn
    have hm : x.toInt.natAbs < 2 ^ 63 := by omega
    have hval : (x.toInt.natAbs : ℤ) = x.toInt := by omega
    simp only [readI64, scan_decimal (.inl rfl), hm, if_true, hval, Int64.ofInt_toInt]

/-! ## The shape of a numeral -/

lemma length_decimal_le {n k : ℕ} (hk : 0 < k) (h : n < 10 ^ k) : (decimal n).length ≤ k := by
  unfold decimal
  split
  · exact hk
  · simpa using (Nat.digits_length_le_iff (by norm_num) n).mpr h

lemma length_signedDecimal_le {i : ℤ} {k : ℕ} (hk : 0 < k) (h : i.natAbs < 10 ^ k) :
    (signedDecimal i).length ≤ k + 1 := by
  have := length_decimal_le hk h
  unfold signedDecimal
  split <;> simp <;> omega

lemma mem_signedDecimal {i : ℤ} {b : UInt8} (h : b ∈ signedDecimal i) :
    b = 45 ∨ (48 ≤ b ∧ b ≤ 57) := by
  unfold signedDecimal at h
  split at h
  · rcases List.mem_cons.mp h with h | h
    · exact .inl h
    · exact .inr (mem_decimal h)
  · exact .inr (mem_decimal h)

/-- No byte of a numeral is a terminator, a line end or an equals sign. -/
lemma ne_of_mem_signedDecimal {i : ℤ} {b : UInt8} (h : b ∈ signedDecimal i) :
    b ≠ NUL ∧ b ≠ LF ∧ b ≠ CR ∧ b ≠ EQ := by
  rcases mem_signedDecimal h with rfl | ⟨hlo, hhi⟩
  · decide
  · rw [UInt8.le_iff_toNat_le] at hlo hhi
    refine ⟨?_, ?_, ?_, ?_⟩
    all_goals
      rintro rfl
      revert hlo hhi
      decide

lemma decimal_eq_signedDecimal (n : ℕ) : decimal n = signedDecimal n := by
  simp [signedDecimal]

lemma plain_signedDecimal (i : ℤ) : Plain (signedDecimal i) :=
  fun _ hb => ⟨(ne_of_mem_signedDecimal hb).1, (ne_of_mem_signedDecimal hb).2.1⟩

lemma plain_decimal (n : ℕ) : Plain (decimal n) := by
  rw [decimal_eq_signedDecimal]
  exact plain_signedDecimal n

lemma trimLine_signedDecimal (i : ℤ) : trimLine (signedDecimal i) = signedDecimal i := by
  rw [trimLine_eq_self_iff (plain_signedDecimal i).lf]
  intro h
  exact (ne_of_mem_signedDecimal (List.mem_of_getLast? h)).2.2.1 rfl

lemma trimLine_decimal (n : ℕ) : trimLine (decimal n) = decimal n := by
  rw [decimal_eq_signedDecimal]
  exact trimLine_signedDecimal n

end CNumeral
