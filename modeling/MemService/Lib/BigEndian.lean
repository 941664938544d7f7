import MemService.Lib.ByteText
import Mathlib.Tactic.Ring

/-!
# Big-endian words

Numbers of a fixed number of bytes, most significant byte first.  `value` reads a byte string of any
length and `bytes w` writes `w` bytes; the two are inverse to each other on the numbers that fit and
on the strings of length `w`.  The words of a C program are written by shifts: `putU32`, `putU64`,
`getU32` and `getU64` are these, and are tied to the numbers by `putU32_eq` and `getU32_toNat`.

A reader of a C program is given a pointer, so `getU32 s` reads the first four bytes of `s` and
ignores the rest.  `putU32_getU32` is the cut a parser's proof makes: a string of at least four bytes
is the word at its front, followed by what is left.
-/

namespace BigEndian

/-! ## Numbers -/

/-- The number a byte string stands for. -/
def value (s : Bytes) : ℕ := s.foldl (fun n b => n * 256 + b.toNat) 0

/-- The last `w` bytes of a number. -/
def bytes : ℕ → ℕ → Bytes
  | 0, _ => []
  | w + 1, n => bytes w (n / 256) ++ [UInt8.ofNat n]

@[simp] lemma value_nil : value [] = 0 := rfl

lemma value_concat (s : Bytes) (b : UInt8) : value (s ++ [b]) = value s * 256 + b.toNat := by
  simp [value]

@[simp] lemma length_bytes (w n : ℕ) : (bytes w n).length = w := by
  induction w generalizing n with
  | zero => rfl
  | succ w ih => simp [bytes, ih]

lemma value_bytes {w n : ℕ} (h : n < 256 ^ w) : value (bytes w n) = n := by
  induction w generalizing n with
  | zero =>
      have hn : n = 0 := by simpa using h
      rw [hn]
      rfl
  | succ w ih =>
      have hdiv : n / 256 < 256 ^ w := by
        apply Nat.div_lt_of_lt_mul
        rwa [← Nat.pow_succ']
      rw [bytes, value_concat, ih hdiv, UInt8.toNat_ofNat']
      omega

lemma bytes_value (s : Bytes) : bytes s.length (value s) = s := by
  induction s using List.reverseRecOn with
  | nil => rfl
  | append_singleton s b ih =>
      have hb : b.toNat < 256 := b.toNat_lt
      have hdiv : value (s ++ [b]) / 256 = value s := by
        rw [value_concat]
        omega
      have hlast : UInt8.ofNat (value (s ++ [b])) = b := by
        apply UInt8.toNat_inj.mp
        rw [UInt8.toNat_ofNat', value_concat]
        omega
      rw [List.length_append, List.length_singleton, bytes, hdiv, hlast, ih]

lemma value_lt (s : Bytes) : value s < 256 ^ s.length := by
  induction s using List.reverseRecOn with
  | nil => simp
  | append_singleton s b ih =>
      have hb : b.toNat < 256 := b.toNat_lt
      rw [value_concat, List.length_append, List.length_singleton, pow_succ]
      omega

/-! ## Words -/

/-- The four bytes of a word. -/
def putU32 (v : UInt32) : Bytes :=
  [(v >>> 24).toUInt8, (v >>> 16).toUInt8, (v >>> 8).toUInt8, v.toUInt8]

/-- The word at the front of a byte string. -/
def getU32 (s : Bytes) : UInt32 :=
  ((s.getD 0 0).toUInt32 <<< 24) ||| ((s.getD 1 0).toUInt32 <<< 16) |||
    ((s.getD 2 0).toUInt32 <<< 8) ||| (s.getD 3 0).toUInt32

/-- The eight bytes of a double word, the high word first. -/
def putU64 (v : UInt64) : Bytes := putU32 (v >>> 32).toUInt32 ++ putU32 v.toUInt32

/-- The double word at the front of a byte string. -/
def getU64 (s : Bytes) : UInt64 :=
  ((getU32 s).toUInt64 <<< 32) ||| (getU32 (s.drop 4)).toUInt64

@[simp] lemma length_putU32 (v : UInt32) : (putU32 v).length = 4 := rfl

@[simp] lemma length_putU64 (v : UInt64) : (putU64 v).length = 8 := rfl

lemma putU32_eq (v : UInt32) : putU32 v = bytes 4 v.toNat := by
  have byte (k : UInt32) (hk : k.toNat < 32) :
      (v >>> k).toUInt8 = UInt8.ofNat (v.toNat / 2 ^ k.toNat) := by
    apply UInt8.toNat_inj.mp
    simp [Nat.shiftRight_eq_div_pow, Nat.mod_eq_of_lt hk]
  have hlast : v.toUInt8 = UInt8.ofNat v.toNat := by
    apply UInt8.toNat_inj.mp
    simp
  simp only [putU32, bytes, List.nil_append, List.cons_append, hlast]
  rw [byte 24 (by decide), byte 16 (by decide), byte 8 (by decide)]
  simp only [Nat.div_div_eq_div_mul]
  rfl

/-- Bytes side by side, as the shifts of a C program put them. -/
lemma or_shiftLeft_eq {a b k : ℕ} (hb : b < 2 ^ k) : a * 2 ^ k ||| b = a * 2 ^ k + b := by
  rw [Nat.mul_comm, ← Nat.two_pow_add_eq_or_of_lt hb]

lemma getU32_toNat (b₀ b₁ b₂ b₃ : UInt8) (rest : Bytes) :
    (getU32 (b₀ :: b₁ :: b₂ :: b₃ :: rest)).toNat = value [b₀, b₁, b₂, b₃] := by
  have h₀ : b₀.toNat < 256 := b₀.toNat_lt
  have h₁ : b₁.toNat < 256 := b₁.toNat_lt
  have h₂ : b₂.toNat < 256 := b₂.toNat_lt
  have h₃ : b₃.toNat < 256 := b₃.toNat_lt
  have hwide (a k : ℕ) (ha : a < 256) (hk : k ≤ 24) : a * 2 ^ k % 4294967296 = a * 2 ^ k := by
    apply Nat.mod_eq_of_lt
    calc a * 2 ^ k ≤ 255 * 2 ^ 24 := Nat.mul_le_mul (by omega) (Nat.pow_le_pow_right (by omega) hk)
      _ < 4294967296 := by decide
  have hval : value [b₀, b₁, b₂, b₃] =
      ((b₀.toNat * 256 + b₁.toNat) * 256 + b₂.toNat) * 256 + b₃.toNat := by
    simp [value]
  simp only [getU32, List.getD_cons_zero, List.getD_cons_succ, UInt32.toNat_or,
    UInt32.toNat_shiftLeft, UInt8.toNat_toUInt32, Nat.shiftLeft_eq]
  rw [show (24 : UInt32).toNat % 32 = 24 from rfl, show (16 : UInt32).toNat % 32 = 16 from rfl,
    show (8 : UInt32).toNat % 32 = 8 from rfl, show (2 ^ 32 : ℕ) = 4294967296 from rfl,
    hwide _ 24 h₀ (by omega), hwide _ 16 h₁ (by omega), hwide _ 8 h₂ (by omega), hval]
  rw [or_shiftLeft_eq (show b₁.toNat * 2 ^ 16 < 2 ^ 24 by omega),
    show b₀.toNat * 2 ^ 24 + b₁.toNat * 2 ^ 16 = (b₀.toNat * 256 + b₁.toNat) * 2 ^ 16 by ring,
    or_shiftLeft_eq (show b₂.toNat * 2 ^ 8 < 2 ^ 16 by omega),
    show (b₀.toNat * 256 + b₁.toNat) * 2 ^ 16 + b₂.toNat * 2 ^ 8 =
      ((b₀.toNat * 256 + b₁.toNat) * 256 + b₂.toNat) * 2 ^ 8 by ring,
    or_shiftLeft_eq (show b₃.toNat < 2 ^ 8 by omega), show (2 ^ 8 : ℕ) = 256 from rfl]

/-! ## Writing and reading words -/

lemma four_bytes {s : Bytes} (h : 4 ≤ s.length) :
    ∃ b₀ b₁ b₂ b₃ rest, s = b₀ :: b₁ :: b₂ :: b₃ :: rest := by
  match s, h with
  | b₀ :: b₁ :: b₂ :: b₃ :: rest, _ => exact ⟨b₀, b₁, b₂, b₃, rest, rfl⟩

@[simp] lemma getU32_putU32 (v : UInt32) (rest : Bytes) : getU32 (putU32 v ++ rest) = v := by
  apply UInt32.toNat_inj.mp
  have hread := getU32_toNat (v >>> 24).toUInt8 (v >>> 16).toUInt8 (v >>> 8).toUInt8 v.toUInt8 rest
  have hbytes := putU32_eq v
  have hlt : v.toNat < 256 ^ 4 := v.toNat_lt
  calc (getU32 (putU32 v ++ rest)).toNat = value (putU32 v) := hread
    _ = v.toNat := by rw [hbytes, value_bytes hlt]

/-- A string of at least four bytes is the word at its front and the rest. -/
lemma putU32_getU32 {s : Bytes} (h : 4 ≤ s.length) : putU32 (getU32 s) ++ s.drop 4 = s := by
  obtain ⟨b₀, b₁, b₂, b₃, rest, rfl⟩ := four_bytes h
  rw [putU32_eq, getU32_toNat, show (4 : ℕ) = [b₀, b₁, b₂, b₃].length from rfl, bytes_value]
  rfl

lemma drop_putU32 (v : UInt32) (rest : Bytes) (n : ℕ) :
    (putU32 v ++ rest).drop (n + 4) = rest.drop n := by
  rw [Nat.add_comm, ← List.drop_drop, List.drop_left' (length_putU32 v)]

lemma getU64_toNat (s : Bytes) :
    (getU64 s).toNat = (getU32 s).toNat * 2 ^ 32 + (getU32 (s.drop 4)).toNat := by
  have h₀ : (getU32 s).toNat < 4294967296 := (getU32 s).toNat_lt
  have h₁ : (getU32 (s.drop 4)).toNat < 2 ^ 32 := (getU32 (s.drop 4)).toNat_lt
  simp only [getU64, UInt64.toNat_or, UInt64.toNat_shiftLeft, UInt32.toNat_toUInt64,
    Nat.shiftLeft_eq]
  rw [show (32 : UInt64).toNat % 64 = 32 from rfl, Nat.mod_eq_of_lt (by omega), or_shiftLeft_eq h₁]

@[simp] lemma getU64_putU64 (v : UInt64) (rest : Bytes) : getU64 (putU64 v ++ rest) = v := by
  apply UInt64.toNat_inj.mp
  have hlt : v.toNat < 18446744073709551616 := v.toNat_lt
  rw [getU64_toNat, putU64, List.append_assoc, getU32_putU32,
    show (4 : ℕ) = 0 + 4 from rfl, drop_putU32, List.drop_zero, getU32_putU32]
  simp only [UInt64.toNat_toUInt32, UInt64.toNat_shiftRight, Nat.shiftRight_eq_div_pow]
  rw [show (32 : UInt64).toNat % 64 = 32 from rfl]
  omega

/-- A string of at least eight bytes is the double word at its front and the rest. -/
lemma putU64_getU64 {s : Bytes} (h : 8 ≤ s.length) : putU64 (getU64 s) ++ s.drop 8 = s := by
  have hhigh : ((getU64 s) >>> 32).toUInt32 = getU32 s := by
    apply UInt32.toNat_inj.mp
    have h₀ : (getU32 s).toNat < 4294967296 := (getU32 s).toNat_lt
    have h₁ : (getU32 (s.drop 4)).toNat < 4294967296 := (getU32 (s.drop 4)).toNat_lt
    simp only [UInt64.toNat_toUInt32, UInt64.toNat_shiftRight, Nat.shiftRight_eq_div_pow,
      getU64_toNat]
    rw [show (32 : UInt64).toNat % 64 = 32 from rfl]
    omega
  have hlow : (getU64 s).toUInt32 = getU32 (s.drop 4) := by
    apply UInt32.toNat_inj.mp
    have h₁ : (getU32 (s.drop 4)).toNat < 4294967296 := (getU32 (s.drop 4)).toNat_lt
    simp only [UInt64.toNat_toUInt32, getU64_toNat]
    omega
  have hrest : 4 ≤ (s.drop 4).length := by
    rw [List.length_drop]
    omega
  rw [putU64, hhigh, hlow, List.append_assoc, show s.drop 8 = (s.drop 4).drop 4 by
    rw [List.drop_drop], putU32_getU32 hrest, putU32_getU32 (by omega)]

lemma drop_putU64 (v : UInt64) (rest : Bytes) (n : ℕ) :
    (putU64 v ++ rest).drop (n + 8) = rest.drop n := by
  rw [Nat.add_comm, ← List.drop_drop, List.drop_left' (length_putU64 v)]

end BigEndian
