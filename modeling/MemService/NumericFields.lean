import MemService.Wire
import MemService.Lib.IntegerLiteral

/-!
# Numbers in payloads

Versions, owners, lengths and checksums come as the text of a payload field, and
`mem_service_wire_payload_get_u64_checked` is the one place where they become numbers.  What it should
take is an unsigned integer literal in range, and no other text.

It looks at less of the field and takes more of it.  The text goes through a buffer of 48 bytes, so that
of a longer one the front is read; and `strtoull` skips white space and takes a sign, which negates
modulo `2 ^ 64`.  `WellRead` says of a text that none of this happens to it.
-/

open ByteText CNumeral

namespace MemService

/-- The text of a field: what follows the equals sign in the first line of that name. -/
def fieldText (payload name : Bytes) : Option Bytes :=
  ((lines payload).find? fun l => (name ++ [EQ]).isPrefixOf l).map fun l => l.drop (name.length + 1)

/-- The text is not one that is read as a number it does not denote: if its first 47 bytes are white
space, a sign and a literal in range, they are the literal alone, and they are the whole text unless
that is a zero. -/
def WellRead (v : Bytes) : Prop :=
  ∀ blanks sign lit neg m, v.take 47 = blanks ++ (sign ++ lit) →
    (∀ b ∈ blanks, isSpace b = true) → IsSign neg sign → Literal lit m → m < 2 ^ 64 →
      blanks = [] ∧ sign = [] ∧ (v.length < 48 ∨ Literal v 0)

section Getter

variable {payload name v : Bytes} {n : UInt64}

lemma payloadGetU64Checked_eq_some_iff : payloadGetU64Checked payload name = some n ↔
    ∃ v, fieldText payload name = some v ∧ readU64 0 (v.take 47) = some n := by
  have hstring : payloadGetString payload name 48 = (fieldText payload name).bind (fitValue 48) := by
    rw [payloadGetString, fieldText, Option.bind_map]
    rfl
  have hfit : ∀ v, (fitValue 48 v).bind (readU64 0) = readU64 0 (v.take 47) := by
    intro v
    rw [fitValue]
    split
    · rename_i hnil
      rw [hnil]
      rfl
    · rfl
  simp only [payloadGetU64Checked, hstring, Option.bind_assoc, hfit, Option.bind_eq_some_iff]

/-- A literal in range is always read as some number, and as its own if it fits the buffer. -/
lemma readU64_take_of_literal (h : Literal v n.toNat) :
    ∃ m, Literal (v.take 47) m ∧ readU64 0 (v.take 47) = some (UInt64.ofNat m) ∧ m ≤ n.toNat ∧
      (47 < v.length → m = n.toNat → n.toNat = 0) := by
  obtain ⟨m, hm, hle, hcut⟩ := h.take (show 3 ≤ 47 by norm_num)
  exact ⟨m, hm, hm.readU64 (hle.trans_lt n.toNat_lt), hle, hcut⟩

lemma WellRead.literal (hwell : WellRead v) (hread : readU64 0 (v.take 47) = some n) :
    Literal v n.toNat := by
  obtain ⟨neg, m, hscan, hm, rfl⟩ := readU64_eq_some_iff.mp hread
  obtain ⟨blanks, sign, lit, htake, hblanks, hsign, hlit⟩ := scan_eq_some_iff.mp hscan
  obtain ⟨rfl, rfl, hwhole⟩ := hwell blanks sign lit neg m htake hblanks hsign hlit hm
  obtain rfl : neg = false := by
    rcases hsign with ⟨h, -⟩ | ⟨-, h⟩
    · exact h
    · cases h
  have htake : v.take 47 = lit := htake
  have hvalue : (UInt64.ofNat m).toNat = m := UInt64.toNat_ofNat_of_lt' hm
  simp only [Bool.false_eq_true, if_false, hvalue]
  rcases hwhole with hlen | hzero
  · rwa [← List.take_of_length_le (show v.length ≤ 47 by omega), htake]
  · obtain ⟨m', hm', hle, -⟩ := hzero.take (show 3 ≤ 47 by norm_num)
    obtain rfl : m = m' := hlit.unique (htake ▸ hm')
    obtain rfl : m = 0 := by omega
    exact hzero

lemma WellRead.read (hwell : WellRead v) (h : Literal v n.toNat) :
    readU64 0 (v.take 47) = some n := by
  obtain ⟨m, hm, hread, hle, -⟩ := readU64_take_of_literal h
  have hsign : IsSign false [] := .inl ⟨rfl, .inl rfl⟩
  obtain ⟨-, -, hwhole⟩ := hwell [] [] _ false m rfl (by simp) hsign hm (hle.trans_lt n.toNat_lt)
  have hvalue : m = n.toNat := by
    rcases hwhole with hlen | hzero
    · rw [List.take_of_length_le (show v.length ≤ 47 by omega)] at hm
      exact hm.unique h
    · have := h.unique hzero
      omega
  rw [hread, hvalue, UInt64.ofNat_toNat]

/-- A text that is read only as what it denotes is well read. -/
lemma wellRead_of_exact (h : ∀ n, readU64 0 (v.take 47) = some n → Literal v n.toNat) :
    WellRead v := by
  intro blanks sign lit neg m htake hblanks hsign hlit hm
  have hread := readU64_eq_some_iff.mpr
    ⟨neg, m, scan_eq_some_iff.mpr ⟨blanks, sign, lit, htake, hblanks, hsign, hlit⟩, hm, rfl⟩
  have hdenotes := h _ hread
  obtain ⟨m', hm', hread', -, hcut⟩ := readU64_take_of_literal hdenotes
  obtain ⟨hnil, hbare⟩ := (htake ▸ hm').bare hblanks hsign
  refine ⟨hnil, hbare, ?_⟩
  by_cases hlen : v.length < 48
  · exact .inl hlen
  · refine .inr ?_
    -- what is read is what the front denotes, and that is less than the whole
    have hvalue := Option.some.inj (hread.symm.trans hread')
    have hlt : m' < 2 ^ 64 := by
      obtain ⟨_, hm₂, hle⟩ := hdenotes.take (show 3 ≤ 47 by norm_num)
      rw [hm'.unique hm₂]
      exact hle.1.trans_lt (UInt64.toNat_lt _)
    have hzero := hcut (by omega) (by rw [hvalue, UInt64.toNat_ofNat_of_lt' hlt])
    rwa [hzero] at hdenotes

end Getter

/-- **The checked getter is exact on well-read texts.**  For every payload and field name: the getter
answers `n` exactly when the field is there and its whole text is an unsigned literal that denotes `n`,
and reports every other text as malformed, if and only if the field's text is well read. -/
theorem getU64Checked_exact_iff (payload name : Bytes) :
    (∀ n, payloadGetU64Checked payload name = some n ↔
      ∃ v, fieldText payload name = some v ∧ Literal v n.toNat) ↔
    ∀ v, fieldText payload name = some v → WellRead v := by
  simp only [payloadGetU64Checked_eq_some_iff]
  constructor
  · intro hexact v hv
    refine wellRead_of_exact fun n hread => ?_
    obtain ⟨w, hw, hlit⟩ := (hexact n).mp ⟨v, hv, hread⟩
    obtain rfl : v = w := Option.some.inj (hv.symm.trans hw)
    exact hlit
  · intro hwell n
    constructor
    · rintro ⟨v, hv, hread⟩
      exact ⟨v, hv, (hwell v hv).literal hread⟩
    · rintro ⟨v, hv, hlit⟩
      exact ⟨v, hv, (hwell v hv).read hlit⟩

/-- A version of minus one is read as the largest version there is. -/
theorem minus_one_read_as_version :
    payloadGetU64Checked (unlines [ascii "version=-1"]) (ascii "version") =
      some 18446744073709551615 ∧
    ¬ ∃ v, fieldText (unlines [ascii "version=-1"]) (ascii "version") = some v ∧
      Literal v (18446744073709551615 : UInt64).toNat := by
  refine ⟨by decide +kernel, ?_⟩
  rintro ⟨v, hv, hlit⟩
  have htext : fieldText (unlines [ascii "version=-1"]) (ascii "version") = some [45, 49] := by
    decide +kernel
  obtain rfl : [45, 49] = v := Option.some.inj (htext.symm.trans hv)
  obtain ⟨b, r, heq, -, hminus, -⟩ := hlit.cons
  exact hminus (List.cons.inj heq).1.symm

end MemService
