import Mathlib.Data.UInt
import Mathlib.Tactic.Linarith
import Mathlib.Tactic.NormNum
import MemService.Lib.ByteText
import MemService.Lib.FirstDistinct

/-!
# Routing a token to experts

For every step, layer and token `mem_service_expert_route_decision_for_decode` picks six experts by
hashing: it hashes the three numbers and a salt with 64-bit FNV-1a, takes the residue modulo the number of
experts, counts the salt up and goes on until it has six different residues.  The loop has no bound.

It ends because of what FNV-1a does with one byte of the salt.  With the other bytes at zero the hash is
`(g ^^^ b) * P ^ 6` for a `g` that does not depend on the byte `b`, so the byte runs through all sums of
a multiple of 256 and a number below 256.  Bytes whose sums are 15 apart have hashes that are the same
distance apart, and that distance, 1382641386915193513 downwards modulo `2 ^ 64`, is small enough
for six in a row not to wrap, and so placed that its first five multiples are divisible by no number
from 6 to 256.
-/

open ByteText FirstDistinct

namespace MemService

/-! ## The hash -/

/-- `MEM_SERVICE_EXPERT_FNV_OFFSET`. -/
def expertFnvOffset : UInt64 := 0xcbf29ce484222325
/-- `MEM_SERVICE_EXPERT_FNV_PRIME`. -/
def expertFnvPrime : UInt64 := 0x100000001b3

/-- `mem_service_expert_hash_bytes`. -/
def expertHashBytes (hash : UInt64) (bytes : Bytes) : UInt64 :=
  bytes.foldl (fun h b => (h ^^^ b.toUInt64) * expertFnvPrime) hash

/-- The eight bytes of a number, the low one first. -/
def expertWordBytes (value : UInt64) : Bytes :=
  (List.range 8).map fun i => (value >>> UInt64.ofNat (i * 8)).toUInt8

/-- `mem_service_expert_hash_u64`. -/
def expertHashU64 (hash value : UInt64) : UInt64 := expertHashBytes hash (expertWordBytes value)

/-! ## The decision -/

/-- `MEM_SERVICE_EXPERT_ROUTE_TOP_K`. -/
def expertRouteTopK : ℕ := 6
/-- `MEM_SERVICE_EXPERT_MAX_EXPERTS`. -/
def expertMaxExperts : UInt32 := 256

/-- `mem_service_expert_route_decision`, with the part of its array that is in use. -/
structure ExpertRouteDecision where
  stepIndex : UInt64
  layerId : UInt32
  tokenIndex : UInt32
  activeExperts : List UInt32

/-- The inner loop of `mem_service_expert_sort_u32`: entries above the value move up by one, from
position `j` down, and the value takes the place that is left. -/
def expertSink (values : List UInt32) (value : UInt32) : ℕ → List UInt32
  | 0 => values.set 0 value
  | j + 1 =>
      if values.getD j 0 > value then expertSink (values.set (j + 1) (values.getD j 0)) value j
      else values.set (j + 1) value

/-- `mem_service_expert_sort_u32`. -/
def expertSortU32 (values : List UInt32) : List UInt32 :=
  (List.range' 1 (values.length - 1)).foldl (fun vs i => expertSink vs (vs.getD i 0) i) values

/-- The loop of `mem_service_expert_route_decision_init` that copies the experts it accepts. -/
def copyActiveExperts : List UInt32 → List UInt32 → Option (List UInt32)
  | copied, [] => some copied
  | copied, e :: rest =>
      if e ≥ expertMaxExperts || copied.contains e then none
      else copyActiveExperts (copied ++ [e]) rest

/-- `mem_service_expert_route_decision_init`. -/
def expertRouteDecisionInit (stepIndex : UInt64) (layerId tokenIndex : UInt32)
    (activeExperts : List UInt32) : Option ExpertRouteDecision :=
  if activeExperts.length = 0 ∨ activeExperts.length > expertRouteTopK then none
  else (copyActiveExperts [] activeExperts).map fun copied =>
    ⟨stepIndex, layerId, tokenIndex, expertSortU32 copied⟩

/-- The hash of a step, a layer, a token and a salt. -/
def expertRouteHash (stepIndex : UInt64) (layerId tokenIndex salt : UInt32) : UInt64 :=
  let hash := expertHashU64 expertFnvOffset stepIndex
  let hash := expertHashU64 hash layerId.toUInt64
  let hash := expertHashU64 hash tokenIndex.toUInt64
  expertHashU64 hash salt.toUInt64

/-- The candidate of a salt. -/
def expertCandidate (stepIndex : UInt64) (layerId tokenIndex expertCount salt : UInt32) : UInt32 :=
  (expertRouteHash stepIndex layerId tokenIndex salt % expertCount.toUInt64).toUInt32

/-- The loop of `mem_service_expert_route_decision_for_decode`, for at most `fuel` rounds. -/
def selectExperts (candidate : UInt32 → UInt32) : ℕ → UInt32 → List UInt32 → Option (List UInt32)
  | 0, _, selected => if selected.length < expertRouteTopK then none else some selected
  | fuel + 1, salt, selected =>
      if selected.length < expertRouteTopK then
        if selected.contains (candidate salt) then
          selectExperts candidate fuel (salt + 1) selected
        else selectExperts candidate fuel (salt + 1) (selected ++ [candidate salt])
      else some selected

/-- `mem_service_expert_route_decision_for_decode`, for at most `fuel` rounds of its loop: `none` where
they are not enough, else what the function answers. -/
def expertRouteDecisionForDecode (fuel : ℕ) (stepIndex : UInt64)
    (layerId tokenIndex expertCount : UInt32) : Option (Option ExpertRouteDecision) :=
  if expertCount.toNat < expertRouteTopK || expertCount > expertMaxExperts then some none
  else (selectExperts (expertCandidate stepIndex layerId tokenIndex expertCount) fuel 0 []).map
    (expertRouteDecisionInit stepIndex layerId tokenIndex)

/-! ## One byte of the salt -/

lemma expertWordBytes_third : ∀ b < 256,
    expertWordBytes (UInt64.ofNat (b * 65536)) = [0, 0, UInt8.ofNat b, 0, 0, 0, 0, 0] := by
  decide +kernel

/-- The hash of a number of which only the third byte is not zero. -/
lemma expertHashU64_third (h : UInt64) {b : ℕ} (hb : b < 256) :
    expertHashU64 h (UInt64.ofNat (b * 65536)) =
      ((h * expertFnvPrime * expertFnvPrime) ^^^ UInt64.ofNat b) * expertFnvPrime ^ 6 := by
  have hbyte : (UInt8.ofNat b).toUInt64 = UInt64.ofNat b := by
    refine UInt64.toNat_inj.mp ?_
    rw [UInt8.toNat_toUInt64, UInt8.toNat_ofNat_of_lt' hb, UInt64.toNat_ofNat_of_lt']
    exact hb.trans (by norm_num)
  have hzero : (0 : UInt8).toUInt64 = 0 := rfl
  rw [expertHashU64, expertWordBytes_third b hb]
  simp only [expertHashBytes, List.foldl_cons, List.foldl_nil, hzero, UInt64.xor_zero, hbyte, pow_succ,
    pow_zero, one_mul, mul_assoc]

/-- A byte can be chosen so that the exclusive or with it leaves any low byte. -/
lemma exists_xor_eq (g : UInt64) {c : ℕ} (hc : c < 256) :
    ∃ b < 256, (g ^^^ UInt64.ofNat b).toNat = g.toNat / 256 * 256 + c := by
  have hpow : 256 = 2 ^ 8 := rfl
  have hb : g.toNat % 256 ^^^ c < 256 := Nat.xor_lt_two_pow (n := 8) (Nat.mod_lt _ (by norm_num)) hc
  refine ⟨g.toNat % 256 ^^^ c, hb, ?_⟩
  rw [UInt64.toNat_xor, UInt64.toNat_ofNat_of_lt' (hb.trans (by norm_num))]
  refine Nat.eq_of_testBit_eq fun i => ?_
  rw [mul_comm, hpow, Nat.testBit_two_pow_mul_add _ hc, Nat.testBit_xor, Nat.testBit_xor,
    Nat.testBit_mod_two_pow, Nat.testBit_div_two_pow]
  by_cases hi : i < 8
  · simp [hi]
  · have hhigh : c.testBit i = false := by
      refine Nat.testBit_lt_two_pow (hc.trans_le ?_)
      exact Nat.pow_le_pow_right (n := 2) (by norm_num) (show 8 ≤ i by omega)
    simp [hi, hhigh, show i - 8 + 8 = i by omega]

/-! ## Six different residues -/

/-- The distance between the hashes of sums that are 15 apart: downwards, modulo `2 ^ 64`. -/
def expertStride : ℕ := 1382641386915193513

/-- The `i`-th number from `x` on in steps of the stride downwards. -/
def descend (x i : ℕ) : ℕ := (x + i * (2 ^ 64 - expertStride)) % 2 ^ 64

/-- No modulus in range divides one of the first five multiples of the stride. -/
lemma stride_mod_ne_zero : ∀ m < 257, 6 ≤ m → ∀ t < 6, 0 < t → t * expertStride % m ≠ 0 := by
  decide +kernel

lemma descend_eq (x i : ℕ) :
    descend x i = (x + i * 17064102686794358103) % 18446744073709551616 := rfl

/-- Soon there is a number from which five steps do not wrap. -/
lemma exists_descend_ge {x : ℕ} (hx : x < 2 ^ 64) : ∃ i ≤ 5, 5 * expertStride ≤ descend x i := by
  by_cases hge : 5 * expertStride ≤ x
  · refine ⟨0, by norm_num, ?_⟩
    rwa [descend, Nat.zero_mul, Nat.add_zero, Nat.mod_eq_of_lt hx]
  · -- the first step that wraps
    have hstride : expertStride = 1382641386915193513 := rfl
    have hle := Nat.div_mul_le_self x expertStride
    have hlt := Nat.lt_mul_div_succ x (show 0 < expertStride by decide)
    have hi : x / expertStride < 5 := Nat.div_lt_of_lt_mul (by omega)
    refine ⟨x / expertStride + 1, by omega, ?_⟩
    generalize x / expertStride = i at hle hlt hi
    rw [hstride] at hle hlt ⊢
    have hsum : x + (i + 1) * 17064102686794358103 =
        18446744073709551616 + x - (i + 1) * 1382641386915193513 + i * 18446744073709551616 := by
      omega
    rw [descend_eq, hsum, Nat.add_mul_mod_self_right, Nat.mod_eq_of_lt (by omega)]
    refine Nat.le_sub_of_add_le ?_
    linarith only [hle]

lemma descend_add {x i j : ℕ} (hj : j ≤ 5) (h : 5 * expertStride ≤ descend x i) :
    descend x (i + j) + j * expertStride = descend x i := by
  have hstride : expertStride = 1382641386915193513 := rfl
  rw [descend_eq] at h ⊢
  rw [descend_eq, Nat.add_mul]
  rw [hstride] at h ⊢
  omega

lemma descend_of_sum (y i : ℕ) :
    (y + 15 * i * 15895002104753931833) % 2 ^ 64 = descend (y % 2 ^ 64) i := by
  rw [descend_eq]
  omega

/-- The numbers of such a row have different residues. -/
lemma descend_mod_inj {x i m : ℕ} (h : 5 * expertStride ≤ descend x i) (h6 : 6 ≤ m) (h256 : m ≤ 256)
    {j k : ℕ} (hj : j ≤ 5) (hk : k ≤ 5)
    (heq : descend x (i + j) % m = descend x (i + k) % m) : j = k := by
  have hlt : ∀ j k, j < k → k ≤ 5 → descend x (i + j) % m ≠ descend x (i + k) % m := by
    intro j k hjk hk heq
    have hj' := descend_add (show j ≤ 5 by omega) h
    have hk' := descend_add hk h
    have hdiff : descend x (i + j) - descend x (i + k) = (k - j) * expertStride := by
      rw [Nat.sub_mul]
      omega
    have hzero := Nat.sub_mod_eq_zero_of_mod_eq heq
    rw [hdiff] at hzero
    exact stride_mod_ne_zero m (by omega) h6 (k - j) (by omega) (by omega) hzero
  rcases Nat.lt_trichotomy j k with hjk | hjk | hjk
  · exact absurd heq (hlt j k hjk hk)
  · exact hjk
  · exact absurd heq.symm (hlt k j hjk hj)

lemma toNat_prime_pow : (expertFnvPrime ^ 6).toNat = 15895002104753931833 := by decide +kernel

/-- Salts whose sums are 15 apart have hashes in steps of the stride. -/
lemma exists_row (h : UInt64) : ∃ x < 2 ^ 64, ∀ i ≤ 10, ∃ s < 2 ^ 24,
    (expertHashU64 h (UInt64.ofNat s)).toNat = descend x i := by
  obtain ⟨g, hg⟩ : ∃ g, g = h * expertFnvPrime * expertFnvPrime := ⟨_, rfl⟩
  refine ⟨g.toNat / 256 * 256 * 15895002104753931833 % 2 ^ 64, Nat.mod_lt _ (by norm_num),
    fun i hi => ?_⟩
  obtain ⟨b, hb, hxor⟩ := exists_xor_eq g (show 15 * i < 256 by omega)
  refine ⟨b * 65536, by omega, ?_⟩
  rw [expertHashU64_third h hb, ← hg, UInt64.toNat_mul, hxor, toNat_prime_pow, Nat.add_mul]
  exact descend_of_sum _ i

lemma nodup_row {f salt : ℕ → ℕ} {x i m : ℕ} (hf : ∀ j ≤ 10, f (salt j) = descend x j) (hi : i ≤ 5)
    (hstart : 5 * expertStride ≤ descend x i) (h6 : 6 ≤ m) (h256 : m ≤ 256) :
    (((List.range 6).map fun j => salt (i + j)).map fun s => f s % m).Nodup := by
  rw [List.map_map]
  refine List.Nodup.map_on ?_ List.nodup_range
  intro j hj k hk heq
  have hj := List.mem_range.mp hj
  have hk := List.mem_range.mp hk
  simp only [Function.comp_apply] at heq
  rw [hf (i + j) (by omega), hf (i + k) (by omega)] at heq
  exact descend_mod_inj hstart h6 h256 (by omega) (by omega) heq

/-- **Six salts have six different residues**, whatever was hashed before them. -/
lemma exists_salts (h : UInt64) {m : ℕ} (h6 : 6 ≤ m) (h256 : m ≤ 256) :
    ∃ salts : List ℕ, salts.length = 6 ∧ (∀ s ∈ salts, s < 2 ^ 24) ∧
      (salts.map fun s => (expertHashU64 h (UInt64.ofNat s)).toNat % m).Nodup := by
  obtain ⟨x, hx, hrow⟩ := exists_row h
  obtain ⟨i, hi, hstart⟩ := exists_descend_ge hx
  choose! salt hsalt hhash using hrow
  refine ⟨(List.range 6).map fun j => salt (i + j), by simp, ?_, nodup_row hhash hi hstart h6 h256⟩
  intro s hs
  obtain ⟨j, hj, rfl⟩ := List.mem_map.mp hs
  have hj := List.mem_range.mp hj
  exact hsalt (i + j) (by omega)

/-! ## The search -/

section Search

variable {candidate : UInt32 → UInt32}

/-- The candidates in the order in which the loop meets them. -/
def candidateSeq (candidate : UInt32 → UInt32) (i : ℕ) : UInt32 := candidate (UInt32.ofNat i)

/-- With what was found before the salt `s`, and enough rounds to find six values, the search finds the
first six. -/
lemma selectExperts_eq {fuel s : ℕ}
    (hle : (distinctBefore (candidateSeq candidate) s).length ≤ expertRouteTopK)
    (henough : expertRouteTopK ≤ (distinctBefore (candidateSeq candidate) (s + fuel)).length) :
    selectExperts candidate fuel (UInt32.ofNat s) (distinctBefore (candidateSeq candidate) s) =
      some ((distinctBefore (candidateSeq candidate) (s + fuel)).take expertRouteTopK) := by
  induction fuel generalizing s with
  | zero =>
      rw [Nat.add_zero] at henough ⊢
      rw [selectExperts, if_neg (by omega), List.take_of_length_le hle]
  | succ fuel ih =>
      rw [selectExperts]
      split
      · rename_i hlt
        have hnext : UInt32.ofNat s + 1 = UInt32.ofNat (s + 1) := (UInt32.ofNat_add s 1).symm
        have hrest := distinctBefore_succ (candidateSeq candidate) s
        have hsum : s + (fuel + 1) = s + 1 + fuel := by omega
        have hlen : (distinctBefore (candidateSeq candidate) (s + 1)).length ≤ expertRouteTopK := by
          rw [hrest]
          split
          · exact hle
          · rw [List.length_append, List.length_singleton]
            omega
        rw [hsum] at henough ⊢
        rw [hnext, ← ih hlen henough, hrest]
        rw [show candidate (UInt32.ofNat s) = candidateSeq candidate s from rfl]
        by_cases hmem : candidateSeq candidate s ∈ distinctBefore (candidateSeq candidate) s
        · rw [if_pos (List.contains_iff_mem.mpr hmem), if_pos hmem]
        · rw [if_neg fun h => hmem (List.contains_iff_mem.mp h), if_neg hmem]
      · rename_i hge
        have hsix : (distinctBefore (candidateSeq candidate) s).length = expertRouteTopK := by omega
        rw [take_distinctBefore (Nat.le_add_right s (fuel + 1)) hsix.ge,
          List.take_of_length_le hsix.le]

end Search

/-! ## Sorting -/

/-- Sinking a value into a sorted front makes that one entry longer. -/
lemma expertSink_spec (l rest : List UInt32) (x value : UInt32) (hl : l.Pairwise (· ≤ ·)) :
    ∃ l', expertSink (l ++ x :: rest) value l.length = l' ++ rest ∧ l'.Perm (value :: l) ∧
      l'.Pairwise (· ≤ ·) := by
  induction l using List.reverseRecOn generalizing x rest with
  | nil => exact ⟨[value], rfl, .refl _, List.pairwise_singleton _ _⟩
  | append_singleton l y ih =>
      obtain ⟨hsorted, -, hy⟩ := List.pairwise_append.mp hl
      have hget : (l ++ [y] ++ x :: rest).getD l.length 0 = y := by
        simp [List.getD_eq_getElem?_getD]
      have hset : ∀ v, (l ++ [y] ++ x :: rest).set (l.length + 1) v = l ++ y :: v :: rest := by
        intro v
        simp [List.set_append_right]
      rw [List.length_append, List.length_singleton, expertSink, hget]
      split
      · rename_i hlt
        obtain ⟨l', heq, hperm, hl'⟩ := ih (y :: rest) y hsorted
        refine ⟨l' ++ [y], ?_, ?_, ?_⟩
        · rw [hset, heq]
          simp
        · exact (hperm.append_right [y]).trans (by simp)
        · refine List.pairwise_append.mpr ⟨hl', List.pairwise_singleton _ _, ?_⟩
          intro a ha b hb
          rw [List.mem_singleton.mp hb]
          rcases List.mem_cons.mp (hperm.mem_iff.mp ha) with rfl | ha
          · exact UInt32.le_of_lt hlt
          · exact hy a ha y (by simp)
      · rename_i hge
        refine ⟨l ++ [y, value], ?_, ?_, ?_⟩
        · rw [hset]
          simp
        · rw [show l ++ [y, value] = (l ++ [y]) ++ [value] by simp]
          exact List.perm_append_singleton _ _
        · rw [show l ++ [y, value] = (l ++ [y]) ++ [value] by simp]
          refine List.pairwise_append.mpr ⟨hl, List.pairwise_singleton _ _, ?_⟩
          have hyv : y ≤ value := UInt32.not_lt.mp hge
          intro a ha b hb
          rw [List.mem_singleton.mp hb]
          rcases List.mem_append.mp ha with ha | ha
          · exact UInt32.le_trans (hy a ha y (by simp)) hyv
          · rwa [List.mem_singleton.mp ha]

/-- The outer loop: the front is sorted and grows by one entry in each round. -/
lemma expertSort_loop (l rest : List UInt32) (hl : l.Pairwise (· ≤ ·)) :
    ((List.range' l.length rest.length).foldl (fun vs i => expertSink vs (vs.getD i 0) i)
        (l ++ rest)).Perm (l ++ rest) ∧
      ((List.range' l.length rest.length).foldl (fun vs i => expertSink vs (vs.getD i 0) i)
        (l ++ rest)).Pairwise (· ≤ ·) := by
  induction rest generalizing l with
  | nil =>
      rw [List.append_nil]
      exact ⟨.refl _, hl⟩
  | cons x rest ih =>
      obtain ⟨l', heq, hperm, hl'⟩ := expertSink_spec l rest x x hl
      have hget : (l ++ x :: rest).getD l.length 0 = x := by
        simp [List.getD_eq_getElem?_getD]
      have hlen : l'.length = l.length + 1 := by simpa using hperm.length_eq
      obtain ⟨hp, hs⟩ := ih l' hl'
      rw [hlen] at hp hs
      rw [List.length_cons, List.range'_succ, List.foldl_cons, hget, heq]
      refine ⟨hp.trans ((hperm.append_right rest).trans ?_), hs⟩
      exact List.perm_middle.symm

/-- The insertion sort sorts. -/
lemma expertSortU32_spec (values : List UInt32) :
    (expertSortU32 values).Perm values ∧ (expertSortU32 values).Pairwise (· ≤ ·) := by
  cases values with
  | nil => exact ⟨.refl _, .nil⟩
  | cons x rest => exact expertSort_loop [x] rest (List.pairwise_singleton _ _)

/-! ## The decision, for every input -/

lemma copyActiveExperts_eq {copied rest : List UInt32} (hnodup : (copied ++ rest).Nodup)
    (hlt : ∀ e ∈ rest, e < expertMaxExperts) :
    copyActiveExperts copied rest = some (copied ++ rest) := by
  induction rest generalizing copied with
  | nil => rw [copyActiveExperts, List.append_nil]
  | cons e rest ih =>
      have hnew : e ∉ copied := by
        intro hmem
        obtain ⟨-, -, hne⟩ := List.nodup_append.mp hnodup
        exact hne e hmem e (by simp) rfl
      have hsmall : ¬ e ≥ expertMaxExperts := by simpa using hlt e (by simp)
      have hguard : (decide (e ≥ expertMaxExperts) || copied.contains e) = false := by
        simpa [hnew] using hsmall
      rw [copyActiveExperts, hguard, List.append_cons copied e rest]
      exact ih (by rwa [← List.append_cons]) fun d hd => hlt d (by simp [hd])

/-- Six different experts below the number of experts are accepted and sorted. -/
lemma expertRouteDecisionInit_eq (stepIndex : UInt64) (layerId tokenIndex : UInt32)
    {active : List UInt32} (hlen : active.length = expertRouteTopK) (hnodup : active.Nodup)
    (hlt : ∀ e ∈ active, e < expertMaxExperts) :
    expertRouteDecisionInit stepIndex layerId tokenIndex active =
      some ⟨stepIndex, layerId, tokenIndex, expertSortU32 active⟩ := by
  have hsix : expertRouteTopK = 6 := rfl
  have hcopy : copyActiveExperts [] active = some active := copyActiveExperts_eq hnodup hlt
  rw [expertRouteDecisionInit, if_neg (by omega), hcopy]
  rfl

section Decision

variable {stepIndex : UInt64} {layerId tokenIndex expertCount : UInt32}

lemma toNat_expertCandidate (h6 : 6 ≤ expertCount.toNat) (h256 : expertCount ≤ expertMaxExperts)
    (salt : UInt32) :
    (expertCandidate stepIndex layerId tokenIndex expertCount salt).toNat =
      (expertRouteHash stepIndex layerId tokenIndex salt).toNat % expertCount.toNat := by
  have hle : expertCount.toNat ≤ 256 := h256
  rw [expertCandidate, UInt64.toNat_toUInt32, UInt64.toNat_mod, UInt32.toNat_toUInt64]
  exact Nat.mod_eq_of_lt ((Nat.mod_lt _ (by omega)).trans (show expertCount.toNat < 2 ^ 32 by omega))

/-- Every candidate is an expert. -/
lemma expertCandidate_lt (h6 : 6 ≤ expertCount.toNat) (h256 : expertCount ≤ expertMaxExperts)
    (salt : UInt32) :
    expertCandidate stepIndex layerId tokenIndex expertCount salt < expertCount := by
  rw [UInt32.lt_iff_toNat_lt, toNat_expertCandidate h6 h256]
  exact Nat.mod_lt _ (by omega)

lemma toNat_candidateSeq (h6 : 6 ≤ expertCount.toNat) (h256 : expertCount ≤ expertMaxExperts)
    {s : ℕ} (hs : s < 2 ^ 24) :
    (candidateSeq (expertCandidate stepIndex layerId tokenIndex expertCount) s).toNat =
      (expertHashU64 (expertHashU64 (expertHashU64 (expertHashU64 expertFnvOffset stepIndex)
        layerId.toUInt64) tokenIndex.toUInt64) (UInt64.ofNat s)).toNat % expertCount.toNat := by
  have hword : (UInt32.ofNat s).toUInt64 = UInt64.ofNat s := by
    refine UInt64.toNat_inj.mp ?_
    rw [UInt32.toNat_toUInt64, UInt32.toNat_ofNat_of_lt' (show s < 2 ^ 32 by omega),
      UInt64.toNat_ofNat_of_lt' (show s < 2 ^ 64 by omega)]
  rw [candidateSeq, toNat_expertCandidate h6 h256, expertRouteHash, hword]

/-- Among the first `2 ^ 24` salts there are six experts. -/
lemma six_le_length_distinct (h6 : 6 ≤ expertCount.toNat) (h256 : expertCount ≤ expertMaxExperts)
    {n : ℕ} (hn : 2 ^ 24 ≤ n) :
    expertRouteTopK ≤ (distinctBefore
      (candidateSeq (expertCandidate stepIndex layerId tokenIndex expertCount)) n).length := by
  obtain ⟨salts, hlen, hlt, hnodup⟩ := exists_salts
    (expertHashU64 (expertHashU64 (expertHashU64 expertFnvOffset stepIndex) layerId.toUInt64)
      tokenIndex.toUInt64) h6 h256
  -- the composition is unfolded by name, or the hash would be computed
  have hmap : (salts.map (candidateSeq
      (expertCandidate stepIndex layerId tokenIndex expertCount))).map UInt32.toNat =
      salts.map fun s => (expertHashU64 (expertHashU64 (expertHashU64 (expertHashU64 expertFnvOffset
        stepIndex) layerId.toUInt64) tokenIndex.toUInt64) (UInt64.ofNat s)).toNat %
          expertCount.toNat := by
    rw [List.map_map]
    refine List.map_congr_left fun s hs => ?_
    rw [Function.comp_apply]
    exact toNat_candidateSeq h6 h256 (hlt s hs)
  have hsix : expertRouteTopK = 6 := rfl
  rw [← hmap] at hnodup
  rw [hsix, ← hlen]
  exact le_length_distinctBefore (fun s hs => (hlt s hs).trans_le hn) (List.Nodup.of_map _ hnodup)

end Decision

/-- **The route decision terminates.**  For every step, layer and token, every number of experts from 6
to 256, and all numbers of rounds from `2 ^ 24` on, the function answers a decision.  Its experts are the
first six distinct values of the sequence of candidates (however far one looks beyond the `2 ^ 24`
salts), in strictly ascending order and all below the number of experts. -/
theorem expertRouteDecision_terminates (stepIndex : UInt64) (layerId tokenIndex : UInt32)
    {expertCount : UInt32} (h6 : 6 ≤ expertCount.toNat) (h256 : expertCount ≤ expertMaxExperts)
    {fuel : ℕ} (hfuel : 2 ^ 24 ≤ fuel) :
    ∃ d, expertRouteDecisionForDecode fuel stepIndex layerId tokenIndex expertCount = some (some d) ∧
      d.stepIndex = stepIndex ∧ d.layerId = layerId ∧ d.tokenIndex = tokenIndex ∧
      d.activeExperts.length = 6 ∧ d.activeExperts.Pairwise (· < ·) ∧
      (∀ e ∈ d.activeExperts, e < expertCount) ∧
      ∀ n, 2 ^ 24 ≤ n → d.activeExperts.Perm
        (((List.range n).map fun i => expertCandidate stepIndex layerId tokenIndex expertCount
          (UInt32.ofNat i)).eraseDups.take 6) := by
  obtain ⟨c, hc⟩ : ∃ c, c = candidateSeq (expertCandidate stepIndex layerId tokenIndex expertCount) :=
    ⟨_, rfl⟩
  have hsix : expertRouteTopK ≤ (distinctBefore c (2 ^ 24)).length :=
    hc ▸ six_le_length_distinct h6 h256 le_rfl
  have hmore : ∀ n, 2 ^ 24 ≤ n → (distinctBefore c n).take 6 = (distinctBefore c (2 ^ 24)).take 6 :=
    fun n hn => take_distinctBefore hn hsix
  obtain ⟨active, hactive⟩ : ∃ active, active = (distinctBefore c (2 ^ 24)).take 6 := ⟨_, rfl⟩
  have hlen : active.length = expertRouteTopK := by
    rw [hactive, List.length_take]
    exact Nat.min_eq_left hsix
  have hnodup : active.Nodup := hactive ▸ (nodup_distinctBefore c _).take
  have hlt : ∀ e ∈ active, e < expertCount := by
    intro e he
    rw [hactive] at he
    obtain ⟨i, -, rfl⟩ := mem_distinctBefore.mp (List.mem_of_mem_take he)
    rw [hc]
    exact expertCandidate_lt h6 h256 _
  -- the search finds them
  have hselect : selectExperts (expertCandidate stepIndex layerId tokenIndex expertCount) fuel 0 [] =
      some active := by
    have henough : expertRouteTopK ≤ (distinctBefore c (0 + fuel)).length := by
      rw [Nat.zero_add]
      exact hsix.trans (prefix_distinctBefore hfuel).length_le
    have h := @selectExperts_eq (expertCandidate stepIndex layerId tokenIndex expertCount) fuel 0
      (Nat.zero_le _) (hc ▸ henough)
    rw [← hc, Nat.zero_add] at h
    exact h.trans (congrArg some ((hmore fuel hfuel).trans hactive.symm))
  obtain ⟨hperm, hsorted⟩ := expertSortU32_spec active
  refine ⟨⟨stepIndex, layerId, tokenIndex, expertSortU32 active⟩, ?_, rfl, rfl, rfl, ?_, ?_, ?_, ?_⟩
  · have hguard : (decide (expertCount.toNat < expertRouteTopK) ||
        decide (expertCount > expertMaxExperts)) = false := by
      have hlow : ¬ expertCount.toNat < expertRouteTopK := Nat.not_lt.mpr h6
      have hhigh : ¬ expertCount > expertMaxExperts := UInt32.not_lt.mpr h256
      simp [hlow, hhigh]
    rw [expertRouteDecisionForDecode, hguard, hselect]
    have hinit := expertRouteDecisionInit_eq stepIndex layerId tokenIndex hlen hnodup
      fun e he => UInt32.lt_of_lt_of_le (hlt e he) h256
    exact congrArg some hinit
  · rw [hperm.length_eq, hlen]
    rfl
  · have hnodup' : (expertSortU32 active).Nodup := hperm.nodup_iff.mpr hnodup
    exact (hsorted.and hnodup').imp fun h => UInt32.lt_of_le_of_ne h.1 h.2
  · exact fun e he => hlt e (hperm.mem_iff.mp he)
  · intro n hn
    have hn' := (hmore n hn).trans hactive.symm
    rw [hc] at hn'
    exact hperm.trans (List.Perm.of_eq hn'.symm)

/-- The smallest number of experts: the first six distinct values are all of them. -/
theorem expertRouteDecision_terminates_six :
    ∃ d, expertRouteDecisionForDecode (2 ^ 24) 1 2 3 6 = some (some d) ∧
      d.activeExperts.length = 6 ∧ d.activeExperts.Pairwise (· < ·) := by
  obtain ⟨d, hd, -, -, -, hlen, hsorted, -, -⟩ :=
    @expertRouteDecision_terminates 1 2 3 6 (by decide) (by decide) (2 ^ 24) le_rfl
  exact ⟨d, hd, hlen, hsorted⟩

end MemService
