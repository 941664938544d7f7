import MemService.Lib.Cut
import MemService.Metadata

/-!
# Key builders

Records are addressed by path-like keys, which five builders put together from free text and numbers:

* `request/<request>/prefix/<group>` and `request/<request>/prefix-group/<group>`,
* `block/<hash>`,
* `weights/<model>/layer<n>/expert<n>/<quant>`,
* `route/<model>/step<n>/layer<n>/token<n>`.

A builder checks that the key fits its buffer and nothing else, so the texts may contain the separator
and the words between separators.  A key is best read as its list of segments: the first one tells the
family, and then it is a matter of cutting the rest at the words the builder has put in (`Lib.Cut`).  A
block key has nothing to cut, and a route key is cut off at its end, where three numbers stand.  The other
three can be cut in another way when one of the texts has those words as segments of its own.
-/

open ByteText CNumeral

namespace MemService

/-! ## Builders -/

/-- A C string. -/
structure CString where
  bytes : Bytes
  nul : NUL ∉ bytes

@[ext] lemma CString.ext {s t : CString} (h : s.bytes = t.bytes) : s = t := by
  cases s
  cases t
  cases h
  rfl

instance : DecidableEq CString := fun _ _ => decidable_of_iff _ CString.ext_iff.symm

/-- `SIZE_MAX`. -/
def sizeMax : ℕ := 2 ^ 64 - 1
/-- `INT_MAX`: `snprintf` fails for a longer text. -/
def intMax : ℕ := 2 ^ 31 - 1

/-- `mem_service_build_two_part_key` for a buffer of `outLen` bytes. -/
def twoPartKey (pre first middle second : Bytes) (outLen : ℕ) : Option Bytes :=
  if outLen = 0 then none
  else if pre.length > sizeMax - first.length ||
      pre.length + first.length > sizeMax - middle.length ||
      pre.length + first.length + middle.length > sizeMax - second.length then
    none
  else if pre.length + first.length + middle.length + second.length + 1 > outLen then none
  else some (pre ++ first ++ middle ++ second)

/-- `mem_service_build_prefix_key_from_parts_checked`. -/
def prefixKey (requestId prefixGroup : Bytes) : ℕ → Option Bytes :=
  twoPartKey (ascii "request/") requestId (ascii "/prefix/") prefixGroup

/-- `mem_service_build_group_key_from_parts_checked`. -/
def groupKey (requestId groupId : Bytes) : ℕ → Option Bytes :=
  twoPartKey (ascii "request/") requestId (ascii "/prefix-group/") groupId

/-- `mem_service_build_block_key_from_hash_checked`. -/
def blockKey (blockHash : Bytes) : ℕ → Option Bytes :=
  twoPartKey (ascii "block/") blockHash [] []

/-- A key printed with `snprintf` into a buffer of `outLen` bytes, refused if it does not fit. -/
def printedKey (text : Bytes) (outLen : ℕ) : Option Bytes :=
  if outLen = 0 then none
  else if text.length > intMax || text.length ≥ outLen then none
  else some text

/-- `mem_service_expert_weight_tile_key`. -/
def expertWeightTileKey (modelKey : Bytes) (layerId expertId : UInt32) (quant : Bytes) :
    ℕ → Option Bytes :=
  printedKey (ascii "weights/" ++ modelKey ++ ascii "/layer" ++ decimal layerId.toNat ++
    ascii "/expert" ++ decimal expertId.toNat ++ ascii "/" ++ quant)

/-- `mem_service_expert_route_record_key`. -/
def expertRouteRecordKey (modelKey : Bytes) (stepIndex : UInt64) (layerId tokenIndex : UInt32) :
    ℕ → Option Bytes :=
  printedKey (ascii "route/" ++ modelKey ++ ascii "/step" ++ decimal stepIndex.toNat ++
    ascii "/layer" ++ decimal layerId.toNat ++ ascii "/token" ++ decimal tokenIndex.toNat)

/-- A call of one of the five builders. -/
inductive KeyCall
  | requestPrefix (requestId prefixGroup : CString)
  | prefixGroup (requestId groupId : CString)
  | block (blockHash : CString)
  | weightTile (modelKey : CString) (layerId expertId : UInt32) (quant : CString)
  | routeRecord (modelKey : CString) (stepIndex : UInt64) (layerId tokenIndex : UInt32)
  deriving DecidableEq

/-- The key that the call writes into a buffer of `outLen` bytes, if it returns success. -/
def KeyCall.build : KeyCall → ℕ → Option Bytes
  | .requestPrefix r g => prefixKey r.bytes g.bytes
  | .prefixGroup r g => groupKey r.bytes g.bytes
  | .block h => blockKey h.bytes
  | .weightTile m l e q => expertWeightTileKey m.bytes l e q.bytes
  | .routeRecord m s l t => expertRouteRecordKey m.bytes s l t

/-- The builders of the metadata module are these, with its key buffers. -/
lemma buildTwoPartKey_eq {pre : Bytes} (hpre : pre ≠ []) (first middle second : Bytes) :
    buildTwoPartKey pre first middle second =
      (twoPartKey pre first middle second 96).map .copy := by
  have hpos := List.length_pos_of_ne_nil hpre
  unfold buildTwoPartKey twoPartKey sizeMax
  dsimp only
  simp only [List.length_append, Bool.or_eq_true, decide_eq_true_eq, gt_iff_lt]
  split
  · rename_i hlong
    rw [if_neg (by decide)]
    split <;> rfl
  · rename_i hshort
    rw [if_neg (by decide), if_neg (by omega)]
    rfl

/-! ## What a successful call writes -/

lemma twoPartKey_eq_some_iff {pre : Bytes} (hpre : pre ≠ []) {first middle second key : Bytes}
    {outLen : ℕ} : twoPartKey pre first middle second outLen = some key ↔
      pre ++ first ++ middle ++ second = key ∧ key.length ≤ sizeMax ∧ key.length < outLen := by
  have hpos := List.length_pos_of_ne_nil hpre
  unfold twoPartKey
  simp only [Bool.or_eq_true, decide_eq_true_eq, gt_iff_lt]
  constructor
  · intro h
    split at h
    · cases h
    split at h
    · cases h
    split at h
    · cases h
    cases h
    refine ⟨rfl, ?_, ?_⟩ <;>
    · simp only [List.length_append]
      omega
  · rintro ⟨rfl, hmax, hfits⟩
    simp only [List.length_append] at hmax hfits
    rw [if_neg (by omega), if_neg (by omega), if_neg (by omega)]

lemma printedKey_eq_some_iff {text key : Bytes} {outLen : ℕ} :
    printedKey text outLen = some key ↔
      text = key ∧ key.length ≤ intMax ∧ key.length < outLen := by
  unfold printedKey
  simp only [Bool.or_eq_true, decide_eq_true_eq, gt_iff_lt, ge_iff_le]
  constructor
  · intro h
    split at h
    · cases h
    split at h
    · cases h
    cases h
    exact ⟨rfl, by omega, by omega⟩
  · rintro ⟨rfl, hmax, hfits⟩
    rw [if_neg (by omega), if_neg (by omega)]

namespace KeyCall

/-- The text of the key. -/
def text : KeyCall → Bytes
  | .requestPrefix r g => ascii "request/" ++ r.bytes ++ ascii "/prefix/" ++ g.bytes
  | .prefixGroup r g => ascii "request/" ++ r.bytes ++ ascii "/prefix-group/" ++ g.bytes
  | .block h => ascii "block/" ++ h.bytes ++ [] ++ []
  | .weightTile m l e q => ascii "weights/" ++ m.bytes ++ ascii "/layer" ++ decimal l.toNat ++
      ascii "/expert" ++ decimal e.toNat ++ ascii "/" ++ q.bytes
  | .routeRecord m s l t => ascii "route/" ++ m.bytes ++ ascii "/step" ++ decimal s.toNat ++
      ascii "/layer" ++ decimal l.toNat ++ ascii "/token" ++ decimal t.toNat

/-- The families of keys, told apart by their first segment. -/
inductive Family
  | request
  | block
  | weights
  | route
  deriving DecidableEq

def family : KeyCall → Family
  | .requestPrefix .. => .request
  | .prefixGroup .. => .request
  | .block .. => .block
  | .weightTile .. => .weights
  | .routeRecord .. => .route

/-- The longest key that the family's builders write. -/
def Family.limit : Family → ℕ
  | .request => sizeMax
  | .block => sizeMax
  | .weights => intMax
  | .route => intMax

/-- **A call succeeds** when its key fits, and then writes it. -/
lemma build_eq_some_iff {c : KeyCall} {outLen : ℕ} {key : Bytes} :
    c.build outLen = some key ↔
      c.text = key ∧ key.length ≤ c.family.limit ∧ key.length < outLen := by
  cases c with
  | requestPrefix r g => exact twoPartKey_eq_some_iff (by decide)
  | prefixGroup r g => exact twoPartKey_eq_some_iff (by decide)
  | block h => exact twoPartKey_eq_some_iff (by decide)
  | weightTile m l e q => exact printedKey_eq_some_iff
  | routeRecord m s l t => exact printedKey_eq_some_iff

end KeyCall

/-! ## Segments -/

/-- The separator of a key's segments. -/
def SLASH : UInt8 := 47

/-- The segments of a key: the pieces between the separators. -/
def segments (s : Bytes) : List Bytes := s.splitOn SLASH

lemma segments_ne_nil (s : Bytes) : segments s ≠ [] := List.splitOn_ne_nil _ _

lemma segments_injective : Function.Injective segments := by
  intro s t h
  have hs : List.intercalate [SLASH] (segments s) = s := List.intercalate_splitOn SLASH
  have ht : List.intercalate [SLASH] (segments t) = t := List.intercalate_splitOn SLASH
  rw [← hs, ← ht, h]

lemma segments_of_notMem {s : Bytes} (h : SLASH ∉ s) : segments s = [s] :=
  List.splitOn_eq_singleton h

lemma segments_append (s t : Bytes) : segments (s ++ SLASH :: t) = segments s ++ segments t :=
  List.splitOn_append_cons_self s t

/-- A word of the builder, in front of the separator. -/
lemma segments_word {w : Bytes} (h : SLASH ∉ w) (t : Bytes) :
    segments (w ++ SLASH :: t) = w :: segments t :=
  List.splitOn_append_cons_self_of_not_mem h t

/-- The bytes of a segment are bytes of the text, other than the separator. -/
lemma mem_of_mem_segments {s l : Bytes} (h : l ∈ segments s) {b : UInt8} (hb : b ∈ l) :
    b ∈ s ∧ b ≠ SLASH := by
  induction s generalizing l with
  | nil =>
      rw [segments, List.splitOn_nil, List.mem_singleton] at h
      rw [h] at hb
      cases hb
  | cons c s ih =>
      rw [segments, List.splitOn_cons_eq_if_modifyHead] at h
      split at h
      · rcases List.mem_cons.mp h with rfl | h
        · cases hb
        · exact ⟨.tail _ (ih h hb).1, (ih h hb).2⟩
      · rename_i hc
        obtain ⟨w, ws, hws⟩ := List.exists_cons_of_ne_nil (segments_ne_nil s)
        rw [show List.splitOn SLASH s = w :: ws from hws, List.modifyHead_cons] at h
        have hin (l : Bytes) (hl : l ∈ w :: ws) (hb : b ∈ l) : b ∈ c :: s ∧ b ≠ SLASH := by
          have hmem := ih (l := l) (by rw [hws]; exact hl) hb
          exact ⟨.tail _ hmem.1, hmem.2⟩
        rcases List.mem_cons.mp h with rfl | h
        · rcases List.mem_cons.mp hb with rfl | hb
          · exact ⟨.head _, fun heq => hc (by rw [heq]; simp)⟩
          · exact hin w (.head _) hb
        · exact hin l (.tail _ h) hb

/-- The text of a list of segments. -/
def joined (ls : List Bytes) : Bytes := List.intercalate [SLASH] ls

lemma segments_joined {ls : List Bytes} (hls : ls ≠ []) (h : ∀ l ∈ ls, SLASH ∉ l) :
    segments (joined ls) = ls :=
  List.splitOn_intercalate SLASH h hls

lemma nul_notMem_joined {ls : List Bytes} (h : ∀ l ∈ ls, NUL ∉ l) : NUL ∉ joined ls := by
  induction ls with
  | nil => simp [joined]
  | cons l ls ih =>
      by_cases hls : ls = []
      · subst hls
        simpa [joined] using h l (by simp)
      · have hrest := ih fun m hm => h m (by simp [hm])
        rw [joined, List.intercalate_cons_of_ne_nil hls, List.mem_append, List.mem_append, not_or,
          not_or]
        exact ⟨⟨h l (by simp), by decide⟩, hrest⟩

/-- The segments of a C string: no terminator and no separator. -/
def Proper (l : Bytes) : Prop := NUL ∉ l ∧ SLASH ∉ l

lemma proper_segments (s : CString) {l : Bytes} (h : l ∈ segments s.bytes) : Proper l :=
  ⟨fun hmem => s.nul (mem_of_mem_segments h hmem).1, fun hmem => (mem_of_mem_segments h hmem).2 rfl⟩

/-- A list of proper segments is that of a C string. -/
lemma exists_segments {ls : List Bytes} (hls : ls ≠ []) (h : ∀ l ∈ ls, Proper l) :
    ∃ s : CString, segments s.bytes = ls :=
  ⟨⟨joined ls, nul_notMem_joined fun l hl => (h l hl).1⟩, segments_joined hls fun l hl => (h l hl).2⟩

/-! ## The segments of a key -/

def prefixSegment : Bytes := ascii "prefix"
def groupSegment : Bytes := ascii "prefix-group"
def layerSegment (l : UInt32) : Bytes := ascii "layer" ++ decimal l.toNat
def expertSegment (e : UInt32) : Bytes := ascii "expert" ++ decimal e.toNat
def stepSegment (s : UInt64) : Bytes := ascii "step" ++ decimal s.toNat
def tokenSegment (t : UInt32) : Bytes := ascii "token" ++ decimal t.toNat

/-- A word followed by a number is a segment. -/
lemma proper_numbered {w : Bytes} (hw : Proper w) (n : ℕ) : Proper (w ++ decimal n) := by
  have hlow (b : UInt8) (hb : b < 48) : b ∉ decimal n := fun hmem =>
    absurd (mem_decimal hmem).1 (UInt8.not_le.mpr hb)
  refine ⟨?_, ?_⟩ <;> rw [List.mem_append, not_or]
  · exact ⟨hw.1, hlow _ (by decide)⟩
  · exact ⟨hw.2, hlow _ (by decide)⟩

lemma proper_layerSegment (l : UInt32) : Proper (layerSegment l) :=
  proper_numbered ⟨by decide, by decide⟩ _

lemma proper_expertSegment (e : UInt32) : Proper (expertSegment e) :=
  proper_numbered ⟨by decide, by decide⟩ _

lemma proper_stepSegment (s : UInt64) : Proper (stepSegment s) :=
  proper_numbered ⟨by decide, by decide⟩ _

lemma proper_tokenSegment (t : UInt32) : Proper (tokenSegment t) :=
  proper_numbered ⟨by decide, by decide⟩ _

lemma layerSegment_injective : Function.Injective layerSegment := fun _ _ h =>
  UInt32.toNat_inj.mp (decimal_injective (List.append_cancel_left h))

lemma expertSegment_injective : Function.Injective expertSegment := fun _ _ h =>
  UInt32.toNat_inj.mp (decimal_injective (List.append_cancel_left h))

lemma stepSegment_injective : Function.Injective stepSegment := fun _ _ h =>
  UInt64.toNat_inj.mp (decimal_injective (List.append_cancel_left h))

lemma tokenSegment_injective : Function.Injective tokenSegment := fun _ _ h =>
  UInt32.toNat_inj.mp (decimal_injective (List.append_cancel_left h))

/-- The keys of requests, with the word in the middle left open. -/
lemma segments_request {w : Bytes} (hw : SLASH ∉ w) (r g : Bytes) :
    segments (ascii "request/" ++ r ++ (SLASH :: (w ++ [SLASH])) ++ g) =
      ascii "request" :: (segments r ++ ([w] ++ segments g)) := by
  have htext : ascii "request/" ++ r ++ (SLASH :: (w ++ [SLASH])) ++ g =
      ascii "request" ++ SLASH :: (r ++ SLASH :: (w ++ SLASH :: g)) := by
    rw [show ascii "request/" = ascii "request" ++ [SLASH] from rfl]
    simp
  rw [htext, segments_word (by decide), segments_append, segments_word hw]
  rfl

lemma segments_block (h : Bytes) :
    segments (ascii "block/" ++ h ++ [] ++ []) = ascii "block" :: segments h := by
  have htext : ascii "block/" ++ h ++ [] ++ [] = ascii "block" ++ SLASH :: h := by
    rw [show ascii "block/" = ascii "block" ++ [SLASH] from rfl]
    simp
  rw [htext, segments_word (by decide)]

lemma segments_weights (m : Bytes) (l e : UInt32) (q : Bytes) :
    segments (ascii "weights/" ++ m ++ ascii "/layer" ++ decimal l.toNat ++ ascii "/expert" ++
      decimal e.toNat ++ ascii "/" ++ q) =
      ascii "weights" :: (segments m ++ ([layerSegment l, expertSegment e] ++ segments q)) := by
  have htext : ascii "weights/" ++ m ++ ascii "/layer" ++ decimal l.toNat ++ ascii "/expert" ++
      decimal e.toNat ++ ascii "/" ++ q = ascii "weights" ++ SLASH :: (m ++ SLASH ::
        (layerSegment l ++ SLASH :: (expertSegment e ++ SLASH :: q))) := by
    rw [show ascii "weights/" = ascii "weights" ++ [SLASH] from rfl,
      show ascii "/layer" = SLASH :: ascii "layer" from rfl,
      show ascii "/expert" = SLASH :: ascii "expert" from rfl, show ascii "/" = [SLASH] from rfl]
    simp [layerSegment, expertSegment]
  rw [htext, segments_word (by decide), segments_append,
    segments_word (proper_layerSegment l).2, segments_word (proper_expertSegment e).2]
  rfl

lemma segments_route (m : Bytes) (s : UInt64) (l t : UInt32) :
    segments (ascii "route/" ++ m ++ ascii "/step" ++ decimal s.toNat ++ ascii "/layer" ++
      decimal l.toNat ++ ascii "/token" ++ decimal t.toNat) =
      ascii "route" :: (segments m ++ [stepSegment s, layerSegment l, tokenSegment t]) := by
  have htext : ascii "route/" ++ m ++ ascii "/step" ++ decimal s.toNat ++ ascii "/layer" ++
      decimal l.toNat ++ ascii "/token" ++ decimal t.toNat = ascii "route" ++ SLASH :: (m ++ SLASH ::
        (stepSegment s ++ SLASH :: (layerSegment l ++ SLASH :: tokenSegment t))) := by
    rw [show ascii "route/" = ascii "route" ++ [SLASH] from rfl,
      show ascii "/step" = SLASH :: ascii "step" from rfl,
      show ascii "/layer" = SLASH :: ascii "layer" from rfl,
      show ascii "/token" = SLASH :: ascii "token" from rfl]
    simp [stepSegment, layerSegment, tokenSegment]
  rw [htext, segments_word (by decide), segments_append,
    segments_word (proper_stepSegment s).2, segments_word (proper_layerSegment l).2,
    segments_of_notMem (proper_tokenSegment t).2]

namespace KeyCall

/-- The first segment of a family's keys. -/
def Family.word : Family → Bytes
  | .request => ascii "request"
  | .block => ascii "block"
  | .weights => ascii "weights"
  | .route => ascii "route"

lemma Family.word_injective : Function.Injective Family.word := by
  intro f f' h
  cases f <;> cases f' <;> first | rfl | exact absurd h (by decide)

/-- The segments of a key behind the first one. -/
def body : KeyCall → List Bytes
  | .requestPrefix r g => segments r.bytes ++ ([prefixSegment] ++ segments g.bytes)
  | .prefixGroup r g => segments r.bytes ++ ([groupSegment] ++ segments g.bytes)
  | .block h => segments h.bytes
  | .weightTile m l e q => segments m.bytes ++ ([layerSegment l, expertSegment e] ++ segments q.bytes)
  | .routeRecord m s l t => segments m.bytes ++ [stepSegment s, layerSegment l, tokenSegment t]

/-- **The segments of a key.** -/
lemma segments_text (c : KeyCall) : segments c.text = c.family.word :: c.body := by
  cases c with
  | requestPrefix r g => exact segments_request (w := prefixSegment) (by decide) r.bytes g.bytes
  | prefixGroup r g => exact segments_request (w := groupSegment) (by decide) r.bytes g.bytes
  | block h => exact segments_block h.bytes
  | weightTile m l e q => exact segments_weights m.bytes l e q.bytes
  | routeRecord m s l t => exact segments_route m.bytes s l t

/-- Keys of one text are of one family and have the same segments behind its word. -/
lemma text_eq_iff {c c' : KeyCall} :
    c'.text = c.text ↔ c'.family = c.family ∧ c'.body = c.body := by
  constructor
  · intro h
    have hseg := congrArg segments h
    rw [segments_text, segments_text, List.cons.injEq] at hseg
    exact ⟨Family.word_injective hseg.1, hseg.2⟩
  · rintro ⟨hfamily, hbody⟩
    apply segments_injective
    rw [segments_text, segments_text, hfamily, hbody]

/-- **Calls that are cut at a mark.** In a family whose keys are two texts around a mark, the key tells
the call just when no mark of the family stands inside the texts. -/
lemma unique_iff_cut {β : Type} (mark : β → List Bytes) (f : Family)
    (make : CString → β → CString → KeyCall) (hM : Cut.Apart (Set.range mark))
    (hne : ∀ x, mark x ≠ []) (hproper : ∀ x, ∀ l ∈ mark x, Proper l)
    (hinj : Function.Injective mark)
    (hfamily : ∀ c, c.family = f ↔ ∃ s x t, c = make s x t)
    (hmakeInj : ∀ s x t s' x' t', make s' x' t' = make s x t → s' = s ∧ x' = x ∧ t' = t)
    (hbody : ∀ s x t, (make s x t).body = segments s.bytes ++ (mark x ++ segments t.bytes))
    (s : CString) (x : β) (t : CString) :
    (∀ c', c'.text = (make s x t).text → c' = make s x t) ↔
      ∀ y, ¬ mark y <:+: (segments s.bytes).tail ∧ ¬ mark y <:+: (segments t.bytes).dropLast := by
  have hunique := hM.unique_iff (a := segments s.bytes) (b := segments t.bytes) ⟨x, rfl⟩
    (by rintro _ ⟨y, rfl⟩; exact hne y) (segments_ne_nil _) (segments_ne_nil _)
  have hmake (s x t) : (make s x t).family = f := (hfamily _).mpr ⟨s, x, t, rfl⟩
  rw [Set.forall_mem_range] at hunique
  rw [← hunique]
  constructor
  · rintro htext a' m' b' ha hb ⟨y, rfl⟩ hcut
    have hall : ∀ l ∈ a' ++ (mark y ++ b'), Proper l := by
      rw [hcut]
      intro l hl
      rcases List.mem_append.mp hl with hl | hl
      · exact proper_segments s hl
      · rcases List.mem_append.mp hl with hl | hl
        · exact hproper x l hl
        · exact proper_segments t hl
    obtain ⟨s', hs⟩ := exists_segments ha fun l hl => hall l (by simp [hl])
    obtain ⟨t', ht⟩ := exists_segments hb fun l hl => hall l (by simp [hl])
    have hcall := htext (make s' y t') (text_eq_iff.mpr ⟨by rw [hmake, hmake], by
      rw [hbody, hbody, hs, ht, hcut]⟩)
    obtain ⟨rfl, rfl, rfl⟩ := hmakeInj _ _ _ _ _ _ hcall
    exact ⟨hs.symm, rfl, ht.symm⟩
  · intro hcut c' htext
    obtain ⟨hfam, hseg⟩ := text_eq_iff.mp htext
    rw [hmake] at hfam
    obtain ⟨s', y, t', rfl⟩ := (hfamily c').mp hfam
    rw [hbody, hbody] at hseg
    obtain ⟨hs, hm, ht⟩ := hcut _ _ _ (segments_ne_nil _) (segments_ne_nil _) ⟨y, rfl⟩ hseg
    rw [CString.ext (segments_injective hs), hinj hm, CString.ext (segments_injective ht)]

/-! ## When the key tells the call -/

/-- The word in the middle of a request's key. -/
def requestWord (isGroup : Bool) : Bytes := if isGroup then groupSegment else prefixSegment

/-- The two builders of the request family. -/
def ofRequest (r : CString) (isGroup : Bool) (g : CString) : KeyCall :=
  if isGroup then .prefixGroup r g else .requestPrefix r g

/-- The texts of a call have none of the words that its family's builders put in: for the request
family, no segment `prefix` or `prefix-group` in the request's name behind its first segment, nor in the
group's name before its last; for the weight tiles, no two segments `layer<n>`, `expert<n>` there.  Block
and route keys need nothing. -/
def Unambiguous : KeyCall → Prop
  | .requestPrefix r g | .prefixGroup r g => ∀ w ∈ [prefixSegment, groupSegment],
      w ∉ (segments r.bytes).tail ∧ w ∉ (segments g.bytes).dropLast
  | .block _ => True
  | .weightTile m _ _ q => ∀ l e : UInt32,
      ¬ [layerSegment l, expertSegment e] <:+: (segments m.bytes).tail ∧
        ¬ [layerSegment l, expertSegment e] <:+: (segments q.bytes).dropLast
  | .routeRecord .. => True

lemma family_request_iff (c : KeyCall) :
    c.family = .request ↔ ∃ r isGroup g, c = ofRequest r isGroup g := by
  constructor
  · intro h
    cases c with
    | requestPrefix r g => exact ⟨r, false, g, rfl⟩
    | prefixGroup r g => exact ⟨r, true, g, rfl⟩
    | block _ => cases h
    | weightTile _ _ _ _ => cases h
    | routeRecord _ _ _ _ => cases h
  · rintro ⟨r, isGroup, g, rfl⟩
    cases isGroup <;> rfl

lemma family_weights_iff (c : KeyCall) :
    c.family = .weights ↔
      ∃ (m : CString) (x : UInt32 × UInt32) (q : CString), c = .weightTile m x.1 x.2 q := by
  constructor
  · intro h
    cases c with
    | weightTile m l e q => exact ⟨m, (l, e), q, rfl⟩
    | requestPrefix _ _ => cases h
    | prefixGroup _ _ => cases h
    | block _ => cases h
    | routeRecord _ _ _ _ => cases h
  · rintro ⟨m, x, q, rfl⟩
    rfl

lemma unique_iff_request (r : CString) (isGroup : Bool) (g : CString) :
    (∀ c', c'.text = (ofRequest r isGroup g).text → c' = ofRequest r isGroup g) ↔
      ∀ w ∈ [prefixSegment, groupSegment],
        w ∉ (segments r.bytes).tail ∧ w ∉ (segments g.bytes).dropLast := by
  have hone (w : Bytes) (ls : List Bytes) : [w] <:+: ls ↔ w ∈ ls := by
    rw [List.mem_iff_append]
    exact exists_congr fun a => exists_congr fun b => by simp [eq_comm]
  rw [unique_iff_cut (fun isGroup => [requestWord isGroup]) .request ofRequest ?_ (by simp) ?_ ?_
    family_request_iff ?_ ?_]
  · simp only [hone, Bool.forall_bool, requestWord, List.mem_cons, List.not_mem_nil, or_false,
      forall_eq_or_imp, forall_eq, if_true, Bool.false_eq_true, if_false]
  · refine Cut.apart_of_length_one ?_
    rintro _ ⟨x, rfl⟩
    rfl
  · intro x l hl
    cases List.mem_singleton.mp hl
    cases x <;> exact ⟨by decide, by decide⟩
  · intro x y h
    revert h
    cases x <;> cases y <;> decide
  · intro s x t s' x' t' h
    cases x <;> cases x' <;> cases h <;> exact ⟨rfl, rfl, rfl⟩
  · intro s x t
    cases x <;> rfl

lemma layerSegment_ne_expertSegment (l e : UInt32) : layerSegment l ≠ expertSegment e := by
  intro h
  have hl : (layerSegment l).head? = some 108 := rfl
  have he : (expertSegment e).head? = some 101 := rfl
  rw [h, he] at hl
  exact absurd hl (by decide)

lemma unique_iff_weights (m : CString) (l e : UInt32) (q : CString) :
    (∀ c', c'.text = (weightTile m l e q).text → c' = weightTile m l e q) ↔
      ∀ l e : UInt32, ¬ [layerSegment l, expertSegment e] <:+: (segments m.bytes).tail ∧
        ¬ [layerSegment l, expertSegment e] <:+: (segments q.bytes).dropLast := by
  have hcut := unique_iff_cut
    (fun x : UInt32 × UInt32 => [layerSegment x.1, expertSegment x.2]) .weights
    (fun m x q => weightTile m x.1 x.2 q) ?_ (by simp) ?_ ?_ family_weights_iff ?_
    (fun _ _ _ => rfl) m (l, e) q
  · rw [Prod.forall] at hcut
    exact hcut
  · constructor
    · rintro _ ⟨x, rfl⟩ _ ⟨y, rfl⟩
      rfl
    · -- one segment of overlap would be an expert's and a layer's
      rintro _ ⟨x, rfl⟩ _ ⟨y, rfl⟩ u v w hu hv hne
      match u, v with
      | u, [] => rfl
      | [], _ => exact absurd rfl hne
      | [_], [_] =>
          simp only [List.cons_append, List.nil_append, List.cons.injEq] at hu hv
          exact absurd (hv.1.trans hu.2.1.symm) (layerSegment_ne_expertSegment _ _)
      | [_], _ :: _ :: _ => simp at hu
      | _ :: _ :: _, _ :: _ => simp at hu
  · intro x k hk
    rcases List.mem_pair.mp hk with rfl | rfl
    · exact proper_layerSegment _
    · exact proper_expertSegment _
  · intro x y h
    simp only [List.cons.injEq, and_true] at h
    exact Prod.ext (layerSegment_injective h.1) (expertSegment_injective h.2)
  · intro s x t s' x' t' h
    simp only [weightTile.injEq] at h
    exact ⟨h.1, Prod.ext h.2.1 h.2.2.1, h.2.2.2⟩

/-- **The text of a key tells the call** just when the call is unambiguous. -/
lemma unique_iff (c : KeyCall) : (∀ c', c'.text = c.text → c' = c) ↔ c.Unambiguous := by
  cases c with
  | requestPrefix r g => exact unique_iff_request r false g
  | prefixGroup r g => exact unique_iff_request r true g
  | weightTile m l e q => exact unique_iff_weights m l e q
  | block h =>
      refine iff_of_true (fun c' htext => ?_) trivial
      obtain ⟨hfamily, hbody⟩ := text_eq_iff.mp htext
      cases c' with
      | block h' => rw [CString.ext (segments_injective hbody)]
      | requestPrefix _ _ => cases hfamily
      | prefixGroup _ _ => cases hfamily
      | weightTile _ _ _ _ => cases hfamily
      | routeRecord _ _ _ _ => cases hfamily
  | routeRecord m s l t =>
      refine iff_of_true (fun c' htext => ?_) trivial
      obtain ⟨hfamily, hbody⟩ := text_eq_iff.mp htext
      cases c' with
      | routeRecord m' s' l' t' =>
          -- the three numbers are cut off at the end
          obtain ⟨hmodel, hnumbers⟩ := List.append_inj' hbody rfl
          simp only [List.cons.injEq, and_true] at hnumbers
          rw [CString.ext (segments_injective hmodel), stepSegment_injective hnumbers.1,
            layerSegment_injective hnumbers.2.1, tokenSegment_injective hnumbers.2.2]
      | requestPrefix _ _ => cases hfamily
      | prefixGroup _ _ => cases hfamily
      | block _ => cases hfamily
      | weightTile _ _ _ _ => cases hfamily

end KeyCall

/-- **Keys tell their calls.** Take a call of one of the five builders that returns success with some
key.  Every call, of any builder and with any buffer, that returns success with the same key is that
call, just when its texts have none of the words that the builders of its family put between them. -/
theorem key_tells_call (c : KeyCall) (outLen : ℕ) (key : Bytes) (h : c.build outLen = some key) :
    (∀ (c' : KeyCall) (outLen' : ℕ), c'.build outLen' = some key → c' = c) ↔ c.Unambiguous := by
  rw [← c.unique_iff]
  obtain ⟨htext, hlimit, hfits⟩ := KeyCall.build_eq_some_iff.mp h
  constructor
  · intro hcalls c' hsame
    apply hcalls c' outLen
    rw [KeyCall.build_eq_some_iff, (KeyCall.text_eq_iff.mp hsame).1]
    exact ⟨hsame.trans htext, hlimit, hfits⟩
  · intro hcalls c' outLen' h'
    exact hcalls c' ((KeyCall.build_eq_some_iff.mp h').1.trans htext.symm)

/-- Calls with plain texts: their keys tell them. -/
theorem key_tells_call_plain :
    (∀ (c' : KeyCall) (outLen' : ℕ),
      c'.build outLen' = some (ascii "request/r1/prefix/system") →
        c' = .requestPrefix ⟨ascii "r1", by decide⟩ ⟨ascii "system", by decide⟩) ∧
    ∀ (c' : KeyCall) (outLen' : ℕ), c'.build outLen' = some (ascii "route/a/b/step1/layer2/token3") →
      c' = .routeRecord ⟨ascii "a/b", by decide⟩ 1 2 3 :=
  ⟨(key_tells_call _ 96 _ (by decide +kernel)).mpr (by
      show ∀ w ∈ [prefixSegment, groupSegment], _ ∧ _
      decide +kernel),
    (key_tells_call _ 96 _ (by decide +kernel)).mpr trivial⟩

/-- **One key of several calls.** `request/a/prefix/b/prefix-group/c` is a prefix key and a group key,
`request/a/prefix/b/prefix/c` is a prefix key in two ways, and so is
`weights/m/layer1/expert1/q/layer2/expert2/r` a key of two weight tiles. -/
theorem key_of_two_calls :
    (KeyCall.requestPrefix ⟨ascii "a", by decide⟩ ⟨ascii "b/prefix-group/c", by decide⟩).build 96 =
        (KeyCall.prefixGroup ⟨ascii "a/prefix/b", by decide⟩ ⟨ascii "c", by decide⟩).build 96 ∧
      (KeyCall.requestPrefix ⟨ascii "a", by decide⟩ ⟨ascii "b/prefix-group/c", by decide⟩).build 96 =
        some (ascii "request/a/prefix/b/prefix-group/c") ∧
      (KeyCall.requestPrefix ⟨ascii "a", by decide⟩ ⟨ascii "b/prefix/c", by decide⟩).build 96 =
        some (ascii "request/a/prefix/b/prefix/c") ∧
      (KeyCall.requestPrefix ⟨ascii "a/prefix/b", by decide⟩ ⟨ascii "c", by decide⟩).build 96 =
        some (ascii "request/a/prefix/b/prefix/c") ∧
      (KeyCall.weightTile ⟨ascii "m", by decide⟩ 1 1 ⟨ascii "q/layer2/expert2/r", by decide⟩).build 96 =
        some (ascii "weights/m/layer1/expert1/q/layer2/expert2/r") ∧
      (KeyCall.weightTile ⟨ascii "m/layer1/expert1/q", by decide⟩ 2 2 ⟨ascii "r", by decide⟩).build 96 =
        some (ascii "weights/m/layer1/expert1/q/layer2/expert2/r") := by
  refine ⟨?_, ?_, ?_, ?_, ?_, ?_⟩ <;> decide +kernel

end MemService
