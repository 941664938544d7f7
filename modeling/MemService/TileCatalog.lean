import Mathlib.Tactic.Linarith
import MemService.ExpertRoute
import MemService.Lib.LinePieces
import MemService.Lib.Scanf

/-!
# The weight catalog

A catalog file says of each expert tile of a model how it is quantised, how large it is and what its
checksum is: a header line, then one line for each tile.
`mem_service_expert_weight_tile_ref_from_catalog_file` looks a tile up in it.

It reads the file through a buffer of 512 bytes and takes what `fgets` delivers for lines.  A longer line,
a comment say, comes in pieces, and a piece from inside it that happens to start with `tile ` is a tile to
the reader.  The scanner's numbers are 32 and 64 bits wide: a layer of 4294967296 is read as layer 0.  And
of a long line only the front is scanned, so that its last number may be cut off.

Here the reader works on pieces that know the lines they are from.  What is written on a line is what the
scanner's format reads of the whole of it, in integers of any size.
-/

open ByteText CNumeral Scanf

namespace MemService

/-! ## The lines of a catalog -/

/-- What a header line says. -/
structure CatalogHeader where
  sourceKind : Bytes
  modelKey : Bytes
  layers : ℤ
  experts : ℤ
  checksumAlgorithm : Bytes

/-- What a tile line says. -/
structure CatalogTile where
  layer : ℤ
  expert : ℤ
  quant : Bytes
  payloadBytes : ℤ
  payloadChecksum : ℤ

/-- `source_kind=%63s model_key=%63s total_layers=%u experts_per_layer=%u checksum_algorithm=%63s`. -/
def headerFormat : List Directive :=
  [.text (ascii "source_kind="), .word 63, .space, .text (ascii "model_key="), .word 63, .space,
    .text (ascii "total_layers="), .number 10, .space, .text (ascii "experts_per_layer="), .number 10,
    .space, .text (ascii "checksum_algorithm=")] ++ [.word 63]

/-- `tile layer=%u expert=%u quant=%15s payload_bytes=%llu payload_checksum=0x%llx`. -/
def tileFormat : List Directive :=
  [.text (ascii "tile"), .space, .text (ascii "layer="), .number 10, .space, .text (ascii "expert="),
    .number 10, .space, .text (ascii "quant="), .word 15, .space, .text (ascii "payload_bytes="),
    .number 10, .space, .text (ascii "payload_checksum=0x")] ++ [.number 16]

/-- A header, by all five conversions of its format. -/
def scanHeader (line : Bytes) : Option CatalogHeader :=
  match scan headerFormat line with
  | some ([.word k, .word m, .number l, .number e, .word a], _) => some ⟨k, m, l, e, a⟩
  | _ => none

/-- A tile, by all five conversions of its format. -/
def scanTile (line : Bytes) : Option CatalogTile :=
  match scan tileFormat line with
  | some ([.number l, .number e, .word q, .number b, .number c], _) => some ⟨l, e, q, b, c⟩
  | _ => none

/-- The 64-bit number that the C library stores for an integer: modulo `2 ^ 64`, or the largest one
when it has more digits than that. -/
def toU64 (v : ℤ) : UInt64 :=
  if 2 ^ 64 ≤ v.natAbs then 0xffffffffffffffff else UInt64.ofNat (v % 2 ^ 64).toNat

/-- `%u` stores the low half of it. -/
def toU32 (v : ℤ) : UInt32 := (toU64 v).toUInt32

/-- The checks of a header. -/
def CatalogHeader.accepted (h : CatalogHeader) (modelKey : Bytes) (layerId expertId : UInt32) : Bool :=
  h.modelKey == modelKey && decide (layerId < toU32 h.layers) && decide (expertId < toU32 h.experts) &&
    decide (toU32 h.experts ≤ expertMaxExperts) &&
    h.checksumAlgorithm == ascii "deterministic-v1"

/-- The tile is the one that is looked up. -/
def CatalogTile.isOf (t : CatalogTile) (layerId expertId : UInt32) : Bool :=
  toU32 t.layer == layerId && toU32 t.expert == expertId

/-! ## The reference -/

/-- `mem_service_expert_weight_tile_ref`. -/
structure WeightTileRef where
  modelKey : Bytes
  layerId : UInt32
  expertId : UInt32
  quant : Bytes
  objectKey : Bytes
  payloadBytes : UInt64
  payloadChecksum : UInt64

/-- `mem_service_expert_weight_tile_key`. -/
def weightTileKey (modelKey : Bytes) (layerId expertId : UInt32) (quant : Bytes) : Bytes :=
  ascii "weights/" ++ modelKey ++ ascii "/layer" ++ decimal layerId.toNat ++ ascii "/expert" ++
    decimal expertId.toNat ++ ascii "/" ++ quant

/-- `mem_service_expert_weight_tile_ref_init_with_checksum`. -/
def weightTileRefInitWithChecksum (modelKey : Bytes) (layerId expertId : UInt32) (quant : Bytes)
    (payloadBytes payloadChecksum : UInt64) : Option WeightTileRef :=
  if modelKey = [] ∨ quant = [] ∨ payloadBytes = 0 ∨ payloadChecksum = 0 ∨
      expertId ≥ expertMaxExperts then none
  else if modelKey.length ≥ 64 ∨ quant.length ≥ 16 ∨
      (weightTileKey modelKey layerId expertId quant).length ≥ 160 then none
  else some ⟨modelKey, layerId, expertId, quant, weightTileKey modelKey layerId expertId quant,
    payloadBytes, payloadChecksum⟩

/-! ## The reader -/

/-- What the string functions see of a piece. -/
def catalogText (p : Piece) : Bytes := cstr p.bytes

/-- The piece starts like a header. -/
def startsHeader (line : Bytes) : Bool := (ascii "source_kind=").isPrefixOf line

/-- The piece starts like a tile. -/
def startsTile (line : Bytes) : Bool := (ascii "tile ").isPrefixOf line

section Reader

variable (modelKey : Bytes) (layerId expertId : UInt32)

/-- The loop of `mem_service_expert_weight_tile_ref_from_catalog_file`, with the header piece once it
has been seen: the pieces that decided, and the reference. -/
def readCatalog : Option Piece → List Piece → Option (Piece × Piece × WeightTileRef)
  | _, [] => none
  | header, p :: ps =>
      let line := catalogText p
      if line.head? = some 35 ∨ line.head? = some LF ∨ line = [] then readCatalog header ps
      else if header.isNone && startsHeader line then
        match scanHeader line with
        | none => none
        | some h => if h.accepted modelKey layerId expertId then readCatalog (some p) ps else none
      else if !startsTile line then readCatalog header ps
      else
        match header with
        | none => none
        | some hp =>
            match scanTile line with
            | none => none
            | some t =>
                if t.isOf layerId expertId then
                  (weightTileRefInitWithChecksum modelKey layerId expertId t.quant
                    (toU64 t.payloadBytes) (toU64 t.payloadChecksum)).map fun ref => (hp, p, ref)
                else readCatalog header ps

/-- `mem_service_expert_weight_tile_ref_from_catalog_file` on a file with the given contents. -/
def weightTileRefFromCatalog (text : Bytes) : Option (Piece × Piece × WeightTileRef) :=
  if modelKey = [] ∨ expertId ≥ expertMaxExperts then none
  else readCatalog modelKey layerId expertId none (pieces 511 text)

end Reader

/-! ## Statements -/

/-- The header is of the model and covers the layer and the expert. -/
structure CatalogHeader.Covers (h : CatalogHeader) (modelKey : Bytes) (layerId expertId : UInt32) :
    Prop where
  model : h.modelKey = modelKey
  layer : (layerId.toNat : ℤ) < h.layers
  expert : (expertId.toNat : ℤ) < h.experts
  experts : h.experts ≤ 256
  algorithm : h.checksumAlgorithm = ascii "deterministic-v1"

/-- The tile names the layer and the expert. -/
def CatalogTile.Names (t : CatalogTile) (layerId expertId : UInt32) : Prop :=
  t.layer = layerId.toNat ∧ t.expert = expertId.toNat

/-- A whole line that starts with `tile ` and names the layer and the expert. -/
def TileLine (line : Bytes) (layerId expertId : UInt32) : Prop :=
  startsTile (cstr line) = true ∧ ∃ t, scanTile (cstr line) = some t ∧ t.Names layerId expertId

/-- The tile is resolved from lines of the text.  The header is the first line that starts like one; it
is of the model and covers the layer and the expert.  The tile is the first line after it that names them,
and the reference has what is written there. -/
structure Resolved (text modelKey : Bytes) (layerId expertId : UInt32) (hp tp : Piece)
    (ref : WeightTileRef) : Prop where
  headerBegins : hp.begins = true
  tileBegins : tp.begins = true
  headerLine : (fullLines text)[hp.lineNo]? = some hp.line
  tileLine : (fullLines text)[tp.lineNo]? = some tp.line
  header : startsHeader (cstr hp.line) = true ∧
    ∃ h, scanHeader (cstr hp.line) = some h ∧ h.Covers modelKey layerId expertId
  headerFirst : ∀ k < hp.lineNo, ∀ line, (fullLines text)[k]? = some line →
    startsHeader (cstr line) = false
  tile : startsTile (cstr tp.line) = true ∧
    ∃ t, scanTile (cstr tp.line) = some t ∧ t.Names layerId expertId ∧ ref.quant = t.quant ∧
      (ref.payloadBytes.toNat : ℤ) = t.payloadBytes ∧
      (ref.payloadChecksum.toNat : ℤ) = t.payloadChecksum
  after : hp.lineNo < tp.lineNo
  first : ∀ k, hp.lineNo < k → k < tp.lineNo → ∀ line, (fullLines text)[k]? = some line →
    ¬ TileLine line layerId expertId

/-- The loop passes a piece on its way to the tile: it is no tile, or it is scanned as another one. -/
def Passes (p : Piece) (layerId expertId : UInt32) : Prop :=
  startsTile (catalogText p) = true →
    ∃ t, scanTile (catalogText p) = some t ∧ t.isOf layerId expertId = false

/-- The loop takes its reference from a piece. -/
structure Takes (p : Piece) (modelKey : Bytes) (layerId expertId : UInt32) (t : CatalogTile)
    (ref : WeightTileRef) : Prop where
  starts : startsTile (catalogText p) = true
  scanned : scanTile (catalogText p) = some t
  isOf : t.isOf layerId expertId = true
  ref : weightTileRefInitWithChecksum modelKey layerId expertId t.quant (toU64 t.payloadBytes)
    (toU64 t.payloadChecksum) = some ref

/-- The header piece and the tile piece that decide: the first piece that starts like a header, which is
accepted, with no tile before it; and the first piece after it that is scanned as the tile looked up, all
tiles between them being scanned as others. -/
structure Deciding (ps : List Piece) (modelKey : Bytes) (layerId expertId : UInt32) (hp tp : Piece)
    (h : CatalogHeader) (t : CatalogTile) (ref : WeightTileRef) : Prop where
  split : ∃ before between after, ps = before ++ hp :: (between ++ tp :: after) ∧
    (∀ p ∈ before, startsHeader (catalogText p) = false ∧ startsTile (catalogText p) = false) ∧
    ∀ p ∈ between, Passes p layerId expertId
  starts : startsHeader (catalogText hp) = true
  scanned : scanHeader (catalogText hp) = some h
  accepted : h.accepted modelKey layerId expertId = true
  tile : Takes tp modelKey layerId expertId t ref

/-- The pieces are read as their lines: both begin a line, the numbers fit, and the whole line reads like
the piece. -/
structure ReadAsLines (hp tp : Piece) (h : CatalogHeader) (t : CatalogTile) : Prop where
  headerBegins : hp.begins = true
  tileBegins : tp.begins = true
  layers : 0 ≤ h.layers
  experts : 0 ≤ h.experts ∧ h.experts < 2 ^ 32
  headerWhole : scanHeader (cstr hp.line) = some h
  layer : 0 ≤ t.layer ∧ t.layer < 2 ^ 32
  expert : 0 ≤ t.expert ∧ t.expert < 2 ^ 32
  payloadBytes : 0 ≤ t.payloadBytes ∧ t.payloadBytes < 2 ^ 64
  payloadChecksum : 0 ≤ t.payloadChecksum ∧ t.payloadChecksum < 2 ^ 64
  tileWhole : scanTile (cstr tp.line) = some t

/-! ## What the loop does with a piece -/

lemma head?_of_isPrefixOf {b : UInt8} {t s : Bytes} (h : (b :: t).isPrefixOf s = true) :
    s.head? = some b := by
  obtain ⟨u, rfl⟩ := List.isPrefixOf_iff_prefix.mp h
  rfl

lemma head?_of_startsHeader {line : Bytes} (h : startsHeader line = true) : line.head? = some 115 :=
  head?_of_isPrefixOf h

lemma head?_of_startsTile {line : Bytes} (h : startsTile line = true) : line.head? = some 116 :=
  head?_of_isPrefixOf h

lemma startsHeader_of_startsTile {line : Bytes} (h : startsTile line = true) :
    startsHeader line = false := by
  rw [Bool.eq_false_iff]
  intro hh
  have h115 := head?_of_startsHeader hh
  rw [head?_of_startsTile h] at h115
  cases h115

/-- A comment, an empty line and the end of the string start like neither. -/
lemma not_skipped {line : Bytes} (h : startsHeader line = true ∨ startsTile line = true) :
    ¬ (line.head? = some 35 ∨ line.head? = some LF ∨ line = []) := by
  have hhead : line.head? = some 115 ∨ line.head? = some 116 :=
    h.imp head?_of_startsHeader head?_of_startsTile
  rintro (h35 | hlf | rfl)
  · rw [h35] at hhead
    revert hhead
    decide
  · rw [hlf] at hhead
    revert hhead
    decide
  · simp at hhead

section Loop

variable {modelKey : Bytes} {layerId expertId : UInt32}

lemma readCatalog_skip {header : Option Piece} {p : Piece} (ps : List Piece)
    (hh : header = none → startsHeader (catalogText p) = false)
    (ht : startsTile (catalogText p) = false) :
    readCatalog modelKey layerId expertId header (p :: ps) =
      readCatalog modelKey layerId expertId header ps := by
  cases header with
  | none =>
      rw [readCatalog]
      simp [hh rfl, ht]
  | some hp =>
      rw [readCatalog]
      simp [ht]

lemma readCatalog_header {p : Piece} (ps : List Piece) (hh : startsHeader (catalogText p) = true) :
    readCatalog modelKey layerId expertId none (p :: ps) =
      (scanHeader (catalogText p)).bind fun h =>
        if h.accepted modelKey layerId expertId then readCatalog modelKey layerId expertId (some p) ps
        else none := by
  rw [readCatalog, if_neg (not_skipped (.inl hh))]
  simp only [Option.isNone_none, hh, Bool.and_self, if_true]
  cases scanHeader (catalogText p) <;> rfl

lemma readCatalog_none_tile {p : Piece} (ps : List Piece) (ht : startsTile (catalogText p) = true) :
    readCatalog modelKey layerId expertId none (p :: ps) = none := by
  rw [readCatalog, if_neg (not_skipped (.inr ht))]
  simp [startsHeader_of_startsTile ht, ht]

lemma readCatalog_tile {hp p : Piece} (ps : List Piece) (ht : startsTile (catalogText p) = true) :
    readCatalog modelKey layerId expertId (some hp) (p :: ps) =
      (scanTile (catalogText p)).bind fun t =>
        if t.isOf layerId expertId then
          (weightTileRefInitWithChecksum modelKey layerId expertId t.quant (toU64 t.payloadBytes)
            (toU64 t.payloadChecksum)).map fun ref => (hp, p, ref)
        else readCatalog modelKey layerId expertId (some hp) ps := by
  rw [readCatalog, if_neg (not_skipped (.inr ht))]
  simp only [Option.isNone_some, Bool.false_and, Bool.false_eq_true, if_false, ht, Bool.not_true]
  cases scanTile (catalogText p) <;> rfl

/-- An element behind elements that are passed. -/
lemma exists_split_cons {α : Type} {pass : α → Prop} {a b : α} {as : List α} :
    (∃ between after, a :: as = between ++ b :: after ∧ ∀ x ∈ between, pass x) ↔
      a = b ∨ (pass a ∧ ∃ between after, as = between ++ b :: after ∧ ∀ x ∈ between, pass x) := by
  constructor
  · rintro ⟨between, after, heq, hpass⟩
    cases between with
    | nil =>
        cases heq
        exact .inl rfl
    | cons x between =>
        cases heq
        exact .inr ⟨hpass a (by simp), between, after, rfl, fun y hy => hpass y (by simp [hy])⟩
  · rintro (rfl | ⟨ha, between, after, rfl, hpass⟩)
    · exact ⟨[], as, rfl, by simp⟩
    · exact ⟨a :: between, after, rfl, by simpa using ⟨ha, hpass⟩⟩

/-- What is passed and not taken leaves the choice to the rest. -/
lemma and_pass_iff {a first pass behind take : Prop} (hpass : pass) (htake : first → ¬ take) :
    a ∧ behind ∧ take ↔ a ∧ (first ∨ pass ∧ behind) ∧ take := by
  constructor
  · rintro ⟨ha, hbehind, hT⟩
    exact ⟨ha, .inr ⟨hpass, hbehind⟩, hT⟩
  · rintro ⟨ha, hfirst | ⟨-, hbehind⟩, hT⟩
    · exact absurd hT (htake hfirst)
    · exact ⟨ha, hbehind, hT⟩

/-- Behind the header, the loop returns the first tile that is scanned as the one looked up. -/
lemma readCatalog_some_iff {hp hp' tp : Piece} {ps : List Piece} {ref : WeightTileRef} :
    readCatalog modelKey layerId expertId (some hp) ps = some (hp', tp, ref) ↔
      hp' = hp ∧
        (∃ between after, ps = between ++ tp :: after ∧ ∀ p ∈ between, Passes p layerId expertId) ∧
        ∃ t, Takes tp modelKey layerId expertId t ref := by
  induction ps with
  | nil => simp [readCatalog]
  | cons p ps ih =>
      rw [exists_split_cons]
      by_cases ht : startsTile (catalogText p) = true
      · rw [readCatalog_tile ps ht]
        cases hscan : scanTile (catalogText p) with
        | none =>
            have hpass : ¬ Passes p layerId expertId := by simp [Passes, ht, hscan]
            have htake : p = tp → ¬ ∃ t, Takes tp modelKey layerId expertId t ref := by
              rintro rfl ⟨t, h⟩
              simpa [hscan] using h.scanned
            simpa [hpass] using fun _ h => not_exists.mp (htake h)
        | some t =>
            rw [Option.bind_some]
            by_cases hof : t.isOf layerId expertId = true
            · have hpass : ¬ Passes p layerId expertId := by simp [Passes, ht, hscan, hof]
              rw [if_pos hof, Option.map_eq_some_iff]
              constructor
              · rintro ⟨r, hr, heq⟩
                cases heq
                exact ⟨rfl, .inl rfl, t, ht, hscan, hof, hr⟩
              · rintro ⟨rfl, rfl | ⟨h, -⟩, t', htake⟩
                · obtain rfl : t = t' := Option.some.inj (hscan.symm.trans htake.scanned)
                  exact ⟨ref, htake.ref, rfl⟩
                · exact absurd h hpass
            · have hpass : Passes p layerId expertId := fun _ => ⟨t, hscan, by simpa using hof⟩
              have htake : p = tp → ¬ ∃ t, Takes tp modelKey layerId expertId t ref := by
                rintro rfl ⟨t', h⟩
                obtain rfl : t = t' := Option.some.inj (hscan.symm.trans h.scanned)
                exact hof h.isOf
              rw [if_neg hof, ih]
              exact and_pass_iff hpass htake
      · have hpass : Passes p layerId expertId := fun h => absurd h ht
        have htake : p = tp → ¬ ∃ t, Takes tp modelKey layerId expertId t ref := by
          rintro rfl ⟨t', h⟩
          exact ht h.starts
        rw [readCatalog_skip ps (by simp) (by simpa using ht), ih]
        exact and_pass_iff hpass htake

/-- The first piece is the header, or the loop goes on behind it. -/
lemma deciding_cons {p hp tp : Piece} {ps : List Piece} {h : CatalogHeader} {t : CatalogTile}
    {ref : WeightTileRef} (hd : Deciding (p :: ps) modelKey layerId expertId hp tp h t ref) :
    (hp = p ∧
      ∃ between after, ps = between ++ tp :: after ∧ ∀ p ∈ between, Passes p layerId expertId) ∨
    ((startsHeader (catalogText p) = false ∧ startsTile (catalogText p) = false) ∧
      Deciding ps modelKey layerId expertId hp tp h t ref) := by
  obtain ⟨before, between, after, heq, hbefore, hbetween⟩ := hd.split
  cases before with
  | nil =>
      cases heq
      exact .inl ⟨rfl, between, after, rfl, hbetween⟩
  | cons q before =>
      cases heq
      exact .inr ⟨hbefore p (by simp), { hd with
        split := ⟨before, between, after, rfl, fun q hq => hbefore q (by simp [hq]), hbetween⟩ }⟩

/-- **What decides a lookup.** -/
lemma readCatalog_none_iff {hp tp : Piece} {ps : List Piece} {ref : WeightTileRef} :
    readCatalog modelKey layerId expertId none ps = some (hp, tp, ref) ↔
      ∃ h t, Deciding ps modelKey layerId expertId hp tp h t ref := by
  induction ps with
  | nil =>
      constructor
      · intro h
        simp [readCatalog] at h
      · rintro ⟨h, t, ⟨before, between, after, heq, -⟩, -⟩
        simp at heq
  | cons p ps ih =>
      by_cases hh : startsHeader (catalogText p) = true
      · rw [readCatalog_header ps hh]
        constructor
        · intro hread
          obtain ⟨h, hscan, hread⟩ := Option.bind_eq_some_iff.mp hread
          split at hread
          · rename_i hacc
            obtain ⟨rfl, ⟨between, after, rfl, hbetween⟩, t, htake⟩ := readCatalog_some_iff.mp hread
            exact ⟨h, t, ⟨[], between, after, rfl, by simp, hbetween⟩, hh, hscan, hacc, htake⟩
          · cases hread
        · rintro ⟨h, t, hd⟩
          obtain ⟨rfl, hbehind⟩ | ⟨hskip, -⟩ := deciding_cons hd
          · rw [hd.scanned, Option.bind_some, if_pos hd.accepted]
            exact readCatalog_some_iff.mpr ⟨rfl, hbehind, t, hd.tile⟩
          · exact absurd hh (by simp [hskip.1])
      · have hne : ∀ {h t}, Deciding (p :: ps) modelKey layerId expertId hp tp h t ref → hp ≠ p := by
          rintro h t hd rfl
          exact hh hd.starts
        by_cases ht : startsTile (catalogText p) = true
        · rw [readCatalog_none_tile ps ht]
          constructor
          · intro hread
            cases hread
          · rintro ⟨h, t, hd⟩
            obtain ⟨rfl, -⟩ | ⟨hskip, -⟩ := deciding_cons hd
            · exact absurd rfl (hne hd)
            · exact absurd ht (by simp [hskip.2])
        · rw [readCatalog_skip ps (fun _ => by simpa using hh) (by simpa using ht), ih]
          constructor
          · rintro ⟨h, t, hd⟩
            obtain ⟨before, between, after, rfl, hbefore, hbetween⟩ := hd.split
            refine ⟨h, t, { hd with split := ⟨p :: before, between, after, rfl, ?_, hbetween⟩ }⟩
            intro q hq
            rcases List.mem_cons.mp hq with rfl | hq
            · exact ⟨by simpa using hh, by simpa using ht⟩
            · exact hbefore q hq
          · rintro ⟨h, t, hd⟩
            obtain ⟨rfl, -⟩ | ⟨-, hrest⟩ := deciding_cons hd
            · exact absurd rfl (hne hd)
            · exact ⟨h, t, hrest⟩

end Loop

/-! ## The front of a line -/

lemma cstr_take (n : ℕ) (l : Bytes) : cstr (l.take n) = (cstr l).take n := by
  induction l generalizing n with
  | nil => simp [cstr]
  | cons b l ih =>
      cases n with
      | zero => simp [cstr]
      | succ n =>
          have ih := ih n
          simp only [cstr] at ih ⊢
          rw [List.take_succ_cons, List.takeWhile_cons, List.takeWhile_cons]
          split
          · rw [ih, List.take_succ_cons]
          · rfl

/-- A short prefix of a line is one of its front. -/
lemma isPrefixOf_take {q s : Bytes} {n : ℕ} (hn : q.length ≤ n) :
    q.isPrefixOf (s.take n) = q.isPrefixOf s := by
  rw [Bool.eq_iff_iff, List.isPrefixOf_iff_prefix, List.isPrefixOf_iff_prefix]
  constructor
  · exact fun h => h.trans (List.take_prefix n s)
  · exact fun h => List.prefix_take_iff.mpr ⟨h, hn⟩

section Front

variable {p : Piece} {text : Bytes}

/-- The first piece of a line is its front. -/
lemma catalogText_of_begins (hp : p ∈ pieces 511 text) (hb : p.begins = true) :
    catalogText p = (cstr p.line).take 511 := by
  have hbytes := (mem_piecesFrom (by decide) (fun l => isLine_of_mem_fullLines) hp).2.2 hb
  rw [catalogText, hbytes, cstr_take]

lemma fullLines_lineNo (hp : p ∈ pieces 511 text) : (fullLines text)[p.lineNo]? = some p.line :=
  (mem_piecesFrom (by decide) (fun l => isLine_of_mem_fullLines) hp).2.1

/-- Every line has a first piece. -/
lemma first_mem_pieces {k : ℕ} {line : Bytes} (h : (fullLines text)[k]? = some line) :
    ⟨k, line, true, line.take 511⟩ ∈ pieces 511 text := by
  have := @first_mem_piecesFrom 511 0 (fullLines text) (by decide)
    (fun l => isLine_of_mem_fullLines) k line h
  rwa [Nat.zero_add] at this

end Front

lemma startsHeader_take (line : Bytes) : startsHeader (line.take 511) = startsHeader line :=
  isPrefixOf_take (by decide)

lemma startsTile_take (line : Bytes) : startsTile (line.take 511) = startsTile line :=
  isPrefixOf_take (by decide)

/-! ## Scanning the front of a line -/

lemma scanHeader_eq_some {line : Bytes} {h : CatalogHeader} (hs : scanHeader line = some h) :
    ∃ r, scan headerFormat line =
      some ([.word h.sourceKind, .word h.modelKey, .number h.layers, .number h.experts,
        .word h.checksumAlgorithm], r) := by
  unfold scanHeader at hs
  split at hs
  · rename_i heq
    cases hs
    exact ⟨_, heq⟩
  · cases hs

lemma scanTile_eq_some {line : Bytes} {t : CatalogTile} (hs : scanTile line = some t) :
    ∃ r, scan tileFormat line =
      some ([.number t.layer, .number t.expert, .word t.quant, .number t.payloadBytes,
        .number t.payloadChecksum], r) := by
  unfold scanTile at hs
  split at hs
  · rename_i heq
    cases hs
    exact ⟨_, heq⟩
  · cases hs

/-- A header of which a front is read: only the last word may go on behind it. -/
lemma scanHeader_append {line : Bytes} (u : Bytes) {h h' : CatalogHeader}
    (hs : scanHeader line = some h) (hs' : scanHeader (line ++ u) = some h') :
    h'.sourceKind = h.sourceKind ∧ h'.modelKey = h.modelKey ∧ h'.layers = h.layers ∧
      h'.experts = h.experts := by
  obtain ⟨r, hr⟩ := scanHeader_eq_some hs
  obtain ⟨r', hr'⟩ := scanHeader_eq_some hs'
  have hr : scan headerFormat line = some ([.word h.sourceKind, .word h.modelKey, .number h.layers,
      .number h.experts] ++ [.word h.checksumAlgorithm], r) := hr
  obtain ⟨rest, -, hwhole⟩ := scan_concat_append u hr (fun _ _ _ => exists_word_of_step)
  obtain ⟨p, -, heq⟩ := Option.map_eq_some_iff.mp (hwhole.symm.trans hr')
  injection (Prod.mk.inj heq).1 with h1 heq
  injection heq with h2 heq
  injection heq with h3 heq
  injection heq with h4 heq
  injection h1 with h1
  injection h2 with h2
  injection h3 with h3
  injection h4 with h4
  exact ⟨h1.symm, h2.symm, h3.symm, h4.symm⟩

/-- A tile of which a front is read: only the checksum may go on behind it, and away from zero. -/
lemma scanTile_append {line : Bytes} (u : Bytes) {t t' : CatalogTile}
    (hs : scanTile line = some t) (hs' : scanTile (line ++ u) = some t') :
    t'.layer = t.layer ∧ t'.expert = t.expert ∧ t'.quant = t.quant ∧
      t'.payloadBytes = t.payloadBytes ∧
      (t.payloadChecksum ≠ 0 → (0 ≤ t.payloadChecksum → t.payloadChecksum ≤ t'.payloadChecksum) ∧
        (t.payloadChecksum < 0 → t'.payloadChecksum ≤ t.payloadChecksum)) := by
  obtain ⟨r, hr⟩ := scanTile_eq_some hs
  obtain ⟨r', hr'⟩ := scanTile_eq_some hs'
  have hr : scan tileFormat line = some ([.number t.layer, .number t.expert, .word t.quant,
      .number t.payloadBytes] ++ [.number t.payloadChecksum], r) := hr
  obtain ⟨rest, hrest, hwhole⟩ := scan_concat_append u hr (fun _ _ _ => exists_number_of_step)
  obtain ⟨p, hp, heq⟩ := Option.map_eq_some_iff.mp (hwhole.symm.trans hr')
  injection (Prod.mk.inj heq).1 with h1 heq
  injection heq with h2 heq
  injection heq with h3 heq
  injection heq with h4 hlast
  injection h1 with h1
  injection h2 with h2
  injection h3 with h3
  injection h4 with h4
  refine ⟨h1.symm, h2.symm, h3.symm, h4.symm, fun hne => ?_⟩
  obtain ⟨w, q, hw, hpos, hneg⟩ := step_number_append (by decide) u hrest hne
  have hlast : p.1 = [.number t'.payloadChecksum] := hlast
  rw [hw] at hp
  obtain rfl : w = t'.payloadChecksum := by
    have hval := (congrArg Prod.fst (Option.some.inj hp)).trans hlast
    injection hval with hval
    injection hval
  exact ⟨hpos, hneg⟩

/-! ## Machine numbers -/

lemma toU64_of_lt {v : ℤ} (h0 : 0 ≤ v) (hlt : v < 2 ^ 64) : ((toU64 v).toNat : ℤ) = v := by
  have habs : ¬ 2 ^ 64 ≤ v.natAbs := by omega
  rw [toU64, if_neg habs, UInt64.toNat_ofNat', Int.emod_eq_of_lt h0 hlt]
  omega

lemma toNat_toU32 (v : ℤ) : (toU32 v).toNat = (toU64 v).toNat % 2 ^ 32 := rfl

lemma toU32_of_lt {v : ℤ} (h0 : 0 ≤ v) (hlt : v < 2 ^ 32) : ((toU32 v).toNat : ℤ) = v := by
  have h64 := toU64_of_lt h0 (by omega)
  rw [toNat_toU32]
  omega

/-- A number of no sign is not read as a larger one. -/
lemma toU32_le {v : ℤ} (h0 : 0 ≤ v) : ((toU32 v).toNat : ℤ) ≤ v := by
  rw [toNat_toU32]
  by_cases hlt : v < 2 ^ 64
  · have h64 := toU64_of_lt h0 hlt
    omega
  · omega

lemma toU32_toNat (n : UInt32) : toU32 n.toNat = n := by
  have hlt := n.toNat_lt
  have h := @toU32_of_lt n.toNat (by omega) (by omega)
  exact UInt32.toNat_inj.mp (by omega)

lemma isOf_of_names {t : CatalogTile} {layerId expertId : UInt32} (h : t.Names layerId expertId) :
    t.isOf layerId expertId = true := by
  rw [CatalogTile.isOf, h.1, h.2, toU32_toNat, toU32_toNat]
  simp

lemma names_of_isOf {t : CatalogTile} {layerId expertId : UInt32}
    (h : t.isOf layerId expertId = true) (hl : 0 ≤ t.layer ∧ t.layer < 2 ^ 32)
    (he : 0 ≤ t.expert ∧ t.expert < 2 ^ 32) : t.Names layerId expertId := by
  simp only [CatalogTile.isOf, Bool.and_eq_true, beq_iff_eq] at h
  refine ⟨?_, ?_⟩
  · rw [← h.1, toU32_of_lt hl.1 hl.2]
  · rw [← h.2, toU32_of_lt he.1 he.2]

lemma accepted_iff {h : CatalogHeader} {modelKey : Bytes} {layerId expertId : UInt32} :
    h.accepted modelKey layerId expertId = true ↔
      h.modelKey = modelKey ∧ layerId < toU32 h.layers ∧ expertId < toU32 h.experts ∧
        toU32 h.experts ≤ expertMaxExperts ∧ h.checksumAlgorithm = ascii "deterministic-v1" := by
  simp only [CatalogHeader.accepted, Bool.and_eq_true, beq_iff_eq, decide_eq_true_eq, and_assoc]

/-- The reference has the numbers it is initialised with. -/
lemma fields_of_init {modelKey quant : Bytes} {layerId expertId : UInt32} {bytes sum : UInt64}
    {ref : WeightTileRef}
    (h : weightTileRefInitWithChecksum modelKey layerId expertId quant bytes sum = some ref) :
    expertId < expertMaxExperts ∧ modelKey ≠ [] ∧ sum ≠ 0 ∧
      ref.quant = quant ∧ ref.payloadBytes = bytes ∧ ref.payloadChecksum = sum := by
  unfold weightTileRefInitWithChecksum at h
  split at h
  · cases h
  rename_i hargs
  split at h
  · cases h
  cases h
  push Not at hargs
  exact ⟨UInt32.not_le.mp hargs.2.2.2.2, hargs.1, hargs.2.2.2.1, rfl, rfl, rfl⟩

/-! ## Pieces and lines -/

section Lines

variable {text modelKey : Bytes} {layerId expertId : UInt32} {hp tp : Piece} {h : CatalogHeader}
  {t : CatalogTile} {ref : WeightTileRef}

lemma Deciding.mem {ps : List Piece}
    (hd : Deciding ps modelKey layerId expertId hp tp h t ref) : hp ∈ ps ∧ tp ∈ ps := by
  obtain ⟨before, between, after, rfl, -⟩ := hd.split
  simp

/-- A lookup that is resolved from lines has read them. -/
lemma readAsLines_of_resolved
    (hd : Deciding (pieces 511 text) modelKey layerId expertId hp tp h t ref)
    (hr : Resolved text modelKey layerId expertId hp tp ref) : ReadAsLines hp tp h t := by
  obtain ⟨hhp, htp⟩ := hd.mem
  obtain ⟨-, h', hscan', hcovers⟩ := hr.header
  obtain ⟨-, t', htscan', hnames, hquant, hbytes, hsum⟩ := hr.tile
  obtain ⟨-, -, hne, -, hrefBytes, hrefSum⟩ := fields_of_init hd.tile.ref
  -- what is scanned is the front of what is written
  have hscan := hd.scanned
  rw [catalogText_of_begins hhp hr.headerBegins] at hscan
  have htscan := hd.tile.scanned
  rw [catalogText_of_begins htp hr.tileBegins] at htscan
  have hwhole := hscan'
  rw [← List.take_append_drop 511 (cstr hp.line)] at hwhole
  obtain ⟨hsource, hmodel, hlayers, hexperts⟩ := scanHeader_append _ hscan hwhole
  have htwhole := htscan'
  rw [← List.take_append_drop 511 (cstr tp.line)] at htwhole
  obtain ⟨hlayer, hexpert, hq, hb, hs⟩ := scanTile_append _ htscan htwhole
  have halgorithm : h'.checksumAlgorithm = h.checksumAlgorithm :=
    hcovers.algorithm.trans (accepted_iff.mp hd.accepted).2.2.2.2.symm
  have hsumU64 : (ref.payloadChecksum.toNat : ℤ) < 2 ^ 64 := by
    have := ref.payloadChecksum.toNat_lt
    omega
  have hbytesU64 : (ref.payloadBytes.toNat : ℤ) < 2 ^ 64 := by
    have := ref.payloadBytes.toNat_lt
    omega
  -- the checksum is not cut off
  have hne0 : t.payloadChecksum ≠ 0 := by
    intro h0
    rw [h0] at hne
    exact hne rfl
  have hpos : 0 ≤ t.payloadChecksum := by
    by_contra hneg
    have := (hs hne0).2 (by omega)
    omega
  have hle := (hs hne0).1 hpos
  have hexact : t'.payloadChecksum = t.payloadChecksum := by
    rw [← hsum, hrefSum, toU64_of_lt hpos (by omega)]
  have heqh : h' = h := by
    cases h; cases h'
    simp_all
  have heqt : t' = t := by
    cases t; cases t'
    simp_all
  subst heqh heqt
  have hlt := layerId.toNat_lt
  have hlt' := expertId.toNat_lt
  have hl := hcovers.layer
  have he := hcovers.expert
  have he' := hcovers.experts
  obtain ⟨hn, hn'⟩ := hnames
  exact {
    headerBegins := hr.headerBegins
    tileBegins := hr.tileBegins
    layers := by omega
    experts := by omega
    headerWhole := hscan'
    layer := by omega
    expert := by omega
    payloadBytes := by omega
    payloadChecksum := by omega
    tileWhole := htscan' }

/-- The pieces of a text are in the order of its lines. -/
lemma pairwise_pieces (text : Bytes) :
    (pieces 511 text).Pairwise fun p q =>
      p.lineNo ≤ q.lineNo ∧ (q.begins = true → p.lineNo < q.lineNo) :=
  pairwise_piecesFrom (by decide) fun _ => isLine_of_mem_fullLines

/-- Where the pieces around the header and the tile are from. -/
lemma lineNo_of_split {before between after : List Piece}
    (heq : pieces 511 text = before ++ hp :: (between ++ tp :: after)) :
    (tp.begins = true → hp.lineNo < tp.lineNo) ∧
      (∀ q ∈ pieces 511 text, q.lineNo < hp.lineNo → q ∈ before) ∧
      ∀ q ∈ pieces 511 text, hp.lineNo < q.lineNo → q.lineNo < tp.lineNo → q ∈ between := by
  have hpw := pairwise_pieces text
  rw [heq] at hpw ⊢
  obtain ⟨-, hpw', hbefore⟩ := List.pairwise_append.mp hpw
  obtain ⟨hhp, hpw'⟩ := List.pairwise_cons.mp hpw'
  obtain ⟨-, hpw', hbetween⟩ := List.pairwise_append.mp hpw'
  obtain ⟨htp, -⟩ := List.pairwise_cons.mp hpw'
  refine ⟨(hhp tp (by simp)).2, fun q hq hlt => ?_, fun q hq hlt hlt' => ?_⟩
  · rcases List.mem_append.mp hq with hq | hq
    · exact hq
    · rcases List.mem_cons.mp hq with rfl | hq
      · omega
      · have := (hhp q hq).1
        omega
  · rcases List.mem_append.mp hq with hq | hq
    · have := (hbefore q hq hp (by simp)).1
      omega
    · rcases List.mem_cons.mp hq with rfl | hq
      · omega
      · rcases List.mem_append.mp hq with hq | hq
        · exact hq
        · rcases List.mem_cons.mp hq with rfl | hq
          · omega
          · have := (htp q hq).1
            omega

/-- A line that names the tile is not passed. -/
lemma not_passes_of_tileLine {k : ℕ} {line : Bytes}
    (hline : (fullLines text)[k]? = some line) (htile : TileLine line layerId expertId) :
    ¬ Passes ⟨k, line, true, line.take 511⟩ layerId expertId := by
  intro hpass
  obtain ⟨hstarts, t, hscan, hnames⟩ := htile
  have htext := catalogText_of_begins (first_mem_pieces hline) rfl
  obtain ⟨t', hscan', hother⟩ := hpass (by rw [htext, startsTile_take, hstarts])
  rw [htext] at hscan'
  rw [← List.take_append_drop 511 (cstr line)] at hscan
  obtain ⟨hlayer, hexpert, -⟩ := scanTile_append _ hscan' hscan
  have hnames' : t'.Names layerId expertId := ⟨hlayer ▸ hnames.1, hexpert ▸ hnames.2⟩
  rw [isOf_of_names hnames'] at hother
  cases hother

/-- A lookup that reads its pieces as lines is resolved from them. -/
lemma resolved_of_readAsLines
    (hd : Deciding (pieces 511 text) modelKey layerId expertId hp tp h t ref)
    (hr : ReadAsLines hp tp h t) : Resolved text modelKey layerId expertId hp tp ref := by
  obtain ⟨hhp, htp⟩ := hd.mem
  obtain ⟨before, between, after, hsplit, hbefore, hbetween⟩ := hd.split
  obtain ⟨hafter, hearlier, hmiddle⟩ := lineNo_of_split hsplit
  obtain ⟨hmodel, hlayer, hexpert, hexperts, halgorithm⟩ := accepted_iff.mp hd.accepted
  obtain ⟨-, -, -, hquant, hrefBytes, hrefSum⟩ := fields_of_init hd.tile.ref
  have hcovers : h.Covers modelKey layerId expertId := by
    have hle := toU32_le hr.layers
    have hexact := toU32_of_lt hr.experts.1 hr.experts.2
    have hlayer := UInt32.lt_iff_toNat_lt.mp hlayer
    have hexpert := UInt32.lt_iff_toNat_lt.mp hexpert
    have hexperts : (toU32 h.experts).toNat ≤ 256 := UInt32.le_iff_toNat_le.mp hexperts
    exact ⟨hmodel, by omega, by omega, by omega, halgorithm⟩
  exact {
    headerBegins := hr.headerBegins
    tileBegins := hr.tileBegins
    headerLine := fullLines_lineNo hhp
    tileLine := fullLines_lineNo htp
    header := by
      have hstarts := hd.starts
      rw [catalogText_of_begins hhp hr.headerBegins, startsHeader_take] at hstarts
      exact ⟨hstarts, h, hr.headerWhole, hcovers⟩
    headerFirst := by
      intro k hk line hline
      have hfirst := hearlier _ (first_mem_pieces hline) hk
      have hnot := (hbefore _ hfirst).1
      rwa [catalogText_of_begins (first_mem_pieces hline) rfl, startsHeader_take] at hnot
    tile := by
      have hstarts := hd.tile.starts
      rw [catalogText_of_begins htp hr.tileBegins, startsTile_take] at hstarts
      refine ⟨hstarts, t, hr.tileWhole, names_of_isOf hd.tile.isOf hr.layer hr.expert, hquant, ?_, ?_⟩
      · rw [hrefBytes, toU64_of_lt hr.payloadBytes.1 hr.payloadBytes.2]
      · rw [hrefSum, toU64_of_lt hr.payloadChecksum.1 hr.payloadChecksum.2]
    after := hafter hr.tileBegins
    first := by
      intro k hk hk' line hline htile
      refine not_passes_of_tileLine hline htile (hbetween _ ?_)
      exact hmiddle _ (first_mem_pieces hline) hk hk' }

end Lines

/-- **Weight catalog resolution.**  What the reader returns is resolved from lines of the text exactly when
the pieces that decide the lookup are read as lines: both begin a line, the numbers on them fit the machine
numbers they are read into, and the whole line reads like the piece. -/
theorem weightTileRefFromCatalog_resolved_iff (text modelKey : Bytes) (layerId expertId : UInt32) :
    (∀ hp tp ref, weightTileRefFromCatalog modelKey layerId expertId text = some (hp, tp, ref) →
      Resolved text modelKey layerId expertId hp tp ref) ↔
    ∀ hp tp h t ref, Deciding (pieces 511 text) modelKey layerId expertId hp tp h t ref →
      ReadAsLines hp tp h t := by
  constructor
  · intro hall hp tp h t ref hd
    refine readAsLines_of_resolved hd (hall hp tp ref ?_)
    obtain ⟨hexpert, hmodel, -⟩ := fields_of_init hd.tile.ref
    rw [weightTileRefFromCatalog, if_neg (by simp [hmodel, hexpert])]
    exact readCatalog_none_iff.mpr ⟨h, t, hd⟩
  · intro hall hp tp ref hread
    unfold weightTileRefFromCatalog at hread
    split at hread
    · cases hread
    obtain ⟨h, t, hd⟩ := readCatalog_none_iff.mp hread
    exact resolved_of_readAsLines hd (hall hp tp h t ref hd)

/-- A header and one comment line, of which the part behind the first 511 bytes looks like a tile. -/
def commentedCatalog : Bytes :=
  ascii "source_kind=s model_key=m total_layers=1 experts_per_layer=1 checksum_algorithm=deterministic-v1" ++
    LF :: 35 :: List.replicate 510 45 ++
    ascii "tile layer=0 expert=0 quant=q payload_bytes=1 payload_checksum=0x1"

/-- A tile is found inside a comment. -/
theorem tile_of_commentedCatalog :
    ∃ hp tp ref,
      weightTileRefFromCatalog (ascii "m") 0 0 commentedCatalog = some (hp, tp, ref) ∧
        tp.line.head? = some 35 ∧
        ¬ Resolved commentedCatalog (ascii "m") 0 0 hp tp ref := by
  have hrun : (weightTileRefFromCatalog (ascii "m") 0 0 commentedCatalog).map
      (fun r => (r.2.1.begins, r.2.1.line.head?)) = some (false, some 35) := by decide +kernel
  obtain ⟨⟨hp, tp, ref⟩, hread, heq⟩ := Option.map_eq_some_iff.mp hrun
  obtain ⟨hbegins, hhead⟩ := Prod.mk.inj heq
  refine ⟨hp, tp, ref, hread, hhead, fun hr => ?_⟩
  exact absurd hr.tileBegins (by simpa using hbegins)

end MemService
