import MemService.Effects

/-!
# Lines of fields

Requests and responses are blocks of `name=value` lines, and the getters read them back.  A getter of a
name that is printed once gets the value that was printed, cut to its buffer, as long as no name has an
equals sign and no value a line feed: a name that is the beginning or the end of another is no trouble,
because the equals sign has to stand right behind it.
-/

open ByteText CNumeral

namespace MemService

/-! ## Blocks of fields -/

lemma isPrefixOf_field {m n : Bytes} (hm : EQ ∉ m) (hn : EQ ∉ n) (v : Bytes) :
    (m ++ [EQ]).isPrefixOf (n ++ EQ :: v) = decide (m = n) := by
  induction m generalizing n with
  | nil =>
      cases n with
      | nil => simp
      | cons b n =>
          have hb : EQ ≠ b := fun h => hn (by simp [h])
          simp [List.isPrefixOf_cons_cons, hb]
  | cons a m ih =>
      have ha : a ≠ EQ := fun h => hm (by simp [h])
      cases n with
      | nil => simp [List.isPrefixOf_cons_cons, ha]
      | cons b n =>
          have := ih (n := n) (fun h => hm (by simp [h])) (fun h => hn (by simp [h]))
          simp only [List.cons_append, List.isPrefixOf_cons_cons, this, List.cons.injEq]
          by_cases hab : a = b <;> simp [hab]

/-- The lines of a block have no line feeds. -/
lemma lf_notMem_fieldLines {fs : List (String × Bytes)}
    (hfs : ∀ f ∈ fs, EQ ∉ ascii f.1 ∧ Plain (ascii f.1) ∧ Plain f.2) :
    ∀ l ∈ fs.map (fun f => fieldLine f.1 f.2), LF ∉ l := by
  intro l hl hmem
  obtain ⟨g, hg, rfl⟩ := List.mem_map.mp hl
  obtain ⟨-, hn, hv⟩ := hfs g hg
  rcases List.mem_append.mp hmem with h | h
  · exact hn.lf h
  · rcases List.mem_cons.mp h with h | h
    · exact absurd h (by decide)
    · exact hv.lf h

/-- A block of fields has no terminator in it. -/
lemma nul_notMem_fieldLines {fs : List (String × Bytes)}
    (hfs : ∀ f ∈ fs, EQ ∉ ascii f.1 ∧ Plain (ascii f.1) ∧ Plain f.2) :
    NUL ∉ unlines (fs.map fun f => fieldLine f.1 f.2) := by
  refine nul_notMem_unlines fun l hl => ?_
  obtain ⟨f, hf, rfl⟩ := List.mem_map.mp hl
  obtain ⟨-, hn, hv⟩ := hfs f hf
  refine (hn.append (t := EQ :: f.2) fun b hb => ?_).nul
  rcases List.mem_cons.mp hb with rfl | hb
  · decide
  · exact hv b hb

/-- A getter finds the first field of its name. -/
lemma payloadGetString_fields {fs : List (String × Bytes)} {rest name : Bytes} {f : String × Bytes}
    {cap : ℕ} (hname : EQ ∉ name) (hfs : ∀ f ∈ fs, EQ ∉ ascii f.1 ∧ Plain (ascii f.1) ∧ Plain f.2)
    (hfind : fs.find? (fun f => decide (name = ascii f.1)) = some f) :
    payloadGetString (unlines (fs.map fun f => fieldLine f.1 f.2) ++ rest) name cap =
      fitValue cap f.2 := by
  have hlf := lf_notMem_fieldLines hfs
  have hline : ((fs.map fun f => fieldLine f.1 f.2) ++ lines rest).find?
      (fun l => (name ++ [EQ]).isPrefixOf l) = some (fieldLine f.1 f.2) := by
    clear hlf
    induction fs with
    | nil => cases hfind
    | cons g fs ih =>
        have hg := (hfs g (by simp)).1
        rw [List.map_cons, List.cons_append, List.find?_cons, fieldLine,
          isPrefixOf_field hname hg]
        rw [List.find?_cons] at hfind
        cases hd : decide (name = ascii g.1) with
        | true =>
            rw [hd] at hfind
            cases hfind
            rfl
        | false =>
            rw [hd] at hfind
            exact ih (fun f hf => hfs f (by simp [hf])) hfind
  have hf : name = ascii f.1 := by simpa using List.find?_some hfind
  rw [payloadGetString, lines_unlines hlf, hline, Option.bind_some, hf, fieldLine]
  congr 1
  rw [show (ascii f.1).length + 1 = (ascii f.1 ++ [EQ]).length by simp,
    show ascii f.1 ++ EQ :: f.2 = (ascii f.1 ++ [EQ]) ++ f.2 by simp, List.drop_left]

/-- A getter finds nothing under a name that is not there. -/
lemma payloadGetString_block {fs : List (String × Bytes)} {name : Bytes} (cap : ℕ) (hname : EQ ∉ name)
    (hfs : ∀ f ∈ fs, EQ ∉ ascii f.1 ∧ Plain (ascii f.1) ∧ Plain f.2) :
    payloadGetString (unlines (fs.map fun f => fieldLine f.1 f.2)) name cap =
      (fs.find? fun f => decide (name = ascii f.1)).bind fun f => fitValue cap f.2 := by
  cases hfind : fs.find? fun f => decide (name = ascii f.1) with
  | some f =>
      have hread := @payloadGetString_fields fs [] name f cap hname hfs hfind
      rwa [List.append_nil] at hread
  | none =>
      have hlines : lines (unlines (fs.map fun f => fieldLine f.1 f.2)) =
          fs.map fun f => fieldLine f.1 f.2 := by
        have h := lines_unlines (lf_notMem_fieldLines hfs) []
        rwa [List.append_nil, lines_nil, List.append_nil] at h
      have hnone : (fs.map fun f => fieldLine f.1 f.2).find?
          (fun l => (name ++ [EQ]).isPrefixOf l) = none := by
        rw [List.find?_eq_none] at hfind ⊢
        intro l hl
        obtain ⟨f, hf, rfl⟩ := List.mem_map.mp hl
        rw [fieldLine, isPrefixOf_field hname (hfs f hf).1]
        exact hfind f hf
      rw [payloadGetString, hlines, hnone]
      rfl

/-- The header getter reads a block like the other one: every line has its equals sign. -/
lemma payloadGetHeaderString_block {fs : List (String × Bytes)} {name : Bytes} (cap : ℕ)
    (hfs : ∀ f ∈ fs, EQ ∉ ascii f.1 ∧ Plain (ascii f.1) ∧ Plain f.2) :
    payloadGetHeaderString (unlines (fs.map fun f => fieldLine f.1 f.2)) name cap =
      (fs.find? fun f => decide (name = ascii f.1)).bind fun f => fitValue cap f.2 := by
  have hlines : lines (unlines (fs.map fun f => fieldLine f.1 f.2)) =
      fs.map fun f => fieldLine f.1 f.2 := by
    have h := lines_unlines (lf_notMem_fieldLines hfs) []
    rwa [List.append_nil, lines_nil, List.append_nil] at h
  have hvalue : headerValue name (fs.map fun f => fieldLine f.1 f.2) =
      (fs.find? fun f => decide (name = ascii f.1)).map Prod.snd := by
    clear hlines
    induction fs with
    | nil => rfl
    | cons f fs ih =>
        have ih := ih fun f hf => hfs f (by simp [hf])
        rw [List.map_cons, headerValue, fieldLine, splitEq_field (hfs f (by simp)).1,
          List.find?_cons]
        by_cases hn : name = ascii f.1
        · simp [hn]
        · simp [hn, Ne.symm hn, ih]
  rw [payloadGetHeaderString, hlines, hvalue, Option.bind_map]
  rfl

lemma fitValue_decimal {n cap : ℕ} (h : (decimal n).length < cap) :
    fitValue cap (decimal n) = some (decimal n) := by
  rw [fitValue, List.take_of_length_le (by omega), if_neg (decimal_ne_nil n)]

lemma showU32_eq (n : UInt32) : showU32 n = showU64 n.toUInt64 := by
  rw [showU32, showU64, UInt32.toNat_toUInt64]

/-- A number printed as a field is read back. -/
lemma payloadGetU64Checked_fields {fs : List (String × Bytes)} {rest name : Bytes}
    {f : String × Bytes} {x : UInt64} (hname : EQ ∉ name)
    (hfs : ∀ f ∈ fs, EQ ∉ ascii f.1 ∧ Plain (ascii f.1) ∧ Plain f.2)
    (hfind : fs.find? (fun f => decide (name = ascii f.1)) = some f)
    (hf : f.2 = decimal x.toNat) :
    payloadGetU64Checked (unlines (fs.map fun f => fieldLine f.1 f.2) ++ rest) name = some x := by
  have := length_decimal_u64 x
  rw [payloadGetU64Checked, payloadGetString_fields hname hfs hfind, hf,
    fitValue_decimal (by omega), Option.bind_some, readU64_decimal]

lemma fitValue_field {cap : ℕ} {t : FieldText cap} (h : t.bytes ≠ []) :
    fitValue cap t.bytes = some t.bytes := by
  have hlen := t.length_lt
  rw [fitValue, List.take_of_length_le (by omega), if_neg h]

lemma length_payloadGetHeaderString {payload name v : Bytes} {cap : ℕ}
    (h : payloadGetHeaderString payload name cap = some v) : v.length < cap := by
  obtain ⟨w, -, hfit⟩ := Option.bind_eq_some_iff.mp h
  obtain ⟨rfl, hne⟩ := fitValue_eq_some hfit
  have := List.length_take_le (cap - 1) w
  have := List.length_pos_of_ne_nil hne
  omega

/-! ## Responses -/

/-- A field of a reply of fields is read back. -/
lemma payloadGetString_reply {fs : List (String × Bytes)} (hfs : ∀ f ∈ fs, ReplyField f)
    (hnames : ∀ f ∈ fs, EQ ∉ ascii f.1) (hlen : fs.length ≤ 32) {name : Bytes} (hname : EQ ∉ name)
    {f : String × Bytes} (hfind : fs.find? (fun f => decide (name = ascii f.1)) = some f) (cap : ℕ) :
    payloadGetString (Reply.fields fs).response name cap = fitValue cap f.2 := by
  rw [(Reply.fields_fits hfs hlen).1]
  have hread := @payloadGetString_fields fs [] name f cap hname
    (fun f hf => ⟨hnames f hf, (hfs f hf).1.1, (hfs f hf).2.1⟩) hfind
  rwa [List.append_nil] at hread

/-- The names of a record's fields. -/
lemma names_payloadFields (r : Record) : ∀ f ∈ r.payloadFields, EQ ∉ ascii f.1 := by
  have hbackend : ∀ f ∈ r.backendFields, EQ ∉ ascii f.1 := by
    unfold Record.backendFields
    split
    · simp
    · simp only [List.forall_mem_cons, List.not_mem_nil, false_implies, implies_true, and_true]
      decide
  have hplacement : ∀ f ∈ r.placementFields, EQ ∉ ascii f.1 := by
    simp only [Record.placementFields, List.forall_mem_cons, List.not_mem_nil, false_implies,
      implies_true, and_true]
    decide
  intro f hf
  simp only [Record.payloadFields, List.mem_append, List.mem_cons, List.not_mem_nil, or_false] at hf
  rcases hf with ((rfl | rfl) | hf) | hf
  · exact (by decide : EQ ∉ ascii "key")
  · exact (by decide : EQ ∉ ascii "kind")
  · exact hplacement f hf
  · exact hbackend f hf

end MemService
