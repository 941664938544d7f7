import MemService.StagedRestore

/-!
# What a query's expectations guarantee

A query or a resolve request may carry expectations about the record: four texts and three numbers,
`expected_*` lines of its payload.  A success is meant to say that every one of them is met.

The handler compares what the getters read.  A getter reads the first line of its name, cut to its
buffer, and a number that cannot be read is passed over like one that is not there.  So a success
guarantees an expectation exactly when the getter reads the line as it stands; `ReadsExpectations` is
that condition on the payload, and it is exact up to requests that no record can answer.
-/

open ByteText CNumeral

namespace MemService

/-! ## Expectations -/

/-- The expectations that are texts. -/
inductive TextExpectation
  | sessionId | modelKey | artifactKind | artifactId
  deriving DecidableEq

/-- The expectations that are numbers. -/
inductive NumberExpectation
  | owner | version | checksum
  deriving DecidableEq

namespace TextExpectation

def name : TextExpectation → String
  | sessionId => "expected_session_id"
  | modelKey => "expected_model_key"
  | artifactKind => "expected_artifact_kind"
  | artifactId => "expected_artifact_id"

/-- The value of the record the expectation is about. -/
def actual (x : TextExpectation) (r : Record) : Bytes :=
  match x with
  | sessionId => r.sessionIdOr
  | modelKey => r.modelKeyOr
  | artifactKind => r.artifactKindOr
  | artifactId => r.artifactIdOr

/-- The size of the record's buffer for it. -/
def cap : TextExpectation → ℕ
  | artifactId => 96
  | _ => 64

end TextExpectation

namespace NumberExpectation

def name : NumberExpectation → String
  | owner => "expected_owner"
  | version => "expected_version"
  | checksum => "expected_checksum"

@[inherit_doc TextExpectation.actual]
def actual (x : NumberExpectation) (r : Record) : ℕ :=
  match x with
  | owner => r.objectOwnerNode.toNat
  | version => r.version.toNat
  | checksum => r.objectPayloadChecksum.toNat

/-- The number the handler reads. -/
def read (x : NumberExpectation) (p : Payload) : Option ℕ :=
  match x with
  | owner => (p.getU32Checked "expected_owner").map UInt32.toNat
  | version => (p.getU64Checked "expected_version").map UInt64.toNat
  | checksum => (p.getU64Checked "expected_checksum").map UInt64.toNat

end NumberExpectation

/-- The number a text denotes: a decimal, octal or hexadecimal literal of C, and nothing else. -/
def denoted (v : Bytes) : Option ℕ :=
  match scan 0 v with
  | some (false, n, []) => some n
  | some (true, 0, []) => some 0
  | _ => none

/-- The payload has the line, and it says something. -/
def Payload.Expects (p : Payload) (name : String) (v : Bytes) : Prop :=
  fieldLine name v ∈ lines p.bytes ∧ v ≠ []

/-- The record is what every expectation of the payload says. -/
structure Record.Meets (r : Record) (p : Payload) : Prop where
  texts : ∀ (x : TextExpectation) v, p.Expects x.name v → v = x.actual r
  numbers : ∀ (x : NumberExpectation) v, p.Expects x.name v → denoted v = some (x.actual r)

/-- The handler reads every expectation as it stands. -/
structure Payload.ReadsExpectations (p : Payload) : Prop where
  texts : ∀ (x : TextExpectation) v, p.Expects x.name v → p.getString x.name 96 = some v
  numbers : ∀ (x : NumberExpectation) v, p.Expects x.name v →
    ∃ n, x.read p = some n ∧ denoted v = some n

/-! ## The checks -/

/-- The checks of the handler pass exactly when what it reads is what the record holds. -/
lemma expectedContextStatus_eq_ok_iff {p : Payload} {r : Record} :
    expectedContextStatus p r = WireStatus.ok ↔
      (∀ (x : TextExpectation) v, p.getString x.name 96 = some v → x.actual r = v) ∧
      (∀ (x : NumberExpectation) n, x.read p = some n → x.actual r = n) := by
  have htext : ∀ name actual, p.stringMismatch name actual = true ↔
      ∃ v, p.getString name 96 = some v ∧ actual ≠ v := by
    intro name actual
    rw [Payload.stringMismatch, Option.any_eq_true]
    simp
  have hu64 : ∀ (o : Option UInt64) (x : UInt64), (o.any (x != ·)) = true ↔
      ∃ n, o.map UInt64.toNat = some n ∧ x.toNat ≠ n := by
    intro o x
    cases o with
    | none => simp
    | some y => simp [UInt64.toNat_inj]
  have hu32 : ∀ (o : Option UInt32) (x : UInt32), (o.any (x != ·)) = true ↔
      ∃ n, o.map UInt32.toNat = some n ∧ x.toNat ≠ n := by
    intro o x
    cases o with
    | none => simp
    | some y => simp [UInt32.toNat_inj]
  unfold expectedContextStatus
  constructor
  · intro h
    split at h
    · exact absurd h (by decide)
    rename_i hsession
    split at h
    · exact absurd h (by decide)
    rename_i hmodel
    split at h
    · exact absurd h (by decide)
    rename_i hartifact
    split at h
    · exact absurd h (by decide)
    rename_i howner
    split at h
    · exact absurd h (by decide)
    rename_i hversion
    split at h
    · exact absurd h (by decide)
    rename_i hchecksum
    rw [Bool.or_eq_true, not_or] at hartifact
    rw [htext] at hsession hmodel hartifact
    rw [htext] at hartifact
    rw [hu32] at howner
    rw [hu64] at hversion hchecksum
    push Not at hsession hmodel hartifact howner hversion hchecksum
    refine ⟨fun x => ?_, fun x => ?_⟩
    · cases x with
      | sessionId => exact hsession
      | modelKey => exact hmodel
      | artifactKind => exact hartifact.1
      | artifactId => exact hartifact.2
    · cases x with
      | owner => exact howner
      | version => exact hversion
      | checksum => exact hchecksum
  · rintro ⟨htexts, hnumbers⟩
    have hno : ∀ x : TextExpectation, ¬ p.stringMismatch x.name (x.actual r) = true := by
      intro x hx
      obtain ⟨v, hv, hne⟩ := (htext _ _).mp hx
      exact hne (htexts x v hv)
    have howner : ¬ ((p.getU32Checked "expected_owner").any (r.objectOwnerNode != ·)) = true := by
      intro hx
      obtain ⟨n, hn, hne⟩ := (hu32 _ _).mp hx
      exact hne (hnumbers .owner n hn)
    have hversion : ¬ ((p.getU64Checked "expected_version").any (r.version != ·)) = true := by
      intro hx
      obtain ⟨n, hn, hne⟩ := (hu64 _ _).mp hx
      exact hne (hnumbers .version n hn)
    have hchecksum : ¬ ((p.getU64Checked "expected_checksum").any
        (r.objectPayloadChecksum != ·)) = true := by
      intro hx
      obtain ⟨n, hn, hne⟩ := (hu64 _ _).mp hx
      exact hne (hnumbers .checksum n hn)
    have hsession : ¬ p.stringMismatch "expected_session_id" r.sessionIdOr = true := hno .sessionId
    have hmodel : ¬ p.stringMismatch "expected_model_key" r.modelKeyOr = true := hno .modelKey
    have hartifact : ¬ (p.stringMismatch "expected_artifact_kind" r.artifactKindOr ||
        p.stringMismatch "expected_artifact_id" r.artifactIdOr) = true := by
      rw [Bool.or_eq_true]
      rintro (h | h)
      · exact hno .artifactKind h
      · exact hno .artifactId h
    rw [if_neg hsession, if_neg hmodel, if_neg hartifact, if_neg howner, if_neg hversion,
      if_neg hchecksum]

/-- A query that is answered as a success found a record of its kind that passed the checks. -/
lemma queryArtifact_ok {env : Env} {storageRoot : Bool} {svc : Service} {p : Payload}
    {kind : RecordKind} (henforce : svc.enforceExpectedContext = true)
    (h : (queryArtifact env storageRoot svc p kind).status = WireStatus.ok) :
    ∃ key r, p.getString "key" 96 = some key ∧ svc.findRecord key = some r ∧ r.kind = kind ∧
      expectedContextStatus p r = WireStatus.ok := by
  unfold queryArtifact at h
  split at h
  · exact absurd h (by decide)
  rename_i key hkey
  split at h
  · exact absurd h (by decide)
  rename_i r hfind
  obtain ⟨hfound, hkind⟩ := Option.filter_eq_some_iff.mp hfind
  refine ⟨key, r, hkey, hfound, by simpa using hkind, ?_⟩
  split at h
  · rename_i hbad
    exact absurd h hbad.2
  · rename_i hgood
    by_contra hne
    exact hgood ⟨henforce, hne⟩

/-- What is read as it stands is guaranteed. -/
lemma Payload.ReadsExpectations.meets {p : Payload} (h : p.ReadsExpectations) {r : Record}
    (hok : expectedContextStatus p r = WireStatus.ok) : r.Meets p := by
  obtain ⟨htexts, hnumbers⟩ := expectedContextStatus_eq_ok_iff.mp hok
  refine ⟨fun x v hv => ?_, fun x v hv => ?_⟩
  · exact (htexts x v (h.texts x v hv)).symm
  · obtain ⟨n, hread, hden⟩ := h.numbers x v hv
    rw [hnumbers x n hread, hden]

/-! ## A record that passes -/

/-- A record can pass the checks: the payload names one, and the texts it reads fit a record. -/
structure Payload.Answerable (p : Payload) : Prop where
  key : ∃ key, p.getString "key" 96 = some key
  texts : ∀ (x : TextExpectation) v, p.getString x.name 96 = some v → v.length < x.cap

/-- The text a record holds to pass the check. -/
def TextExpectation.fitting (x : TextExpectation) (p : Payload) (cap : ℕ) [NeZero cap] :
    FieldText cap :=
  ((p.getString x.name 96).map FieldText.copy).getD FieldText.blank

/-- The record that holds what the handler reads, and `spare` where it reads no number. -/
def Payload.fittingRecord (p : Payload) (kind : RecordKind) (key : FieldText 96) (spare : ℕ) :
    Record :=
  { kind := kind
    key := key
    version := UInt64.ofNat ((NumberExpectation.version.read p).getD spare)
    sessionId := TextExpectation.sessionId.fitting p 64
    modelKey := TextExpectation.modelKey.fitting p 64
    artifactKind := TextExpectation.artifactKind.fitting p 64
    artifactId := TextExpectation.artifactId.fitting p 96
    objectOwnerNode := UInt32.ofNat ((NumberExpectation.owner.read p).getD spare)
    objectPayloadChecksum := UInt64.ofNat ((NumberExpectation.checksum.read p).getD spare) }

section Fitting

variable {p : Payload} {kind : RecordKind} {key : FieldText 96} {spare : ℕ}

lemma TextExpectation.bytes_fitting (x : TextExpectation) (h : p.Answerable) (cap : ℕ)
    [NeZero cap] (hcap : x.cap = cap) :
    (x.fitting p cap).bytes = (p.getString x.name 96).getD [] := by
  unfold fitting
  cases hread : p.getString x.name 96 with
  | none => rfl
  | some v =>
      have hlen := h.texts x v hread
      rw [Option.map_some, Option.getD_some, Option.getD_some, FieldText.bytes_copy
        (Payload.plain_getString hread), List.take_of_length_le (by omega)]

/-- The record's texts are those that are read, and empty where none is. -/
lemma actual_fittingRecord_text (h : p.Answerable) (x : TextExpectation) :
    x.actual (p.fittingRecord kind key spare) = (p.getString x.name 96).getD [] := by
  have hor : ∀ {c c' : ℕ} [NeZero c] [NeZero c'] (t : FieldText c),
      (if t.bytes ≠ [] then t.bytes else (FieldText.blank : FieldText c').bytes) = t.bytes := by
    intro c c' _ _ t
    split
    · rfl
    · rename_i hnil
      rw [not_not.mp hnil]
      rfl
  cases x with
  | sessionId => exact (hor _).trans (TextExpectation.bytes_fitting .sessionId h 64 rfl)
  | modelKey => exact (hor _).trans (TextExpectation.bytes_fitting .modelKey h 64 rfl)
  | artifactKind => exact (hor _).trans (TextExpectation.bytes_fitting .artifactKind h 64 rfl)
  | artifactId => exact (hor _).trans (TextExpectation.bytes_fitting .artifactId h 96 rfl)

/-- The record's numbers are those that are read, and `spare` where none is. -/
lemma actual_fittingRecord_number (hspare : spare < 2 ^ 32) (x : NumberExpectation) :
    x.actual (p.fittingRecord kind key spare) = (x.read p).getD spare := by
  have h64 : ∀ o : Option UInt64, (o.map UInt64.toNat).getD spare < 2 ^ 64 := by
    intro o
    cases o with
    | none => exact Nat.lt_trans hspare (by norm_num)
    | some n => exact n.toNat_lt
  have h32 : ∀ o : Option UInt32, (o.map UInt32.toNat).getD spare < 2 ^ 32 := by
    intro o
    cases o with
    | none => exact hspare
    | some n => exact n.toNat_lt
  cases x with
  | owner => exact UInt32.toNat_ofNat_of_lt' (h32 _)
  | version => exact UInt64.toNat_ofNat_of_lt' (h64 _)
  | checksum => exact UInt64.toNat_ofNat_of_lt' (h64 _)

lemma expectedContextStatus_fittingRecord (h : p.Answerable) (hspare : spare < 2 ^ 32) :
    expectedContextStatus p (p.fittingRecord kind key spare) = WireStatus.ok := by
  rw [expectedContextStatus_eq_ok_iff]
  refine ⟨fun x v hv => ?_, fun x n hn => ?_⟩
  · rw [actual_fittingRecord_text h, hv, Option.getD_some]
  · rw [actual_fittingRecord_number hspare, hn, Option.getD_some]

/-- A payload that is not read as it stands is passed by a record that does not meet it. -/
lemma not_meets_fittingRecord (h : p.Answerable) (hread : ¬ p.ReadsExpectations) :
    ∃ spare, spare < 2 ^ 32 ∧ ∀ kind key, ¬ (p.fittingRecord kind key spare).Meets p := by
  by_contra hall
  push Not at hall
  refine hread ⟨fun x v hv => ?_, fun x v hv => ?_⟩
  · obtain ⟨kind, key, hmeets⟩ := hall 0 (by norm_num)
    have hactual := hmeets.texts x v hv
    rw [actual_fittingRecord_text h] at hactual
    cases hx : p.getString x.name 96 with
    | none =>
        rw [hx] at hactual
        exact absurd hactual hv.2
    | some w =>
        rw [hx] at hactual
        rw [hactual]
        rfl
  · have hspare : ∀ spare, spare < 2 ^ 32 → denoted v = some ((x.read p).getD spare) := by
      intro spare hlt
      obtain ⟨kind, key, hmeets⟩ := hall spare hlt
      have := hmeets.numbers x v hv
      rwa [actual_fittingRecord_number hlt] at this
    cases hx : x.read p with
    | none =>
        -- no number is both of two spares
        have h0 := hspare 0 (by norm_num)
        have h1 := hspare 1 (by norm_num)
        rw [hx] at h0 h1
        rw [h0] at h1
        cases h1
    | some n =>
        have h0 := hspare 0 (by norm_num)
        rw [hx] at h0
        exact ⟨n, rfl, h0⟩

end Fitting

/-! ## Queries -/

/-- The requests that carry expectations, with the kind of record each is about. -/
def queries : List (WireOperation × RecordKind) :=
  [(.resolveRuntimeHandoff, RecordKind.runtimeHandoff),
    (.queryExecutionArtifact, RecordKind.executionArtifact),
    (.queryTrainingArtifact, RecordKind.trainingArtifact)]

lemma dispatchOperation_query {op : WireOperation} {kind : RecordKind} (h : (op, kind) ∈ queries)
    (env : Env) (storageRoot : Bool) (s : ServiceState) (p : Payload) :
    dispatchOperation env storageRoot s op.code p =
      (s, queryArtifact env storageRoot s.svc p kind) ∧ operationMutates op.code p = false ∧
      kind ≠ RecordKind.none := by
  simp only [queries, List.mem_cons, Prod.mk.injEq, List.not_mem_nil, or_false] at h
  rcases h with ⟨rfl, rfl⟩ | ⟨rfl, rfl⟩ | ⟨rfl, rfl⟩
  all_goals
    refine ⟨?_, ?_, by decide⟩
    · simp only [dispatchOperation, WireOperation.ofCode_code]
      rfl
    · simp only [operationMutates, WireOperation.ofCode_code]

/-- A query is executed, and the client gets the handler's answer. -/
lemma Daemon.answer_query {op : WireOperation} {kind : RecordKind} (h : (op, kind) ∈ queries)
    {cfg : Config} {d : Daemon} {st : Step} (hop : st.req.operation = op.code) :
    d.answer cfg st = queryArtifact st.env cfg.storageRoot d.state.svc st.req.payload kind := by
  obtain ⟨hdispatch, hmut, -⟩ :=
    dispatchOperation_query h st.env cfg.storageRoot d.state st.req.payload
  rw [Daemon.answer_of_read (by rw [hop, hmut]), hop, hdispatch]

/-- The service that holds one record. -/
lemma exists_service_of_record {r : Record} (hr : Service.ValidRecord r) :
    ∃ svc : Service, svc.WellFormed ∧ svc.enforceExpectedContext = true ∧
      svc.findRecord r.keyBytes = some r := by
  have hroom : Service.fresh.putRecord r ≠ none := by
    intro hnone
    have := (Service.putRecord_eq_none_iff.mp hnone).2
    exact absurd this (by decide)
  obtain ⟨svc, hsvc⟩ := Option.ne_none_iff_exists'.mp hroom
  refine ⟨svc, Service.wellFormed_fresh.putRecord hr hsvc, ?_, ?_⟩
  · obtain ⟨t, -, rfl⟩ := Service.putRecord_eq_some hsvc
    rfl
  · rw [Service.findRecord_putRecord (SlotTable.uniqueKeys_empty _) hsvc, if_pos rfl]

/-- **Queries and their expectations.**  For every query and every payload: in every well-formed
state, so in every reachable one, a success means that the record found meets every expectation of
the payload, if and only if the handler reads every expectation as it stands, or no record can pass
what it reads. -/
theorem queries_fail_closed_iff {op : WireOperation} {kind : RecordKind}
    (h : (op, kind) ∈ queries) (p : Payload) :
    (∀ (cfg : Config) (d : Daemon) (st : Step), d.WellFormed →
      d.state.svc.enforceExpectedContext = true → st.req = ⟨op.code, p⟩ →
      (d.answer cfg st).status = WireStatus.ok →
      ∃ key r, p.getString "key" 96 = some key ∧ d.state.svc.findRecord key = some r ∧
        r.kind = kind ∧ r.Meets p) ↔
    (p.ReadsExpectations ∨ ¬ p.Answerable) := by
  constructor
  · intro hall
    by_contra hno
    rw [not_or, not_not] at hno
    obtain ⟨hread, hanswerable⟩ := hno
    obtain ⟨spare, hspare, hbad⟩ := not_meets_fittingRecord hanswerable hread
    obtain ⟨key, hkey⟩ := hanswerable.key
    have hcopy : (FieldText.copy key : FieldText 96).bytes = key := by
      have := length_payloadGetString hkey
      rw [FieldText.bytes_copy (Payload.plain_getString hkey), List.take_of_length_le (by omega)]
    have hkind := (dispatchOperation_query h Env.idle false ⟨Service.fresh, none⟩ p).2.2
    have hvalid : Service.ValidRecord (p.fittingRecord kind (.copy key) spare) := by
      refine ⟨?_, hkind⟩
      show (FieldText.copy key : FieldText 96).bytes ≠ []
      rw [hcopy]
      exact (payloadGetString_subset hkey).1
    obtain ⟨svc, hw, henforce, hfind⟩ := exists_service_of_record hvalid
    have hfind' : svc.findRecord key = some (p.fittingRecord kind (.copy key) spare) := by
      rw [← hfind]
      exact congrArg svc.findRecord hcopy.symm
    have hanswer : (Daemon.answer Config.durable ⟨⟨svc, none⟩, ⟨none, none⟩⟩
        ⟨⟨op.code, p⟩, Env.idle, Writes.allDone⟩).status = WireStatus.ok := by
      rw [Daemon.answer_query h rfl]
      have hfindKind : findKind svc key kind = some (p.fittingRecord kind (.copy key) spare) := by
        rw [findKind, hfind', Option.filter_some, if_pos (by simp [Payload.fittingRecord])]
      have hblock : validatePayloadBlock Env.idle true (p.fittingRecord kind (.copy key) spare) =
          WireStatus.ok := rfl
      have hcontext : expectedContextStatus p (p.fittingRecord kind (.copy key) spare) =
          WireStatus.ok := expectedContextStatus_fittingRecord hanswerable hspare
      simp [queryArtifact, hkey, hfindKind, hcontext, Config.durable, hblock, Reply.fields]
    obtain ⟨key', r, hkey', hr, -, hmeets⟩ := hall Config.durable ⟨⟨svc, none⟩, ⟨none, none⟩⟩
      ⟨⟨op.code, p⟩, Env.idle, Writes.allDone⟩ ⟨hw, by rintro _ ⟨⟩⟩ henforce rfl hanswer
    rw [hkey] at hkey'
    cases hkey'
    rw [hfind'] at hr
    cases hr
    exact hbad _ _ hmeets
  · intro hcond cfg d st _ henforce hreq hok
    rw [Daemon.answer_query h (by rw [hreq]), hreq] at hok
    obtain ⟨key, r, hkey, hfind, hkind, hcontext⟩ := queryArtifact_ok henforce hok
    refine ⟨key, r, hkey, hfind, hkind, ?_⟩
    rcases hcond with hread | hno
    · exact hread.meets hcontext
    · refine absurd ⟨⟨key, hkey⟩, fun x v hv => ?_⟩ hno
      rw [← (expectedContextStatus_eq_ok_iff.mp hcontext).1 x v hv]
      have hlen : ∀ {c c' : ℕ} (t : FieldText c) (u : FieldText c') (n : ℕ), c ≤ n → c' ≤ n →
          (if t.bytes ≠ [] then t.bytes else u.bytes).length < n := by
        intro c c' t u n hc hc'
        have ht := t.length_lt
        have hu := u.length_lt
        split <;> omega
      cases x with
      | sessionId => exact hlen _ _ 64 le_rfl le_rfl
      | modelKey => exact hlen _ _ 64 le_rfl le_rfl
      | artifactKind => exact hlen _ _ 64 le_rfl le_rfl
      | artifactId => exact hlen _ _ 96 le_rfl le_rfl

/-- A registration of the artifact `a` in its version 7. -/
def Payload.seventhVersion : Payload :=
  ⟨unlines [ascii "key=a", ascii "version=7"], by decide, by decide⟩

/-- A query for that version. -/
def Payload.expectSeventh : Payload :=
  ⟨unlines [ascii "key=a", ascii "expected_version=7"], by decide, by decide⟩

lemma Payload.Expects.line {p : Payload} {name : String} {v : Bytes} (h : p.Expects name v) :
    ∃ l ∈ lines p.bytes, (fieldLine name []).isPrefixOf l = true ∧
      v = l.drop (fieldLine name []).length := by
  refine ⟨fieldLine name v, h.1, ?_, ?_⟩
  · rw [List.isPrefixOf_iff_prefix]
    exact ⟨v, by simp [fieldLine]⟩
  · simp [fieldLine]

theorem queries_fail_closed_iff_version :
    ∃ key r, Payload.expectSeventh.getString "key" 96 = some key ∧
      (Daemon.after .registerExecutionArtifact .seventhVersion).state.svc.findRecord key = some r ∧
      r.kind = RecordKind.executionArtifact ∧ r.Meets .expectSeventh := by
  have hreads : Payload.expectSeventh.ReadsExpectations := by
    have htexts : ∀ x : TextExpectation, ∀ l ∈ lines Payload.expectSeventh.bytes,
        (fieldLine x.name []).isPrefixOf l = false := by
      intro x
      cases x <;> decide
    have hnumbers : ∀ x : NumberExpectation, ∀ l ∈ lines Payload.expectSeventh.bytes,
        (fieldLine x.name []).isPrefixOf l = true →
          x.read .expectSeventh = some 7 ∧
            denoted (l.drop (fieldLine x.name []).length) = some 7 := by
      intro x
      cases x <;> decide
    refine ⟨fun x v hv => ?_, fun x v hv => ?_⟩
    · obtain ⟨l, hl, hname, -⟩ := hv.line
      rw [htexts x l hl] at hname
      cases hname
    · obtain ⟨l, hl, hname, rfl⟩ := hv.line
      exact ⟨7, hnumbers x l hl hname⟩
  exact (@queries_fail_closed_iff .queryExecutionArtifact RecordKind.executionArtifact
    (by decide) .expectSeventh).mpr (.inl hreads)
    Config.durable (Daemon.after .registerExecutionArtifact .seventhVersion)
    (Step.idle .queryExecutionArtifact .expectSeventh) (Daemon.reachable_after _ _).wellFormed
    rfl rfl (by decide +kernel)

/-- A version that is no number is passed over. -/
theorem query_answered_past_expectation :
    (Daemon.after .registerExecutionArtifact .seventhVersion).Reachable Config.durable ∧
    (Daemon.after .registerExecutionArtifact .seventhVersion).state.svc.enforceExpectedContext =
      true ∧
    ((Daemon.after .registerExecutionArtifact .seventhVersion).answer Config.durable
      (Step.idle .queryExecutionArtifact ⟨unlines [ascii "key=a", ascii "expected_version=x"],
        by decide, by decide⟩)).status = WireStatus.ok ∧
    ∀ r : Record, ¬ r.Meets ⟨unlines [ascii "key=a", ascii "expected_version=x"], by decide, by decide⟩ := by
  refine ⟨Daemon.reachable_after _ _, rfl, by decide +kernel, fun r hmeets => ?_⟩
  have h := hmeets.numbers .version (ascii "x") ⟨by decide, by decide⟩
  rw [show denoted (ascii "x") = none from by decide] at h
  cases h

end MemService
