import MemService.Coherence

/-!
# One key space

All records share one key space.  An object and the three sorts of artifact go by a key that the client
chooses; prefix entries, groups and blocks go by keys that are built from the parts of a request.

Two things can go wrong there.  A key reaches the table through a getter that cuts it to the 95 bytes of
the key field and says nothing about it, so that longer keys with a common start are one key to the
daemon: `keys_apart_iff` says that this is the only way in which keys are confused.  And a writer that
finds a record under its key may find one of another kind.  The group record and a registration's prefix
entry are checked for it; objects, artifacts, published prefix entries and blocks are not, and replace
what is there: `kinds_stable` is about the runs in which none of them does.
-/

open ByteText CNumeral

namespace MemService

/-! ## Keys on the wire -/

/-- The key field as it stands on the wire: what follows on the first line that starts with `key=`. -/
def Payload.wireKey (p : Payload) : Option Bytes :=
  ((lines p.bytes).find? fun l => (ascii "key" ++ [EQ]).isPrefixOf l).map fun l =>
    l.drop ((ascii "key").length + 1)

/-- The key the daemon works with is the key on the wire, cut to the key field. -/
lemma Payload.getString_key (p : Payload) : p.getString "key" 96 = p.wireKey.bind (fitValue 96) := by
  rw [Payload.wireKey, Option.bind_map]
  rfl

/-- The requests that write one record under a key of the client's, with the kind of that record. -/
def keyedWrites : List (WireOperation × RecordKind) :=
  [(.putObject, RecordKind.kvcacheObject), (.publishRuntimeHandoff, RecordKind.runtimeHandoff),
    (.registerExecutionArtifact, RecordKind.executionArtifact),
    (.registerTrainingArtifact, RecordKind.trainingArtifact)]

/-- The requests that put one record under a key of the client's. -/
def Request.PutsKeyed (req : Request) : Prop := ∃ w ∈ keyedWrites, req.operation = w.1.code

/-- The requests that read the record under a key of the client's. -/
def Request.ReadsKeyed (req : Request) : Prop :=
  ∃ op ∈ [WireOperation.getObject, .inspectObject, .materializeObject, .resolveRuntimeHandoff,
    .queryExecutionArtifact, .queryTrainingArtifact], req.operation = op.code

/-- The request is executed with success, and `r` is what it has left under its key; `k` is that key on
the wire. -/
structure Daemon.Puts (cfg : Config) (d : Daemon) (st : Step) (k : Bytes) (r : Record) : Prop where
  keyed : st.req.PutsKeyed
  key : st.req.payload.wireKey = some k
  executes : Executes cfg d.state.svc st.req
  ok : (d.answer cfg st).status = WireStatus.ok
  left : (st.req.payload.getString "key" 96).bind (d.step cfg st).state.svc.findRecord = some r

/-- The response is the text of a record: its fields, possibly with lines of the backend behind them, or
the fields of an inspection. -/
def Record.ShownBy (r : Record) (response : Bytes) : Prop :=
  (∃ extra, response = snprintf maxPayloadLen
    (unlines ((r.payloadFields ++ extra).map fun f => fieldLine f.1 f.2))) ∨
  response = respond (r.inspectFields.map fun f => fieldLine f.1 f.2)

/-! ## Writing and reading by key -/

lemma dispatch_keyedWrites {req : Request} {w : WireOperation × RecordKind} (h : w ∈ keyedWrites)
    (hop : req.operation = w.1.code) (env : Env) (storageRoot : Bool) (s : ServiceState) :
    ∃ clean out, dispatchOperation env storageRoot s req.operation req.payload = s.writes out ∧
      SingleWrite s.svc req.payload w.2 clean out := by
  simp only [keyedWrites, List.mem_cons, List.not_mem_nil, or_false] at h
  rw [hop]
  rcases h with rfl | rfl | rfl | rfl
  · exact ⟨_, _, rfl, putObject_cases env storageRoot s.svc req.payload⟩
  · exact ⟨_, _, rfl, storeArtifact_cases env storageRoot s.svc req.payload _⟩
  · exact ⟨_, _, rfl, storeArtifact_cases env storageRoot s.svc req.payload _⟩
  · exact ⟨_, _, rfl, storeArtifact_cases env storageRoot s.svc req.payload _⟩

/-- Without limits no request deletes. -/
lemma answerRequest_unlimited {cfg : Config} (h : cfg.limits = none) (env : Env) (s : ServiceState)
    (req : Request) : (answerRequest cfg env s req).checkpointPruned = false ∧
      (answerRequest cfg env s req).recordPruned = false := by
  have hexec : (executeOperation cfg env s req).2.2 = (false, false) := by
    unfold executeOperation
    generalize dispatchOperation env cfg.storageRoot s req.operation req.payload = out
    obtain ⟨s₁, reply⟩ := out
    simp only [h]
  unfold answerRequest
  split
  · exact ⟨rfl, rfl⟩
  · dsimp only
    split
    · exact ⟨rfl, rfl⟩
    · rw [hexec]
      exact ⟨rfl, rfl⟩

namespace Daemon.Puts

variable {cfg : Config} {d : Daemon} {st : Step} {k : Bytes} {r : Record}

/-- The record is under the first 95 bytes of the key. -/
lemma keyBytes (h : d.Puts cfg st k r) : r.keyBytes = k.take 95 ∧
    st.req.payload.getString "key" 96 = some (k.take 95) := by
  obtain ⟨key, hkey, hfind⟩ := Option.bind_eq_some_iff.mp h.left
  have hget := hkey
  rw [Payload.getString_key, h.key] at hkey
  obtain ⟨rfl, -⟩ := fitValue_eq_some hkey
  exact ⟨SlotTable.lookup_key hfind, hget⟩

/-- What a keyed request does to the table: its own record, and nothing else but deletions. -/
lemma findRecord (h : d.Puts cfg st k r) (hw : d.WellFormed) (key : Bytes) :
    (∀ r', (d.step cfg st).state.svc.findRecord key = some r' →
      if key = r.keyBytes then r' = r else d.state.svc.findRecord key = some r') ∧
    (cfg.limits = none → (d.step cfg st).state.svc.findRecord key =
      if key = r.keyBytes then some r else d.state.svc.findRecord key) := by
  have hu := hw.1.recordKeys
  obtain ⟨out, svc, hout, hdone, hpruned, hsame, hkept⟩ := step_of_success h.executes h.ok
  obtain ⟨w, hwrites, hop⟩ := h.keyed
  obtain ⟨clean, res, hres, hsingle⟩ := dispatch_keyedWrites hwrites hop st.env cfg.storageRoot d.state
  rw [hres] at hout
  subst hout
  have hfind (key : Bytes) : (d.step cfg st).state.svc.findRecord key = svc.findRecord key := by
    rw [Service.findRecord, Service.findRecord, hsame.1]
  cases hsingle with
  | refused hs => exact absurd hdone hs
  | @wrote r₀ svc' reply hkey _ hput _ _ =>
      have huout := Service.uniqueKeys_putRecord hu hput
      have hafter := Service.findRecord_putRecord hu hput
      have hback (key : Bytes) (r' : Record) (hr' : (d.step cfg st).state.svc.findRecord key = some r') :
          svc'.findRecord key = some r' := by
        rw [hfind] at hr'
        exact findRecord_of_pruned huout hpruned hr'
      -- the record left is the one that was put
      have hr : r₀ = r := by
        obtain ⟨key, hget, hleft⟩ := Option.bind_eq_some_iff.mp h.left
        rw [(Payload.getField_eq_some hkey).1] at hget
        cases hget
        have hsome := hback _ _ hleft
        rw [hafter, if_pos (show r₀.key.bytes = r₀.keyBytes from rfl)] at hsome
        exact Option.some_inj.mp hsome
      subst hr
      constructor
      · intro r' hr'
        have hsome := hback key r' hr'
        rw [hafter] at hsome
        split at hsome
        · rename_i heq
          rw [if_pos heq]
          exact (Option.some_inj.mp hsome).symm
        · rename_i hne
          rwa [if_neg hne]
      · intro hlimits
        obtain ⟨hcheckpoint, hrecord⟩ := answerRequest_unlimited hlimits st.env d.state st.req
        rw [hfind, hkept hcheckpoint hrecord]
        exact hafter key

end Daemon.Puts

section Reads

variable {env : Env} {storageRoot : Bool} {svc : Service} {p : Payload}

lemma shownBy_fields (r : Record) : r.ShownBy (Reply.fields r.payloadFields).response := by
  refine .inl ⟨[], ?_⟩
  rw [List.append_nil]
  rfl

/-- A record of a kind is the record under the key. -/
lemma findRecord_of_findKind {key : Bytes} {kind : RecordKind} {r : Record}
    (h : findKind svc key kind = some r) : svc.findRecord key = some r :=
  (Option.filter_eq_some_iff.mp h).1

lemma ubSsdSubmit_error {s : WireStatus} (h : ubSsdSubmit env p = .error s) : s ≠ WireStatus.ok := by
  unfold ubSsdSubmit at h
  split at h
  · cases hssd : env.ubSsd with
    | error t =>
        rw [hssd] at h
        cases h
        exact t.2
    | ok cpl =>
        rw [hssd] at h
        cases h
  · cases h
    decide

lemma getObject_shows (h : (getObject env storageRoot svc p).status = WireStatus.ok) :
    ∃ key r, p.getString "key" 96 = some key ∧ svc.findRecord key = some r ∧
      r.ShownBy (getObject env storageRoot svc p).response := by
  unfold getObject at h ⊢
  split at h
  · exact absurd h (by decide)
  rename_i key hkey
  split at h
  · exact absurd h (by decide)
  rename_i r hfind
  refine ⟨key, r, hkey, findRecord_of_findKind hfind, ?_⟩
  split at h
  · rename_i hvalid
    exact absurd h hvalid
  · rename_i hvalid
    rw [if_neg hvalid]
    split at h
    · rename_i hread
      rw [if_pos hread]
      cases hssd : ubSsdSubmit env p with
      | error s =>
          rw [hssd] at h
          exact absurd h (ubSsdSubmit_error hssd)
      | ok cpl => exact .inl ⟨_, rfl⟩
    · rename_i hread
      rw [if_neg hread]
      exact shownBy_fields r

lemma inspectObject_shows (h : (inspectObject env storageRoot svc p).status = WireStatus.ok) :
    ∃ key r, p.getString "key" 96 = some key ∧ svc.findRecord key = some r ∧
      r.ShownBy (inspectObject env storageRoot svc p).response := by
  unfold inspectObject at h ⊢
  split at h
  · exact absurd h (by decide)
  rename_i key hkey
  split at h
  · exact absurd h (by decide)
  rename_i r hfind
  refine ⟨key, r, hkey, findRecord_of_findKind hfind, ?_⟩
  split at h
  · rename_i hvalid
    exact absurd h hvalid
  · rename_i hvalid
    rw [if_neg hvalid]
    exact .inr rfl

lemma materializeObject_shows (h : (materializeObject env storageRoot svc p).status = WireStatus.ok) :
    ∃ key r, p.getString "key" 96 = some key ∧ svc.findRecord key = some r ∧
      r.ShownBy (materializeObject env storageRoot svc p).response := by
  unfold materializeObject at h ⊢
  split at h
  · rename_i key dest hkey hdest
    split at h
    · exact absurd h (by decide)
    rename_i r hfind
    refine ⟨key, r, hkey, findRecord_of_findKind hfind, ?_⟩
    split at h
    · exact absurd h (by decide)
    rename_i hversion
    split at h
    · exact absurd h (by decide)
    rename_i hchecksum
    split at h
    · rename_i hbad
      exact absurd h hbad
    rename_i hgood
    rw [if_neg hversion, if_neg hchecksum, if_neg hgood]
    exact shownBy_fields r
  · exact absurd h (by decide)

lemma queryArtifact_shows {kind : RecordKind}
    (h : (queryArtifact env storageRoot svc p kind).status = WireStatus.ok) :
    ∃ key r, p.getString "key" 96 = some key ∧ svc.findRecord key = some r ∧
      r.ShownBy (queryArtifact env storageRoot svc p kind).response := by
  unfold queryArtifact at h ⊢
  split at h
  · exact absurd h (by decide)
  rename_i key hkey
  split at h
  · exact absurd h (by decide)
  rename_i r hfind
  refine ⟨key, r, hkey, findRecord_of_findKind hfind, ?_⟩
  split at h
  · rename_i hbad
    exact absurd h hbad.2
  rename_i hmeets
  split at h
  · rename_i hbad
    exact absurd h hbad
  rename_i hvalid
  rw [if_neg hmeets, if_neg hvalid]
  exact shownBy_fields r

end Reads

/-- A read that succeeds shows the record under its key. -/
lemma Daemon.answer_shows {cfg : Config} {d : Daemon} {st : Step} (h : st.req.ReadsKeyed)
    (hok : (d.answer cfg st).status = WireStatus.ok) :
    ∃ key r, st.req.payload.getString "key" 96 = some key ∧
      d.state.svc.findRecord key = some r ∧ r.ShownBy (d.answer cfg st).response := by
  obtain ⟨op, hop, hcode⟩ := h
  have hmut : operationMutates st.req.operation st.req.payload = false := by
    simp only [List.mem_cons, List.not_mem_nil, or_false] at hop
    rcases hop with rfl | rfl | rfl | rfl | rfl | rfl
    all_goals
      simp only [operationMutates, hcode, WireOperation.ofCode_code]
  rw [Daemon.answer_of_read hmut, hcode] at hok ⊢
  simp only [List.mem_cons, List.not_mem_nil, or_false] at hop
  rcases hop with rfl | rfl | rfl | rfl | rfl | rfl
  · exact getObject_shows hok
  · exact inspectObject_shows hok
  · exact materializeObject_shows hok
  · exact queryArtifact_shows hok
  · exact queryArtifact_shows hok
  · exact queryArtifact_shows hok

/-! ## No aliasing -/

/-- After the second of two writes the records of both are there, each under its own key: the first is as
it was unless a retention pass has deleted it, and from then on, as long as a record is in place, a read
with its key string finds it and shows it. -/
structure Daemon.KeepsApart (cfg : Config) (d : Daemon) (second : Step) (k₁ k₂ : Bytes)
    (r₁ r₂ : Record) : Prop where
  distinct : r₁.key ≠ r₂.key
  kept : (d.step cfg second).state.svc.findRecord r₁.keyBytes = some r₁ ∨
    (cfg.limits ≠ none ∧ (d.step cfg second).state.svc.findRecord r₁.keyBytes = none)
  reads : ∀ (later : List Step) (read : Step), read.req.ReadsKeyed →
    ∀ w ∈ [(k₁, r₁), (k₂, r₂)], read.req.payload.wireKey = some w.1 →
      ((d.step cfg second).run cfg later).state.svc.findRecord w.2.keyBytes = some w.2 →
        (read.req.payload.getString "key" 96).bind
            ((d.step cfg second).run cfg later).state.svc.findRecord = some w.2 ∧
          ((((d.step cfg second).run cfg later).answer cfg read).status = WireStatus.ok →
            w.2.ShownBy (((d.step cfg second).run cfg later).answer cfg read).response)

/-- **Keys are told apart by their first 95 bytes.** Two put-object or register-artifact requests with
different key strings are executed with success, any requests between them, and the record of the first is
still in place when the second comes.  Then the two write different records, the second leaves the
first's alone, and every later read with either string is about the record written under it, if and only
if the strings differ within their first 95 bytes. -/
theorem keys_apart_iff {cfg : Config} {d : Daemon} (h : Daemon.Reachable cfg d) {first second : Step}
    {between : List Step} {k₁ k₂ : Bytes} {r₁ r₂ : Record}
    (hfirst : d.Puts cfg first k₁ r₁)
    (hlive : ((d.step cfg first).run cfg between).state.svc.findRecord r₁.keyBytes = some r₁)
    (hsecond : ((d.step cfg first).run cfg between).Puts cfg second k₂ r₂) :
    ((d.step cfg first).run cfg between).KeepsApart cfg second k₁ k₂ r₁ r₂ ↔
      k₁.take 95 ≠ k₂.take 95 := by
  obtain ⟨hk₁, hget₁⟩ := hfirst.keyBytes
  obtain ⟨hk₂, hget₂⟩ := hsecond.keyBytes
  have hw := ((h.step first).run between).wellFormed
  constructor
  · intro hapart heq
    exact hapart.distinct (FieldText.ext (hk₁.trans (heq.trans hk₂.symm)))
  · intro hdiff
    have hkeys : r₁.keyBytes ≠ r₂.keyBytes := by
      rw [hk₁, hk₂]
      exact hdiff
    obtain ⟨hback, hunlimited⟩ := hsecond.findRecord hw r₁.keyBytes
    rw [if_neg hkeys, hlive] at hunlimited
    refine ⟨fun heq => hkeys (congrArg FieldText.bytes heq), ?_, ?_⟩
    · cases hafter : (((d.step cfg first).run cfg between).step cfg second).state.svc.findRecord
          r₁.keyBytes with
      | some r =>
          have hsame := hback r hafter
          rw [if_neg hkeys, hlive] at hsame
          rw [Option.some_inj.mp hsame]
          exact .inl rfl
      | none =>
          refine .inr ⟨fun hlimits => ?_, rfl⟩
          rw [hunlimited hlimits] at hafter
          cases hafter
    · intro later read hread w hmem hwire hthere
      have hget : read.req.payload.getString "key" 96 = some w.2.keyBytes := by
        rw [Payload.getString_key, hwire]
        simp only [List.mem_cons, List.not_mem_nil, or_false] at hmem
        rcases hmem with rfl | rfl
        · rw [hk₁, ← hget₁, Payload.getString_key, hfirst.key]
        · rw [hk₂, ← hget₂, Payload.getString_key, hsecond.key]
      rw [hget, Option.bind_some]
      refine ⟨hthere, fun hok => ?_⟩
      obtain ⟨key, r, hkey, hfind, hshown⟩ := Daemon.answer_shows hread hok
      rw [hget] at hkey
      cases hkey
      rw [hthere] at hfind
      cases hfind
      exact hshown

/-- A put of an object with the given key and version. -/
def Payload.versionedObject (key : Bytes) (version : ℕ) : Bytes :=
  unlines [ascii "key=" ++ key, ascii "version=" ++ decimal version]

/-- A put of an object that has only a key. -/
def putPlain (key : String) (h : NUL ∉ ascii "key=" ++ ascii key)
    (hlen : (ascii "key=" ++ ascii key).length ≤ maxPayloadLen) : Step :=
  Step.idle .putObject ⟨ascii "key=" ++ ascii key, h, hlen⟩

/-- Two objects with short keys. -/
theorem keys_apart_iff_short :
    let first := putPlain "a" (by decide) (by decide)
    let second := putPlain "b" (by decide) (by decide)
    ∃ r₁ r₂, (Daemon.fresh.step Config.durable first).KeepsApart Config.durable second
      (ascii "a") (ascii "b") r₁ r₂ := by
  intro first second
  have hkeyA : idempotencyKey first.req.payload = none := by decide +kernel
  have hkeyB : idempotencyKey second.req.payload = none := by decide +kernel
  have hleftA : ((first.req.payload.getString "key" 96).bind
      (Daemon.fresh.step Config.durable first).state.svc.findRecord).isSome = true := by
    decide +kernel
  have hleftB : ((second.req.payload.getString "key" 96).bind
      ((Daemon.fresh.step Config.durable first).step Config.durable second).state.svc.findRecord).isSome =
        true := by
    decide +kernel
  obtain ⟨r₁, hr₁⟩ := Option.isSome_iff_exists.mp hleftA
  obtain ⟨r₂, hr₂⟩ := Option.isSome_iff_exists.mp hleftB
  have hfirst : Daemon.fresh.Puts Config.durable first (ascii "a") r₁ :=
    ⟨⟨(.putObject, RecordKind.kvcacheObject), by decide, rfl⟩, by decide +kernel,
      ⟨⟨none, by rw [tryIdempotencyReplay, hkeyA, ite_self]⟩, by decide +kernel⟩,
      by decide +kernel, hr₁⟩
  have hsecond : (Daemon.fresh.step Config.durable first).Puts Config.durable second (ascii "b") r₂ :=
    ⟨⟨(.putObject, RecordKind.kvcacheObject), by decide, rfl⟩, by decide +kernel,
      ⟨⟨none, by rw [tryIdempotencyReplay, hkeyB, ite_self]⟩, by decide +kernel⟩,
      by decide +kernel, hr₂⟩
  have hlive : (Daemon.fresh.step Config.durable first).state.svc.findRecord r₁.keyBytes = some r₁ := by
    obtain ⟨key, hget, hfind⟩ := Option.bind_eq_some_iff.mp hr₁
    rw [show r₁.keyBytes = key from SlotTable.lookup_key hfind]
    exact hfind
  exact ⟨r₁, r₂, (@keys_apart_iff Config.durable Daemon.fresh (Daemon.reachable_fresh _) first second []
    (ascii "a") (ascii "b") r₁ r₂ hfirst hlive hsecond).mpr (by decide)⟩

/-- A key of 96 bytes that ends in the given one. -/
def longKey (last : String) : Bytes := List.replicate 95 97 ++ ascii last

def putLong (last : String) (version : ℕ) (h : NUL ∉ Payload.versionedObject (longKey last) version)
    (hlen : (Payload.versionedObject (longKey last) version).length ≤ maxPayloadLen) : Step :=
  Step.idle .putObject ⟨Payload.versionedObject (longKey last) version, h, hlen⟩

/-- **Long keys are confused.** Two objects are put under keys of 96 bytes that differ in the last one;
the second replaces the first. -/
theorem long_keys_aliased :
    let first := putLong "b" 1 (by decide +kernel) (by decide +kernel)
    let second := putLong "c" 2 (by decide +kernel) (by decide +kernel)
    let d₁ := Daemon.fresh.step Config.durable first
    first.req.payload.wireKey = some (longKey "b") ∧ second.req.payload.wireKey = some (longKey "c") ∧
      (Daemon.fresh.answer Config.durable first).status = WireStatus.ok ∧
      (d₁.answer Config.durable second).status = WireStatus.ok ∧
      (d₁.state.svc.findRecord ((longKey "b").take 95)).map Record.version = some 1 ∧
      ((d₁.step Config.durable second).state.svc.findRecord ((longKey "b").take 95)).map
        Record.version = some 2 ∧
      (d₁.step Config.durable second).state.svc.recordCount = 1 := by
  decide +kernel

/-! ## Kinds -/

/-- The three keys of a block with the kinds of its records. -/
def BlockCtx.targets (ctx : BlockCtx) : List (Bytes × RecordKind) :=
  [((keyOrEmpty ctx.buildPrefixKey).bytes, RecordKind.requestPrefix),
    ((keyOrEmpty ctx.buildGroupKey).bytes, RecordKind.prefixGroup),
    ((keyOrEmpty ctx.buildBlockKey).bytes, RecordKind.blockMeta)]

/-- The keys a put, register or publish request is about, with the kind of record it has for each. -/
def Request.targets (req : Request) : List (Bytes × RecordKind) :=
  match WireOperation.ofCode req.operation with
  | some .registerPrefixEntry | some .publishKvSegment =>
      (fillBlockCtx req.payload).elim [] BlockCtx.targets
  | some op =>
      match keyedWrites.lookup op, req.payload.getString "key" 96 with
      | some kind, some key => [(key, kind)]
      | _, _ => []
  | none => []

/-- No check stops the request: a stored success answers it, or it is executed and nothing refuses it
before it writes, or it is the registration of a prefix entry that is there already. -/
inductive Step.Admitted (cfg : Config) (d : Daemon) (st : Step) : Prop
  | stored {reply : Reply}
      (h : tryIdempotencyReplay d.state.svc st.req.operation st.req.payload = .handled reply)
      (hok : reply.status = WireStatus.ok)
  | object {key : FieldText 96} {next : Record} (hex : Executes cfg d.state.svc st.req)
      (hop : st.req.operation = WireOperation.putObject.code)
      (hkey : st.req.payload.getField "key" 96 = some key)
      (hnext : objectRecord st.env cfg.storageRoot st.req.payload key = .ok next)
  | artifact {op : WireOperation} {kind : RecordKind} {key : FieldText 96} {next : Record}
      (hex : Executes cfg d.state.svc st.req) (hkind : (op, kind) ∈ keyedWrites.tail)
      (hop : st.req.operation = op.code) (hkey : st.req.payload.getField "key" 96 = some key)
      (hnext : artifactRecord st.env cfg.storageRoot st.req.payload kind key
        (d.state.svc.findRecord key.bytes) = .ok next)
  | block {ctx : BlockCtx} (hex : Executes cfg d.state.svc st.req)
      (h : Bootstraps d.state.svc st.req ctx)
  | known {ctx : BlockCtx} {entry : Record} (hex : Executes cfg d.state.svc st.req)
      (hop : st.req.operation = WireOperation.registerPrefixEntry.code)
      (hctx : fillBlockCtx st.req.payload = some ctx)
      (hentry : d.state.svc.findRecord (keyOrEmpty ctx.buildPrefixKey).bytes = some entry)
      (hkind : entry.kind = RecordKind.requestPrefix)
      (hlast : entry.lastResultSegment = ctx.resultSegmentId)
      (hhash : entry.blockHash = ctx.blockHash)

/-- If no check stops the request, every record it finds under one of its keys is of the kind it has for
that key. -/
def Step.FindsKinds (cfg : Config) (d : Daemon) (st : Step) : Prop :=
  st.Admitted cfg d → ∀ t ∈ st.req.targets, ∀ r, d.state.svc.findRecord t.1 = some r → r.kind = t.2

lemma targets_keyed {req : Request} {op : WireOperation} {kind : RecordKind}
    (h : (op, kind) ∈ keyedWrites) (hop : req.operation = op.code) {key : Bytes}
    (hkey : req.payload.getString "key" 96 = some key) : req.targets = [(key, kind)] := by
  simp only [keyedWrites, List.mem_cons, Prod.mk.injEq, List.not_mem_nil, or_false] at h
  rcases h with ⟨rfl, rfl⟩ | ⟨rfl, rfl⟩ | ⟨rfl, rfl⟩ | ⟨rfl, rfl⟩
  all_goals
    simp only [Request.targets, hop, WireOperation.ofCode_code, hkey]
    rfl

lemma targets_block {req : Request} (hop : req.operation = WireOperation.registerPrefixEntry.code ∨
    req.operation = WireOperation.publishKvSegment.code) {ctx : BlockCtx}
    (hctx : fillBlockCtx req.payload = some ctx) : req.targets = ctx.targets := by
  rcases hop with hop | hop
  all_goals
    simp only [Request.targets, hop, WireOperation.ofCode_code, hctx]
    rfl

/-! ## What is written where -/

namespace Service.BootstrapChain

variable {svc : Service} {ctx : BlockCtx} (c : svc.BootstrapChain ctx) (state : KvcacheState)

lemma targets : ctx.targets = [(c.prefixKey.bytes, RecordKind.requestPrefix),
    (c.groupKey.bytes, RecordKind.prefixGroup), (c.blockKey.bytes, RecordKind.blockMeta)] := by
  simp only [BlockCtx.targets, c.buildPrefixKey, c.buildGroupKey, c.buildBlockKey, keyOrEmpty,
    Option.getD_some]

/-- Every record is written under the key of its kind. -/
lemma writes_targets {r : Record} (h : c.Writes state r) : (r.keyBytes, r.kind) ∈ ctx.targets := by
  rw [c.targets]
  have hgroup : (c.group.keyBytes, c.group.kind) = (c.groupKey.bytes, RecordKind.prefixGroup) :=
    Prod.ext (congrArg FieldText.bytes c.groupOf.key) c.groupOf.kind
  have hgroup' : (c.groupWithResult.keyBytes, c.groupWithResult.kind) =
      (c.groupKey.bytes, RecordKind.prefixGroup) :=
    Prod.ext (congrArg FieldText.bytes c.groupOf_result.key) c.groupOf_result.kind
  simp only [Writes, records, List.mem_cons, List.not_mem_nil, or_false] at h ⊢
  rcases h with (rfl | rfl | rfl | rfl | rfl | rfl) | rfl | rfl
  · exact .inr (.inl hgroup)
  · exact .inl rfl
  · exact .inr (.inr rfl)
  · exact .inr (.inr rfl)
  · exact .inr (.inl hgroup')
  · exact .inl rfl
  · exact .inl rfl
  · exact .inr (.inr rfl)

end Service.BootstrapChain

/-- The same for a chain that ran out of slots. -/
lemma Service.CutShort.targets {svc : Service} {ctx : BlockCtx} {rs : List Record}
    (h : svc.CutShort ctx rs) {r : Record} (hr : r ∈ rs) : (r.keyBytes, r.kind) ∈ ctx.targets := by
  have hgroup {gk : FieldText 96} {g : Record} (hg : ctx.buildGroupKey = some gk)
      (hentry : ctx.groupEntry (svc.findRecord gk.bytes) gk = some g) :
      (g.keyBytes, g.kind) ∈ ctx.targets := by
    have hof : GroupOf gk ctx.blockHash g :=
      Service.groupOf_prefixGroupRecord (fun r hr => Service.key_of_findRecord hr) hentry
    rw [show g.keyBytes = gk.bytes from congrArg FieldText.bytes hof.key, hof.kind]
    simp [BlockCtx.targets, hg, keyOrEmpty]
  cases h with
  | beforePrefix hp hg hb hentry _ _ =>
      rw [List.mem_singleton.mp hr]
      exact hgroup hg hentry
  | beforeBlock hp hg hb hentry _ _ =>
      simp only [List.mem_cons, List.not_mem_nil, or_false] at hr
      rcases hr with rfl | rfl
      · exact hgroup hg hentry
      · simp [BlockCtx.targets, BlockCtx.prefixEntry, Record.keyBytes, hp, keyOrEmpty]

/-- The request does not replace the tables by a snapshot. -/
def Request.KeepsTables (req : Request) : Prop :=
  operationMutates req.operation req.payload →
    req.operation ≠ WireOperation.restoreSnapshot.code ∧
      req.operation ≠ WireOperation.restoreSnapshotPage.code

/-- The requests that change records one by one. -/
lemma Request.KeepsTables.cases {req : Request} (h : req.KeepsTables)
    (hmut : operationMutates req.operation req.payload) :
    (∃ w ∈ keyedWrites, req.operation = w.1.code) ∨
      req.operation = WireOperation.registerPrefixEntry.code ∨
        req.operation = WireOperation.publishKvSegment.code := by
  obtain ⟨hrestore, hpage⟩ := h hmut
  unfold operationMutates at hmut
  cases hop : WireOperation.ofCode req.operation with
  | none =>
      rw [hop] at hmut
      cases hmut
  | some op =>
      have hcode := (WireOperation.code_of_ofCode hop).symm
      rw [hop] at hmut
      cases op with
      | restoreSnapshot => exact absurd hcode hrestore
      | restoreSnapshotPage => exact absurd hcode hpage
      | putObject => exact .inl ⟨(.putObject, RecordKind.kvcacheObject), by decide, hcode⟩
      | publishRuntimeHandoff =>
          exact .inl ⟨(.publishRuntimeHandoff, RecordKind.runtimeHandoff), by decide, hcode⟩
      | registerExecutionArtifact =>
          exact .inl ⟨(.registerExecutionArtifact, RecordKind.executionArtifact), by decide, hcode⟩
      | registerTrainingArtifact =>
          exact .inl ⟨(.registerTrainingArtifact, RecordKind.trainingArtifact), by decide, hcode⟩
      | registerPrefixEntry => exact .inr (.inl hcode)
      | publishKvSegment => exact .inr (.inr hcode)
      | _ => cases hmut

/-- What a request writes it writes under its keys, as records of their kinds. -/
lemma dispatch_targets {s : ServiceState} (hu : s.svc.records.UniqueKeys Record.keyBytes)
    {req : Request} (hreq : req.KeepsTables) (env : Env) (storageRoot : Bool) :
    ∃ rs, s.svc.putAll rs =
        some (dispatchOperation env storageRoot s req.operation req.payload).1.svc ∧
      ∀ r ∈ rs, (r.keyBytes, r.kind) ∈ req.targets := by
  have hnone : s.svc.putAll [] = some s.svc := rfl
  by_cases hmut : operationMutates req.operation req.payload = true
  · rcases hreq.cases hmut with ⟨w, hw, hop⟩ | hchain
    · obtain ⟨clean, out, hout, hsingle⟩ := dispatch_keyedWrites hw hop env storageRoot s
      rw [hout]
      cases hsingle with
      | refused _ => exact ⟨[], hnone, by simp⟩
      | @wrote r svc' reply hkey hkind hput _ _ =>
          refine ⟨[r], by rw [Service.putAll_cons, hput]; rfl, fun r' hr' => ?_⟩
          rw [List.mem_singleton.mp hr',
            targets_keyed hw hop (Payload.getField_eq_some hkey).1, hkind]
          exact List.mem_singleton.mpr rfl
    · have houtcome : ChainOutcome s.svc req
          ((dispatchOperation env storageRoot s req.operation req.payload).1.svc,
            (dispatchOperation env storageRoot s req.operation req.payload).2) := by
        rcases hchain with hop | hop
        · have h := registerPrefix_chain hu hop
          rw [hop]
          exact h
        · have h := publishKv_chain hu hop
          rw [hop]
          exact h
      generalize (dispatchOperation env storageRoot s req.operation req.payload).1.svc = svc',
        (dispatchOperation env storageRoot s req.operation req.payload).2 = reply at houtcome
      cases houtcome with
      | untouched => exact ⟨[], hnone, by simp⟩
      | cutShort hboot hcut hput =>
          refine ⟨_, hput, fun r hr => ?_⟩
          rw [targets_block hchain hboot.context]
          exact hcut.targets hr
      | done hboot c hextra hput _ =>
          refine ⟨_, hput, fun r hr => ?_⟩
          rw [targets_block hchain hboot.context]
          rcases hextra with ⟨-, rfl⟩ | ⟨-, rfl⟩
          · exact c.writes_targets _ (c.writes_published _ hr)
          · exact c.writes_targets _ (c.writes_registered _ hr)
  · have heffect := dispatchOperation_effect env storageRoot hu req
    rw [heffect.svc_eq (Bool.eq_false_iff.mpr hmut)]
    exact ⟨[], hnone, by simp⟩

/-! ## Requests that are stopped -/

section Stopped

variable {cfg : Config} {d : Daemon} {st : Step}

/-- An executed request whose handler refuses it and writes nothing changes no record. -/
lemma refused_of_dispatch (hex : Executes cfg d.state.svc st.req)
    (herr : (dispatchOperation st.env cfg.storageRoot d.state st.req.operation
      st.req.payload).2.status ≠ WireStatus.ok)
    (hsame : (dispatchOperation st.env cfg.storageRoot d.state st.req.operation
      st.req.payload).1.svc = d.state.svc) :
    (d.answer cfg st).status ≠ WireStatus.ok ∧ SameRecords d.state.svc (d.step cfg st).state.svc := by
  have hrecords : SameRecords (answerRequest cfg st.env d.state st.req).state.svc
    (d.step cfg st).state.svc := d.step_records cfg st
  have hanswer := d.answer_cases cfg st
  have ha := answerRequest_answered cfg st.env d.state st.req
  generalize answerRequest cfg st.env d.state st.req = a at ha hrecords hanswer
  obtain ⟨⟨pending', hexec'⟩, hq'⟩ := hex
  cases ha with
  | replayed hr =>
      rw [hexec'] at hr
      cases hr
  | overQuota _ hq _ =>
      rw [hq'] at hq
      cases hq
  | @executed pending out svc cp rp hreplay hq hout hexec =>
      subst hout
      constructor
      · rcases hanswer with h | ⟨h, -⟩
        · rw [h]
          exact herr
        · exact absurd h herr
      · have hkept : svc = _ := hexec.kept_of_error herr
        rw [hkept, hsame] at hrecords
        exact SameRecords.trans (records_complete _ pending st.req _) hrecords

lemma keyed_stopped (h : ¬ st.Admitted cfg d) (hex : Executes cfg d.state.svc st.req)
    {w : WireOperation × RecordKind} (hw : w ∈ keyedWrites) (hop : st.req.operation = w.1.code) :
    (dispatchOperation st.env cfg.storageRoot d.state st.req.operation st.req.payload).2.status ≠
        WireStatus.ok ∧
      (dispatchOperation st.env cfg.storageRoot d.state st.req.operation st.req.payload).1.svc =
        d.state.svc := by
  have hartifact (kind : RecordKind) (hkind : (w.1, kind) ∈ keyedWrites.tail) :
      (storeArtifact st.env cfg.storageRoot d.state.svc st.req.payload kind).2.status ≠
          WireStatus.ok ∧
        (storeArtifact st.env cfg.storageRoot d.state.svc st.req.payload kind).1 = d.state.svc := by
    unfold storeArtifact
    split
    · exact ⟨show WireStatus.invalidSession ≠ WireStatus.ok by decide, rfl⟩
    · rename_i key hkey
      have hspec := describes_artifactRecord st.env cfg.storageRoot st.req.payload kind key
        (d.state.svc.findRecord key.bytes)
      split
      · rename_i s hs
        rw [hs] at hspec
        exact ⟨hspec, rfl⟩
      · rename_i next hnext
        exact absurd (.artifact hex hkind hop hkey hnext) h
  simp only [keyedWrites, List.mem_cons, List.not_mem_nil, or_false] at hw
  rw [hop]
  rcases hw with rfl | rfl | rfl | rfl
  · show (putObject st.env cfg.storageRoot d.state.svc st.req.payload).2.status ≠ WireStatus.ok ∧
      (putObject st.env cfg.storageRoot d.state.svc st.req.payload).1 = d.state.svc
    unfold putObject
    split
    · exact ⟨show WireStatus.invalidSession ≠ WireStatus.ok by decide, rfl⟩
    · rename_i key hkey
      have hspec := describes_objectRecord st.env cfg.storageRoot st.req.payload key
      split
      · rename_i s hs
        rw [hs] at hspec
        exact ⟨hspec, rfl⟩
      · rename_i next hnext
        exact absurd (.object hex hop hkey hnext) h
  · exact hartifact RecordKind.runtimeHandoff (by decide)
  · exact hartifact RecordKind.executionArtifact (by decide)
  · exact hartifact RecordKind.trainingArtifact (by decide)

lemma publish_stopped (hu : d.state.svc.records.UniqueKeys Record.keyBytes)
    (h : ∀ ctx, ¬ Bootstraps d.state.svc st.req ctx)
    (hop : st.req.operation = WireOperation.publishKvSegment.code) :
    (publishKv d.state.svc st.req.payload).2.status ≠ WireStatus.ok ∧
      (publishKv d.state.svc st.req.payload).1 = d.state.svc := by
  have hchain := publishKv_chain hu hop
  have hout := publishKv_outcome hu st.req.payload
  generalize publishKv d.state.svc st.req.payload = out at hchain hout
  constructor
  · cases hout with
    | noContext _ => exact (by decide : WireStatus.invalidSession ≠ WireStatus.ok)
    | failed _ _ => exact (by decide : WireStatus.internal ≠ WireStatus.ok)
    | done hctx c _ _ _ => exact absurd ⟨hctx, .inl hop, c.chainStarts⟩ (h _)
  · cases hchain with
    | untouched => rfl
    | cutShort hboot _ _ => exact absurd hboot (h _)
    | done hboot _ _ _ _ => exact absurd hboot (h _)

/-- A registration that succeeds was known already or has come to the bootstrap chain. -/
lemma registerPrefix_ok {svc : Service} {p : Payload}
    (hok : (registerPrefix svc p).2.status = WireStatus.ok) :
    ∃ ctx, fillBlockCtx p = some ctx ∧
      ((∃ entry, svc.findRecord (keyOrEmpty ctx.buildPrefixKey).bytes = some entry ∧
          entry.kind = RecordKind.requestPrefix ∧
          entry.lastResultSegment = ctx.resultSegmentId ∧ entry.blockHash = ctx.blockHash) ∨
        RegisterAdmits svc ctx) := by
  unfold registerPrefix at hok
  split at hok
  · exact absurd hok (show WireStatus.invalidSession ≠ WireStatus.ok by decide)
  rename_i ctx hctx
  refine ⟨ctx, hctx, ?_⟩
  split at hok
  · exact absurd hok (show WireStatus.invalidSession ≠ WireStatus.ok by decide)
  rename_i hresult
  dsimp only at hok
  split at hok
  · rename_i hnone
    refine .inr ⟨hresult, fun entry hentry => ?_⟩
    rw [hnone] at hentry
    cases hentry
  · rename_i entry hentry
    split at hok
    · exact absurd hok (show WireStatus.versionConflict ≠ WireStatus.ok by decide)
    rename_i hconflict
    push Not at hconflict
    obtain ⟨hkind, hle, hhash⟩ := hconflict
    split at hok
    · rename_i hknown
      exact .inl ⟨entry, hentry, hkind, hknown⟩
    · rename_i hunknown
      refine .inr ⟨hresult, fun entry' hentry' => ?_⟩
      rw [hentry] at hentry'
      cases hentry'
      exact ⟨hkind, UInt64.lt_of_le_of_ne (UInt64.not_lt.mp hle) fun heq =>
        hunknown ⟨heq, hhash heq⟩⟩

lemma register_stopped (hu : d.state.svc.records.UniqueKeys Record.keyBytes)
    (h : ¬ st.Admitted cfg d) (hex : Executes cfg d.state.svc st.req)
    (hop : st.req.operation = WireOperation.registerPrefixEntry.code) :
    (registerPrefix d.state.svc st.req.payload).2.status ≠ WireStatus.ok ∧
      (registerPrefix d.state.svc st.req.payload).1 = d.state.svc := by
  constructor
  · intro hok
    obtain ⟨ctx, hctx, ⟨entry, hentry, hkind, hlast, hhash⟩ | hadm⟩ := registerPrefix_ok hok
    · exact h (.known hex hop hctx hentry hkind hlast hhash)
    · obtain ⟨herror, -⟩ := registerPrefix_of_admits hctx hadm
      have hboot := Service.bootstrapKvcache_outcome hu ctx
      rcases hb : d.state.svc.bootstrapKvcache ctx with svc₁ | ⟨svc₁, r⟩
      · rw [herror svc₁ hb] at hok
        exact absurd hok (show WireStatus.internal ≠ WireStatus.ok by decide)
      · rw [hb] at hboot
        cases hboot with
        | done c _ => exact h (.block hex ⟨hctx, .inr ⟨hop, hadm⟩, c.chainStarts⟩)
  · have hchain := registerPrefix_chain hu hop
    generalize registerPrefix d.state.svc st.req.payload = out at hchain
    cases hchain with
    | untouched => rfl
    | cutShort hboot _ _ => exact absurd (.block hex hboot) h
    | done hboot _ _ _ _ => exact absurd (.block hex hboot) h

/-- **A request that a check stops** is answered with an error, and no record changes. -/
lemma stopped (hu : d.state.svc.records.UniqueKeys Record.keyBytes) (h : ¬ st.Admitted cfg d)
    (hreq : st.req.targets ≠ []) :
    (d.answer cfg st).status ≠ WireStatus.ok ∧ SameRecords d.state.svc (d.step cfg st).state.svc := by
  by_cases hex : Executes cfg d.state.svc st.req
  · have hdispatch : (dispatchOperation st.env cfg.storageRoot d.state st.req.operation
          st.req.payload).2.status ≠ WireStatus.ok ∧
        (dispatchOperation st.env cfg.storageRoot d.state st.req.operation st.req.payload).1.svc =
          d.state.svc := by
      cases hcode : WireOperation.ofCode st.req.operation with
      | none => simp [Request.targets, hcode] at hreq
      | some op =>
          have hop := (WireOperation.code_of_ofCode hcode).symm
          cases hkind : keyedWrites.lookup op with
          | some kind =>
              have hmem : (op, kind) ∈ keyedWrites := by
                obtain ⟨front, back, hsplit, -⟩ := List.lookup_eq_some_iff.mp hkind
                rw [hsplit]
                exact List.mem_append_right _ List.mem_cons_self
              exact keyed_stopped h hex hmem hop
          | none =>
              cases op with
              | registerPrefixEntry =>
                  rw [hop]
                  exact register_stopped hu h hex hop
              | publishKvSegment =>
                  rw [hop]
                  exact publish_stopped hu (fun ctx hboot => h (.block hex hboot)) hop
              | _ => simp [Request.targets, hcode, hkind] at hreq
    exact refused_of_dispatch hex hdispatch.1 hdispatch.2
  · refine ⟨?_, sameRecords_of_not_executes hex⟩
    have hanswer := d.answer_cases cfg st
    have ha := answerRequest_answered cfg st.env d.state st.req
    generalize answerRequest cfg st.env d.state st.req = a at ha hanswer
    have hreply : a.reply.status ≠ WireStatus.ok := by
      cases ha with
      | replayed hr => exact fun hok => h (.stored hr hok)
      | overQuota _ _ hq =>
          rw [hq]
          exact (by decide : WireStatus.capacityExceeded ≠ WireStatus.ok)
      | executed hexec hq _ _ => exact absurd ⟨⟨_, hexec⟩, hq⟩ hex
    rcases hanswer with heq | ⟨hok, -⟩
    · rw [heq]
      exact hreply
    · exact absurd hok hreply

end Stopped

/-! ## Kinds in runs -/

/-- One request keeps the kinds. -/
lemma kinds_step {cfg : Config} {d : Daemon} {st : Step} (hw : d.WellFormed)
    (h : st.FindsKinds cfg d) (hreq : st.req.KeepsTables) {k : Bytes} {r r' : Record}
    (hr : d.state.svc.findRecord k = some r)
    (hr' : (d.step cfg st).state.svc.findRecord k = some r') : r'.kind = r.kind := by
  have hu := hw.1.recordKeys
  have hsame (hsame : SameRecords d.state.svc (d.step cfg st).state.svc) : r'.kind = r.kind := by
    rw [Service.findRecord, hsame.1] at hr'
    rw [Option.some_inj.mp (hr.symm.trans hr')]
  by_cases hex : Executes cfg d.state.svc st.req
  · obtain ⟨rs, hput, htargets⟩ := dispatch_targets hu hreq st.env cfg.storageRoot
    have hrecords : SameRecords (answerRequest cfg st.env d.state st.req).state.svc
      (d.step cfg st).state.svc := d.step_records cfg st
    have hback : (dispatchOperation st.env cfg.storageRoot d.state st.req.operation
        st.req.payload).1.svc.findRecord k = some r' := by
      have ha := answerRequest_answered cfg st.env d.state st.req
      generalize answerRequest cfg st.env d.state st.req = a at ha hrecords
      obtain ⟨⟨pending', hexec'⟩, hq'⟩ := hex
      cases ha with
      | replayed hr =>
          rw [hexec'] at hr
          cases hr
      | overQuota _ hq _ =>
          rw [hq'] at hq
          cases hq
      | @executed pending out svc cp rp hreplay hq hout hexec =>
          subst hout
          have heq := SameRecords.trans (records_complete svc pending st.req _) hrecords
          rw [Service.findRecord, heq.1] at hr'
          exact findRecord_of_pruned (Service.uniqueKeys_putAll hu hput) hexec.pruned hr'
    rw [Service.findRecord_putAll hu hput] at hback
    cases hfind : rs.reverse.find? (fun q => q.keyBytes = k) with
    | none =>
        rw [hfind, Option.none_or] at hback
        rw [Option.some_inj.mp (hr.symm.trans hback)]
    | some q =>
        rw [hfind, Option.some_or] at hback
        obtain rfl : r' = q := (Option.some_inj.mp hback).symm
        have hmem := htargets r' (List.mem_reverse.mp (List.mem_of_find?_eq_some hfind))
        have hkey : r'.keyBytes = k := by simpa using List.find?_some hfind
        by_cases hadm : st.Admitted cfg d
        · exact (h hadm _ hmem r (by rw [hkey]; exact hr)).symm
        · exact hsame (stopped hu hadm (List.ne_nil_of_mem hmem)).2
  · exact hsame (sameRecords_of_not_executes hex)

/-- **Kinds are stable.** Take a run from any reachable state in which every request that no check stops
finds under its keys only records of the kinds it writes there.  Then every put, register or publish
request of the run on a key that names a record of another kind is answered with an error and leaves the
record as it is; and no request changes the kind of a record that stays in the table, restores apart,
which replace the table. -/
theorem kinds_stable {cfg : Config} {d : Daemon} (h : Daemon.Reachable cfg d) {steps : List Step}
    (hkinds : Daemon.Along cfg (fun d st => st.FindsKinds cfg d) d steps) {n : ℕ}
    (hn : n < steps.length) :
    let before := d.run cfg (steps.take n)
    let after := before.step cfg steps[n]
    (∀ t ∈ steps[n].req.targets, ∀ r, before.state.svc.findRecord t.1 = some r → r.kind ≠ t.2 →
      (before.answer cfg steps[n]).status ≠ WireStatus.ok ∧
        after.state.svc.findRecord t.1 = some r) ∧
    (steps[n].req.KeepsTables → ∀ k r r', before.state.svc.findRecord k = some r →
      after.state.svc.findRecord k = some r' → r'.kind = r.kind) := by
  intro before after
  have hw : before.WellFormed := (h.run (steps.take n)).wellFormed
  have hfinds : steps[n].FindsKinds cfg before := hkinds.get hn
  refine ⟨fun t ht r hr hkind => ?_, fun hreq k r r' hr hr' => kinds_step hw hfinds hreq hr hr'⟩
  have hstopped : ¬ steps[n].Admitted cfg before := fun hadm => hkind (hfinds hadm t ht r hr)
  obtain ⟨herr, hsame⟩ := stopped hw.1.recordKeys hstopped (List.ne_nil_of_mem ht)
  refine ⟨herr, ?_⟩
  rw [Service.findRecord, hsame.1]
  exact hr

/-- An object that is put twice stays an object. -/
theorem kinds_stable_twice :
    let put := putPlain "a" (by decide) (by decide)
    let before := Daemon.fresh.step Config.durable put
    ∃ r r', before.state.svc.findRecord (ascii "a") = some r ∧
      (before.step Config.durable put).state.svc.findRecord (ascii "a") = some r' ∧
        r'.kind = r.kind := by
  intro put before
  have htargets : put.req.targets = [(ascii "a", RecordKind.kvcacheObject)] := by decide +kernel
  have hfirst : put.FindsKinds Config.durable Daemon.fresh := by
    intro _ t _ r hr
    cases hr
  have hkind : (before.state.svc.findRecord (ascii "a")).map Record.kind =
      some RecordKind.kvcacheObject := by decide +kernel
  have hafter : ((before.step Config.durable put).state.svc.findRecord (ascii "a")).isSome = true := by
    decide +kernel
  have hsecond : put.FindsKinds Config.durable before := by
    intro _ t ht r hr
    rw [htargets, List.mem_singleton] at ht
    subst ht
    rw [hr, Option.map_some] at hkind
    exact Option.some_inj.mp hkind
  have hreq : put.req.KeepsTables := fun _ =>
    ⟨(by decide : WireOperation.putObject.code ≠ WireOperation.restoreSnapshot.code),
      (by decide : WireOperation.putObject.code ≠ WireOperation.restoreSnapshotPage.code)⟩
  obtain ⟨r, hr, -⟩ := Option.map_eq_some_iff.mp hkind
  obtain ⟨r', hr'⟩ := Option.isSome_iff_exists.mp hafter
  obtain ⟨-, hstable⟩ := @kinds_stable Config.durable Daemon.fresh (Daemon.reachable_fresh _) [put, put]
    ⟨hfirst, hsecond, trivial⟩ 1 (by decide)
  exact ⟨r, r', hr, hr', hstable hreq (ascii "a") r r' hr hr'⟩

/-- **A record of another kind is replaced.** An execution artifact is registered under the key of an
object: the request is answered as a success, and the object is an artifact. -/
theorem object_becomes_artifact :
    let register := Step.idle .registerExecutionArtifact ⟨ascii "key=a", by decide, by decide⟩
    let before := Daemon.fresh.step Config.durable (putPlain "a" (by decide) (by decide))
    register.req.targets = [(ascii "a", RecordKind.executionArtifact)] ∧
      (before.state.svc.findRecord (ascii "a")).map Record.kind = some RecordKind.kvcacheObject ∧
      (before.answer Config.durable register).status = WireStatus.ok ∧
      ((before.step Config.durable register).state.svc.findRecord (ascii "a")).map Record.kind =
        some RecordKind.executionArtifact := by
  decide +kernel

end MemService
