import MemService.StagedRestore

/-!
# One stage for all clients

The stage of a restore is a static variable of the daemon, and page requests carry no session, so the
requests of all clients go into the same stage.  What a commit installs is therefore described by the
interleaving: the pages accepted since the last begin of whichever client.  They are the committing
client's own pages exactly when nobody else had a page accepted in between.
-/

open ByteText CNumeral

namespace MemService

section Clients

variable {γ : Type}

/-- The exchanges of a run of several clients. -/
def Daemon.clientHistory (cfg : Config) : Daemon → List (γ × Step) → List (γ × Exchange)
  | _, [] => []
  | d, (c, st) :: steps =>
      (c, ⟨st.req, d.answer cfg st⟩) :: (d.step cfg st).clientHistory cfg steps

/-- The exchange is an accepted page. -/
def Exchange.Accepts (x : Exchange) : Prop :=
  x.req.restoreAction = some (ascii "append") ∧ x.reply.status = WireStatus.ok

instance (x : Exchange) : Decidable x.Accepts := inferInstanceAs (Decidable (_ ∧ _))

/-- The pages accepted since the last begin, with the clients they came from. -/
def stagedPages (xs : List (γ × Exchange)) : Option (List (γ × Payload)) :=
  xs.foldl (fun ps x =>
    if x.2.req.restoreAction = some (ascii "begin") then some []
    else if x.2.Accepts then ps.map fun ps => ps ++ [(x.1, x.2.req.payload)]
    else ps) none

lemma history_clients (cfg : Config) (d : Daemon) (steps : List (γ × Step)) :
    (d.clientHistory cfg steps).map Prod.snd = d.history cfg (steps.map Prod.snd) := by
  induction steps generalizing d with
  | nil => rfl
  | cons s steps ih =>
      obtain ⟨c, st⟩ := s
      simp only [Daemon.clientHistory, Daemon.history, List.map_cons, ih]

/-- Forgetting who sent the pages gives the staging. -/
lemma stagedPages_staging (xs : List (γ × Exchange)) :
    (staging (xs.map Prod.snd)).map Staging.pages =
      (stagedPages xs).map fun ps => ps.map Prod.snd := by
  induction xs using List.reverseRecOn with
  | nil => rfl
  | append_singleton xs x ih =>
      simp only [staging, stagedPages, List.map_append, List.map_cons, List.map_nil,
        List.foldl_append, List.foldl_cons, List.foldl_nil] at ih ⊢
      generalize (xs.map Prod.snd).foldl Staging.next none = s at ih ⊢
      generalize xs.foldl _ none = ps at ih ⊢
      unfold Staging.next
      by_cases hb : x.2.req.restoreAction = some (ascii "begin")
      · rw [if_pos hb, if_pos hb]
        rfl
      rw [if_neg hb, if_neg hb]
      by_cases ha : x.2.Accepts
      · rw [if_pos ha]
        have ha' : x.2.req.restoreAction = some (ascii "append") ∧
          x.2.reply.status = WireStatus.ok := ha
        rw [if_pos ha']
        cases s with
        | none =>
            cases ps with
            | none => rfl
            | some ps => cases ih
        | some t =>
            cases ps with
            | none => cases ih
            | some ps =>
                have ih := Option.some.inj ih
                simp [ih]
      · rw [if_neg ha]
        have ha' : ¬ (x.2.req.restoreAction = some (ascii "append") ∧
          x.2.reply.status = WireStatus.ok) := ha
        rw [if_neg ha']
        exact ih

variable [DecidableEq γ]

/-- The pages of a client accepted since its own last begin. -/
def ownPages (c : γ) (xs : List (γ × Exchange)) : Option (List Payload) :=
  xs.foldl (fun ps x =>
    if x.1 ≠ c then ps
    else if x.2.req.restoreAction = some (ascii "begin") then some []
    else if x.2.Accepts then ps.map fun ps => ps ++ [x.2.req.payload]
    else ps) none

/-- The client's pages among those accepted since the last begin came after its own last begin. -/
lemma mem_ownPages {c : γ} {xs : List (γ × Exchange)} {ps : List (γ × Payload)}
    {own : List Payload} (hps : stagedPages xs = some ps) (hown : ownPages c xs = some own)
    {p : Payload} (hp : (c, p) ∈ ps) : p ∈ own := by
  induction xs using List.reverseRecOn generalizing ps own with
  | nil => cases hps
  | append_singleton xs x ih =>
      simp only [stagedPages, ownPages, List.foldl_append, List.foldl_cons, List.foldl_nil]
        at hps hown
      by_cases hb : x.2.req.restoreAction = some (ascii "begin")
      · rw [if_pos hb] at hps
        cases hps
        cases hp
      rw [if_neg hb] at hps hown
      by_cases ha : x.2.Accepts
      · rw [if_pos ha] at hps hown
        obtain ⟨qs, hqs, rfl⟩ := Option.map_eq_some_iff.mp hps
        by_cases hc : x.1 = c
        · rw [if_neg (not_not.mpr hc)] at hown
          obtain ⟨os, hos, rfl⟩ := Option.map_eq_some_iff.mp hown
          rcases List.mem_append.mp hp with hp | hp
          · exact List.mem_append_left _ (ih hqs hos hp)
          · have := List.mem_singleton.mp hp
            simp [(Prod.mk.inj this).2]
        · rw [if_pos hc] at hown
          rcases List.mem_append.mp hp with hp | hp
          · exact ih hqs hown hp
          · have := List.mem_singleton.mp hp
            exact absurd (Prod.mk.inj this).1.symm hc
      · rw [if_neg ha] at hps hown
        split at hown
        · exact ih hps hown hp
        · exact ih hps hown hp

/-- **The shared stage.**  In every interleaving, a commit that is answered as a success and is no
repeat installs only records of pages accepted since the last begin of whichever client; if those all
came from the committing client, and it has begun a restore, they are pages it appended since its own
last begin. -/
theorem shared_stage {cfg : Config} {start : Daemon} (h : start.state.stage = none)
    (steps : List (γ × Step)) (c : γ) (st : Step) {d : Daemon}
    (hd : d = start.run cfg (steps.map Prod.snd))
    (haction : st.req.restoreAction = some (ascii "commit"))
    (hnew : ¬ d.state.svc.HasAnswer st.req) (hok : (d.answer cfg st).status = WireStatus.ok) :
    ∃ ps, stagedPages (start.clientHistory cfg steps) = some ps ∧
      (∀ r ∈ (d.step cfg st).state.svc.records.entries,
        ∃ q ∈ ps, r ∈ pageRecords q.2.bytes) ∧
      ((∀ q ∈ ps, q.1 = c) → ∀ own, ownPages c (start.clientHistory cfg steps) = some own →
        ∀ r ∈ (d.step cfg st).state.svc.records.entries,
          ∃ p ∈ own, r ∈ pageRecords p.bytes) := by
  have hstaged : Staged (staging (start.history cfg (steps.map Prod.snd))) d.state.stage := by
    rw [hd]
    refine staged_run cfg ?_ _
    rw [h]
    rintro _ ⟨⟩
  obtain ⟨t, installed, retained, ht, hinst, hpruned, hsame, -⟩ :=
    installed_of_commit hstaged haction hnew hok
  have hpages := stagedPages_staging (start.clientHistory cfg steps)
  rw [history_clients, ht] at hpages
  obtain ⟨ps, hps, hmap⟩ := Option.map_eq_some_iff.mp hpages.symm
  have hrecord : ∀ r ∈ (d.step cfg st).state.svc.records.entries,
      ∃ q ∈ ps, r ∈ pageRecords q.2.bytes := by
    intro r hr
    rw [hsame.1] at hr
    obtain ⟨i, hi⟩ := SlotTable.mem_entries.mp hr
    have hmem := SlotTable.mem_entries_of_get (hpruned.shrinks.records i r hi)
    have hfind : installed.findRecord r.keyBytes = some r :=
      (hinst.unique.lookup_eq_some_iff).mpr ⟨hmem, rfl⟩
    rw [hinst.records] at hfind
    have hr' := List.mem_reverse.mp (List.mem_of_find?_eq_some hfind)
    obtain ⟨p, hp, hrp⟩ := List.mem_flatMap.mp hr'
    rw [← hmap] at hp
    obtain ⟨q, hq, rfl⟩ := List.mem_map.mp hp
    exact ⟨q, hq, hrp⟩
  refine ⟨ps, hps, hrecord, fun hall own hown r hr => ?_⟩
  obtain ⟨⟨c', p⟩, hq, hrp⟩ := hrecord r hr
  obtain rfl : c' = c := hall _ hq
  exact ⟨p, mem_ownPages hps hown hq, hrp⟩

end Clients

/-- Client 2 begins and appends; client 1 begins anew. -/
def twoClients : List (ℕ × Step) :=
  [(2, .beginRestore), (2, .appendB), (1, .beginRestore), (1, .appendA)]

theorem shared_stage_own_page :
    ((Daemon.fresh.run Config.durable (twoClients.map Prod.snd)).answer Config.durable
      .commit).status = WireStatus.ok ∧
    ∀ r ∈ ((Daemon.fresh.run Config.durable (twoClients.map Prod.snd)).step Config.durable
        .commit).state.svc.records.entries,
      ∃ p ∈ [Step.appendA.req.payload], r ∈ pageRecords p.bytes := by
  refine ⟨by decide +kernel, ?_⟩
  obtain ⟨ps, hps, -, hown⟩ := @shared_stage ℕ _ Config.durable Daemon.fresh rfl
    twoClients 1 .commit _ rfl (by decide +kernel)
    (by
      rintro ⟨key, r, hkey, -⟩
      rw [show idempotencyKey Step.commit.req.payload = none from by decide +kernel] at hkey
      cases hkey)
    (by decide +kernel)
  have hpages : stagedPages (Daemon.fresh.clientHistory Config.durable twoClients) =
      some [(1, Step.appendA.req.payload)] := by
    decide +kernel
  rw [hpages] at hps
  cases hps
  exact hown (by simp) _ (by decide +kernel)

/-- One client begins and commits; the page in between is another's. -/
theorem stage_shared_by_clients :
    (((Daemon.fresh.run Config.durable [.beginRestore, .appendB]).answer Config.durable
        .commit).status = WireStatus.ok ∧
      ownPages 1 (Daemon.fresh.clientHistory Config.durable
        [(1, .beginRestore), (2, .appendB)]) = some [] ∧
      ((Daemon.fresh.run Config.durable
        [.beginRestore, .appendB, .commit]).state.svc.findRecord (ascii "b")).isSome) := by
  decide +kernel

end MemService
