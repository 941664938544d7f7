import MemService.StagedRestore
import MemService.Idempotency

/-!
# The retry loop of the wire client

A client call makes attempts until one gets a response or the policy gives up.  An attempt that fails
before the whole request is written is repeated, since the daemon cannot have read it; one that fails
afterwards is repeated only if it timed out and the caller asked for that.

Client and daemon run independently.  A request that was written is in flight until the daemon gets to
it, be it after the client has given up on it, or it is lost; a response may be lost, or come late.  A
run of a call is a list of events in any order, and an event that cannot happen in a state leaves it as
it is.  Times are not part of the model: a timeout is an event.

The daemon serves one connection at a time, so a request is handled in one step.
-/

open ByteText CNumeral

namespace MemService

/-! ## The policy -/

/-- `struct mem_service_wire_client_options`, without its times. -/
structure WireClientOptions where
  maxAttempts : UInt32 := 1
  retryOnTimeout : UInt32 := 0

/-- `mem_service_client_effective_max_attempts`. -/
def effectiveMaxAttempts : Option WireClientOptions → UInt32
  | none => 1
  | some o => if o.maxAttempts = 0 then 1 else if o.maxAttempts > 8 then 8 else o.maxAttempts

/-- `mem_service_client_should_retry`. -/
def shouldRetry (options : Option WireClientOptions) (attemptIndex maxAttempts rc : ℕ)
    (requestDelivered timedOut : Bool) : Bool :=
  if rc = 0 ∨ attemptIndex + 1 ≥ maxAttempts then false
  else if !requestDelivered then true
  else timedOut && options.any fun o => o.retryOnTimeout != 0

/-! ## The daemon's end -/

/-- `mem_service_request_exceeds_payload_limit`. -/
def requestExceedsPayloadLimit (payloadLen : ℕ) (limits : Option DaemonLimits) : Bool :=
  limits.any fun l => decide (0 < l.maxPayloadBytes) && decide (l.maxPayloadBytes.toNat < payloadLen)

/-- The refusal of a payload over the limit. -/
def payloadLimitReply : Reply :=
  ⟨WireStatus.capacityExceeded,
    unlines [ascii "status=capacity_exceeded", ascii "quota=max_payload_bytes"]⟩

/-- What goes over the wire: an empty response is replaced by the name of its status. -/
def Reply.wirePayload (reply : Reply) : Bytes :=
  if reply.response = [] then reply.status.name else reply.response

/-! ## A call -/

/-- One call of `mem_service_send_unix_request_with_options`, and the daemon it goes to. -/
structure ClientCall where
  cfg : Config
  options : Option WireClientOptions
  req : Request
  /-- The size of the caller's buffer, `0` if there is none. -/
  payloadOutLen : ℕ

/-- Where the loop stands: before an attempt, with the request of an attempt written, or back at the
caller with a return code, a status and what was written to the caller's buffer. -/
inductive CallPhase
  | ready
  | waiting (attempt : ℕ)
  | returned (rc : ℕ) (status : WireStatus) (payload : Option Bytes)
  deriving DecidableEq

/-- A call under way. -/
structure CallState where
  daemon : Daemon
  /-- How many attempts were made. -/
  attempts : ℕ := 0
  phase : CallPhase := .ready
  /-- The attempts whose request is written and not read. -/
  inFlight : List ℕ := []
  /-- The daemon's answers, by attempt. -/
  responses : List (ℕ × Reply) := []
  /-- The states in which the daemon handled a request of the call, the last one first. -/
  log : List (Daemon × Step) := []

/-- A call that is about to make its first attempt. -/
def CallState.start (d : Daemon) : CallState := { daemon := d }

/-- What can happen. -/
inductive CallEvent
  /-- The attempt fails before the request is written: no path, no connection, a failed write. -/
  | fails (rc : ℕ) (status : WireStatus) (timedOut : Bool)
  /-- The whole request is written. -/
  | delivers
  /-- The daemon never reads the request. -/
  | loses (attempt : ℕ)
  /-- The daemon reads the request and answers. -/
  | handles (attempt : ℕ) (env : Env) (writes : Writes)
  /-- The daemon serves another client. -/
  | other (st : Step)
  /-- The client gets the response to its attempt. -/
  | receives
  /-- The client waits in vain. -/
  | timesOut
  /-- The connection breaks, or what arrives is no valid response. -/
  | breaks

/-- What the client copies to the caller's buffer. -/
def payloadOut (payloadOutLen : ℕ) (payload : Bytes) : Option Bytes :=
  if payloadOutLen = 0 then none else some (payload.take (payloadOutLen - 1))

namespace ClientCall

variable (c : ClientCall)

/-- The bound of the loop. -/
def maxAttempts : ℕ := (effectiveMaxAttempts c.options).toNat

/-- The end of an attempt: another one, or back to the caller. -/
def finish (s : CallState) (attempt rc : ℕ) (status : WireStatus) (payload : Option Bytes)
    (requestDelivered timedOut : Bool) : CallState :=
  if shouldRetry c.options attempt c.maxAttempts rc requestDelivered timedOut then
    { s with phase := .ready }
  else { s with phase := .returned rc status payload }

/-- `mem_service_handle_client`. -/
def handleClient (s : CallState) (attempt : ℕ) (st : Step) : CallState :=
  let s := { s with inFlight := s.inFlight.erase attempt }
  if requestExceedsPayloadLimit st.req.payload.bytes.length c.cfg.limits then
    { s with responses := (attempt, payloadLimitReply) :: s.responses }
  else
    { s with
      daemon := s.daemon.step c.cfg st
      responses := (attempt, s.daemon.answer c.cfg st) :: s.responses
      log := (s.daemon, st) :: s.log }

/-- One event. -/
def step (s : CallState) : CallEvent → CallState
  | .fails rc status timedOut =>
      if s.phase = .ready then
        c.finish { s with attempts := s.attempts + 1 } s.attempts (rc + 1) status none false timedOut
      else s
  | .delivers =>
      if s.phase = .ready then
        { s with
          attempts := s.attempts + 1
          phase := .waiting s.attempts
          inFlight := s.attempts :: s.inFlight }
      else s
  | .loses attempt => { s with inFlight := s.inFlight.erase attempt }
  | .handles attempt env writes =>
      if attempt ∈ s.inFlight then c.handleClient s attempt ⟨c.req, env, writes⟩ else s
  | .other st => { s with daemon := s.daemon.step c.cfg st }
  | .receives =>
      match s.phase with
      | .waiting attempt =>
          match s.responses.lookup attempt with
          | some reply =>
              c.finish s attempt (if reply.status = WireStatus.ok then 0 else 1) reply.status
                (payloadOut c.payloadOutLen reply.wirePayload) true false
          | none => s
      | _ => s
  | .timesOut =>
      match s.phase with
      | .waiting attempt => c.finish s attempt 1 WireStatus.timeout none true true
      | _ => s
  | .breaks =>
      match s.phase with
      | .waiting attempt => c.finish s attempt 1 WireStatus.internal none true false
      | _ => s

/-- The state after some events. -/
def run (d : Daemon) (events : List CallEvent) : CallState := Run.run c.step (.start d) events

/-! ## What an event does -/

section Finish

variable (s : CallState) (attempt rc : ℕ) (status : WireStatus) (payload : Option Bytes)
  (requestDelivered timedOut : Bool)

/-- The end of an attempt changes the phase alone. -/
lemma finish_frame :
    (c.finish s attempt rc status payload requestDelivered timedOut).daemon = s.daemon ∧
    (c.finish s attempt rc status payload requestDelivered timedOut).attempts = s.attempts ∧
    (c.finish s attempt rc status payload requestDelivered timedOut).inFlight = s.inFlight ∧
    (c.finish s attempt rc status payload requestDelivered timedOut).responses = s.responses ∧
    (c.finish s attempt rc status payload requestDelivered timedOut).log = s.log := by
  unfold finish
  split <;> exact ⟨rfl, rfl, rfl, rfl, rfl⟩

lemma finish_phase :
    ((c.finish s attempt rc status payload requestDelivered timedOut).phase = .ready ∧
      shouldRetry c.options attempt c.maxAttempts rc requestDelivered timedOut = true) ∨
    (c.finish s attempt rc status payload requestDelivered timedOut).phase =
      .returned rc status payload := by
  unfold finish
  split
  · exact .inl ⟨rfl, ‹_›⟩
  · exact .inr rfl

end Finish

/-- The daemon's end of an event: nothing happens there, or it handles a request of the call, or one of
another client. -/
inductive ServerEnd (s : CallState) (e : CallEvent) (s' : CallState) : Prop
  | idle (hdaemon : s'.daemon = s.daemon) (hlog : s'.log = s.log)
      (hresponses : ∀ x ∈ s'.responses, x ∈ s.responses ∨ x.2 = payloadLimitReply)
      (hinFlight : s'.inFlight.length ≤ s.inFlight.length ∨
        s.phase = .ready ∧ s'.phase ≠ .ready ∧ s'.inFlight.length = s.inFlight.length + 1)
  | handled (st : Step) (hreq : st.req = c.req) (hdaemon : s'.daemon = s.daemon.step c.cfg st)
      (hlog : s'.log = (s.daemon, st) :: s.log)
      (hresponses : ∃ attempt,
        s'.responses = (attempt, s.daemon.answer c.cfg st) :: s.responses)
      (hinFlight : s'.inFlight.length + 1 = s.inFlight.length)
  | other (st : Step) (he : e = .other st) (hdaemon : s'.daemon = s.daemon.step c.cfg st)
      (hlog : s'.log = s.log) (hresponses : s'.responses = s.responses)
      (hinFlight : s'.inFlight = s.inFlight)

lemma ServerEnd.same (s : CallState) (e : CallEvent) : c.ServerEnd s e s :=
  .idle rfl rfl (fun _ hx => .inl hx) (.inl le_rfl)

lemma ServerEnd.finish {s s' : CallState} {e : CallEvent} (hdaemon : s'.daemon = s.daemon)
    (hlog : s'.log = s.log) (hresponses : s'.responses = s.responses)
    (hinFlight : s'.inFlight = s.inFlight) (attempt rc : ℕ) (status : WireStatus)
    (payload : Option Bytes) (requestDelivered timedOut : Bool) :
    c.ServerEnd s e (c.finish s' attempt rc status payload requestDelivered timedOut) := by
  obtain ⟨hd, -, hf, hr, hl⟩ := c.finish_frame s' attempt rc status payload requestDelivered timedOut
  refine .idle (hd.trans hdaemon) (hl.trans hlog) (fun x hx => .inl ?_) (.inl ?_)
  · rwa [hr, hresponses] at hx
  · rw [hf, hinFlight]

lemma step_server (s : CallState) (e : CallEvent) : c.ServerEnd s e (c.step s e) := by
  cases e with
  | fails rc status timedOut =>
      simp only [step]
      split
      · exact @ServerEnd.finish c s { s with attempts := s.attempts + 1 } _ rfl rfl rfl rfl _ _ _ _ _ _
      · exact .same c s _
  | delivers =>
      simp only [step]
      split
      · rename_i hready
        exact .idle rfl rfl (fun _ hx => .inl hx) (.inr ⟨hready, nofun, rfl⟩)
      · exact .same c s _
  | loses attempt =>
      exact .idle rfl rfl (fun _ hx => .inl hx) (.inl (List.length_erase_le ..))
  | handles attempt env writes =>
      simp only [step]
      split
      · rename_i hmem
        simp only [handleClient]
        split
        · refine .idle rfl rfl (fun x hx => ?_) (.inl (List.length_erase_le ..))
          exact (List.mem_cons.mp hx).elim (fun h => .inr (by rw [h])) .inl
        · have hpos := List.length_pos_of_mem hmem
          exact .handled _ rfl rfl rfl ⟨attempt, rfl⟩ (by
            simp only [List.length_erase_of_mem hmem]
            omega)
      · exact .same c s _
  | other st => exact .other st rfl rfl rfl rfl rfl
  | receives =>
      simp only [step]
      split
      · split
        · exact .finish c rfl rfl rfl rfl _ _ _ _ _ _
        · exact .same c s _
      · exact .same c s _
  | timesOut =>
      simp only [step]
      split
      · exact .finish c rfl rfl rfl rfl _ _ _ _ _ _
      · exact .same c s _
  | breaks =>
      simp only [step]
      split
      · exact .finish c rfl rfl rfl rfl _ _ _ _ _ _
      · exact .same c s _

/-- On the client's end: nothing happens to the loop; the attempt is over, and it was written or not; or
the attempt is written. -/
lemma step_client (s : CallState) (e : CallEvent) :
    ((c.step s e).phase = s.phase ∧ (c.step s e).attempts = s.attempts) ∨
    (∃ rc status timedOut, s.phase = .ready ∧ c.step s e =
      c.finish { s with attempts := s.attempts + 1 } s.attempts (rc + 1) status none false timedOut) ∨
    (s.phase = .ready ∧ c.step s e =
      { s with
        attempts := s.attempts + 1
        phase := .waiting s.attempts
        inFlight := s.attempts :: s.inFlight }) ∨
    ∃ attempt rc status payload timedOut, s.phase = .waiting attempt ∧
      c.step s e = c.finish s attempt rc status payload true timedOut ∧
      (rc = 0 → ∃ reply, s.responses.lookup attempt = some reply ∧ reply.status = WireStatus.ok ∧
        status = WireStatus.ok ∧ payload = payloadOut c.payloadOutLen reply.wirePayload) := by
  cases e with
  | fails rc status timedOut =>
      by_cases hready : s.phase = .ready
      · exact .inr (.inl ⟨rc, status, timedOut, hready, by simp only [step, if_pos hready]⟩)
      · left
        simp only [step, if_neg hready]
        exact ⟨trivial, trivial⟩
  | delivers =>
      by_cases hready : s.phase = .ready
      · exact .inr (.inr (.inl ⟨hready, by simp only [step, if_pos hready]⟩))
      · left
        simp only [step, if_neg hready]
        exact ⟨trivial, trivial⟩
  | loses attempt => exact .inl ⟨rfl, rfl⟩
  | handles attempt env writes =>
      left
      simp only [step]
      split
      · simp only [handleClient]
        split <;> exact ⟨rfl, rfl⟩
      · exact ⟨rfl, rfl⟩
  | other st => exact .inl ⟨rfl, rfl⟩
  | receives =>
      cases hphase : s.phase with
      | waiting attempt =>
          cases hlookup : s.responses.lookup attempt with
          | none =>
              left
              simp only [step, hphase, hlookup]
              exact ⟨trivial, trivial⟩
          | some reply =>
              refine .inr (.inr (.inr ⟨attempt, if reply.status = WireStatus.ok then 0 else 1,
                reply.status, payloadOut c.payloadOutLen reply.wirePayload, false, rfl, ?_, ?_⟩))
              · simp only [step, hphase, hlookup]
              · intro hrc
                have hok : reply.status = WireStatus.ok := by
                  by_contra hne
                  rw [if_neg hne] at hrc
                  cases hrc
                exact ⟨reply, hlookup, hok, hok, rfl⟩
      | ready | returned rc status payload =>
          left
          simp only [step, hphase]
          exact ⟨trivial, trivial⟩
  | timesOut =>
      cases hphase : s.phase with
      | waiting attempt =>
          refine .inr (.inr (.inr ⟨attempt, 1, WireStatus.timeout, none, true, rfl, ?_, ?_⟩))
          · simp only [step, hphase]
          · exact fun h => absurd h (by decide)
      | ready | returned rc status payload =>
          left
          simp only [step, hphase]
          exact ⟨trivial, trivial⟩
  | breaks =>
      cases hphase : s.phase with
      | waiting attempt =>
          refine .inr (.inr (.inr ⟨attempt, 1, WireStatus.internal, none, false, rfl, ?_, ?_⟩))
          · simp only [step, hphase]
          · exact fun h => absurd h (by decide)
      | ready | returned rc status payload =>
          left
          simp only [step, hphase]
          exact ⟨trivial, trivial⟩

/-! ## The attempts -/

/-- The attempts made so far, and room for another one before each. -/
structure Bounded (s : CallState) : Prop where
  le : s.attempts ≤ c.maxAttempts
  ready : s.phase = .ready → s.attempts < c.maxAttempts
  waiting : ∀ attempt, s.phase = .waiting attempt → attempt + 1 = s.attempts

variable {c}

/-- Another attempt is made only below the bound. -/
lemma lt_of_shouldRetry {options : Option WireClientOptions} {attempt max rc : ℕ}
    {requestDelivered timedOut : Bool}
    (h : shouldRetry options attempt max rc requestDelivered timedOut = true) : attempt + 1 < max := by
  unfold shouldRetry at h
  split at h
  · cases h
  · rename_i hnot
    rw [not_or] at hnot
    omega

lemma Bounded.finish {s : CallState} {attempt rc : ℕ} {status : WireStatus} {payload : Option Bytes}
    {requestDelivered timedOut : Bool} (hle : s.attempts ≤ c.maxAttempts)
    (hattempt : attempt + 1 = s.attempts) :
    c.Bounded (c.finish s attempt rc status payload requestDelivered timedOut) := by
  obtain ⟨-, hattempts, -⟩ := c.finish_frame s attempt rc status payload requestDelivered timedOut
  obtain ⟨hphase, hretry⟩ | hphase :=
    c.finish_phase s attempt rc status payload requestDelivered timedOut
  · refine ⟨hattempts ▸ hle, fun _ => ?_, fun i hi => ?_⟩
    · rw [hattempts, ← hattempt]
      exact lt_of_shouldRetry hretry
    · rw [hphase] at hi
      cases hi
  · refine ⟨hattempts ▸ hle, fun hi => ?_, fun i hi => ?_⟩
    · rw [hphase] at hi
      cases hi
    · rw [hphase] at hi
      cases hi

lemma Bounded.step {s : CallState} (h : c.Bounded s) (e : CallEvent) : c.Bounded (c.step s e) := by
  obtain ⟨hphase, hattempts⟩ | ⟨rc, status, timedOut, hready, heq⟩ | ⟨hready, heq⟩ |
    ⟨attempt, rc, status, payload, timedOut, hwaiting, heq, -⟩ := c.step_client s e
  · exact ⟨hattempts ▸ h.le, fun hi => hattempts ▸ h.ready (hphase ▸ hi), fun i hi =>
      hattempts ▸ h.waiting i (hphase ▸ hi)⟩
  · rw [heq]
    exact Bounded.finish (h.ready hready) rfl
  · rw [heq]
    refine ⟨h.ready hready, nofun, fun i hi => ?_⟩
    cases hi
    rfl
  · rw [heq]
    exact Bounded.finish h.le (h.waiting attempt hwaiting)

/-! ## Without retries after timeouts -/

/-- The caller asked for another attempt after a timeout. -/
def retriesOnTimeout (c : ClientCall) : Bool := c.options.any fun o => o.retryOnTimeout != 0

/-- At most one request of the call was ever written, and none before an attempt. -/
structure Single (s : CallState) : Prop where
  le : s.inFlight.length + s.log.length ≤ 1
  ready : s.phase = .ready → s.inFlight = [] ∧ s.log = []

/-- An attempt that was written is the last one. -/
lemma not_shouldRetry (hno : c.retriesOnTimeout = false) (attempt max rc : ℕ) (timedOut : Bool) :
    shouldRetry c.options attempt max rc true timedOut = false := by
  have hnone : (c.options.any fun o => o.retryOnTimeout != 0) = false := hno
  unfold shouldRetry
  split
  · rfl
  · rw [hnone, Bool.and_false]
    rfl

lemma Single.step (hno : c.retriesOnTimeout = false) {s : CallState} (h : Single s) (e : CallEvent) :
    Single (c.step s e) := by
  have hserver := c.step_server s e
  constructor
  · cases hserver with
    | idle _ hlog _ hinFlight =>
        rw [hlog]
        obtain hle | ⟨hready, -, heq⟩ := hinFlight
        · exact Nat.le_trans (Nat.add_le_add_right hle _) h.le
        · obtain ⟨hnone, hempty⟩ := h.ready hready
          rw [heq, hnone, hempty]
          rfl
    | handled _ _ _ hlog _ hinFlight =>
        rw [hlog, List.length_cons]
        have := h.le
        omega
    | other _ _ _ hlog _ hinFlight =>
        rw [hlog, hinFlight]
        exact h.le
  · intro hready'
    -- the loop is before an attempt only as long as nothing was written
    have hready : s.phase = .ready := by
      obtain ⟨hphase, -⟩ | ⟨rc, status, timedOut, hready, -⟩ | ⟨hready, -⟩ |
        ⟨attempt, rc, status, payload, timedOut, -, heq, -⟩ := c.step_client s e
      · rw [← hphase, hready']
      · exact hready
      · exact hready
      · obtain ⟨-, hretry⟩ | hphase := c.finish_phase s attempt rc status payload true timedOut
        · rw [not_shouldRetry hno] at hretry
          cases hretry
        · rw [heq, hphase] at hready'
          cases hready'
    obtain ⟨hnone, hempty⟩ := h.ready hready
    cases hserver with
    | idle _ hlog _ hinFlight =>
        obtain hle | ⟨-, hwritten, -⟩ := hinFlight
        · rw [hnone] at hle
          exact ⟨List.length_eq_zero_iff.mp (Nat.le_zero.mp hle), hlog.trans hempty⟩
        · exact absurd hready' hwritten
    | handled _ _ _ _ _ hinFlight =>
        rw [hnone] at hinFlight
        exact absurd hinFlight (by simp)
    | other _ _ _ hlog _ hinFlight => exact ⟨hinFlight.trans hnone, hlog.trans hempty⟩

/-! ## Responses -/

/-- A success the client reports is an answer of the daemon to one of its requests. -/
structure Answers (c : ClientCall) (s : CallState) : Prop where
  responses : ∀ x ∈ s.responses, x.2.status = WireStatus.ok →
    ∃ e ∈ s.log, x.2 = e.1.answer c.cfg e.2
  returned : ∀ status payload, s.phase = .returned 0 status payload →
    status = WireStatus.ok ∧ ∃ e ∈ s.log, (e.1.answer c.cfg e.2).status = WireStatus.ok ∧
      payload = payloadOut c.payloadOutLen (e.1.answer c.cfg e.2).wirePayload

/-- The log only grows. -/
lemma log_subset (s : CallState) (e : CallEvent) : s.log ⊆ (c.step s e).log := by
  intro x hx
  cases c.step_server s e with
  | idle _ hlog _ _ => rwa [hlog]
  | handled _ _ _ hlog _ _ =>
      rw [hlog]
      exact List.mem_cons_of_mem _ hx
  | other _ _ _ hlog _ _ => rwa [hlog]

lemma Answers.step {s : CallState} (h : c.Answers s) (e : CallEvent) : c.Answers (c.step s e) := by
  have hlog := @log_subset c s e
  constructor
  · intro x hx hok
    have hold : x ∈ s.responses → ∃ e' ∈ (c.step s e).log, x.2 = e'.1.answer c.cfg e'.2 := by
      intro hx
      obtain ⟨e', he', heq⟩ := h.responses x hx hok
      exact ⟨e', hlog he', heq⟩
    cases c.step_server s e with
    | idle _ _ hresponses _ =>
        obtain hx | hx := hresponses x hx
        · exact hold hx
        · rw [hx] at hok
          exact absurd hok (show WireStatus.capacityExceeded ≠ WireStatus.ok by decide)
    | handled st _ _ hlog' hresponses _ =>
        obtain ⟨attempt, hresponses⟩ := hresponses
        rw [hresponses] at hx
        obtain rfl | hx := List.mem_cons.mp hx
        · exact ⟨(s.daemon, st), by simp [hlog'], rfl⟩
        · exact hold hx
    | other _ _ _ _ hresponses _ =>
        rw [hresponses] at hx
        exact hold hx
  · intro status payload hphase'
    obtain ⟨hphase, -⟩ | ⟨rc, status', timedOut, -, heq⟩ | ⟨-, heq⟩ |
      ⟨attempt, rc, status', payload', timedOut, -, heq, hsuccess⟩ := c.step_client s e
    · obtain ⟨hok, e', he', hreport⟩ := h.returned status payload (hphase ▸ hphase')
      exact ⟨hok, e', hlog he', hreport⟩
    · rw [heq] at hphase'
      obtain ⟨hready, -⟩ | hreturned := c.finish_phase { s with attempts := s.attempts + 1 }
        s.attempts (rc + 1) status' none false timedOut
      · rw [hready] at hphase'
        cases hphase'
      · rw [hreturned] at hphase'
        cases hphase'
    · rw [heq] at hphase'
      cases hphase'
    · rw [heq] at hphase'
      obtain ⟨hready, -⟩ | hreturned := c.finish_phase s attempt rc status' payload' true timedOut
      · rw [hready] at hphase'
        cases hphase'
      · rw [hreturned] at hphase'
        cases hphase'
        obtain ⟨reply, hlookup, hok, hstatus, hpayload⟩ := hsuccess rfl
        have hmem : (attempt, reply) ∈ s.responses := by
          obtain ⟨l₁, l₂, hl, -⟩ := List.lookup_eq_some_iff.mp hlookup
          simp [hl]
        obtain ⟨e', he', hreply⟩ := h.responses (attempt, reply) hmem hok
        refine ⟨hstatus, e', hlog he', ?_, ?_⟩
        · rw [← hreply]
          exact hok
        · rw [← hreply]
          exact hpayload

/-! ## With an idempotency key -/

section Key

/-- The daemon executes the logged request. -/
def ExecutedIn (c : ClientCall) (e : Daemon × Step) : Prop := Executes c.cfg e.1.state.svc c.req

/-- What the service of a later state knows of a logged request: the answer to it if it was executed, and
whatever was stored under the key when it came. -/
structure Knows (c : ClientCall) (key : FieldText 96) (svc : Service) (e : Daemon × Step) : Prop where
  executed : c.ExecutedIn e → svc.Remembers key c.req (e.1.answer c.cfg e.2)
  stored : ∀ r, e.1.state.svc.findIdempotencyRecord key.bytes = some r →
    svc.findIdempotencyRecord key.bytes = some r

/-- The logged requests are the call's, and came in well-formed states. -/
structure Logged (c : ClientCall) (s : CallState) : Prop where
  wellFormed : s.daemon.WellFormed
  logged : ∀ e ∈ s.log, e.2.req = c.req ∧ e.1.WellFormed

lemma Logged.step {s : CallState} (h : c.Logged s) (e : CallEvent) : c.Logged (c.step s e) := by
  cases c.step_server s e with
  | idle hdaemon hlog _ _ => exact ⟨hdaemon ▸ h.wellFormed, hlog ▸ h.logged⟩
  | handled st hreq hdaemon hlog _ _ =>
      constructor
      · rw [hdaemon]
        exact h.wellFormed.step st
      · rw [hlog]
        intro e' he'
        obtain rfl | he' := List.mem_cons.mp he'
        · exact ⟨hreq, h.wellFormed⟩
        · exact h.logged e' he'
  | other st _ hdaemon hlog _ _ =>
      constructor
      · rw [hdaemon]
        exact h.wellFormed.step st
      · exact hlog ▸ h.logged

/-- Every state in which the daemon handled a request of the call knows of the earlier ones, and so does
the present one. -/
structure Remembering (c : ClientCall) (key : FieldText 96) (s : CallState) : Prop extends
    Logged c s where
  knows : ∀ e ∈ s.log, c.Knows key s.daemon.state.svc e
  order : s.log.Pairwise fun later earlier => c.Knows key later.1.state.svc earlier

variable {key : FieldText 96}

/-- A stored key is not executed again. -/
lemma not_executes_of_stored (hmut : operationMutates c.req.operation c.req.payload)
    (hkey : idempotencyKey c.req.payload = some key) {svc : Service} {r : IdempotencyRecord}
    (hr : svc.findIdempotencyRecord key.bytes = some r) :
    ∃ reply, tryIdempotencyReplay svc c.req.operation c.req.payload = .handled reply ∧
      (reply.status = WireStatus.ok → reply = ⟨r.status, r.response.bytes⟩) := by
  simp only [tryIdempotencyReplay, hmut, hkey, hr, Bool.not_true, Bool.false_eq_true, if_false]
  split
  · exact ⟨_, rfl, fun h => absurd h (show WireStatus.versionConflict ≠ WireStatus.ok by decide)⟩
  · exact ⟨_, rfl, fun _ => rfl⟩

/-- What is stored under the key stays there when a request of the call is handled. -/
lemma Knows.handled (hmut : operationMutates c.req.operation c.req.payload)
    (hkey : idempotencyKey c.req.payload = some key) {d : Daemon} (hw : d.WellFormed) {st : Step}
    (hreq : st.req = c.req) {e : Daemon × Step} (h : c.Knows key d.state.svc e) :
    c.Knows key (d.step c.cfg st).state.svc e := by
  have hkeep : ∀ r, d.state.svc.findIdempotencyRecord key.bytes = some r →
      (d.step c.cfg st).state.svc.findIdempotencyRecord key.bytes = some r := by
    intro r hr
    obtain ⟨reply, hreply, -⟩ := not_executes_of_stored hmut hkey hr
    rw [← hreq] at hreply
    have hsame : (d.step c.cfg st).state.svc.idempotency = d.state.svc.idempotency :=
      (hw.step_handled hreply).2.1
    rw [Service.findIdempotencyRecord, hsame]
    exact hr
  exact ⟨fun hexec => hkeep _ (h.executed hexec), fun r hr => hkeep r (h.stored r hr)⟩

/-- What is stored under the key stays there when another client's request keeps the answers. -/
lemma Knows.other {d : Daemon} (hw : d.WellFormed) {st : Step} (hkeep : KeepsAnswers c.cfg d st)
    {e : Daemon × Step} (h : c.Knows key d.state.svc e) :
    c.Knows key (d.step c.cfg st).state.svc e := by
  have hw' : (d.step c.cfg st).WellFormed := hw.step st
  have hstays : ∀ r, d.state.svc.findIdempotencyRecord key.bytes = some r →
      (d.step c.cfg st).state.svc.findIdempotencyRecord key.bytes = some r := by
    intro r hr
    obtain ⟨hmem, hk⟩ := (hw.1.idempotencyKeys.lookup_eq_some_iff).mp hr
    obtain ⟨i, hi⟩ := SlotTable.mem_entries.mp hmem
    exact (hw'.1.idempotencyKeys.lookup_eq_some_iff).mpr
      ⟨SlotTable.mem_entries_of_get (hw.keeps_answers hkeep hi), hk⟩
  exact ⟨fun hexec => hstays _ (h.executed hexec), fun r hr => hstays r (h.stored r hr)⟩

/-- The state after a request of the call knows of that request. -/
lemma Knows.own (hmut : operationMutates c.req.operation c.req.payload)
    (hkey : idempotencyKey c.req.payload = some key) {d : Daemon} (hw : d.WellFormed) {st : Step}
    (hreq : st.req = c.req) : c.Knows key (d.step c.cfg st).state.svc (d, st) := by
  constructor
  · rintro ⟨⟨pending, hpending⟩, -⟩
    obtain ⟨-, hnone⟩ | ⟨slot, key', -, -, hkey', hnew, halloc⟩ := tryIdempotencyReplay_execute hpending
    · rw [hnone hmut] at hkey
      cases hkey
    · rw [hkey] at hkey'
      cases hkey'
      have hroom : d.state.svc.idempotency.count < maxIdempotencyRecords := by
        refine Nat.lt_of_le_of_ne (SlotTable.count_le _) fun hfull => ?_
        have hno : d.state.svc.allocIdempotencyRecord = none :=
          SlotTable.firstFree?_eq_none_iff.mpr hfull
        rw [hno] at halloc
        cases halloc
      rw [← hreq] at hmut hkey ⊢
      exact hw.remembers hmut hkey hnew hroom
  · intro r hr
    obtain ⟨reply, hreply, -⟩ := not_executes_of_stored hmut hkey hr
    rw [← hreq] at hreply
    have hsame : (d.step c.cfg st).state.svc.idempotency = d.state.svc.idempotency :=
      (hw.step_handled hreply).2.1
    rw [Service.findIdempotencyRecord, hsame]
    exact hr

/-- Other clients prune no answers and restore nothing. -/
def OthersKeep (c : ClientCall) (s : CallState) (e : CallEvent) : Prop :=
  ∀ st, e = .other st → KeepsAnswers c.cfg s.daemon st

lemma Remembering.step (hmut : operationMutates c.req.operation c.req.payload)
    (hkey : idempotencyKey c.req.payload = some key) {s : CallState} (h : c.Remembering key s)
    {e : CallEvent} (he : c.OthersKeep s e) : c.Remembering key (c.step s e) := by
  refine ⟨h.toLogged.step e, ?_, ?_⟩
  · cases c.step_server s e with
    | idle hdaemon hlog _ _ => exact hdaemon ▸ hlog ▸ h.knows
    | handled st hreq hdaemon hlog _ _ =>
        rw [hlog, hdaemon]
        intro e' he'
        obtain rfl | he' := List.mem_cons.mp he'
        · exact Knows.own hmut hkey h.wellFormed hreq
        · exact (h.knows e' he').handled hmut hkey h.wellFormed hreq
    | other st he' hdaemon hlog _ _ =>
        rw [hlog, hdaemon]
        exact fun e'' he'' => (h.knows e'' he'').other h.wellFormed (he st he')
  · cases c.step_server s e with
    | idle _ hlog _ _ | other _ _ _ hlog _ _ => exact hlog ▸ h.order
    | handled _ _ _ hlog _ _ =>
        rw [hlog]
        exact List.pairwise_cons.mpr ⟨h.knows, h.order⟩

/-- A success that was not executed is the stored answer. -/
lemma stored_of_not_executed (hmut : operationMutates c.req.operation c.req.payload)
    (hkey : idempotencyKey c.req.payload = some key) {e : Daemon × Step} (hreq : e.2.req = c.req)
    (hno : ¬ c.ExecutedIn e) (hok : (e.1.answer c.cfg e.2).status = WireStatus.ok) :
    ∃ r, e.1.state.svc.findIdempotencyRecord key.bytes = some r ∧
      e.1.answer c.cfg e.2 = ⟨r.status, r.response.bytes⟩ := by
  have hanswer : e.1.answer c.cfg e.2 = (answerRequest c.cfg e.2.env e.1.state e.2.req).reply := by
    obtain h | ⟨-, -, -, h⟩ := e.1.answer_cases c.cfg e.2
    · exact h
    · rw [h] at hok
      exact absurd hok (by decide)
  rw [hanswer, hreq] at hok ⊢
  have ha := answerRequest_answered c.cfg e.2.env e.1.state c.req
  generalize answerRequest c.cfg e.2.env e.1.state c.req = a at ha hok ⊢
  cases ha with
  | @replayed reply hreply =>
      cases hfind : e.1.state.svc.findIdempotencyRecord key.bytes with
      | some r =>
          obtain ⟨reply', hreply', hstored⟩ := not_executes_of_stored hmut hkey hfind
          rw [hreply] at hreply'
          cases hreply'
          exact ⟨r, rfl, hstored hok⟩
      | none =>
          -- a new key that is answered at once was refused for want of a slot
          simp only [tryIdempotencyReplay, hmut, hkey, hfind, Bool.not_true, Bool.false_eq_true,
            if_false] at hreply
          split at hreply
          · cases hreply
            exact absurd hok (show WireStatus.capacityExceeded ≠ WireStatus.ok by decide)
          · cases hreply
  | overQuota _ _ hreply =>
      rw [hreply] at hok
      exact absurd hok (show WireStatus.capacityExceeded ≠ WireStatus.ok by decide)
  | executed hexec hq _ _ => exact absurd ⟨⟨_, hexec⟩, hq⟩ hno

/-- The success of any request of the call is the answer to the one that was executed, or what was stored
under the key when none was. -/
lemma Remembering.success (hmut : operationMutates c.req.operation c.req.payload)
    (hkey : idempotencyKey c.req.payload = some key) {s : CallState} (h : c.Remembering key s)
    {e : Daemon × Step} (he : e ∈ s.log) (hok : (e.1.answer c.cfg e.2).status = WireStatus.ok) :
    (∃ e' ∈ s.log, c.ExecutedIn e' ∧ e'.1.answer c.cfg e'.2 = e.1.answer c.cfg e.2) ∨
    ((∀ e' ∈ s.log, ¬ c.ExecutedIn e') ∧
      ∃ r, e.1.state.svc.findIdempotencyRecord key.bytes = some r ∧
        e.1.answer c.cfg e.2 = ⟨r.status, r.response.bytes⟩) := by
  by_cases hexec : c.ExecutedIn e
  · exact .inl ⟨e, he, hexec, rfl⟩
  obtain ⟨r, hr, hanswer⟩ := stored_of_not_executed hmut hkey (h.logged e he).1 hexec hok
  by_cases hall : ∀ e' ∈ s.log, ¬ c.ExecutedIn e'
  · exact .inr ⟨hall, r, hr, hanswer⟩
  push Not at hall
  obtain ⟨e', he', hexec'⟩ := hall
  refine .inl ⟨e', he', hexec', ?_⟩
  -- both answers are what the present state has under the key
  have hstored := (h.knows e he).stored r hr
  have hremembered : s.daemon.state.svc.findIdempotencyRecord key.bytes =
      some (completedRecord key c.req (e'.1.answer c.cfg e'.2)) := (h.knows e' he').executed hexec'
  rw [hremembered, Option.some_inj] at hstored
  have hfits : ResponseFits (e'.1.answer c.cfg e'.2).response := by
    obtain ⟨hreq', hw'⟩ := h.logged e' he'
    refine hw'.answer_fits ?_
    obtain ⟨⟨pending, hpending⟩, -⟩ := hexec'
    rw [hreq']
    obtain ⟨-, hnone⟩ | ⟨slot, key', rfl, -⟩ := tryIdempotencyReplay_execute hpending
    · rw [hnone hmut] at hkey
      cases hkey
    · simp [answerRequest, hpending]
  rw [hanswer, ← hstored]
  show _ = Reply.mk (e'.1.answer c.cfg e'.2).status
    (ResponseText.copy (e'.1.answer c.cfg e'.2).response).bytes
  rw [ResponseText.bytes_copy hfits.noNul hfits.short]

end Key

/-! ## Requests that change nothing -/

end ClientCall

/-! ## Retry safety -/

section Runs

variable {c : ClientCall} {d : Daemon}

end Runs

end MemService
