import MemService.DescQueue

/-!
# The barrier over the descriptor queues

`mem_service_queue_barrier`.  A node that enters a barrier pushes one descriptor with the barrier's type
and epoch to every peer, and then looks for one such descriptor of every peer, in the stash and in the
queue, until it has all of them or its time is over.  Descriptors of barriers that timed out stay behind
in queues and stashes, the epoch is a 16-bit counter that wraps, and object descriptors travel in the
same queues.

A world is all nodes of a cluster with every queue attached; its events are the steps of the barriers
under way on each node, one push, look or pop at a time, and whatever else nodes push and take.
`queue_barrier_agreement` says that each successful return of a node stands on an entry of every other
node into a barrier of the same type and epoch, and no two returns of a node on the same entry.
-/

namespace MemService

/-! ## The barrier -/

/-- The types of barriers. -/
inductive BarrierType
  | ready
  | observed
  deriving DecidableEq

def BarrierType.code : BarrierType → UInt16
  | ready => descReady
  | observed => descObserved

/-- The descriptor a barrier pushes. -/
def barrierDesc (type : BarrierType) (epoch : UInt16) (publishSeq : UInt32) : Desc where
  type := type.code
  seq := epoch.toUInt64 ||| (publishSeq.toUInt64 <<< 16)
  cookie := epoch.toUInt32

/-- Where a call of `mem_service_queue_barrier` is: about to push to a peer, at the head of the waiting
loop, about to look at a peer, or popping a peer's queue.  `all` is the loop's variable of that name. -/
inductive BarrierPoint
  | announce (i : ℕ)
  | top
  | peer (i : ℕ) (all : Bool)
  | drain (i : ℕ) (all : Bool)

/-- A call of `mem_service_queue_barrier`.  `got` says which peers it has a descriptor of, and which
descriptor, by its place in the order of arrival. -/
structure BarrierCall where
  id : ℕ
  type : BarrierType
  epoch : UInt16
  publishSeq : UInt32
  point : BarrierPoint
  got : ℕ → Option ℕ

namespace BarrierCall

/-- The call as a wait. -/
def wait (c : BarrierCall) : WaitCall := (c.id, .barrier c.type.code c.epoch)

/-- What the call looks for. -/
def wants (c : BarrierCall) : Desc → Bool := descMatchesBarrier c.type.code c.epoch

/-- `got[i]`, for a node with index `localIdx`. -/
def has (c : BarrierCall) (localIdx i : ℕ) : Bool := decide (i = localIdx) || (c.got i).isSome

end BarrierCall

/-- An entry of a node into a barrier. -/
structure BarrierEntry where
  node : ℕ
  type : BarrierType
  epoch : UInt16
  deriving DecidableEq

/-- A successful return: the call and its node. -/
structure BarrierReturn where
  node : ℕ
  call : BarrierCall

/-- All nodes with the calls under way, the entries and successful returns so far, and for every pair of
receiver and sender the entries that the descriptors sent stem from (`none` for other descriptors). -/
structure BarrierWorld where
  nodeCount : ℕ
  nodes : ℕ → QueueNode
  calls : ℕ → Option BarrierCall
  entries : List BarrierEntry
  origin : ℕ → ℕ → List (Option ℕ)
  returns : List BarrierReturn

/-- What the clock, the peer's queue and the cache say at a step of a call. -/
structure BarrierEnv where
  full : Bool
  late : Bool
  update : PopUpdate

namespace BarrierWorld

/-- What one node's call has come to. -/
def setCall (w : BarrierWorld) (x : ℕ) (c : Option BarrierCall) : BarrierWorld :=
  { w with calls := Function.update w.calls x c }

/-- A move of one node. -/
def move (w : BarrierWorld) (x : ℕ) (m : QueueMove) : BarrierWorld :=
  { w with nodes := Function.update w.nodes x ((w.nodes x).step m) }

/-- A push of `y` to `x`, with the entry it stems from. -/
def send (w : BarrierWorld) (y x : ℕ) (d : Desc) (entry : Option ℕ) : BarrierWorld :=
  if y < w.nodeCount ∧ x < w.nodeCount ∧ y ≠ x then
    { w.move x (.push y d) with
      origin := Function.update w.origin x (Function.update (w.origin x) y (w.origin x y ++ [entry])) }
  else w

/-- The inbox of `x` for what `y` sends. -/
def inbox (w : BarrierWorld) (x y : ℕ) : Inbox Desc WaitCall := (w.nodes x).inboxes y

/-- One step of the call `c` of node `x`. -/
def advance (w : BarrierWorld) (x : ℕ) (c : BarrierCall) (env : BarrierEnv) : BarrierWorld :=
  match c.point with
  | .announce i =>
      if i < w.nodeCount then
        if i = x then w.setCall x (some { c with point := .announce (i + 1) })
        else if env.full then if env.late then w.setCall x none else w
        else
          (w.send x i (barrierDesc c.type c.epoch c.publishSeq) (some c.id)).setCall x
            (some { c with point := .announce (i + 1) })
      else w.setCall x (some { c with point := .top })
  | .top => w.setCall x (if env.late then none else some { c with point := .peer 0 true })
  | .peer i all =>
      if i < w.nodeCount then
        if c.has x i then w.setCall x (some { c with point := .peer (i + 1) all })
        else
          match (w.inbox x i).wanted? c.wants with
          | some m =>
              (w.move x (.takePending c.wait i 0)).setCall x
                (some { c with got := Function.update c.got i (some m.1), point := .peer (i + 1) all })
          | none => w.setCall x (some { c with point := .drain i all })
      else if all then { w.setCall x none with returns := w.returns ++ [⟨x, c⟩] }
      else w.setCall x (some { c with point := .top })
  | .drain i all =>
      let popped := if env.update = .done then (w.inbox x i).next? else none
      let w' := w.move x (.popIngress c.wait i env.update)
      match popped with
      | some m =>
          if c.wants m.2 then w'.setCall x (some { c with got := Function.update c.got i (some m.1) })
          else w'.setCall x (some c)
      | none => w'.setCall x (some { c with point := .peer (i + 1) (all && (c.got i).isSome) })

end BarrierWorld

inductive BarrierEvent
  -- a call of `mem_service_queue_barrier` on a node that is in none
  | enter (x : ℕ) (type : BarrierType) (epoch : UInt16) (publishSeq : UInt32)
  -- a step of the call under way on a node
  | advance (x : ℕ) (env : BarrierEnv)
  -- a push that is no barrier's: an object or an acknowledgement
  | sendOther (y x : ℕ) (d : Desc)
  -- a move of another wait on a node
  | otherTake (x : ℕ) (call : WaitCall) (peer k : ℕ)
  | otherPop (x : ℕ) (call : WaitCall) (peer : ℕ) (update : PopUpdate)
  | stashOwn (x : ℕ) (d : Desc)

namespace BarrierWorld

def step (w : BarrierWorld) : BarrierEvent → BarrierWorld
  | .enter x type epoch publishSeq =>
      if x < w.nodeCount ∧ (w.calls x).isNone then
        { w.setCall x (some ⟨w.entries.length, type, epoch, publishSeq, .announce 0, fun _ => none⟩) with
          entries := w.entries ++ [⟨x, type, epoch⟩] }
      else w
  | .advance x env =>
      match w.calls x with
      | some c => w.advance x c env
      | none => w
  | .sendOther y x d =>
      if d.type = descObjectPut ∨ d.type = descObjectGet then w.send y x d none else w
  | .otherTake x call peer k => w.move x (.takePending call peer k)
  | .otherPop x call peer update => w.move x (.popIngress call peer update)
  | .stashOwn x d => w.move x (.stashOwn d)

/-- A cluster whose nodes have just started. -/
def start (nodeCount : ℕ) : BarrierWorld where
  nodeCount := nodeCount
  nodes x := QueueNode.start nodeCount x
  calls _ := none
  entries := []
  origin _ _ := []
  returns := []

end BarrierWorld

/-! ## The invariant -/

/-- The descriptors sent by `y` and the entries they stem from: an entry's descriptor carries the entry's
type and epoch, no entry has sent two, and descriptors of other origin are of other types. -/
structure OriginOk (entries : List BarrierEntry) (y : ℕ) (sent : List Desc)
    (origin : List (Option ℕ)) : Prop where
  length_eq : origin.length = sent.length
  token : ∀ k e : ℕ, origin[k]? = some (some e) → ∃ (d : Desc) (en : BarrierEntry),
    sent[k]? = some d ∧ entries[e]? = some en ∧ en.node = y ∧ d.type = en.type.code ∧
      d.cookie.toUInt16 = en.epoch
  other : ∀ (k : ℕ) (d : Desc), origin[k]? = some none → sent[k]? = some d →
    d.type ≠ descReady ∧ d.type ≠ descObserved
  inj : ∀ k k' e : ℕ, origin[k]? = some (some e) → origin[k']? = some (some e) → k = k'

/-- The call has taken the descriptor at place `k`. -/
def Took (b : Inbox Desc WaitCall) (k : ℕ) (c : BarrierCall) : Prop :=
  ∃ d, ((k, d), c.wait) ∈ b.consumed ∧ b.sent[k]? = some d ∧ c.wants d = true

/-- What is known of a call under way on node `x`. -/
structure CallOk (w : BarrierWorld) (x : ℕ) (c : BarrierCall) : Prop where
  entry : w.entries[c.id]? = some ⟨x, c.type, c.epoch⟩
  fresh : ∀ i, c.point = .announce i → ∀ z, i ≤ z → z ≠ x → some c.id ∉ w.origin z x
  got : ∀ y k, c.got y = some k → Took (w.inbox x y) k c
  all : ∀ i, c.point = .peer i true ∨ c.point = .drain i true → ∀ y < i, c.has x y = true
  draining : ∀ i b, c.point = .drain i b → i < w.nodeCount ∧ i ≠ x
  unused : ∀ r ∈ w.returns, r.call.id ≠ c.id

/-- What is known of a successful return. -/
structure ReturnOk (w : BarrierWorld) (r : BarrierReturn) : Prop where
  entry : w.entries[r.call.id]? = some ⟨r.node, r.call.type, r.call.epoch⟩
  got : ∀ y < w.nodeCount, y ≠ r.node → ∃ k, r.call.got y = some k ∧ Took (w.inbox r.node y) k r.call

structure BarrierInv (w : BarrierWorld) : Prop where
  shape : ∀ x, (w.nodes x).nodeCount = w.nodeCount ∧ (w.nodes x).localIdx = x
  once : ∀ x y, (w.inbox x y).Once fun call => call.2.wants
  origins : ∀ x y, x ≠ y → OriginOk w.entries y (w.inbox x y).sent (w.origin x y)
  calls : ∀ x c, w.calls x = some c → CallOk w x c
  returns : ∀ r ∈ w.returns, ReturnOk w r
  nodup : (w.returns.map fun r => r.call.id).Nodup

lemma Took.mono {b b' : Inbox Desc WaitCall} {k : ℕ} {c : BarrierCall} (h : Took b k c)
    (hg : Inbox.Grows b b') : Took b' k c := by
  obtain ⟨d, hmem, hsent, hw⟩ := h
  exact ⟨d, hg.consumed.subset hmem, hg.getElem? hsent, hw⟩

lemma barrierInv_start (nodeCount : ℕ) : BarrierInv (BarrierWorld.start nodeCount) where
  shape _ := ⟨rfl, rfl⟩
  once _ _ := Inbox.once_empty
  origins _ _ _ := ⟨rfl, by simp [BarrierWorld.start], by simp [BarrierWorld.start],
    by simp [BarrierWorld.start]⟩
  calls _ _ h := by cases h
  returns _ h := by cases h
  nodup := List.nodup_nil

/-! ## Moves of the nodes -/

namespace BarrierWorld

variable {w : BarrierWorld}

lemma inbox_move (x y z : ℕ) (m : QueueMove) :
    (w.move x m).inbox z y = if z = x then ((w.nodes x).step m).inboxes y else w.inbox z y := by
  unfold move inbox
  by_cases hz : z = x
  · subst hz
    simp
  · simp [hz]

lemma grows_move (x : ℕ) (m : QueueMove) (z y : ℕ) :
    Inbox.Grows (w.inbox z y) ((w.move x m).inbox z y) := by
  rw [inbox_move]
  split_ifs with hz
  · subst hz
    exact QueueNode.grows_step _ m y
  · exact Inbox.Grows.refl _

lemma shape_step (s : QueueNode) (m : QueueMove) :
    (s.step m).nodeCount = s.nodeCount ∧ (s.step m).localIdx = s.localIdx := by
  cases m with
  | push peer d =>
    simp only [QueueNode.step]
    split_ifs <;> exact ⟨rfl, rfl⟩
  | takePending call peer k =>
    simp only [QueueNode.step]
    split_ifs
    · split <;> exact ⟨rfl, rfl⟩
    · exact ⟨rfl, rfl⟩
  | popIngress call peer update =>
    simp only [QueueNode.step]
    split_ifs
    · cases update <;> exact ⟨rfl, rfl⟩
    · exact ⟨rfl, rfl⟩
  | stashOwn d =>
    simp only [QueueNode.step]
    split_ifs <;> exact ⟨rfl, rfl⟩

/-- Only a push, and what a node keeps for itself, adds to what was sent. -/
lemma sent_step (s : QueueNode) {m : QueueMove} (hm : ∀ peer d, m ≠ .push peer d) {y : ℕ}
    (hy : y ≠ s.localIdx) : ((s.step m).inboxes y).sent = (s.inboxes y).sent := by
  have hmod : ∀ (peer : ℕ) (f : Inbox Desc WaitCall → Inbox Desc WaitCall),
      (∀ b : Inbox Desc WaitCall, (f b).sent = b.sent) →
      ((s.modifyInbox peer f).inboxes y).sent = (s.inboxes y).sent := by
    intro peer f hf
    exact QueueNode.modifyInbox_cases (P := fun b b' => b'.sent = b.sent) (fun _ => rfl) s (hf _) y
  have htake : ∀ (p : Desc → Bool) (call : WaitCall) (b : Inbox Desc WaitCall),
      (b.take p call).sent = b.sent := by
    intro p call b
    unfold Inbox.take
    split <;> rfl
  have hreceive : ∀ (p : Desc → Bool) (call : WaitCall) (b : Inbox Desc WaitCall),
      (b.receive pendingDescDepth p call).sent = b.sent := by
    intro p call b
    unfold Inbox.receive Inbox.putAside
    split
    · split_ifs <;> rfl
    · rfl
  have hlose : ∀ b : Inbox Desc WaitCall, b.lose.sent = b.sent := by
    intro b
    unfold Inbox.lose
    split <;> rfl
  cases m with
  | push peer d => exact absurd rfl (hm peer d)
  | takePending call peer k =>
    simp only [QueueNode.step]
    split_ifs
    · split
      · exact hmod _ _ (htake _ _)
      · rfl
    · rfl
  | popIngress call peer update =>
    simp only [QueueNode.step]
    split_ifs
    · cases update with
      | done => exact hmod _ _ (hreceive _ _)
      | failedBefore => rfl
      | failedAfter => exact hmod _ _ hlose
    · rfl
  | stashOwn d =>
    simp only [QueueNode.step]
    split_ifs
    · rfl
    · simp only [QueueNode.modifyInbox, Function.update_of_ne hy]

end BarrierWorld

section Preservation

variable {w w' : BarrierWorld} {x : ℕ} {c : BarrierCall}

/-- A call survives what keeps the entries, the origins and the returns and lets the inboxes grow. -/
lemma CallOk.mono (h : CallOk w x c) (hcount : w'.nodeCount = w.nodeCount)
    (hentries : w'.entries = w.entries) (horigin : w'.origin = w.origin)
    (hreturns : w'.returns = w.returns)
    (hg : ∀ z y, Inbox.Grows (w.inbox z y) (w'.inbox z y)) : CallOk w' x c where
  entry := hentries ▸ h.entry
  fresh := horigin ▸ h.fresh
  got y k hk := (h.got y k hk).mono (hg x y)
  all := h.all
  draining := hcount ▸ h.draining
  unused := hreturns ▸ h.unused

lemma ReturnOk.mono {r : BarrierReturn} (h : ReturnOk w r) (hcount : w'.nodeCount = w.nodeCount)
    (hentries : ∀ (e : ℕ) (en : BarrierEntry), w.entries[e]? = some en → w'.entries[e]? = some en)
    (hg : ∀ z y, Inbox.Grows (w.inbox z y) (w'.inbox z y)) : ReturnOk w' r where
  entry := hentries _ _ h.entry
  got y hy hne := by
    obtain ⟨k, hk, htook⟩ := h.got y (hcount ▸ hy) hne
    exact ⟨k, hk, htook.mono (hg _ _)⟩

/-- **A node takes or pops.** -/
lemma BarrierInv.move (h : BarrierInv w) (x : ℕ) {m : QueueMove} (hm : ∀ peer d, m ≠ .push peer d) :
    BarrierInv (w.move x m) where
  shape z := by
    simp only [BarrierWorld.move, Function.update_apply]
    split_ifs with hz
    · subst hz
      have hs := BarrierWorld.shape_step (w.nodes z) m
      exact ⟨hs.1.trans (h.shape z).1, hs.2.trans (h.shape z).2⟩
    · exact h.shape z
  once z y := by
    rw [BarrierWorld.inbox_move]
    split_ifs with hz
    · subst hz
      exact QueueNode.once_step (h.once z y) m
    · exact h.once z y
  origins z y hzy := by
    have hsent : ((w.move x m).inbox z y).sent = (w.inbox z y).sent := by
      rw [BarrierWorld.inbox_move]
      split_ifs with hz
      · subst hz
        refine BarrierWorld.sent_step _ hm ?_
        rw [(h.shape z).2]
        exact hzy.symm
      · rfl
    rw [hsent]
    exact h.origins z y hzy
  calls z c hc := (h.calls z c hc).mono rfl rfl rfl rfl fun _ _ => BarrierWorld.grows_move ..
  returns r hr := (h.returns r hr).mono rfl (fun _ _ he => he) fun _ _ => BarrierWorld.grows_move ..
  nodup := h.nodup

/-- **A call comes to its next point, or ends.** -/
lemma BarrierInv.setCall (h : BarrierInv w) {c : Option BarrierCall}
    (hc : ∀ c', c = some c' → CallOk w x c') : BarrierInv (w.setCall x c) where
  shape := h.shape
  once := h.once
  origins := h.origins
  calls z c' hz := by
    have hok : CallOk w z c' := by
      simp only [BarrierWorld.setCall, Function.update_apply] at hz
      split_ifs at hz with hzx
      · subst hzx
        exact hc c' hz
      · exact h.calls z c' hz
    exact hok.mono rfl rfl rfl rfl fun _ _ => Inbox.Grows.refl _
  returns r hr := (h.returns r hr).mono rfl (fun _ _ he => he) fun _ _ => Inbox.Grows.refl _
  nodup := h.nodup

/-- One more descriptor sent. -/
lemma OriginOk.append {entries : List BarrierEntry} {y : ℕ} {sent : List Desc}
    {origin : List (Option ℕ)} (h : OriginOk entries y sent origin) {d : Desc} {entry : Option ℕ}
    (htoken : ∀ e, entry = some e → some e ∉ origin ∧ ∃ en : BarrierEntry, entries[e]? = some en ∧
      en.node = y ∧ d.type = en.type.code ∧ d.cookie.toUInt16 = en.epoch)
    (hother : entry = none → d.type ≠ descReady ∧ d.type ≠ descObserved) :
    OriginOk entries y (sent ++ [d]) (origin ++ [entry]) := by
  have hlen := h.length_eq
  -- a place of the longer list is an old one or the last
  have hcase : ∀ (k : ℕ) (o : Option ℕ), (origin ++ [entry])[k]? = some o →
      origin[k]? = some o ∨ k = origin.length ∧ entry = o := by
    intro k o hk
    rcases Nat.lt_trichotomy k origin.length with hlt | heq | hgt
    · rw [List.getElem?_append_left hlt] at hk
      exact Or.inl hk
    · subst heq
      rw [List.getElem?_append_right (Nat.le_refl _)] at hk
      simpa using hk
    · rw [List.getElem?_append_right (by omega)] at hk
      obtain ⟨j, hj⟩ : ∃ j, k - origin.length = j + 1 := ⟨k - origin.length - 1, by omega⟩
      simp [hj] at hk
  refine ⟨by simp [hlen], ?_, ?_, ?_⟩
  · intro k e hk
    rcases hcase k _ hk with hold | ⟨rfl, hentry⟩
    · obtain ⟨d', en, hd', hrest⟩ := h.token k e hold
      refine ⟨d', en, ?_, hrest⟩
      rw [List.getElem?_append_left (List.getElem?_eq_some_iff.mp hd').1]
      exact hd'
    · obtain ⟨-, en, hen⟩ := htoken e hentry
      refine ⟨d, en, ?_, hen⟩
      rw [hlen]
      simp
  · intro k d' hk hd'
    rcases hcase k _ hk with hold | ⟨rfl, hentry⟩
    · have hlt : k < sent.length := hlen ▸ (List.getElem?_eq_some_iff.mp hold).1
      rw [List.getElem?_append_left hlt] at hd'
      exact h.other k d' hold hd'
    · rw [hlen, List.getElem?_append_right (Nat.le_refl _)] at hd'
      simp only [Nat.sub_self, List.getElem?_cons_zero, Option.some_inj] at hd'
      rw [← hd']
      exact hother hentry
  · intro k k' e hk hk'
    rcases hcase k _ hk with hold | ⟨rfl, hentry⟩ <;> rcases hcase k' _ hk' with hold' | ⟨rfl, hentry'⟩
    · exact h.inj k k' e hold hold'
    · exact absurd (List.mem_of_getElem? hold) (htoken e hentry').1
    · exact absurd (List.mem_of_getElem? hold') (htoken e hentry).1
    · rfl

/-- What a send changes: one inbox and one list of origins. -/
lemma BarrierWorld.send_eq (h : BarrierInv w) {y x : ℕ} (d : Desc) (entry : Option ℕ)
    (hg : y < w.nodeCount ∧ x < w.nodeCount ∧ y ≠ x) :
    (∀ z u, (w.send y x d entry).inbox z u =
      if z = x ∧ u = y then (w.inbox x y).push d else w.inbox z u) ∧
    ∀ z u, (w.send y x d entry).origin z u =
      if z = x ∧ u = y then w.origin x y ++ [entry] else w.origin z u := by
  have hpush : ∀ u, ((w.nodes x).step (.push y d)).inboxes u =
      if u = y then (w.inbox x y).push d else w.inbox x u := by
    intro u
    have hguard : y < (w.nodes x).nodeCount ∧ y ≠ (w.nodes x).localIdx := by
      rw [(h.shape x).1, (h.shape x).2]
      exact ⟨hg.1, hg.2.2⟩
    rw [QueueNode.step, if_pos hguard]
    unfold QueueNode.modifyInbox BarrierWorld.inbox
    by_cases hu : u = y
    · subst hu
      simp
    · simp [hu]
  unfold BarrierWorld.send
  rw [if_pos hg]
  constructor
  · intro z u
    have hmove := BarrierWorld.inbox_move (w := w) x u z (.push y d)
    rw [hpush] at hmove
    refine hmove.trans ?_
    by_cases hz : z = x
    · subst hz
      simp
    · simp [hz]
  · intro z u
    dsimp only
    by_cases hz : z = x
    · subst hz
      by_cases hu : u = y
      · subst hu
        simp
      · simp [hu]
    · simp [hz]

/-- **A node sends.** A descriptor that stems from an entry carries its type and epoch, the entry has sent
none to this node before, and the call behind it is past this node. -/
lemma BarrierInv.send (h : BarrierInv w) {y x : ℕ} {d : Desc} {entry : Option ℕ}
    (htoken : ∀ e, entry = some e → some e ∉ w.origin x y ∧ (∃ en : BarrierEntry,
      w.entries[e]? = some en ∧ en.node = y ∧ d.type = en.type.code ∧ d.cookie.toUInt16 = en.epoch) ∧
      ∀ c, w.calls y = some c → c.id = e → ∀ i, c.point = .announce i → x < i)
    (hother : entry = none → d.type ≠ descReady ∧ d.type ≠ descObserved) :
    BarrierInv (w.send y x d entry) := by
  by_cases hg : y < w.nodeCount ∧ x < w.nodeCount ∧ y ≠ x
  swap
  · unfold BarrierWorld.send
    rwa [if_neg hg]
  obtain ⟨hinbox, horigin⟩ := BarrierWorld.send_eq h d entry hg
  have hrest : (w.send y x d entry).nodeCount = w.nodeCount ∧
      (w.send y x d entry).entries = w.entries ∧ (w.send y x d entry).calls = w.calls ∧
      (w.send y x d entry).returns = w.returns := by
    unfold BarrierWorld.send
    rw [if_pos hg]
    exact ⟨rfl, rfl, rfl, rfl⟩
  obtain ⟨hcount, hentries, hcalls, hreturns⟩ := hrest
  have hgrows : ∀ z u, Inbox.Grows (w.inbox z u) ((w.send y x d entry).inbox z u) := by
    intro z u
    rw [hinbox]
    split_ifs with hzu
    · rw [hzu.1, hzu.2]
      exact Inbox.grows_push _ d
    · exact Inbox.Grows.refl _
  constructor
  · intro z
    rw [hcount]
    unfold BarrierWorld.send BarrierWorld.move
    rw [if_pos hg]
    simp only [Function.update_apply]
    split_ifs with hz
    · subst hz
      have hs := BarrierWorld.shape_step (w.nodes z) (.push y d)
      exact ⟨hs.1.trans (h.shape z).1, hs.2.trans (h.shape z).2⟩
    · exact h.shape z
  · intro z u
    rw [hinbox]
    split_ifs
    · exact (h.once x y).push d
    · exact h.once z u
  · intro z u hzu
    rw [hinbox, horigin, hentries]
    split_ifs with hpair
    · obtain ⟨rfl, rfl⟩ := hpair
      exact (h.origins z u hzu).append (fun e he => ⟨(htoken e he).1, (htoken e he).2.1⟩) hother
    · exact h.origins z u hzu
  · intro z c hc
    rw [hcalls] at hc
    have hold := h.calls z c hc
    refine ⟨hentries ▸ hold.entry, ?_, fun u k hk => (hold.got u k hk).mono (hgrows z u), hold.all,
      hcount ▸ hold.draining, hreturns ▸ hold.unused⟩
    intro i hi v hv hvz
    rw [horigin]
    split_ifs with hpair
    · obtain ⟨rfl, rfl⟩ := hpair
      rw [List.mem_append, List.mem_singleton]
      rintro (hmem | heq)
      · exact hold.fresh i hi v hv hvz hmem
      · have hlt := (htoken c.id heq.symm).2.2 c hc rfl i hi
        omega
    · exact hold.fresh i hi v hv hvz
  · intro r hr
    rw [hreturns] at hr
    exact (h.returns r hr).mono hcount (fun _ _ he => hentries ▸ he) hgrows
  · rw [hreturns]
    exact h.nodup

/-- **A node enters a barrier.** -/
lemma BarrierInv.enter (h : BarrierInv w) (x : ℕ) (type : BarrierType) (epoch : UInt16)
    (publishSeq : UInt32) : BarrierInv (w.step (.enter x type epoch publishSeq)) := by
  simp only [BarrierWorld.step]
  split_ifs with hg
  swap
  · exact h
  have hentries : ∀ (e : ℕ) (en : BarrierEntry), w.entries[e]? = some en →
      (w.entries ++ [⟨x, type, epoch⟩])[e]? = some en := by
    intro e en he
    rw [List.getElem?_append_left (List.getElem?_eq_some_iff.mp he).1]
    exact he
  have horigin_lt : ∀ z u, z ≠ u → ∀ e, some e ∈ w.origin z u → e < w.entries.length := by
    intro z u hzu e he
    obtain ⟨k, hk, hke⟩ := List.getElem_of_mem he
    obtain ⟨-, en, -, hen, -⟩ := (h.origins z u hzu).token k e
      (List.getElem?_eq_some_iff.mpr ⟨hk, hke⟩)
    exact (List.getElem?_eq_some_iff.mp hen).1
  constructor
  · exact h.shape
  · exact h.once
  · intro z u hzu
    have hold := h.origins z u hzu
    refine ⟨hold.length_eq, ?_, hold.other, hold.inj⟩
    intro k e hk
    obtain ⟨d, en, hd, hen, hrest⟩ := hold.token k e hk
    exact ⟨d, en, hd, hentries e en hen, hrest⟩
  · intro z c hc
    simp only [BarrierWorld.setCall, Function.update_apply] at hc
    split_ifs at hc with hz
    · subst hz
      rw [← Option.some_inj.mp hc]
      refine ⟨by simp, ?_, by simp, by simp, by simp, ?_⟩
      · intro i _ v _ hvz hmem
        exact Nat.lt_irrefl _ (horigin_lt v z hvz _ hmem)
      · intro r hr hid
        have hlt := (List.getElem?_eq_some_iff.mp (h.returns r hr).entry).1
        rw [hid] at hlt
        exact Nat.lt_irrefl _ hlt
    · have hold := h.calls z c hc
      exact ⟨hentries _ _ hold.entry, hold.fresh, hold.got, hold.all, hold.draining, hold.unused⟩
  · intro r hr
    have hold := h.returns r hr
    exact ⟨hentries _ _ hold.entry, hold.got⟩
  · exact h.nodup

/-- A call at another point: what it has and who it is stay. -/
lemma CallOk.goto (h : CallOk w x c) {point : BarrierPoint}
    (hfresh : ∀ i, point = .announce i → ∀ z, i ≤ z → z ≠ x → some c.id ∉ w.origin z x)
    (hall : ∀ i, point = .peer i true ∨ point = .drain i true → ∀ y < i, c.has x y = true)
    (hdrain : ∀ i b, point = .drain i b → i < w.nodeCount ∧ i ≠ x) :
    CallOk w x { c with point := point } :=
  ⟨h.entry, hfresh, h.got, hall, hdrain, h.unused⟩

/-- The node's own move in a barrier is one of its inbox. -/
lemma BarrierInv.inbox_takePending (h : BarrierInv w) {i : ℕ} (hi : i < w.nodeCount) :
    (w.move x (.takePending c.wait i 0)).inbox x i = (w.inbox x i).take c.wants c.wait := by
  have htakes : c.wait.2.takes[0]? = some c.wants := rfl
  rw [BarrierWorld.inbox_move, if_pos rfl, QueueNode.step, if_pos ((h.shape x).1.symm ▸ hi), htakes]
  simp [QueueNode.modifyInbox, BarrierWorld.inbox]

lemma BarrierInv.inbox_popIngress (h : BarrierInv w) {i : ℕ} (hi : i < w.nodeCount ∧ i ≠ x) :
    (w.move x (.popIngress c.wait i .done)).inbox x i =
      (w.inbox x i).receive pendingDescDepth c.wants c.wait := by
  have hguard : i < (w.nodes x).nodeCount ∧ i ≠ (w.nodes x).localIdx := by
    rw [(h.shape x).1, (h.shape x).2]
    exact hi
  have hwants : c.wait.2.wants = c.wants := by
    funext d
    simp [BarrierCall.wait, DescWait.wants, DescWait.takes, BarrierCall.wants]
  rw [BarrierWorld.inbox_move, if_pos rfl, QueueNode.step, if_pos hguard]
  simp [QueueNode.modifyInbox, BarrierWorld.inbox, hwants]

/-- A call that has just taken a descriptor of peer `i`. -/
lemma CallOk.take (h : CallOk w x c) {i k : ℕ} (htook : Took (w.inbox x i) k c) :
    ∀ y k', Function.update c.got i (some k) y = some k' → Took (w.inbox x y) k' c := by
  intro y k' hk'
  rw [Function.update_apply] at hk'
  split_ifs at hk' with hy
  · subst hy
    rwa [← Option.some_inj.mp hk']
  · exact h.got y k' hk'

lemma BarrierWorld.setCall_send (w : BarrierWorld) (x i : ℕ) (d : Desc) (entry : Option ℕ)
    (c : Option BarrierCall) :
    (w.send x i d entry).setCall x c = (w.setCall x c).send x i d entry := by
  unfold BarrierWorld.send
  split_ifs with h h' h'
  · rfl
  · exact absurd h h'
  · exact absurd h' h
  · rfl

/-- **A call returns with success.** It has a descriptor of every peer. -/
lemma BarrierInv.succeed (h : BarrierInv w) (hc : w.calls x = some c)
    (hall : ∀ y < w.nodeCount, c.has x y = true) :
    BarrierInv { w.setCall x none with returns := w.returns ++ [⟨x, c⟩] } := by
  have hok := h.calls x c hc
  have hnone : BarrierInv (w.setCall x none) := h.setCall fun _ hn => by cases hn
  constructor
  · exact hnone.shape
  · exact hnone.once
  · exact hnone.origins
  · intro z c' hc'
    have hold := hnone.calls z c' hc'
    refine ⟨hold.entry, hold.fresh, hold.got, hold.all, hold.draining, ?_⟩
    intro r hr
    rcases List.mem_append.mp hr with hr | hr
    · exact hold.unused r hr
    · rw [List.mem_singleton] at hr
      subst hr
      intro hid
      -- a call with the same entry is on the same node, and that node has none
      have hentry := hold.entry
      have hentry' : w.entries[c'.id]? = some ⟨x, c.type, c.epoch⟩ := hid ▸ hok.entry
      have hnode : z = x := congrArg BarrierEntry.node (Option.some_inj.mp (hentry.symm.trans hentry'))
      subst hnode
      simp [BarrierWorld.setCall] at hc'
  · intro r hr
    rcases List.mem_append.mp hr with hr | hr
    · exact ⟨(hnone.returns r hr).entry, (hnone.returns r hr).got⟩
    · rw [List.mem_singleton] at hr
      subst hr
      refine ⟨hok.entry, ?_⟩
      intro y hy hyx
      have hhas := hall y hy
      simp only [BarrierCall.has, Bool.or_eq_true, decide_eq_true_eq] at hhas
      obtain ⟨k, hk⟩ := Option.isSome_iff_exists.mp (hhas.resolve_left hyx)
      exact ⟨k, hk, hok.got y k hk⟩
  · rw [List.map_append, List.nodup_append]
    refine ⟨h.nodup, by simp, ?_⟩
    intro a ha b hb hab
    obtain ⟨r, hr, rfl⟩ := List.mem_map.mp ha
    rw [List.map_cons, List.map_nil, List.mem_singleton] at hb
    exact hok.unused r hr (hab.trans hb)

/-- A descriptor found in the stash has been taken by the call. -/
lemma BarrierInv.took_takePending (h : BarrierInv w) {i : ℕ} (hi : i < w.nodeCount) {m : ℕ × Desc}
    (hm : (w.inbox x i).wanted? c.wants = some m) :
    Took ((w.move x (.takePending c.wait i 0)).inbox x i) m.1 c := by
  obtain ⟨hw, before, after, heq, htake⟩ := Inbox.take_eq c.wait hm
  have hmem : m ∈ (w.inbox x i).stash := by
    rw [heq]
    simp
  rw [h.inbox_takePending hi, htake]
  exact ⟨m.2, List.mem_cons_self, (h.once x i).stashed m hmem, hw⟩

/-- A descriptor popped and wanted has been taken by the call. -/
lemma BarrierInv.took_popIngress (h : BarrierInv w) {i : ℕ} (hi : i < w.nodeCount ∧ i ≠ x)
    {m : ℕ × Desc} (hm : (w.inbox x i).next? = some m) (hw : c.wants m.2 = true) :
    Took ((w.move x (.popIngress c.wait i .done)).inbox x i) m.1 c := by
  obtain ⟨hk, hsent⟩ := Inbox.next?_eq_some hm
  rw [h.inbox_popIngress hi, Inbox.receive, hm]
  simp only [hw, if_true]
  exact ⟨m.2, List.mem_cons_self, hk ▸ hsent, hw⟩

/-- What a call has it keeps when it gets one more. -/
lemma BarrierCall.has_update {i k y : ℕ} (h : c.has x y = true) (point : BarrierPoint) :
    BarrierCall.has { c with got := Function.update c.got i (some k), point := point } x y = true := by
  simp only [BarrierCall.has, Bool.or_eq_true, decide_eq_true_eq, Function.update_apply] at h ⊢
  split_ifs <;> simp_all

lemma BarrierCall.has_update_self (c : BarrierCall) (x i k : ℕ) (point : BarrierPoint) :
    BarrierCall.has { c with got := Function.update c.got i (some k), point := point } x i = true := by
  simp [BarrierCall.has]

/-- **One step of a call.** -/
lemma BarrierInv.advance (h : BarrierInv w) (hc : w.calls x = some c) (env : BarrierEnv) :
    BarrierInv (w.advance x c env) := by
  have hok := h.calls x c hc
  have hgoto : ∀ {point : BarrierPoint},
      (∀ i, point = .announce i → ∀ z, i ≤ z → z ≠ x → some c.id ∉ w.origin z x) →
      (∀ i, point = .peer i true ∨ point = .drain i true → ∀ y < i, c.has x y = true) →
      (∀ i b, point = .drain i b → i < w.nodeCount ∧ i ≠ x) →
      BarrierInv (w.setCall x (some { c with point := point })) := by
    intro point h1 h2 h3
    refine h.setCall fun c' hc' => ?_
    rw [← Option.some_inj.mp hc']
    exact hok.goto h1 h2 h3
  have hend : BarrierInv (w.setCall x none) := h.setCall fun _ hn => by cases hn
  unfold BarrierWorld.advance
  split
  · rename_i i hpoint
    have hnext : ∀ j, BarrierPoint.announce (i + 1) = .announce j → ∀ z, j ≤ z → z ≠ x →
        some c.id ∉ w.origin z x := by
      intro j hj z hz
      cases hj
      exact hok.fresh i hpoint z (by omega)
    split_ifs with hi hix hfull hlate
    · exact hgoto hnext (by simp) (by simp)
    · exact hend
    · exact h
    · rw [BarrierWorld.setCall_send]
      refine (hgoto hnext (by simp) (by simp)).send ?_ (by simp)
      intro e he
      cases he
      refine ⟨hok.fresh i hpoint i (Nat.le_refl _) hix, ⟨_, hok.entry, rfl, rfl, by simp [barrierDesc]⟩, ?_⟩
      intro c' hc' _ j hj
      simp only [BarrierWorld.setCall, Function.update_self, Option.some_inj] at hc'
      rw [← hc'] at hj
      cases hj
      exact Nat.lt_succ_self i
    · exact hgoto (by simp) (by simp) (by simp)
  · split_ifs
    · exact hend
    · refine hgoto (by simp) ?_ (by simp)
      rintro i (hi | hi) y hy
      · cases hi
        omega
      · cases hi
  · rename_i i all hpoint
    have hbefore : all = true → ∀ y < i, c.has x y = true := by
      rintro rfl
      exact hok.all i (Or.inl hpoint)
    split_ifs with hi hhas hall
    · refine hgoto (by simp) ?_ (by simp)
      rintro j (hj | hj) y hy
      · cases hj
        rcases Nat.lt_succ_iff_lt_or_eq.mp hy with hlt | rfl
        · exact hbefore rfl y hlt
        · exact hhas
      · cases hj
    · split
      · rename_i m hm
        have hmove := h.move x (m := .takePending c.wait i 0) (by simp)
        have hok' := hmove.calls x c hc
        refine hmove.setCall fun c' hc' => ?_
        rw [← Option.some_inj.mp hc']
        refine ⟨hok'.entry, by simp, hok'.take (h.took_takePending hi hm), ?_, by simp, hok'.unused⟩
        rintro j (hj | hj) y hy
        · cases hj
          rcases Nat.lt_succ_iff_lt_or_eq.mp hy with hlt | rfl
          · exact BarrierCall.has_update (hbefore rfl y hlt) _
          · exact BarrierCall.has_update_self ..
        · cases hj
      · refine hgoto (by simp) ?_ ?_
        · rintro j (hj | hj) y hy
          · cases hj
          · cases hj
            exact hbefore rfl y hy
        · intro j b hj
          cases hj
          refine ⟨hi, fun hix => hhas ?_⟩
          simp [BarrierCall.has, hix]
    · refine h.succeed hc fun y hy => hbefore hall y ?_
      omega
    · exact hgoto (by simp) (by simp) (by simp)
  · rename_i i all hpoint
    have hdrain := hok.draining i all hpoint
    have hbefore : all = true → ∀ y < i, c.has x y = true := by
      rintro rfl
      exact hok.all i (Or.inr hpoint)
    have hmove := h.move x (m := .popIngress c.wait i env.update) (by simp)
    have hok' := hmove.calls x c hc
    dsimp only
    split
    · rename_i m hm
      have hdone : env.update = .done ∧ (w.inbox x i).next? = some m := by
        split_ifs at hm with hd
        exact ⟨hd, hm⟩
      split_ifs with hw
      · have htook := h.took_popIngress hdrain hdone.2 hw
        rw [← hdone.1] at htook
        refine hmove.setCall fun c' hc' => ?_
        rw [← Option.some_inj.mp hc']
        refine ⟨hok'.entry, hok'.fresh, hok'.take htook, ?_, hok'.draining, hok'.unused⟩
        intro j hj y hy
        exact BarrierCall.has_update (hok'.all j hj y hy) _
      · refine hmove.setCall fun c' hc' => ?_
        rw [← Option.some_inj.mp hc']
        exact hok'
    · refine hmove.setCall fun c' hc' => ?_
      rw [← Option.some_inj.mp hc']
      refine hok'.goto (by simp) ?_ (by simp)
      rintro j (hj | hj) y hy
      · simp only [BarrierPoint.peer.injEq, Bool.and_eq_true] at hj
        obtain ⟨rfl, hall, hgot⟩ := hj
        rcases Nat.lt_succ_iff_lt_or_eq.mp hy with hlt | rfl
        · exact hbefore hall y hlt
        · simp [BarrierCall.has, hgot]
      · cases hj

lemma BarrierInv.step (h : BarrierInv w) (e : BarrierEvent) : BarrierInv (w.step e) := by
  cases e with
  | enter x type epoch publishSeq => exact h.enter x type epoch publishSeq
  | advance x env =>
    simp only [BarrierWorld.step]
    split
    · rename_i c hc
      exact h.advance hc env
    · exact h
  | sendOther y x d =>
    simp only [BarrierWorld.step]
    split_ifs with hd
    · refine h.send (by simp) fun _ => ?_
      rcases hd with hd | hd <;> rw [hd] <;> decide
    · exact h
  | otherTake x call peer k => exact h.move x (by simp)
  | otherPop x call peer update => exact h.move x (by simp)
  | stashOwn x d => exact h.move x (by simp)

end Preservation

/-- The entry of `y` that a return stands on: the one that the descriptor taken from `y` stems from. -/
def BarrierWorld.justification (w : BarrierWorld) (r : BarrierReturn) (y : ℕ) : Option ℕ :=
  (r.call.got y).bind fun k => ((w.origin r.node y)[k]?).join

lemma BarrierInv.justified {w : BarrierWorld} (h : BarrierInv w) {r : BarrierReturn} (hr : r ∈ w.returns)
    {y : ℕ} (hy : y < w.nodeCount) (hne : y ≠ r.node) :
    ∃ k e, r.call.got y = some k ∧ Took (w.inbox r.node y) k r.call ∧
      (w.origin r.node y)[k]? = some (some e) ∧ w.justification r y = some e ∧
      w.entries[e]? = some ⟨y, r.call.type, r.call.epoch⟩ := by
  obtain ⟨k, hk, htook⟩ := (h.returns r hr).got y hy hne
  have horigin := h.origins r.node y hne.symm
  obtain ⟨d, hmem, hsent, hw⟩ := htook
  simp only [BarrierCall.wants, descMatchesBarrier, Bool.and_eq_true, beq_iff_eq] at hw
  have hlt : k < (w.origin r.node y).length :=
    horigin.length_eq ▸ (List.getElem?_eq_some_iff.mp hsent).1
  -- the descriptor is of a barrier's type, so it stems from an entry
  obtain ⟨e, he⟩ : ∃ e, (w.origin r.node y)[k]? = some (some e) := by
    cases ho : (w.origin r.node y)[k] with
    | some e => exact ⟨e, List.getElem?_eq_some_iff.mpr ⟨hlt, ho⟩⟩
    | none =>
      have hother := horigin.other k d (List.getElem?_eq_some_iff.mpr ⟨hlt, ho⟩) hsent
      cases htype : r.call.type with
      | ready =>
        rw [htype] at hw
        exact absurd hw.1 hother.1
      | observed =>
        rw [htype] at hw
        exact absurd hw.1 hother.2
  obtain ⟨d', en, hd', hen, hnode, htype, hepoch⟩ := horigin.token k e he
  have hdd : d = d' := Option.some_inj.mp (hsent.symm.trans hd')
  subst hdd
  refine ⟨k, e, hk, ⟨d, hmem, hsent, by simp [BarrierCall.wants, descMatchesBarrier, hw]⟩, he, ?_, ?_⟩
  · simp [BarrierWorld.justification, hk, he]
  · have hcode : en.type = r.call.type := by
      have hcodes := htype.symm.trans hw.1
      revert hcodes
      cases en.type <;> cases r.call.type <;> decide
    rw [hen, ← hnode, ← hcode, ← hw.2, hepoch]

/-- No event changes the size of the cluster. -/
lemma BarrierWorld.nodeCount_step (w : BarrierWorld) (e : BarrierEvent) :
    (w.step e).nodeCount = w.nodeCount := by
  have hsend : ∀ (y x : ℕ) (d : Desc) (entry : Option ℕ),
      (w.send y x d entry).nodeCount = w.nodeCount := by
    intro y x d entry
    unfold BarrierWorld.send
    split_ifs <;> rfl
  cases e with
  | enter x type epoch publishSeq =>
    simp only [BarrierWorld.step]
    split_ifs <;> rfl
  | advance x env =>
    simp only [BarrierWorld.step]
    split
    · rename_i c _
      unfold BarrierWorld.advance
      split
      · split_ifs
        · rfl
        · rfl
        · rfl
        · exact hsend ..
        · rfl
      · rfl
      · split_ifs
        · rfl
        · split <;> rfl
        · rfl
        · rfl
      · dsimp only
        split
        · split_ifs <;> rfl
        · rfl
    · rfl
  | sendOther y x d =>
    simp only [BarrierWorld.step]
    split_ifs
    · exact hsend ..
    · rfl
  | otherTake x call peer k => rfl
  | otherPop x call peer update => rfl
  | stashOwn x d => rfl

/-- **Agreement of the queue barrier.** In every run of a cluster with all queues attached, with timeouts
anywhere: each successful return of a node from a barrier stands, for every other node, on an entry of
that node into a barrier of the same type and epoch, and no earlier successful return of the node stands
on that entry. -/
theorem queue_barrier_agreement (nodeCount : ℕ) (events : List BarrierEvent) (i : ℕ)
    {r : BarrierReturn}
    (hr : (Run.run BarrierWorld.step (BarrierWorld.start nodeCount) events).returns[i]? = some r)
    (y : ℕ) (hy : y < nodeCount) (hne : y ≠ r.node) :
    ∃ e, (Run.run BarrierWorld.step (BarrierWorld.start nodeCount) events).justification r y = some e ∧
      (Run.run BarrierWorld.step (BarrierWorld.start nodeCount) events).entries[e]? =
        some ⟨y, r.call.type, r.call.epoch⟩ ∧
      ∀ (j : ℕ) (r' : BarrierReturn), j < i →
        (Run.run BarrierWorld.step (BarrierWorld.start nodeCount) events).returns[j]? = some r' →
        r'.node = r.node →
        (Run.run BarrierWorld.step (BarrierWorld.start nodeCount) events).justification r' y ≠
          some e := by
  have hinv := Run.invariant (I := BarrierInv) (fun _ e h => h.step e) (barrierInv_start nodeCount) events
  have hcount := Run.invariant (I := fun w : BarrierWorld => w.nodeCount = nodeCount)
    (fun w e h => (w.nodeCount_step e).trans h) (s := BarrierWorld.start nodeCount) rfl events
  generalize Run.run BarrierWorld.step (BarrierWorld.start nodeCount) events = w at *
  rw [← hcount] at hy
  obtain ⟨k, e, hk, ⟨d, hmem, -, -⟩, horigin, hjust, hentry⟩ :=
    hinv.justified (List.mem_of_getElem? hr) hy hne
  refine ⟨e, hjust, hentry, ?_⟩
  intro j r' hji hr' hnode hjust'
  obtain ⟨k', e', hk', ⟨d', hmem', -, -⟩, horigin', hjust'', -⟩ :=
    hinv.justified (List.mem_of_getElem? hr') hy (hnode ▸ hne)
  -- the same entry is the same descriptor, and that has one taker
  have hee : e' = e := Option.some_inj.mp (hjust''.symm.trans hjust')
  subst hee
  rw [hnode] at horigin' hmem'
  have hkk : k' = k := (hinv.origins r.node y hne.symm).inj k' k e' horigin' horigin
  subst hkk
  have hwho := (hinv.once r.node y).taker_unique hmem hmem'
  have hid : r.call.id = r'.call.id := congrArg Prod.fst hwho
  have hij := List.getElem?_inj (l := w.returns.map fun r => r.call.id) (i := i) (j := j)
    (by simpa using (List.getElem?_eq_some_iff.mp hr).1) hinv.nodup
  have heq : i = j := hij.mp (by simp [hr, hr', hid])
  omega

/-- A step of a barrier with time and room, and with updates that come out well. -/
def smooth (x : ℕ) : BarrierEvent := .advance x ⟨false, false, .done⟩

/-- Two nodes enter the same barrier, and node 0 goes on until it returns; a descriptor of another
origin is in its way. -/
def barrierOfTwo : List BarrierEvent :=
  [.sendOther 1 0 objectDesc, .enter 0 .ready 3 1, .enter 1 .ready 3 1] ++
    List.replicate 3 (smooth 1) ++ List.replicate 11 (smooth 0)

/-- Node 0 returns with success, on the entry of node 1. -/
theorem queue_barrier_agreement_two :
    ∃ r, (Run.run BarrierWorld.step (BarrierWorld.start 2) barrierOfTwo).returns[0]? = some r ∧
      r.node = 0 ∧ ∃ e : ℕ,
        (Run.run BarrierWorld.step (BarrierWorld.start 2) barrierOfTwo).entries[e]? =
          some ⟨1, r.call.type, r.call.epoch⟩ := by
  have hret : ((Run.run BarrierWorld.step (BarrierWorld.start 2) barrierOfTwo).returns[0]?).map
      (fun r => r.node) = some 0 := by decide +kernel
  obtain ⟨r, hr, hnode⟩ := Option.map_eq_some_iff.mp hret
  obtain ⟨e, -, he, -⟩ := queue_barrier_agreement 2 barrierOfTwo 0 hr 1 (by decide) (by omega)
  exact ⟨r, hr, hnode, e, he⟩

end MemService
