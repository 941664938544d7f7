import MemService.Lib.Inbox
import MemService.Lib.Run
import MemService.Record

/-!
# Descriptors between nodes

`mem_service_cluster_queue.c`.  Nodes tell each other about barriers and objects by descriptors in
single-producer, single-consumer queues, one for each pair of nodes.  Seven kinds of waits pop from the
same queues; what is not for the wait at hand is put aside in a stash of 16 descriptors for each peer,
and every wait looks there first.

The loops of the waits decide which move comes next, a look into the stash of a peer or a pop of its
queue; the moves are what is modelled here, and a run is any order of the moves of any number of waits,
with the peers' pushes in between.  The queue itself is taken to be FIFO and lossless.

`descriptors_conserved` says when no descriptor gets lost: when none has to be put aside in a full stash,
and when no update of the queue's head fails after a pop.
-/

namespace MemService

/-! ## Descriptors -/

/-- `struct obmm_desc`. -/
structure Desc where
  seq : UInt64 := 0
  regionId : UInt32 := 0
  payloadLen : UInt32 := 0
  payloadOffset : UInt64 := 0
  type : UInt16 := 0
  flags : UInt16 := 0
  cookie : UInt32 := 0
  deriving DecidableEq

/-- `OBMM_DESC_MEM_SERVICE_READY`. -/
def descReady : UInt16 := 6
/-- `OBMM_DESC_MEM_SERVICE_OBSERVED`. -/
def descObserved : UInt16 := 7
/-- `OBMM_DESC_MEM_SERVICE_OBJECT_PUT`. -/
def descObjectPut : UInt16 := 8
/-- `OBMM_DESC_MEM_SERVICE_OBJECT_GET`. -/
def descObjectGet : UInt16 := 9

/-- `MEM_SERVICE_OBMM_KIND_*`. -/
def kindWeightTile : UInt32 := 1
@[inherit_doc kindWeightTile] def kindKvcacheBlock : UInt32 := 2
@[inherit_doc kindWeightTile] def kindHiddenRangeInput : UInt32 := 3
@[inherit_doc kindWeightTile] def kindHiddenRangeOutput : UInt32 := 4
@[inherit_doc kindWeightTile] def kindHiddenRangeRuntimeOutput : UInt32 := 5
@[inherit_doc kindWeightTile] def kindModelTokenResult : UInt32 := 6

/-- The epoch in the upper bits of an object descriptor's `seq`. -/
def Desc.epoch (d : Desc) : UInt16 := (d.seq >>> 48).toUInt16

/-- A 64-bit checksum folded to a cookie. -/
def checksumCookie (checksum : UInt64) : UInt32 := (checksum ^^^ (checksum >>> 32)).toUInt32

/-! ## What the waits ask for -/

/-- `mem_service_desc_matches_barrier`. -/
def descMatchesBarrier (descType epoch : UInt16) (d : Desc) : Bool :=
  d.type == descType && d.cookie.toUInt16 == epoch

/-- `mem_service_pending_object_desc_matches`. -/
def pendingObjectDescMatches (epoch : UInt16) (record : Record) (kind : UInt32) (d : Desc) : Bool :=
  d.type == descObjectPut && d.epoch == epoch && d.flags.toUInt32 == kind &&
    d.payloadOffset == record.objectBackingOffset &&
    d.payloadLen.toUInt64 == record.objectBackingLen &&
    d.cookie == checksumCookie record.objectPayloadChecksum

/-- `mem_service_object_desc_kind_len_matches`. -/
def objectDescKindLenMatches (payloadKind : UInt32) (minPayloadLen maxPayloadLen : UInt64)
    (d : Desc) : Bool :=
  d.type == descObjectPut && d.flags.toUInt32 == payloadKind &&
    decide (minPayloadLen ≤ d.payloadLen.toUInt64) && decide (d.payloadLen.toUInt64 ≤ maxPayloadLen)

/-- `mem_service_object_desc_matches`. -/
def objectDescMatches (epoch : UInt16) (payloadKind : UInt32) (minPayloadLen maxPayloadLen : UInt64)
    (d : Desc) : Bool :=
  objectDescKindLenMatches payloadKind minPayloadLen maxPayloadLen d && d.epoch == epoch

/-- `mem_service_token_result_desc_matches`. -/
def tokenResultDescMatches (epoch : UInt16) (payloadKind : UInt32) (payloadLen : UInt64)
    (d : Desc) : Bool :=
  d.type == descObjectPut && d.flags.toUInt32 == payloadKind &&
    d.payloadLen.toUInt64 == payloadLen && d.epoch == epoch

/-- `mem_service_runtime_range_input_desc_matches`. -/
def runtimeRangeInputDescMatches (expectedPayloadLen : UInt64) (epoch : UInt16) (d : Desc) : Bool :=
  tokenResultDescMatches epoch kindHiddenRangeRuntimeOutput expectedPayloadLen d

/-- `mem_service_object_ack_matches`. -/
def objectAckMatches (put ack : Desc) : Bool :=
  ack.type == descObjectGet && put.type == descObjectPut && ack.flags == put.flags &&
    ack.seq == put.seq && ack.regionId == put.regionId && ack.payloadLen == put.payloadLen &&
    ack.payloadOffset == put.payloadOffset && ack.cookie == put.cookie

/-- The seven waits, with what they wait for. -/
inductive DescWait
  -- `mem_service_queue_barrier`
  | barrier (descType epoch : UInt16)
  -- `mem_service_wait_obmm_object_ack_from`
  | objectAck (put : Desc)
  -- `mem_service_wait_remote_obmm_object_descs`
  | objectRecords (epoch : UInt16) (weight kvcache hiddenInput hiddenOutput : Record)
  -- the range input wait
  | runtimeRangeInput (expectedPayloadLen : UInt64) (epoch : UInt16)
  -- the token input wait and the terminal commit of the range input wait
  | tokenResult (epoch : UInt16) (payloadKind : UInt32) (payloadLen : UInt64)
  -- the waits for the selected token, the history and the state of an engram
  | object (epoch : UInt16) (payloadKind : UInt32) (minPayloadLen maxPayloadLen : UInt64)
  -- the wait for the candidates of an engram
  | objectKindLen (payloadKind : UInt32) (minPayloadLen maxPayloadLen : UInt64)

namespace DescWait

/-- What a wait asks of a descriptor of the stash: the wait for four objects asks four times. -/
def takes : DescWait → List (Desc → Bool)
  | barrier descType epoch => [descMatchesBarrier descType epoch]
  | objectAck put => [objectAckMatches put]
  | objectRecords epoch weight kvcache hiddenInput hiddenOutput =>
      [pendingObjectDescMatches epoch weight kindWeightTile,
        pendingObjectDescMatches epoch kvcache kindKvcacheBlock,
        pendingObjectDescMatches epoch hiddenInput kindHiddenRangeInput,
        pendingObjectDescMatches epoch hiddenOutput kindHiddenRangeOutput]
  | runtimeRangeInput expectedPayloadLen epoch =>
      [runtimeRangeInputDescMatches expectedPayloadLen epoch]
  | tokenResult epoch payloadKind payloadLen => [tokenResultDescMatches epoch payloadKind payloadLen]
  | object epoch payloadKind minPayloadLen maxPayloadLen =>
      [objectDescMatches epoch payloadKind minPayloadLen maxPayloadLen]
  | objectKindLen payloadKind minPayloadLen maxPayloadLen =>
      [objectDescKindLenMatches payloadKind minPayloadLen maxPayloadLen]

/-- The descriptors a wait keeps when it pops them. -/
def wants (w : DescWait) (d : Desc) : Bool := w.takes.any fun p => p d

end DescWait

/-! ## One node and its peers -/

/-- `MEM_SERVICE_CLUSTER_PENDING_DESC_DEPTH`. -/
def pendingDescDepth : ℕ := 16

/-- A call of a wait: its number and what it waits for. -/
abbrev WaitCall := ℕ × DescWait

/-- What a node has of each peer: its ingress queue and its stash.  The stash under the node's own index
holds descriptors the node has made for itself. -/
structure QueueNode where
  nodeCount : ℕ
  localIdx : ℕ
  inboxes : ℕ → Inbox Desc WaitCall

/-- How the cache-range updates of `mem_service_pop_ingress_desc` come out: all well, one before the pop
fails, or the one of the queue's head after it. -/
inductive PopUpdate
  | done
  | failedBefore
  | failedAfter
  deriving DecidableEq

inductive QueueMove
  -- a push of a peer arrives
  | push (peer : ℕ) (d : Desc)
  -- `mem_service_take_pending_*_desc`, for one of the things the wait asks for
  | takePending (call : WaitCall) (peer k : ℕ)
  -- `mem_service_pop_ingress_desc` in a wait's loop, and what the loop does with the descriptor
  | popIngress (call : WaitCall) (peer : ℕ) (update : PopUpdate)
  -- the token result a node keeps for itself
  | stashOwn (d : Desc)

namespace QueueNode

/-- The node with one inbox changed. -/
def modifyInbox (s : QueueNode) (peer : ℕ) (f : Inbox Desc WaitCall → Inbox Desc WaitCall) :
    QueueNode :=
  { s with inboxes := Function.update s.inboxes peer (f (s.inboxes peer)) }

def step (s : QueueNode) : QueueMove → QueueNode
  | .push peer d =>
      if peer < s.nodeCount ∧ peer ≠ s.localIdx then s.modifyInbox peer fun b => b.push d else s
  | .takePending call peer k =>
      if peer < s.nodeCount then
        match call.2.takes[k]? with
        | some p => s.modifyInbox peer fun b => b.take p call
        | none => s
      else s
  | .popIngress call peer update =>
      if peer < s.nodeCount ∧ peer ≠ s.localIdx then
        match update with
        | .done => s.modifyInbox peer fun b => b.receive pendingDescDepth call.2.wants call
        | .failedBefore => s
        | .failedAfter => s.modifyInbox peer fun b => b.lose
      else s
  | .stashOwn d =>
      if (s.inboxes s.localIdx).stash.length ≥ pendingDescDepth then s
      else
        s.modifyInbox s.localIdx fun b =>
          (b.push d).receive pendingDescDepth (fun _ => false) (0, .barrier 0 0)

/-- A node that has heard of nobody yet. -/
def start (nodeCount localIdx : ℕ) : QueueNode := ⟨nodeCount, localIdx, fun _ => Inbox.empty⟩

/-- The moves that lose nothing: a pop that fails behind the pop finds the queue empty, and one that has
to put its descriptor aside finds room. -/
def Safe (s : QueueNode) : QueueMove → Prop
  | .popIngress call peer update =>
      (update = .failedAfter → (s.inboxes peer).next? = none) ∧
        ∀ m, (s.inboxes peer).next? = some m → call.2.wants m.2 = false →
          (s.inboxes peer).stash.length < pendingDescDepth
  | _ => True

/-! ## What one move does to an inbox -/

/-- The moves of an inbox. -/
inductive InboxMove : Inbox Desc WaitCall → Inbox Desc WaitCall → Prop
  | same (b : Inbox Desc WaitCall) : InboxMove b b
  | push (b : Inbox Desc WaitCall) (d : Desc) : InboxMove b (b.push d)
  | take (b : Inbox Desc WaitCall) {p : Desc → Bool} {call : WaitCall} (hp : p ∈ call.2.takes) :
      InboxMove b (b.take p call)
  | receive (b : Inbox Desc WaitCall) (call : WaitCall)
      (hroom : ∀ m, b.next? = some m → call.2.wants m.2 = false → b.stash.length < pendingDescDepth) :
      InboxMove b (b.receive pendingDescDepth call.2.wants call)
  | own (b : Inbox Desc WaitCall) (d : Desc) (call : WaitCall) (hroom : b.stash.length < pendingDescDepth) :
      InboxMove b ((b.push d).receive pendingDescDepth (fun _ => false) call)

lemma modifyInbox_cases {P : Inbox Desc WaitCall → Inbox Desc WaitCall → Prop}
    (hsame : ∀ b, P b b) (s : QueueNode) {peer : ℕ} {f : Inbox Desc WaitCall → Inbox Desc WaitCall}
    (hf : P (s.inboxes peer) (f (s.inboxes peer))) (i : ℕ) :
    P (s.inboxes i) ((s.modifyInbox peer f).inboxes i) := by
  unfold modifyInbox
  by_cases hi : i = peer
  · subst hi
    simpa only [Function.update_self] using hf
  · simpa only [Function.update_of_ne hi] using hsame _

/-- A safe move of the node is a move of each inbox. -/
lemma step_inbox {s : QueueNode} {m : QueueMove} (h : Safe s m) (i : ℕ) :
    InboxMove (s.inboxes i) ((s.step m).inboxes i) := by
  cases m with
  | push peer d =>
    simp only [step]
    split_ifs with hg
    · exact modifyInbox_cases InboxMove.same s (.push _ d) i
    · exact .same _
  | takePending call peer k =>
    simp only [step]
    split_ifs with hg
    · split
      · rename_i p hp
        exact modifyInbox_cases InboxMove.same s (.take _ (List.mem_of_getElem? hp)) i
      · exact .same _
    · exact .same _
  | popIngress call peer update =>
    obtain ⟨hlose, hroom⟩ := h
    simp only [step]
    split_ifs with hg
    · cases update with
      | done => exact modifyInbox_cases InboxMove.same s (.receive _ call hroom) i
      | failedBefore => exact .same _
      | failedAfter =>
        refine modifyInbox_cases InboxMove.same s ?_ i
        rw [Inbox.lose, hlose rfl]
        exact .same _
    · exact .same _
  | stashOwn d =>
    simp only [step]
    split_ifs with hfull
    · exact .same _
    · exact modifyInbox_cases InboxMove.same s (.own _ d _ (by omega)) i

/-- What holds of every inbox of a node that has lost nothing. -/
structure Kept (b : Inbox Desc WaitCall) : Prop where
  once : b.Once fun call => call.2.wants
  conserved : b.Conserved

lemma kept_empty : Kept Inbox.empty := ⟨Inbox.once_empty, Inbox.conserved_empty⟩

/-- **One move.** -/
lemma Kept.move {b b' : Inbox Desc WaitCall} (h : Kept b) (hm : InboxMove b b') :
    Kept b' ∧ Inbox.Grows b b' := by
  cases hm with
  | same => exact ⟨h, Inbox.Grows.refl _⟩
  | push d => exact ⟨⟨h.once.push d, h.conserved⟩, Inbox.grows_push _ _⟩
  | take hp =>
    refine ⟨⟨h.once.take ?_, h.conserved.take _ _⟩, Inbox.grows_take _ _ _⟩
    intro d hd
    exact List.any_eq_true.mpr ⟨_, hp, hd⟩
  | receive call hroom =>
    exact ⟨⟨h.once.receive _ fun _ hd => hd, h.conserved.receive hroom⟩, Inbox.grows_receive _ _ _ _⟩
  | own d call hroom =>
    refine ⟨⟨(h.once.push d).receive _ (by simp), ?_⟩,
      (Inbox.grows_push _ d).trans (Inbox.grows_receive _ _ _ _)⟩
    exact Inbox.Conserved.receive (s := b.push d) h.conserved fun _ _ _ => hroom

/-- Every move, safe or not, lets an inbox grow. -/
lemma grows_step (s : QueueNode) (m : QueueMove) (i : ℕ) :
    Inbox.Grows (s.inboxes i) ((s.step m).inboxes i) := by
  cases m with
  | push peer d =>
    simp only [step]
    split_ifs
    · exact modifyInbox_cases Inbox.Grows.refl s (Inbox.grows_push _ d) i
    · exact Inbox.Grows.refl _
  | takePending call peer k =>
    simp only [step]
    split_ifs
    · split
      · exact modifyInbox_cases Inbox.Grows.refl s (Inbox.grows_take _ _ _) i
      · exact Inbox.Grows.refl _
    · exact Inbox.Grows.refl _
  | popIngress call peer update =>
    simp only [step]
    split_ifs
    · cases update with
      | done => exact modifyInbox_cases Inbox.Grows.refl s (Inbox.grows_receive _ _ _ _) i
      | failedBefore => exact Inbox.Grows.refl _
      | failedAfter => exact modifyInbox_cases Inbox.Grows.refl s (Inbox.grows_lose _) i
    · exact Inbox.Grows.refl _
  | stashOwn d =>
    simp only [step]
    split_ifs
    · exact Inbox.Grows.refl _
    · exact modifyInbox_cases Inbox.Grows.refl s
        ((Inbox.grows_push _ d).trans (Inbox.grows_receive _ _ _ _)) i

/-- Every move, safe or not, keeps each descriptor in one place. -/
lemma once_step {s : QueueNode} {i : ℕ} (h : (s.inboxes i).Once fun call => call.2.wants)
    (m : QueueMove) : ((s.step m).inboxes i).Once fun call => call.2.wants := by
  have hcase : ∀ (peer : ℕ) (f : Inbox Desc WaitCall → Inbox Desc WaitCall),
      (∀ b : Inbox Desc WaitCall, (b.Once fun call => call.2.wants) →
        (f b).Once fun call => call.2.wants) →
      ((s.modifyInbox peer f).inboxes i).Once fun call => call.2.wants := by
    intro peer f hf
    refine modifyInbox_cases (P := fun b b' => (b.Once fun call => call.2.wants) →
      b'.Once fun call => call.2.wants) (fun _ h => h) s (hf _) i h
  cases m with
  | push peer d =>
    simp only [step]
    split_ifs
    · exact hcase _ _ fun b hb => hb.push d
    · exact h
  | takePending call peer k =>
    simp only [step]
    split_ifs
    · split
      · rename_i p hp
        exact hcase _ _ fun b hb => hb.take fun d hd =>
          List.any_eq_true.mpr ⟨p, List.mem_of_getElem? hp, hd⟩
      · exact h
    · exact h
  | popIngress call peer update =>
    simp only [step]
    split_ifs
    · cases update with
      | done => exact hcase _ _ fun b hb => hb.receive _ fun _ hd => hd
      | failedBefore => exact h
      | failedAfter => exact hcase _ _ fun b hb => hb.lose
    · exact h
  | stashOwn d =>
    simp only [step]
    split_ifs
    · exact h
    · exact hcase _ _ fun b hb => (hb.push d).receive _ (by simp)

/-- From one point of a run to a later one the inboxes grow. -/
lemma grows_run (s : QueueNode) (moves : List QueueMove) {j n : ℕ} (hjn : j ≤ n) (i : ℕ) :
    Inbox.Grows ((Run.run step s (moves.take j)).inboxes i)
      ((Run.run step s (moves.take n)).inboxes i) := by
  have hsplit : moves.take n = moves.take j ++ (moves.take n).drop j := by
    conv_lhs => rw [← List.take_append_drop j (moves.take n)]
    rw [List.take_take, Nat.min_eq_left hjn]
  rw [hsplit, Run.run_append]
  exact Run.invariant
    (I := fun t => Inbox.Grows ((Run.run step s (moves.take j)).inboxes i) (t.inboxes i))
    (fun t m h => h.trans (grows_step t m i)) (Inbox.Grows.refl _) _

end QueueNode

open QueueNode

/-- **No descriptor lost or duplicated.** In every run whose moves are safe: after any number of moves,
for every peer, each popped descriptor is either in the peer's stash, which is in order of arrival, or
was taken by one wait that it matches; and what was put aside earlier is still there unless such a wait
has taken it. -/
theorem descriptors_conserved {nodeCount localIdx : ℕ} {moves : List QueueMove}
    (h : Run.Along step Safe (start nodeCount localIdx) moves) (n : ℕ) (peer : ℕ) :
    Kept ((Run.run step (start nodeCount localIdx) (moves.take n)).inboxes peer) ∧
      ∀ j ≤ n, ∀ m ∈ ((Run.run step (start nodeCount localIdx) (moves.take j)).inboxes peer).stash,
        m ∈ ((Run.run step (start nodeCount localIdx) (moves.take n)).inboxes peer).stash ∨
        ∃ call, (m, call) ∈
          ((Run.run step (start nodeCount localIdx) (moves.take n)).inboxes peer).consumed := by
  have hkept : ∀ k, Kept ((Run.run step (start nodeCount localIdx) (moves.take k)).inboxes peer) :=
    h.invariant (I := fun s => Kept (s.inboxes peer)) kept_empty
      fun s m hs hsafe => (hs.move (step_inbox hsafe peer)).1
  refine ⟨hkept n, ?_⟩
  intro j hj m hm
  exact (hkept n).conserved.held (hkept j).once (hkept n).once (grows_run _ moves hj peer) hm

/-- A descriptor that announces an object of kind 5. -/
def objectDesc : Desc := { type := descObjectPut, flags := 5, payloadLen := 64 }

/-- A barrier descriptor. -/
def readyDesc (epoch : UInt16) : Desc := { type := descReady, cookie := epoch.toUInt32 }

/-- An object descriptor and a barrier descriptor arrive from node 1 at node 0; a barrier puts the first
aside and takes the second, and a range wait then takes the first. -/
def mixedWaits : List QueueMove :=
  [.push 1 objectDesc, .push 1 (readyDesc 3), .popIngress (1, .barrier descReady 3) 1 .done,
    .popIngress (1, .barrier descReady 3) 1 .done,
    .takePending (2, .runtimeRangeInput 64 0) 1 0]

/-- The run is safe, both descriptors were taken by the wait they match, and nothing is left. -/
theorem descriptors_conserved_mixed :
    Run.Along step Safe (start 2 0) mixedWaits ∧
      Kept ((Run.run step (start 2 0) mixedWaits).inboxes 1) ∧
      ((Run.run step (start 2 0) mixedWaits).inboxes 1).consumed.map (fun c => (c.1.1, c.2.1)) =
        [(0, 2), (1, 1)] := by
  have hsafe : Run.Along step Safe (start 2 0) mixedWaits := by
    refine ⟨trivial, trivial, ⟨by simp, ?_⟩, ⟨by simp, ?_⟩, trivial, trivial⟩
    · intro m _ _
      decide +kernel
    · intro m _ _
      decide +kernel
  exact ⟨hsafe, (descriptors_conserved hsafe mixedWaits.length 1).1, by decide +kernel⟩

/-- Seventeen descriptors for a range wait, which a barrier pops before it. -/
def overflow : List QueueMove :=
  List.replicate 17 (.push 1 objectDesc) ++
    List.replicate 17 (.popIngress (1, .barrier descReady 3) 1 .done)

/-- **The seventeenth is dropped, and a failed update loses one.** With 17 descriptors to put aside, 17
have been popped and 16 are in the stash; after a pop whose head update fails, one has been popped and
none is anywhere. -/
theorem descriptor_dropped :
    (¬ Kept ((Run.run step (start 2 0) overflow).inboxes 1) ∧
      ((Run.run step (start 2 0) overflow).inboxes 1).head = 17 ∧
      ((Run.run step (start 2 0) overflow).inboxes 1).stash.length = 16) ∧
      ¬ Kept ((Run.run step (start 2 0) [.push 1 objectDesc,
        .popIngress (1, .barrier descReady 3) 1 .failedAfter]).inboxes 1) := by
  refine ⟨⟨?_, by decide +kernel, by decide +kernel⟩, ?_⟩
  · intro h
    have hlen := h.conserved.length_eq
    revert hlen
    decide +kernel
  · intro h
    have hlen := h.conserved.length_eq
    revert hlen
    decide +kernel

end MemService
