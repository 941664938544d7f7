import MemService.RegionLayout

/-!
# The barrier at the end of a decode round

`mem_service_model_decode_barrier.c`.  When a node is done with a decode round it writes a marker into
its own region, and `mem_service_wait_all_decode_round_done` reads the markers of all nodes until it has
seen one of each.  The marker of a round lies in one of 1024 slots, chosen by a hash of step and scope,
so the markers of different rounds overwrite each other while nodes may still wait for either.

A world is the nodes with their regions and the waits that are under way, and its events are the calls
of `mem_service_publish_decode_round_done`, the reads of the waits, one node at a time, and whatever else
a node writes outside the markers.  `decode_round_agreement` says that in every run a wait returns 0 only
when every node has published that round.
-/

open ByteText BigEndian

namespace MemService

/-! ## Waiting for the markers -/

/-- A word of a marker. -/
def markerWord (s : Bytes) (k : ℕ) : UInt64 := UInt64.ofNat (value ((s.drop (8 * k)).take 8).reverse)

/-- What `mem_service_wait_all_decode_round_done` asks of a node's marker. -/
def roundDoneMatches (s : Bytes) (i : ℕ) (clusterNodeCount : UInt32)
    (decodeStep roundScopeHash : UInt64) : Bool :=
  markerWord s 0 == 0x71336465636f6465 && markerWord s 1 == decodeStep &&
    markerWord s 2 == UInt64.ofNat i && markerWord s 3 == UInt64.ofNat clusterNodeCount.toNat &&
    markerWord s 6 == roundScopeHash && markerWord s 7 == checksumBytes (s.take 56)

/-- Where a wait is: at the head of its loop, about to look at a node, or back at the caller. -/
inductive WaitPoint
  | top
  | node (i : ℕ)
  | returned (ok : Bool)
  deriving DecidableEq

/-- One call of `mem_service_wait_all_decode_round_done`.  At most 31 nodes are admitted, so `ready_mask`
has room for all of them. -/
structure RoundWait where
  localIdx : ℕ
  clusterNodeCount : UInt32
  decodeStep : UInt64
  roundScopeHash : UInt64
  readyMask : ℕ := 0
  point : WaitPoint := .top
  deriving DecidableEq

/-- What the wait checks before its loop. -/
def roundWaitAccepted (node : ClusterNode) (clusterNodeCount : UInt32) : Bool :=
  !(clusterNodeCount == 0 || clusterNodeCount > 31) && node.ready &&
    clusterNodeCount.toNat == node.nodeCount

/-- The slot of a round in a node's region. -/
def markerBytes (node : ClusterNode) (slot : Fin obmmRoundDoneSlots) : Bytes :=
  ByteRegion.read node.regionBytes (Item.offset (.marker slot)) obmmRoundDoneBytes

namespace RoundWait

/-- The slot a wait looks at. -/
def slot (w : RoundWait) : Fin obmmRoundDoneSlots := roundDoneSlot w.decodeStep w.roundScopeHash

/-- Whether a look at node `i` finds the marker.  `synced` says that the remote slot could be activated
and its range refreshed. -/
def sees (nodes : ℕ → ClusterNode) (w : RoundWait) (i : ℕ) (synced : Bool) : Bool :=
  (decide (i = w.localIdx) || synced) &&
    decide (Item.offset (.marker w.slot) + obmmRoundDoneBytes ≤ (nodes i).regionLen) &&
    roundDoneMatches (markerBytes (nodes i) w.slot) i w.clusterNodeCount w.decodeStep w.roundScopeHash

/-- The next move of a wait: the loop over the nodes is taken one node at a time, `expired` is what the
clock says at the head of the outer loop. -/
def advance (nodes : ℕ → ClusterNode) (w : RoundWait) (expired synced : Bool) : RoundWait :=
  match w.point with
  | .top => { w with point := if expired then .returned false else .node 0 }
  | .node i =>
      if i < w.clusterNodeCount.toNat then
        { w with
          readyMask := if !w.readyMask.testBit i && w.sees nodes i synced then w.readyMask ||| 2 ^ i
            else w.readyMask
          point := .node (i + 1) }
      else if w.readyMask = 2 ^ w.clusterNodeCount.toNat - 1 then { w with point := .returned true }
      else { w with point := .top }
  | .returned _ => w

end RoundWait

/-! ## The world -/

/-- The bytes of a region that hold markers. -/
def InMarkers (a : ℕ) : Prop :=
  obmmRoundDoneOffset ≤ a ∧ a < obmmRoundDoneOffset + obmmRoundDoneSlots * obmmRoundDoneBytes

instance (a : ℕ) : Decidable (InMarkers a) := inferInstanceAs (Decidable (_ ∧ _))

/-- All nodes, the waits begun so far, and the rounds published so far (node, step, scope). -/
structure RoundWorld where
  nodes : ℕ → ClusterNode
  waits : List RoundWait
  published : List (ℕ × UInt64 × UInt64)

inductive RoundEvent
  -- a call of `mem_service_publish_decode_round_done` on a node
  | publish (i : ℕ) (localNode clusterNodeCount : UInt32) (decodeStep roundScopeHash : UInt64)
  -- anything else the node does to its runtime and to the bytes that are not markers
  | work (i : ℕ) (regionBytes : ℕ → UInt8) (publishSeq : UInt32) (observeEpoch : UInt16)
      (active : Bool)
  -- a call of `mem_service_wait_all_decode_round_done` on a node
  | wait (i : ℕ) (clusterNodeCount : UInt32) (decodeStep roundScopeHash : UInt64)
  -- the next move of a wait
  | advance (k : ℕ) (expired synced : Bool)

namespace RoundWorld

def step (s : RoundWorld) : RoundEvent → RoundWorld
  | .publish i localNode clusterNodeCount decodeStep roundScopeHash =>
      let node := s.nodes i
      if !roundDoneAccepted node localNode clusterNodeCount then s
      else
        let slot := roundDoneSlot decodeStep roundScopeHash
        let marker := roundDoneMarker node localNode clusterNodeCount decodeStep roundScopeHash
        { s with
          nodes := Function.update s.nodes i
            { node with
              regionBytes := ByteRegion.write node.regionBytes (Item.offset (.marker slot)) marker }
          published := (i, decodeStep, roundScopeHash) :: s.published }
  | .work i regionBytes publishSeq observeEpoch active =>
      let node := s.nodes i
      { s with
        nodes := Function.update s.nodes i
          { node with
            regionBytes := fun a => if InMarkers a then node.regionBytes a else regionBytes a
            publishSeq, observeEpoch, active } }
  | .wait i clusterNodeCount decodeStep roundScopeHash =>
      if !roundWaitAccepted (s.nodes i) clusterNodeCount then s
      else
        { s with waits := s.waits ++ [⟨i, clusterNodeCount, decodeStep, roundScopeHash, 0, .top⟩] }
  | .advance k expired synced =>
      { s with waits := s.waits.modify k fun w => w.advance s.nodes expired synced }

/-- Nothing published, nobody waits. -/
def start (nodes : ℕ → ClusterNode) : RoundWorld := ⟨nodes, [], []⟩

end RoundWorld

/-! ## Words of a marker -/

lemma markerWord_append {before after : Bytes} {k : ℕ} (hlen : before.length = 8 * k) (v : UInt64) :
    markerWord (before ++ (wordLE 8 v.toNat ++ after)) k = v := by
  have hword : (wordLE 8 v.toNat ++ after).take 8 = wordLE 8 v.toNat := by
    rw [List.take_append_of_le_length (by simp), List.take_of_length_le (by simp)]
  have hlt : v.toNat < 256 ^ 8 := v.toNat_lt
  rw [markerWord, ← hlen, List.drop_left, hword, wordLE, List.reverse_reverse, value_bytes hlt,
    UInt64.ofNat_toNat]

lemma roundDoneMarker_step (node : ClusterNode) (localNode clusterNodeCount : UInt32)
    (decodeStep roundScopeHash : UInt64) :
    markerWord (roundDoneMarker node localNode clusterNodeCount decodeStep roundScopeHash) 1 =
      decodeStep := by
  simp only [roundDoneMarker, List.append_assoc]
  exact markerWord_append (by simp) decodeStep

lemma roundDoneMarker_scope (node : ClusterNode) (localNode clusterNodeCount : UInt32)
    (decodeStep roundScopeHash : UInt64) :
    markerWord (roundDoneMarker node localNode clusterNodeCount decodeStep roundScopeHash) 6 =
      roundScopeHash := by
  simp only [roundDoneMarker]
  rw [List.append_assoc]
  exact markerWord_append (by simp) roundScopeHash

lemma length_roundDoneMarker (node : ClusterNode) (localNode clusterNodeCount : UInt32)
    (decodeStep roundScopeHash : UInt64) :
    (roundDoneMarker node localNode clusterNodeCount decodeStep roundScopeHash).length =
      obmmRoundDoneBytes := by
  simp [roundDoneMarker, obmmRoundDoneBytes]

lemma markerWord_zero : markerWord (List.replicate obmmRoundDoneBytes 0) 0 = 0 := by decide

/-- Two slots have no byte in common. -/
lemma marker_apart {slot slot' : Fin obmmRoundDoneSlots} (h : slot ≠ slot') :
    ByteRegion.Apart (Item.offset (.marker slot)) obmmRoundDoneBytes
      (Item.offset (.marker slot')) obmmRoundDoneBytes := by
  have hne : slot.val ≠ slot'.val := fun heq => h (Fin.ext heq)
  simp only [ByteRegion.Apart, Item.offset, obmmRoundDoneBytes]
  omega

/-- Every byte of a slot is among the markers. -/
lemma inMarkers_slot (slot : Fin obmmRoundDoneSlots) {j : ℕ} (hj : j < obmmRoundDoneBytes) :
    InMarkers (Item.offset (.marker slot) + j) := by
  have hslot := slot.isLt
  simp only [InMarkers, Item.offset, obmmRoundDoneBytes, obmmRoundDoneSlots, obmmRoundDoneOffset] at *
  omega

/-! ## The invariant -/

/-- What a slot can hold: nothing yet, or the marker of a round that the node has published. -/
def SlotOk (published : List (ℕ × UInt64 × UInt64)) (i : ℕ) (s : Bytes) : Prop :=
  s = List.replicate obmmRoundDoneBytes 0 ∨
    ∃ node localNode clusterNodeCount decodeStep roundScopeHash,
      s = roundDoneMarker node localNode clusterNodeCount decodeStep roundScopeHash ∧
        (i, decodeStep, roundScopeHash) ∈ published

/-- What a wait knows: the nodes in its mask have published its round, and it came back with success
only when the mask was full. -/
structure WaitOk (nodes : ℕ → ClusterNode) (published : List (ℕ × UInt64 × UInt64))
    (w : RoundWait) : Prop where
  count_eq : w.clusterNodeCount.toNat = (nodes w.localIdx).nodeCount
  seen : ∀ j, w.readyMask.testBit j = true → (j, w.decodeStep, w.roundScopeHash) ∈ published
  full : w.point = .returned true → w.readyMask = 2 ^ w.clusterNodeCount.toNat - 1

/-- The invariant of every run. -/
structure RoundInv (s : RoundWorld) : Prop where
  slots : ∀ i slot, SlotOk s.published i (markerBytes (s.nodes i) slot)
  waits : ∀ w ∈ s.waits, WaitOk s.nodes s.published w

/-- **A marker that matches is the node's own.** The round a slot shows is one its node has published;
a slot that another round has taken shows that other round. -/
lemma published_of_matches {published : List (ℕ × UInt64 × UInt64)} {i : ℕ} {s : Bytes}
    (h : SlotOk published i s) {clusterNodeCount : UInt32} {decodeStep roundScopeHash : UInt64}
    (hm : roundDoneMatches s i clusterNodeCount decodeStep roundScopeHash = true) :
    (i, decodeStep, roundScopeHash) ∈ published := by
  simp only [roundDoneMatches, Bool.and_eq_true, beq_iff_eq] at hm
  obtain ⟨⟨⟨⟨⟨hmagic, hstep⟩, -⟩, -⟩, hscope⟩, -⟩ := hm
  rcases h with rfl | ⟨node, localNode, count, step, scope, rfl, hpub⟩
  · rw [markerWord_zero] at hmagic
    exact absurd hmagic (by decide)
  · rw [roundDoneMarker_step] at hstep
    rw [roundDoneMarker_scope] at hscope
    rwa [← hstep, ← hscope]

lemma SlotOk.mono {published published' : List (ℕ × UInt64 × UInt64)} {i : ℕ} {s : Bytes}
    (h : SlotOk published i s) (hsub : published ⊆ published') : SlotOk published' i s := by
  rcases h with rfl | ⟨node, localNode, count, step, scope, rfl, hpub⟩
  · exact Or.inl rfl
  · exact Or.inr ⟨node, localNode, count, step, scope, rfl, hsub hpub⟩

/-- Waits survive what keeps the cluster's size and the published rounds. -/
lemma WaitOk.mono {nodes nodes' : ℕ → ClusterNode} {published published' : List (ℕ × UInt64 × UInt64)}
    {w : RoundWait} (h : WaitOk nodes published w)
    (hcount : (nodes' w.localIdx).nodeCount = (nodes w.localIdx).nodeCount)
    (hsub : published ⊆ published') : WaitOk nodes' published' w where
  count_eq := h.count_eq.trans hcount.symm
  seen j hj := hsub (h.seen j hj)
  full := h.full

/-- One move of a wait. -/
lemma WaitOk.advance {nodes : ℕ → ClusterNode} {published : List (ℕ × UInt64 × UInt64)}
    {w : RoundWait} (h : WaitOk nodes published w)
    (hslots : ∀ i slot, SlotOk published i (markerBytes (nodes i) slot)) (expired synced : Bool) :
    WaitOk nodes published (w.advance nodes expired synced) := by
  unfold RoundWait.advance
  split
  · refine ⟨h.count_eq, h.seen, ?_⟩
    cases expired <;> simp
  · rename_i i hpoint
    split_ifs with hi hsee hfull
    · refine ⟨h.count_eq, ?_, by simp⟩
      intro j hj
      rw [Nat.testBit_or, Nat.testBit_two_pow, Bool.or_eq_true, decide_eq_true_eq] at hj
      rcases hj with hj | rfl
      · exact h.seen j hj
      · simp only [RoundWait.sees, Bool.and_eq_true] at hsee
        exact published_of_matches (hslots i w.slot) hsee.2.2
    · exact ⟨h.count_eq, h.seen, by simp⟩
    · exact ⟨h.count_eq, h.seen, fun _ => hfull⟩
    · exact ⟨h.count_eq, h.seen, by simp⟩
  · exact h

/-- A marker written into one slot is what that slot holds; the others keep what they have. -/
lemma markerBytes_write (node : ClusterNode) {slot slot' : Fin obmmRoundDoneSlots} {marker : Bytes}
    (hlen : marker.length = obmmRoundDoneBytes) :
    markerBytes
        { node with
          regionBytes := ByteRegion.write node.regionBytes (Item.offset (.marker slot)) marker } slot' =
      if slot' = slot then marker else markerBytes node slot' := by
  unfold markerBytes
  split_ifs with h
  · subst h
    rw [← hlen]
    exact ByteRegion.read_write_self
  · apply ByteRegion.read_write_apart
    rw [hlen]
    exact marker_apart h

/-- **One event.** -/
lemma RoundInv.step {s : RoundWorld} (h : RoundInv s) (e : RoundEvent) : RoundInv (s.step e) := by
  cases e with
  | publish i localNode clusterNodeCount decodeStep roundScopeHash =>
    simp only [RoundWorld.step]
    split_ifs with hacc
    · exact h
    · have hsub : s.published ⊆ (i, decodeStep, roundScopeHash) :: s.published :=
        List.subset_cons_self _ _
      constructor
      · intro j slot
        by_cases hj : j = i
        · subst hj
          dsimp only
          rw [Function.update_self, markerBytes_write _ (length_roundDoneMarker ..)]
          split_ifs with hslot
          · exact Or.inr ⟨_, _, _, _, _, rfl, List.mem_cons_self⟩
          · exact (h.slots j slot).mono hsub
        · dsimp only
          rw [Function.update_of_ne hj]
          exact (h.slots j slot).mono hsub
      · intro w hw
        refine (h.waits w hw).mono ?_ hsub
        by_cases hi : w.localIdx = i
        · dsimp only
          rw [hi, Function.update_self]
        · dsimp only
          rw [Function.update_of_ne hi]
  | work i regionBytes publishSeq observeEpoch active =>
    constructor
    · intro j slot
      by_cases hj : j = i
      · subst hj
        have hsame := h.slots j slot
        simp only [RoundWorld.step, Function.update_self, markerBytes]
        rw [ByteRegion.read_congr]
        · exact hsame
        · intro k hk
          rw [if_pos (inMarkers_slot slot hk)]
      · simp only [RoundWorld.step, Function.update_of_ne hj]
        exact h.slots j slot
    · intro w hw
      refine (h.waits w hw).mono ?_ (List.Subset.refl _)
      by_cases hi : w.localIdx = i
      · simp only [RoundWorld.step, hi, Function.update_self]
      · simp only [RoundWorld.step, Function.update_of_ne hi]
  | wait i clusterNodeCount decodeStep roundScopeHash =>
    simp only [RoundWorld.step]
    split_ifs with hacc
    · exact h
    · refine ⟨h.slots, ?_⟩
      intro w hw
      rcases List.mem_append.mp hw with hw | hw
      · exact h.waits w hw
      · rw [List.mem_singleton] at hw
        subst hw
        refine ⟨?_, by simp, by simp⟩
        simp only [roundWaitAccepted, Bool.not_eq_true', Bool.not_eq_false, Bool.and_eq_true,
          beq_iff_eq] at hacc
        exact hacc.2
  | advance k expired synced =>
    refine ⟨h.slots, ?_⟩
    intro w hw
    simp only [RoundWorld.step] at hw
    obtain ⟨j, hj, rfl⟩ := List.getElem_of_mem hw
    rw [List.getElem_modify]
    rw [List.length_modify] at hj
    have hold := h.waits _ (List.getElem_mem hj)
    split_ifs with hk
    · exact hold.advance h.slots expired synced
    · exact hold

/-- No event changes the size of the cluster. -/
lemma nodeCount_step (s : RoundWorld) (e : RoundEvent) (i : ℕ) :
    ((s.step e).nodes i).nodeCount = (s.nodes i).nodeCount := by
  cases e with
  | publish j localNode clusterNodeCount decodeStep roundScopeHash =>
    simp only [RoundWorld.step]
    split_ifs with hacc
    · rfl
    · dsimp only
      rw [Function.update_apply]
      split_ifs with hi
      · rw [hi]
      · rfl
  | work j regionBytes publishSeq observeEpoch active =>
    simp only [RoundWorld.step]
    rw [Function.update_apply]
    split_ifs with hi
    · rw [hi]
    · rfl
  | wait j clusterNodeCount decodeStep roundScopeHash =>
    simp only [RoundWorld.step]
    split_ifs with hacc <;> rfl
  | advance k expired synced => rfl

/-- Regions whose markers are all zero. -/
def MarkersClear (nodes : ℕ → ClusterNode) : Prop :=
  ∀ i a, InMarkers a → (nodes i).regionBytes a = 0

lemma roundInv_start {nodes : ℕ → ClusterNode} (h : MarkersClear nodes) :
    RoundInv (RoundWorld.start nodes) := by
  refine ⟨?_, by simp [RoundWorld.start]⟩
  intro i slot
  refine Or.inl (List.ext_getElem (by simp [markerBytes]) ?_)
  intro j hj _
  rw [markerBytes, ByteRegion.length_read] at hj
  simpa [markerBytes, ByteRegion.read, RoundWorld.start] using h i _ (inMarkers_slot slot hj)

/-- **Agreement of the decode-round barrier.** In every run of publications, waits and other work, from
regions without markers: a wait that has returned 0 was for a round, step and scope, that every node of
the cluster has published by then. -/
theorem decode_round_agreement {nodes : ℕ → ClusterNode} (hclear : MarkersClear nodes)
    (events : List RoundEvent) {w : RoundWait}
    (hw : w ∈ (Run.run RoundWorld.step (RoundWorld.start nodes) events).waits)
    (hok : w.point = .returned true) (i : ℕ) (hi : i < (nodes w.localIdx).nodeCount) :
    (i, w.decodeStep, w.roundScopeHash) ∈
      (Run.run RoundWorld.step (RoundWorld.start nodes) events).published := by
  have hinv := Run.invariant (I := RoundInv) (fun _ e h => h.step e) (roundInv_start hclear) events
  have hcount := Run.invariant
    (I := fun s : RoundWorld => ∀ j, (s.nodes j).nodeCount = (nodes j).nodeCount)
    (fun s e h j => (nodeCount_step s e j).trans (h j)) (s := RoundWorld.start nodes)
    (fun _ => rfl) events
  have hwait := hinv.waits w hw
  apply hwait.seen
  rw [hwait.full hok, hwait.count_eq, hcount]
  simpa [Nat.testBit_two_pow_sub_one] using hi

/-- A node of a cluster of two, with an empty region and an empty service. -/
def idleNode (i : ℕ) : ClusterNode where
  nodeCount := 2
  localIdx := i
  active := true
  regionBytes := fun _ => 0
  regionLen := 0x200000
  regionLen_lt := by decide
  publishSeq := 0
  observeEpoch := 1
  arenaBase := 0
  arenaNext := 0
  arenaHighWater := 0
  svc := Service.fresh

/-- Both nodes publish round 7, a second round takes the slot of the first node once it was seen, and
node 0 waits. -/
def roundOfTwo : List RoundEvent :=
  [.publish 0 0 2 7 3, .publish 1 1 2 7 3, .wait 0 2 7 3, .advance 0 false true,
    .advance 0 false true, .publish 0 0 2 1031 3, .advance 0 false true, .advance 0 false true]

/-- The wait of node 0 comes back with success, after which both nodes are known to be done. -/
theorem decode_round_agreement_two :
    ((0, 7, 3) ∈ (Run.run RoundWorld.step (RoundWorld.start idleNode) roundOfTwo).published ∧
      (1, 7, 3) ∈ (Run.run RoundWorld.step (RoundWorld.start idleNode) roundOfTwo).published) ∧
      roundDoneSlot 7 3 = roundDoneSlot 1031 3 := by
  have hclear : MarkersClear idleNode := fun _ _ _ => rfl
  have hwait : ⟨0, 2, 7, 3, 3, .returned true⟩ ∈
      (Run.run RoundWorld.step (RoundWorld.start idleNode) roundOfTwo).waits := by
    have hwaits : (Run.run RoundWorld.step (RoundWorld.start idleNode) roundOfTwo).waits =
        [⟨0, 2, 7, 3, 3, .returned true⟩] := by decide +kernel
    rw [hwaits]
    exact List.mem_cons_self
  exact ⟨⟨decode_round_agreement hclear roundOfTwo hwait rfl 0 (by decide),
    decode_round_agreement hclear roundOfTwo hwait rfl 1 (by decide)⟩, by decide +kernel⟩

end MemService
