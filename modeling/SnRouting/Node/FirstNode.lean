import SnRouting.DeliveryGroup.Targets
import SnRouting.Node.Stage

/-!
# The first node of the network

`Stage::first_node` starts a network: `create_first_elders_info` makes the node the only elder
of a section under the empty prefix, and `create_first_shared_state` makes each of its elders
a joined member. Their proofs are signed with a key share generated on the spot; the
serialiser and the signature scheme are not under src/, so what `create_first_proof` returns
is `FirstProofOps`. The shared state this builds meets the invariant `delivery_targets` relies
on, and in it the node has nobody to route to and collects signatures from itself alone.
-/

namespace SnRouting.Node
set_option autoImplicit false

open DeliveryGroup

/-- What `create_first_proof` returns for the payloads the first node signs: the payload
serialised, signed with key share 0, and that one share combined. -/
structure FirstProofOps (Proof : Type) where
  eldersInfoProof : EldersInfo → Except Error Proof
  memberInfoProof : MemberInfo → Except Error Proof

/-- The `EldersInfo` of `create_first_elders_info`: the peer as the only elder, under
`Prefix::default`. -/
def firstEldersInfo (peer : Peer) : EldersInfo :=
  ⟨NameMap.empty.insert peer.name peer, .default⟩

/-- The members `create_first_shared_state` gives the first section: its elder, joined. -/
def firstMembers (peer : Peer) : SectionMembers :=
  (SectionMembers.empty.update ⟨peer, .joined⟩).1

variable {Proof : Type} (ops : FirstProofOps Proof)

/-- `create_first_elders_info`. -/
def createFirstEldersInfo (peer : Peer) : Except Error (Proven EldersInfo Proof) :=
  match ops.eldersInfoProof (firstEldersInfo peer) with
  | .error e => .error e
  | .ok proof => .ok ⟨firstEldersInfo peer, proof⟩

/-- The loop of `create_first_shared_state`: each elder joins our members (at `MIN_AGE`, which
the model leaves out), stopping at the first proof that fails. -/
def addFirstMembers : SectionMembers → List Peer → Except Error SectionMembers
  | ourMembers, [] => .ok ourMembers
  | ourMembers, peer :: rest =>
    match ops.memberInfoProof ⟨peer, .joined⟩ with
    | .error e => .error e
    | .ok _ => addFirstMembers (ourMembers.update ⟨peer, .joined⟩).1 rest

/-- `create_first_shared_state`. -/
def createFirstSharedState (eldersInfo : Proven EldersInfo Proof) : Except Error SharedState :=
  let sharedState := SharedState.new eldersInfo.value
  match addFirstMembers ops sharedState.ourMembers sharedState.sections.our.elders.values with
  | .error e => .error e
  | .ok ourMembers => .ok { sharedState with ourMembers }

/-- `Stage::first_node`, from the peer it makes of our key and connection info: the state it
builds is handed to `Approved::new` (not under src/), here `approvedNew`. The key share it
generates, the events it sends and its `comm` are left out. -/
def firstNode {B J A : Type} (approvedNew : SharedState → Except Error A) (peer : Peer) :
    Except Error (Stage B J A) :=
  match createFirstEldersInfo ops peer with
  | .error e => .error e
  | .ok eldersInfo =>
    match createFirstSharedState ops eldersInfo with
    | .error e => .error e
    | .ok sharedState =>
      match approvedNew sharedState with
      | .error e => .error e
      | .ok state => .ok ⟨.approved state⟩

theorem createFirstEldersInfo_value {peer : Peer} {eldersInfo : Proven EldersInfo Proof}
    (h : createFirstEldersInfo ops peer = .ok eldersInfo) :
    eldersInfo.value = firstEldersInfo peer := by
  unfold createFirstEldersInfo at h
  split at h
  · cases h
  · cases h
    rfl

/-- The first shared state: the first section alone, with its elder as its one member. -/
theorem createFirstSharedState_first {peer : Peer} {eldersInfo : Proven EldersInfo Proof}
    {sharedState : SharedState} (hinfo : eldersInfo.value = firstEldersInfo peer)
    (h : createFirstSharedState ops eldersInfo = .ok sharedState) :
    sharedState = ⟨⟨firstEldersInfo peer, []⟩, firstMembers peer⟩ := by
  have hvalues : (firstEldersInfo peer).elders.values = [peer] := rfl
  simp only [createFirstSharedState, SharedState.new, hinfo, hvalues, addFirstMembers] at h
  cases hp : ops.memberInfoProof ⟨peer, .joined⟩ with
  | error e => simp [hp] at h
  | ok _ =>
    simp only [hp, Except.ok.injEq] at h
    exact h.symm

/-! ## Routing from the first section -/

@[simp] theorem entries_firstEldersInfo (peer : Peer) :
    (firstEldersInfo peer).elders.entries = [(peer.name, peer)] := rfl

@[simp] theorem pfx_firstEldersInfo (peer : Peer) : (firstEldersInfo peer).pfx = .default := rfl

@[simp] theorem entries_firstMembers (peer : Peer) :
    (firstMembers peer).members.entries = [(peer.name, ⟨peer, .joined⟩)] := rfl

/-- The first section meets the invariant `delivery_targets` relies on. -/
theorem targetsInvariant_first (peer : Peer) :
    TargetsInvariant peer.name (firstMembers peer) ⟨firstEldersInfo peer, []⟩ where
  elders_keyed := by simp [SectionMap.all, NameMap.KeyedBy]
  members_keyed := by simp [NameMap.KeyedBy]
  disjoint := List.pairwise_singleton _ _
  elders_match := by simp [SectionMap.all]
  our_match := Prefix.default_matches _

/-- In the first section a message for the node itself or for a section needs no peer, and
a message for any other node cannot be routed. -/
theorem deliveryTargets_first (peer : Peer) (dst : DstLocation) :
    deliveryTargets dst peer.name (firstMembers peer) ⟨firstEldersInfo peer, []⟩ =
      if dst = .node peer.name ∨ dst.isSection = true then .ok ([], 0)
      else .error .cannotRoute := by
  have hvalues : (firstEldersInfo peer).elders.values = [peer] := rfl
  have helder : SectionMap.isElder ⟨firstEldersInfo peer, []⟩ peer.name = true := by
    simp [SectionMap.isElder, NameMap.containsKey]
  cases dst with
  | node t =>
    by_cases ht : t = peer.name
    · simp [deliveryTargets, helder, ht]
    · have hpeer : getPeer t (firstMembers peer) ⟨firstEldersInfo peer, []⟩ = none := by
        simp [getPeer, SectionMembers.get, NameMap.get, SectionMap.getElder, SectionMap.all,
          Ne.symm ht]
      simp [deliveryTargets, helder, ht, hpeer, candidates, SectionMap.sortedByDistanceTo,
        SectionMap.all, candidatesLoop, hvalues, DstLocation.isSection]
  | «section» t =>
    simp [deliveryTargets, helder, SectionMap.closest, SectionMap.sortedByDistanceTo,
      SectionMap.all, hvalues, DstLocation.isSection]
  | direct => simp [deliveryTargets, helder, DstLocation.isSection]

/-- The first node collects the signatures of every message alone. -/
theorem signatureTargets_first (peer : Peer) (dst : DstLocation) :
    signatureTargets dst (SectionMap.ourElders ⟨firstEldersInfo peer, []⟩) =
      if dst = .direct then [] else [peer] := by
  have helders : SectionMap.ourElders ⟨firstEldersInfo peer, []⟩ = [peer] := rfl
  cases dst <;> simp [signatureTargets, helders, deliveryGroupSize]

/-- `first_node` approves the node with the first shared state. -/
theorem firstNode_ok {B J A : Type} {approvedNew : SharedState → Except Error A} {peer : Peer}
    {stage : Stage B J A} (h : firstNode ops approvedNew peer = .ok stage) :
    ∃ a, approvedNew ⟨⟨firstEldersInfo peer, []⟩, firstMembers peer⟩ = .ok a ∧
      stage = ⟨.approved a⟩ := by
  unfold firstNode at h
  split at h
  · cases h
  · rename_i eldersInfo hinfo
    split at h
    · cases h
    · rename_i sharedState hstate
      rw [← createFirstSharedState_first ops (createFirstEldersInfo_value ops hinfo) hstate]
      split at h
      · cases h
      · cases h
        exact ⟨_, ‹_›, rfl⟩

/-- The stage `first_node` starts a network with is approved, from a shared state that meets
the invariant `delivery_targets` relies on and in which the node routes to nobody: a message
for itself or for a section needs no peer and one for any other node cannot be routed, while
it collects the signatures of every message alone. -/
theorem firstNode_routes_to_nobody {B J A : Type} {approvedNew : SharedState → Except Error A}
    {peer : Peer} {stage : Stage B J A} (h : firstNode ops approvedNew peer = .ok stage) :
    ∃ sharedState a, approvedNew sharedState = .ok a ∧ stage = ⟨.approved a⟩ ∧
      TargetsInvariant peer.name sharedState.ourMembers sharedState.sections ∧
      (∀ dst, deliveryTargets dst peer.name sharedState.ourMembers sharedState.sections =
        if dst = .node peer.name ∨ dst.isSection = true then .ok ([], 0)
        else .error .cannotRoute) ∧
      ∀ dst, signatureTargets dst sharedState.sections.ourElders =
        if dst = .direct then [] else [peer] := by
  obtain ⟨a, ha, rfl⟩ := firstNode_ok ops h
  exact ⟨_, a, ha, rfl, targetsInvariant_first peer, deliveryTargets_first peer,
    signatureTargets_first peer⟩

/-- Proofs that are always made. -/
def signingOps : FirstProofOps Unit := ⟨fun _ => .ok (), fun _ => .ok ()⟩

/-- A first node named 7. -/
def firstPeer : Peer := ⟨7#256, ⟨1, 2⟩⟩

/-- The first node named 7, approved with the shared state itself. -/
theorem firstNode_routes_to_nobody_seven :
    firstNode signingOps (fun sharedState => .ok sharedState) firstPeer =
        (.ok ⟨.approved ⟨⟨firstEldersInfo firstPeer, []⟩, firstMembers firstPeer⟩⟩ :
          Except Error (Stage Unit Unit SharedState)) ∧
      ∃ sharedState a : SharedState, (.ok sharedState : Except Error SharedState) = .ok a ∧
        (⟨.approved ⟨⟨firstEldersInfo firstPeer, []⟩, firstMembers firstPeer⟩⟩ :
          Stage Unit Unit SharedState) = ⟨.approved a⟩ ∧
        TargetsInvariant firstPeer.name sharedState.ourMembers sharedState.sections ∧
        (∀ dst, deliveryTargets dst firstPeer.name sharedState.ourMembers sharedState.sections =
          if dst = .node firstPeer.name ∨ dst.isSection = true then .ok ([], 0)
          else .error .cannotRoute) ∧
        ∀ dst, signatureTargets dst sharedState.sections.ourElders =
          if dst = .direct then [] else [firstPeer] :=
  have h : firstNode signingOps (fun sharedState => .ok sharedState) firstPeer =
      (.ok ⟨.approved ⟨⟨firstEldersInfo firstPeer, []⟩, firstMembers firstPeer⟩⟩ :
        Except Error (Stage Unit Unit SharedState)) := rfl
  ⟨h, firstNode_routes_to_nobody signingOps h⟩

end SnRouting.Node
