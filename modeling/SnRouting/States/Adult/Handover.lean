import SnRouting.States.Adult.Backlog

/-!
# Handing an Adult over to its next state

An Adult leaves its state in three ways. `into_elder` hands an Elder everything it holds but
the routing message filter, which starts afresh so that messages the Adult has already seen
are handled again by the Elder. `relocate` and `rebootstrap` hand a bootstrapping peer only the
network service, the timer and the rng: `relocate` with the Adult's own identity, `rebootstrap`
with a new one drawn from the range of our prefix, so that it rejoins the section it left.
The constructors these details go to are not under src/: each function below gives the
details it hands over.
-/

namespace SnRouting.States
set_option autoImplicit false

/-- `ElderDetails`, with the fields `into_elder` fills (its `routing_msg_queue` starts empty and
is left out, as in `PausedState`). -/
structure ElderDetails (E : Env) where
  chain : E.Chain
  networkService : E.NetworkService
  eventBacklog : List E.Event
  fullId : E.FullId
  genPfxInfo : E.GenesisPfxInfo
  routingMsgBacklog : List E.SignedRoutingMessage
  directMsgBacklog : List (E.P2pNode × DirectMessage E)
  sigAccumulator : E.SignatureAccumulator
  parsecMap : E.ParsecMap
  routingMsgFilter : E.RoutingMessageFilter
  timer : E.Timer
  rng : E.MainRng

/-- `BootstrappingPeerDetails`. -/
structure BootstrappingPeerDetails (E : Env) where
  networkService : E.NetworkService
  fullId : E.FullId
  networkCfg : E.NetworkParams
  timer : E.Timer
  rng : E.MainRng

/-- What the modules outside src/ compute when an Adult hands over: `FullId::within_range`,
a new identity drawn from the rng for a range of names; `PublicId::name`; and
`RoutingMessageFilter::new`. -/
structure HandoverOps (E : Env) where
  fullIdWithinRange : E.MainRng → XorName × XorName → E.FullId × E.MainRng
  name : E.PublicId → XorName
  routingMessageFilterNew : E.RoutingMessageFilter

namespace Adult

variable {E : Env} (ops : AdultOps E) (hops : HandoverOps E)

/-- `Adult::our_prefix`. -/
def ourPrefix (s : Adult E) : Prefix := ops.ourPrefix s.chain

/-- `Adult::closest_known_elders_to`: our elders, whatever the name. -/
def closestKnownEldersTo (s : Adult E) (_name : XorName) : List E.P2pNode := ops.ourElders s.chain

/-- `Adult::rebootstrap`: the details it hands to `BootstrappingPeer::new`, with a new
identity drawn from our prefix's range. -/
def rebootstrap (s : Adult E) : BootstrappingPeerDetails E :=
  let networkCfg := ops.networkCfg s.chain
  let (fullId, rng) := hops.fullIdWithinRange s.rng (s.ourPrefix ops).rangeInclusive
  { networkService := s.networkService, fullId, networkCfg, timer := s.timer, rng }

/-- `Adult::relocate`: the details it hands to `BootstrappingPeer::relocate`, along with the
connection infos and the relocation details it is given. -/
def relocate (s : Adult E) : BootstrappingPeerDetails E :=
  { networkService := s.networkService, fullId := s.fullId,
    networkCfg := ops.networkCfg s.chain, timer := s.timer, rng := s.rng }

/-- `Adult::into_elder`: the details it hands to `Elder::from_adult`, along with the prefix it
is given. -/
def intoElder (s : Adult E) : ElderDetails E :=
  { chain := s.chain, networkService := s.networkService, eventBacklog := s.eventBacklog,
    fullId := s.fullId, genPfxInfo := s.genPfxInfo, routingMsgBacklog := s.routingMsgBacklog,
    directMsgBacklog := s.directMsgBacklog, sigAccumulator := s.sigAccumulator,
    parsecMap := s.parsecMap, routingMsgFilter := hops.routingMessageFilterNew,
    timer := s.timer, rng := s.rng }

/-- `rebootstrap` asks to rejoin the section it leaves: as long as `FullId::within_range` draws
its name from the range it is given, the new identity's name matches our prefix. -/
theorem rebootstrap_in_our_section (s : Adult E)
    (hwithin : ∀ rng, (s.ourPrefix ops).lowerBound ≤
        hops.name (ops.publicId (hops.fullIdWithinRange rng (s.ourPrefix ops).rangeInclusive).1) ∧
      hops.name (ops.publicId (hops.fullIdWithinRange rng (s.ourPrefix ops).rangeInclusive).1) ≤
        (s.ourPrefix ops).upperBound) :
    (s.ourPrefix ops).matches (hops.name (ops.publicId (s.rebootstrap ops hops).fullId)) = true :=
  (Prefix.matches_iff_mem_range _ _).mpr (hwithin s.rng)

/-- An Adult that becomes an Elder after any run hands it a genesis no older than the one the
Adult started with, a direct backlog that still holds only join requests and member knowledge
if the Adult's did, its events and routing backlog as the run left them, and a fresh filter. -/
theorem intoElder_run (s : Adult E) (operations : List (Operation E)) :
    ops.parsecVersion s.genPfxInfo ≤
        ops.parsecVersion ((s.run ops operations).intoElder hops).genPfxInfo ∧
      (BackloggedOnly s →
        ∀ x ∈ ((s.run ops operations).intoElder hops).directMsgBacklog,
          x.2.isBacklogged = true) ∧
      ((s.run ops operations).intoElder hops).eventBacklog = (s.run ops operations).eventBacklog ∧
      ((s.run ops operations).intoElder hops).routingMsgBacklog =
        (s.run ops operations).routingMsgBacklog ∧
      ((s.run ops operations).intoElder hops).routingMsgFilter = hops.routingMessageFilterNew :=
  ⟨version_le_run ops s operations, fun h => backloggedOnly_run ops h operations,
    rfl, rfl, rfl⟩

end Adult

/-- The functions of `trustingEnv` for an Adult of the section `1`, the upper half of the
names. -/
def upperHalfOps : AdultOps trustingEnv :=
  { trustingOps with ourPrefix := fun _ => ⟨[true], by decide⟩ }

/-- The handover functions of `trustingEnv`: every identity is named `2^255`, the first name of
the upper half. -/
def trustingHandoverOps : HandoverOps trustingEnv where
  fullIdWithinRange rng _ := ((), rng)
  name _ := BitVec.ofNat 256 (2 ^ 255)
  routingMessageFilterNew := ()

/-- The pending Adult, as an Adult of the section `1`, rebootstrapped. -/
theorem rebootstrap_in_our_section_pending :
    (∀ rng, (pendingAdult.ourPrefix upperHalfOps).lowerBound ≤
        trustingHandoverOps.name (upperHalfOps.publicId (trustingHandoverOps.fullIdWithinRange rng
          (pendingAdult.ourPrefix upperHalfOps).rangeInclusive).1) ∧
      trustingHandoverOps.name (upperHalfOps.publicId (trustingHandoverOps.fullIdWithinRange rng
          (pendingAdult.ourPrefix upperHalfOps).rangeInclusive).1) ≤
        (pendingAdult.ourPrefix upperHalfOps).upperBound) ∧
      (pendingAdult.ourPrefix upperHalfOps).matches (trustingHandoverOps.name
        (upperHalfOps.publicId (pendingAdult.rebootstrap upperHalfOps trustingHandoverOps).fullId)) =
        true :=
  have hwithin : ∀ rng, (pendingAdult.ourPrefix upperHalfOps).lowerBound ≤
        trustingHandoverOps.name (upperHalfOps.publicId (trustingHandoverOps.fullIdWithinRange rng
          (pendingAdult.ourPrefix upperHalfOps).rangeInclusive).1) ∧
      trustingHandoverOps.name (upperHalfOps.publicId (trustingHandoverOps.fullIdWithinRange rng
          (pendingAdult.ourPrefix upperHalfOps).rangeInclusive).1) ≤
        (pendingAdult.ourPrefix upperHalfOps).upperBound := fun ⟨⟩ => by decide
  ⟨hwithin,
    Adult.rebootstrap_in_our_section upperHalfOps trustingHandoverOps pendingAdult hwithin⟩

/-- Replaying the backlogs, then handling a routing message. -/
def replayThenHop : List (Operation trustingEnv) := [.finishHandleTransition, .hopMessage none]

/-- The Adult waiting on a join request, made an Elder after its replay and a routing message:
the Elder's genesis is no older and its direct backlog is still only the join request. -/
theorem intoElder_run_waiting :
    trustingOps.parsecVersion waitingAdult.genPfxInfo ≤ trustingOps.parsecVersion
        ((waitingAdult.run trustingOps replayThenHop).intoElder trustingHandoverOps).genPfxInfo ∧
      (∀ x ∈ ((waitingAdult.run trustingOps replayThenHop).intoElder
          trustingHandoverOps).directMsgBacklog, x.2.isBacklogged = true) ∧
      ((waitingAdult.run trustingOps replayThenHop).intoElder trustingHandoverOps).eventBacklog =
        (waitingAdult.run trustingOps replayThenHop).eventBacklog ∧
      ((waitingAdult.run trustingOps replayThenHop).intoElder
          trustingHandoverOps).routingMsgBacklog =
        (waitingAdult.run trustingOps replayThenHop).routingMsgBacklog ∧
      ((waitingAdult.run trustingOps replayThenHop).intoElder
          trustingHandoverOps).routingMsgFilter = trustingHandoverOps.routingMessageFilterNew :=
  have h := Adult.intoElder_run trustingOps trustingHandoverOps waitingAdult replayThenHop
  ⟨h.1, h.2.1 (by decide), h.2.2⟩

end SnRouting.States
