import SnRouting.Section

/-!
# The Adult state

`states/adult/mod.rs`: a node approved into a section but not one of its elders. Its chain,
parsec map, network service, filter and accumulator come from modules that are not under
src/: their types are the fields of `Env`, and what their functions return is `AdultOps`.
The default methods of the `Base` and `Approved` traits (also not under src/) reach an `Adult`
only through the accessors it implements, so they act on `ApprovedView`, the part of it those
accessors expose. A `&mut self` method that may fail returns the updated state with an `Except`.
-/

namespace SnRouting.States
set_option autoImplicit false

/-- The types the Adult's fields, messages and callbacks are made of. -/
structure Env where
  Chain : Type
  ParsecMap : Type
  MainRng : Type
  FullId : Type
  PublicId : Type
  P2pNode : Type
  ConnectionInfo : Type
  NetworkService : Type
  NetworkParams : Type
  Timer : Type
  Event : Type
  GenesisPfxInfo : Type
  SignedRoutingMessage : Type
  HopMessageWithBytes : Type
  Location : Type
  Bytes : Type
  RoutingMessageFilter : Type
  SignatureAccumulator : Type
  SignedRelocateDetails : Type
  RelocateDetails : Type
  EldersInfo : Type
  EldersChange : Type
  OnlinePayload : Type
  SectionKeyInfo : Type
  SendAckMessagePayload : Type
  Signature : Type
  DkgResult : Type
  ParsecRequest : Type
  ParsecResponse : Type
  JoinRequest : Type
  MemberKnowledge : Type
  RoutingError : Type
  decEqPublicId : DecidableEq PublicId

instance (E : Env) : DecidableEq E.PublicId := E.decEqPublicId

/-- `BootstrapResponse`. -/
inductive BootstrapResponse (E : Env)
  | join (info : E.EldersInfo)
  | rebootstrap (connInfos : List E.ConnectionInfo)

/-- `DirectMessage`, with the variants an Adult matches on. -/
inductive DirectMessage (E : Env)
  | messageSignature (msg : E.SignedRoutingMessage)
  | parsecRequest (version : UInt64) (request : E.ParsecRequest)
  | parsecResponse (version : UInt64) (response : E.ParsecResponse)
  | bootstrapRequest (name : XorName)
  | connectionResponse
  | relocate (details : E.SignedRelocateDetails)
  | bootstrapResponse (response : BootstrapResponse E)
  | joinRequest (request : E.JoinRequest)
  | memberKnowledge (knowledge : E.MemberKnowledge)

/-- `Transition`: what a handler asks the state machine to do next. -/
inductive Transition (E : Env)
  | stay
  | relocate (details : E.SignedRelocateDetails) (connInfos : List E.ConnectionInfo)
  | intoElder (oldPfx : Prefix)

/-- `if let Transition::Stay = transition`. -/
def Transition.isStay {E : Env} : Transition E → Bool
  | .stay => true
  | _ => false

/-- `VerifyStatus`. -/
inductive VerifyStatus
  | full
  | proofTooNew

/-- The fields of an Adult that the `Base` and `Approved` accessors expose to the traits'
default methods. -/
structure ApprovedView (E : Env) where
  chain : E.Chain
  networkService : E.NetworkService
  eventBacklog : List E.Event
  parsecMap : E.ParsecMap
  timer : E.Timer
  rng : E.MainRng

/-- What the modules outside src/ compute for an Adult. -/
structure AdultOps (E : Env) where
  publicId : E.FullId → E.PublicId
  p2pPublicId : E.P2pNode → E.PublicId
  connectionInfo : E.P2pNode → E.ConnectionInfo
  parsecVersion : E.GenesisPfxInfo → UInt64
  /-- `Chain::new(network_cfg, our_id, gen_pfx_info, None)`. -/
  chainNew : E.NetworkParams → E.PublicId → E.GenesisPfxInfo → E.Chain
  networkCfg : E.Chain → E.NetworkParams
  ourElders : E.Chain → List E.P2pNode
  ourPrefix : E.Chain → Prefix
  ourInfo : E.Chain → E.EldersInfo
  isSelfElder : E.Chain → Bool
  inLocation : E.Chain → E.Location → Bool
  /-- `ParsecMap::init` and `with_init`: the map started from a genesis, drawing on the rng. -/
  parsecMapInit : E.ParsecMap → E.MainRng → E.FullId → E.GenesisPfxInfo → E.ParsecMap × E.MainRng
  /-- `SignedRoutingMessage::verify` against `chain.get_their_keys_info()`. -/
  verify : E.SignedRoutingMessage → E.Chain → Except E.RoutingError VerifyStatus
  untrustedMessage : E.RoutingError
  /-- The `GenesisPfxInfo` of a routing message whose content is a `GenesisUpdate`. -/
  genesisUpdate : E.SignedRoutingMessage → Option E.GenesisPfxInfo
  signedRoutingMessage : E.HopMessageWithBytes → E.SignedRoutingMessage
  messageDst : E.HopMessageWithBytes → E.Location
  fullMessageBytes : E.HopMessageWithBytes → E.Bytes
  hopMessageWithBytesNew : E.SignedRoutingMessage → Except E.RoutingError E.HopMessageWithBytes
  /-- `filter_incoming(msg).is_new()`, with the filter after it. -/
  filterIncoming : E.RoutingMessageFilter → E.HopMessageWithBytes → E.RoutingMessageFilter × Bool
  filterOutgoing :
    E.RoutingMessageFilter → E.HopMessageWithBytes → E.PublicId → E.RoutingMessageFilter × Bool
  addProof :
    E.SignatureAccumulator → E.SignedRoutingMessage →
      E.SignatureAccumulator × Option E.SignedRoutingMessage
  /-- `Timer::schedule` for a duration in seconds: the token of the new timer. -/
  schedule : E.Timer → Nat → E.Timer × UInt64
  /-- `rng::new()`. -/
  rngNew : E.MainRng
  sendMessageToTargets : E.NetworkService → List E.ConnectionInfo → Nat → E.Bytes → E.NetworkService
  sendDirectMessage : E.NetworkService → E.ConnectionInfo → DirectMessage E → E.NetworkService
  removeAndDisconnectAll : E.NetworkService → E.NetworkService
  /-- `details.content().pub_id`. -/
  relocatePubId : E.SignedRelocateDetails → E.PublicId
  checkSignedRelocationDetails : ApprovedView E → E.SignedRelocateDetails → Bool
  handleParsecRequest :
    ApprovedView E → E.FullId → UInt64 → E.ParsecRequest → E.P2pNode →
      ApprovedView E × Except E.RoutingError (Transition E)
  handleParsecResponse :
    ApprovedView E → E.FullId → UInt64 → E.ParsecResponse → E.PublicId →
      ApprovedView E × Except E.RoutingError (Transition E)
  sendMemberKnowledge : ApprovedView E → E.FullId → ApprovedView E

/-- `Adult`. -/
structure Adult (E : Env) extends ApprovedView E where
  fullId : E.FullId
  genPfxInfo : E.GenesisPfxInfo
  routingMsgBacklog : List E.SignedRoutingMessage
  directMsgBacklog : List (E.P2pNode × DirectMessage E)
  sigAccumulator : E.SignatureAccumulator
  knowledgeTimerToken : UInt64
  routingMsgFilter : E.RoutingMessageFilter

/-- `AdultDetails`. -/
structure AdultDetails (E : Env) where
  networkService : E.NetworkService
  eventBacklog : List E.Event
  fullId : E.FullId
  genPfxInfo : E.GenesisPfxInfo
  routingMsgBacklog : List E.SignedRoutingMessage
  directMsgBacklog : List (E.P2pNode × DirectMessage E)
  sigAccumulator : E.SignatureAccumulator
  routingMsgFilter : E.RoutingMessageFilter
  timer : E.Timer
  networkCfg : E.NetworkParams
  rng : E.MainRng

/-- `PausedState`, with the fields `Adult::resume` reads. -/
structure PausedState (E : Env) where
  chain : E.Chain
  fullId : E.FullId
  genPfxInfo : E.GenesisPfxInfo
  routingMsgFilter : E.RoutingMessageFilter
  routingMsgBacklog : List E.SignedRoutingMessage
  directMsgBacklog : List (E.P2pNode × DirectMessage E)
  networkService : E.NetworkService
  sigAccumulator : E.SignatureAccumulator
  parsecMap : E.ParsecMap

/-- `KNOWLEDGE_TIMEOUT`, in seconds. -/
def knowledgeTimeout : Nat := 2

namespace Adult
variable {E : Env} (ops : AdultOps E)

/-- `Adult::new`. -/
def new (details : AdultDetails E) (parsecMap : E.ParsecMap) : Except E.RoutingError (Adult E) :=
  let publicId := ops.publicId details.fullId
  let (timer, knowledgeTimerToken) := ops.schedule details.timer knowledgeTimeout
  let (parsecMap, rng) := ops.parsecMapInit parsecMap details.rng details.fullId details.genPfxInfo
  let chain := ops.chainNew details.networkCfg publicId details.genPfxInfo
  .ok { chain, networkService := details.networkService, eventBacklog := details.eventBacklog,
        fullId := details.fullId, genPfxInfo := details.genPfxInfo,
        routingMsgBacklog := details.routingMsgBacklog,
        directMsgBacklog := details.directMsgBacklog, sigAccumulator := details.sigAccumulator,
        parsecMap, routingMsgFilter := details.routingMsgFilter, timer, knowledgeTimerToken, rng }

/-- `Adult::pause` (its `routing_msg_queue` starts empty and its `network_rx` is `None`). -/
def pause (s : Adult E) : PausedState E :=
  { chain := s.chain, fullId := s.fullId, genPfxInfo := s.genPfxInfo,
    routingMsgFilter := s.routingMsgFilter, routingMsgBacklog := s.routingMsgBacklog,
    directMsgBacklog := s.directMsgBacklog, networkService := s.networkService,
    sigAccumulator := s.sigAccumulator, parsecMap := s.parsecMap }

/-- `Adult::resume`. -/
def resume (state : PausedState E) (timer : E.Timer) : Adult E :=
  let (timer, knowledgeTimerToken) := ops.schedule timer knowledgeTimeout
  { chain := state.chain, networkService := state.networkService, eventBacklog := [],
    fullId := state.fullId, genPfxInfo := state.genPfxInfo,
    routingMsgBacklog := state.routingMsgBacklog, directMsgBacklog := state.directMsgBacklog,
    sigAccumulator := state.sigAccumulator, parsecMap := state.parsecMap, knowledgeTimerToken,
    routingMsgFilter := state.routingMsgFilter, timer, rng := ops.rngNew }

/-- `self.id()`. -/
def id (s : Adult E) : E.PublicId := ops.publicId s.fullId

/-- `Ok(x)?` followed by `Ok(Transition::Stay)`. -/
def thenStay {α : Type} : α × Except E.RoutingError Unit → α × Except E.RoutingError (Transition E)
  | (s, .ok ()) => (s, .ok .stay)
  | (s, .error e) => (s, .error e)

/-- The part of `handle_genesis_update` after its guard: take the new genesis, restart the
parsec map and the chain from it, and drop both backlogs. -/
def resetGenesis (s : Adult E) (genPfxInfo : E.GenesisPfxInfo) : Adult E :=
  let (parsecMap, rng) := ops.parsecMapInit s.parsecMap s.rng s.fullId genPfxInfo
  { s with genPfxInfo, parsecMap, rng,
           chain := ops.chainNew (ops.networkCfg s.chain) (s.id ops) genPfxInfo,
           routingMsgBacklog := [], directMsgBacklog := [] }

/-- `handle_genesis_update`. -/
def handleGenesisUpdate (s : Adult E) (genPfxInfo : E.GenesisPfxInfo) :
    Adult E × Except E.RoutingError (Transition E) :=
  if ops.parsecVersion genPfxInfo ≤ ops.parsecVersion s.genPfxInfo then (s, .ok .stay)
  else (resetGenesis ops s genPfxInfo, .ok .stay)

/-- `verify_signed_message`. -/
def verifySignedMessage (s : Adult E) (msg : E.SignedRoutingMessage) :
    Except E.RoutingError Unit :=
  match ops.verify msg s.chain with
  | .ok .full => .ok ()
  | .ok .proofTooNew => .error ops.untrustedMessage
  | .error e => .error e

/-- `send_signed_message_to_elders`: send to each of our elders the outgoing filter lets
through, then mark the message as seen. -/
def sendSignedMessageToElders (s : Adult E) (msg : E.HopMessageWithBytes) :
    Adult E × Except E.RoutingError Unit :=
  let (routingMsgFilter, targets) := (ops.ourElders s.chain).foldl
    (fun (filter, targets) node =>
      let (filter, isNew) := ops.filterOutgoing filter msg (ops.p2pPublicId node)
      (filter, if isNew then targets ++ [ops.connectionInfo node] else targets))
    (s.routingMsgFilter, [])
  let networkService :=
    ops.sendMessageToTargets s.networkService targets targets.length (ops.fullMessageBytes msg)
  ({ s with networkService, routingMsgFilter := (ops.filterIncoming routingMsgFilter msg).1 },
    .ok ())

/-- `handle_filtered_signed_message`. -/
def handleFilteredSignedMessage (s : Adult E) (msg : E.HopMessageWithBytes) :
    Adult E × Except E.RoutingError (Transition E) :=
  let signedMsg := ops.signedRoutingMessage msg
  if ops.inLocation s.chain (ops.messageDst msg) then
    match ops.genesisUpdate signedMsg with
    | some info =>
      match verifySignedMessage ops s signedMsg with
      | .error e => (s, .error e)
      | .ok () => handleGenesisUpdate ops s info
    | none =>
      thenStay (sendSignedMessageToElders ops
        { s with routingMsgBacklog := s.routingMsgBacklog ++ [signedMsg] } msg)
  else thenStay (sendSignedMessageToElders ops s msg)

/-- `handle_signed_message`. -/
def handleSignedMessage (s : Adult E) (msg : E.HopMessageWithBytes) :
    Adult E × Except E.RoutingError (Transition E) :=
  let (routingMsgFilter, isNew) := ops.filterIncoming s.routingMsgFilter msg
  let s := { s with routingMsgFilter }
  if !isNew then (s, .ok .stay) else handleFilteredSignedMessage ops s msg

/-- `handle_message_signature` (its elder check only logs). -/
def handleMessageSignature (s : Adult E) (msg : E.SignedRoutingMessage) (_pubId : E.PublicId) :
    Adult E × Except E.RoutingError (Transition E) :=
  match ops.addProof s.sigAccumulator msg with
  | (sigAccumulator, none) => ({ s with sigAccumulator }, .ok .stay)
  | (sigAccumulator, some signedMsg) =>
    match ops.hopMessageWithBytesNew signedMsg with
    | .error e => ({ s with sigAccumulator }, .error e)
    | .ok signedMsg => handleSignedMessage ops { s with sigAccumulator } signedMsg

/-- `handle_relocate`. -/
def handleRelocate (s : Adult E) (details : E.SignedRelocateDetails) : Adult E × Transition E :=
  if ops.relocatePubId details ≠ s.id ops then (s, .stay)
  else if !ops.checkSignedRelocationDetails s.toApprovedView details then (s, .stay)
  else
    let connInfos := (ops.ourElders s.chain).map ops.connectionInfo
    ({ s with networkService := ops.removeAndDisconnectAll s.networkService },
      .relocate details connInfos)

/-- `handle_bootstrap_request`. -/
def handleBootstrapRequest (s : Adult E) (p2pNode : E.P2pNode) (destination : XorName) :
    Adult E :=
  let response : BootstrapResponse E :=
    if (ops.ourPrefix s.chain).matches destination then .join (ops.ourInfo s.chain)
    else .rebootstrap ((ops.ourElders s.chain).map ops.connectionInfo)
  let networkService := ops.sendDirectMessage s.networkService (ops.connectionInfo p2pNode)
    (.bootstrapResponse response)
  { s with networkService }

/-- `handle_direct_message`. -/
def handleDirectMessage (s : Adult E) (msg : DirectMessage E) (p2pNode : E.P2pNode) :
    Adult E × Except E.RoutingError (Transition E) :=
  match msg with
  | .messageSignature msg => handleMessageSignature ops s msg (ops.p2pPublicId p2pNode)
  | .parsecRequest version parRequest =>
    let (view, r) := ops.handleParsecRequest s.toApprovedView s.fullId version parRequest p2pNode
    ({ s with toApprovedView := view }, r)
  | .parsecResponse version parResponse =>
    let (view, r) := ops.handleParsecResponse s.toApprovedView s.fullId version parResponse
      (ops.p2pPublicId p2pNode)
    ({ s with toApprovedView := view }, r)
  | .bootstrapRequest name => (handleBootstrapRequest ops s p2pNode name, .ok .stay)
  | .connectionResponse => (s, .ok .stay)
  | .relocate details =>
    let (s, transition) := handleRelocate ops s details
    (s, .ok transition)
  | .bootstrapResponse _ => (s, .ok .stay)
  | msg@(.joinRequest _) | msg@(.memberKnowledge _) =>
    ({ s with directMsgBacklog := s.directMsgBacklog ++ [(p2pNode, msg)] }, .ok .stay)

/-- `handle_hop_message`. -/
def handleHopMessage (s : Adult E) (msg : E.HopMessageWithBytes) :
    Adult E × Except E.RoutingError (Transition E) :=
  handleSignedMessage ops s msg

/-- `handle_timeout`. -/
def handleTimeout (s : Adult E) (token : UInt64) : Adult E × Transition E :=
  if s.knowledgeTimerToken = token then
    let view := ops.sendMemberKnowledge s.toApprovedView s.fullId
    let (timer, knowledgeTimerToken) := ops.schedule view.timer knowledgeTimeout
    ({ s with toApprovedView := { view with timer }, knowledgeTimerToken }, .stay)
  else (s, .stay)

/-- `handle_peer_lost`. -/
def handlePeerLost (s : Adult E) (_peerAddr : SocketAddr) : Adult E × Transition E := (s, .stay)

/-- The body of the first `for` loop of `finish_handle_transition`: handle the message while the
transition is `Stay`, and push it back once it is not. -/
def directStep : Adult E × Transition E → E.P2pNode × DirectMessage E → Adult E × Transition E
  | (s, transition), (pubId, msg) =>
    if transition.isStay then
      match handleDirectMessage ops s msg pubId with
      | (s, .ok newTransition) => (s, newTransition)
      | (s, .error _) => (s, transition)
    else ({ s with directMsgBacklog := s.directMsgBacklog ++ [(pubId, msg)] }, transition)

/-- The body of the second `for` loop of `finish_handle_transition`. -/
def routingStep : Adult E × Transition E → E.SignedRoutingMessage → Adult E × Transition E
  | (s, transition), msg =>
    if transition.isStay then
      match ops.hopMessageWithBytesNew msg with
      | .error _ => (s, transition)
      | .ok hopMsg =>
        match handleFilteredSignedMessage ops s hopMsg with
        | (s, .ok newTransition) => (s, newTransition)
        | (s, .error _) => (s, transition)
    else ({ s with routingMsgBacklog := s.routingMsgBacklog ++ [msg] }, transition)

/-- The first loop, over the direct backlog it takes out of the state. -/
def replayDirectBacklog (s : Adult E) : Adult E × Transition E :=
  s.directMsgBacklog.foldl (directStep ops) ({ s with directMsgBacklog := [] }, .stay)

/-- The second loop, over the routing backlog it takes out of the state. -/
def replayRoutingBacklog (s : Adult E) (transition : Transition E) : Adult E × Transition E :=
  s.routingMsgBacklog.foldl (routingStep ops) ({ s with routingMsgBacklog := [] }, transition)

/-- `finish_handle_transition`. -/
def finishHandleTransition (s : Adult E) : Adult E × Transition E :=
  let (s, transition) := replayDirectBacklog ops s
  replayRoutingBacklog ops s transition

/-! ### The `Approved` callbacks -/

/-- `send_event`. -/
def sendEvent (s : Adult E) (event : E.Event) : Adult E :=
  { s with eventBacklog := s.eventBacklog ++ [event] }

/-- `set_pfx_successfully_polled`. -/
def setPfxSuccessfullyPolled (s : Adult E) (_polled : Bool) : Adult E := s

/-- The callbacks an Adult ignores: `Ok(())`, the state as it was. -/
def ignoreCallback (s : Adult E) : Adult E × Except E.RoutingError Unit := (s, .ok ())

/-- `handle_relocate_polled`. -/
def handleRelocatePolled (s : Adult E) (_details : E.RelocateDetails) :
    Adult E × Except E.RoutingError Unit := ignoreCallback s

/-- `handle_promote_and_demote_elders`. -/
def handlePromoteAndDemoteElders (s : Adult E) (_newInfos : List E.EldersInfo) :
    Adult E × Except E.RoutingError Unit := ignoreCallback s

/-- `handle_member_added`. -/
def handleMemberAdded (s : Adult E) (_payload : E.OnlinePayload) :
    Adult E × Except E.RoutingError Unit := ignoreCallback s

/-- `handle_member_removed`. -/
def handleMemberRemoved (s : Adult E) (_pubId : E.PublicId) :
    Adult E × Except E.RoutingError Unit := ignoreCallback s

/-- `handle_member_relocated`, which returns nothing. -/
def handleMemberRelocated (s : Adult E) (_details : E.RelocateDetails) (_signature : E.Signature)
    (_nodeKnowledge : UInt64) : Adult E := s

/-- `handle_dkg_result_event`. -/
def handleDkgResultEvent (s : Adult E) (_participants : List E.PublicId)
    (_dkgResult : E.DkgResult) : Adult E × Except E.RoutingError Unit := ignoreCallback s

/-- `handle_section_info_event`: become an elder once the chain says we are one. -/
def handleSectionInfoEvent (s : Adult E) (oldPfx : Prefix) (_neighbourChange : E.EldersChange) :
    Adult E × Except E.RoutingError (Transition E) :=
  if ops.isSelfElder s.chain then (s, .ok (.intoElder oldPfx)) else (s, .ok .stay)

/-- `handle_neighbour_info_event`. -/
def handleNeighbourInfoEvent (s : Adult E) (_eldersInfo : E.EldersInfo)
    (_neighbourChange : E.EldersChange) : Adult E × Except E.RoutingError Unit := ignoreCallback s

/-- `handle_relocate_prepare_event`. -/
def handleRelocatePrepareEvent (s : Adult E) (_payload : E.RelocateDetails) (_countDown : Int) :
    Adult E × Except E.RoutingError Unit := ignoreCallback s

/-- `handle_their_key_info_event`. -/
def handleTheirKeyInfoEvent (s : Adult E) (_keyInfo : E.SectionKeyInfo) :
    Adult E × Except E.RoutingError Unit := ignoreCallback s

/-- `handle_send_ack_message_event`. -/
def handleSendAckMessageEvent (s : Adult E) (_ackPayload : E.SendAckMessagePayload) :
    Adult E × Except E.RoutingError Unit := ignoreCallback s

/-- `handle_prune_event`. -/
def handlePruneEvent (s : Adult E) : Adult E × Except E.RoutingError Unit := ignoreCallback s

end Adult

/-- The operations an Adult's owner may call on it: the `Base` handlers and the `Approved`
callbacks. -/
inductive Operation (E : Env)
  | directMessage (msg : DirectMessage E) (p2pNode : E.P2pNode)
  | hopMessage (msg : E.HopMessageWithBytes)
  | timeout (token : UInt64)
  | peerLost (peerAddr : SocketAddr)
  | finishHandleTransition
  | sendEvent (event : E.Event)
  | setPfxSuccessfullyPolled (polled : Bool)
  | relocatePolled (details : E.RelocateDetails)
  | promoteAndDemoteElders (newInfos : List E.EldersInfo)
  | memberAdded (payload : E.OnlinePayload)
  | memberRemoved (pubId : E.PublicId)
  | memberRelocated (details : E.RelocateDetails) (signature : E.Signature) (nodeKnowledge : UInt64)
  | dkgResultEvent (participants : List E.PublicId) (dkgResult : E.DkgResult)
  | sectionInfoEvent (oldPfx : Prefix) (neighbourChange : E.EldersChange)
  | neighbourInfoEvent (eldersInfo : E.EldersInfo) (neighbourChange : E.EldersChange)
  | relocatePrepareEvent (payload : E.RelocateDetails) (countDown : Int)
  | theirKeyInfoEvent (keyInfo : E.SectionKeyInfo)
  | sendAckMessageEvent (ackPayload : E.SendAckMessagePayload)
  | pruneEvent

namespace Adult
variable {E : Env} (ops : AdultOps E)

/-- The Adult after one operation; what the operation returns is not kept. -/
def apply (s : Adult E) : Operation E → Adult E
  | .directMessage msg p2pNode => (handleDirectMessage ops s msg p2pNode).1
  | .hopMessage msg => (handleHopMessage ops s msg).1
  | .timeout token => (handleTimeout ops s token).1
  | .peerLost peerAddr => (handlePeerLost s peerAddr).1
  | .finishHandleTransition => (finishHandleTransition ops s).1
  | .sendEvent event => sendEvent s event
  | .setPfxSuccessfullyPolled polled => setPfxSuccessfullyPolled s polled
  | .relocatePolled details => (handleRelocatePolled s details).1
  | .promoteAndDemoteElders newInfos => (handlePromoteAndDemoteElders s newInfos).1
  | .memberAdded payload => (handleMemberAdded s payload).1
  | .memberRemoved pubId => (handleMemberRemoved s pubId).1
  | .memberRelocated details signature nodeKnowledge =>
    handleMemberRelocated s details signature nodeKnowledge
  | .dkgResultEvent participants dkgResult => (handleDkgResultEvent s participants dkgResult).1
  | .sectionInfoEvent oldPfx change => (handleSectionInfoEvent ops s oldPfx change).1
  | .neighbourInfoEvent info change => (handleNeighbourInfoEvent s info change).1
  | .relocatePrepareEvent payload countDown => (handleRelocatePrepareEvent s payload countDown).1
  | .theirKeyInfoEvent keyInfo => (handleTheirKeyInfoEvent s keyInfo).1
  | .sendAckMessageEvent ackPayload => (handleSendAckMessageEvent s ackPayload).1
  | .pruneEvent => (handlePruneEvent s).1

/-- The Adult after a sequence of operations. -/
def run (s : Adult E) (operations : List (Operation E)) : Adult E :=
  operations.foldl (apply ops) s

end Adult

/-- An environment in which a routing message is either a `GenesisUpdate` of the given parsec
version or some other content, every message is for us and verifies, every signature completes
its message, and the network service records the bytes it is asked to send. -/
abbrev trustingEnv : Env where
  Chain := Unit
  ParsecMap := Unit
  MainRng := Unit
  FullId := Unit
  PublicId := Unit
  P2pNode := Unit
  ConnectionInfo := Unit
  NetworkService := List (Option UInt64)
  NetworkParams := Unit
  Timer := Unit
  Event := Unit
  GenesisPfxInfo := UInt64
  SignedRoutingMessage := Option UInt64
  HopMessageWithBytes := Option UInt64
  Location := Unit
  Bytes := Option UInt64
  RoutingMessageFilter := Unit
  SignatureAccumulator := Unit
  SignedRelocateDetails := Unit
  RelocateDetails := Unit
  EldersInfo := Unit
  EldersChange := Unit
  OnlinePayload := Unit
  SectionKeyInfo := Unit
  SendAckMessagePayload := Unit
  Signature := Unit
  DkgResult := Unit
  ParsecRequest := Unit
  ParsecResponse := Unit
  JoinRequest := Unit
  MemberKnowledge := Unit
  RoutingError := Unit
  decEqPublicId := inferInstanceAs (DecidableEq Unit)

/-- The functions of `trustingEnv`. -/
def trustingOps : AdultOps trustingEnv where
  publicId _ := ()
  p2pPublicId _ := ()
  connectionInfo _ := ()
  parsecVersion g := g
  chainNew _ _ _ := ()
  networkCfg _ := ()
  ourElders _ := []
  ourPrefix _ := ⟨[], Nat.zero_le _⟩
  ourInfo _ := ()
  isSelfElder _ := false
  inLocation _ _ := true
  parsecMapInit parsecMap rng _ _ := (parsecMap, rng)
  verify _ _ := .ok .full
  untrustedMessage := ()
  genesisUpdate msg := msg
  signedRoutingMessage msg := msg
  messageDst _ := ()
  fullMessageBytes msg := msg
  hopMessageWithBytesNew msg := .ok msg
  filterIncoming filter _ := (filter, true)
  filterOutgoing filter _ _ := (filter, true)
  addProof acc msg := (acc, some msg)
  schedule timer _ := (timer, 0)
  rngNew := ()
  sendMessageToTargets sent _ _ bytes := sent ++ [bytes]
  sendDirectMessage sent _ _ := sent
  removeAndDisconnectAll sent := sent
  relocatePubId _ := ()
  checkSignedRelocationDetails _ _ := true
  handleParsecRequest view _ _ _ _ := (view, .ok .stay)
  handleParsecResponse view _ _ _ _ := (view, .ok .stay)
  sendMemberKnowledge view _ := view

/-- An Adult of `trustingEnv` at parsec version 0 whose direct backlog holds a signature that
completes a `GenesisUpdate` to version 1, and whose routing backlog holds a message for us. -/
def pendingAdult : Adult trustingEnv where
  chain := ()
  networkService := []
  eventBacklog := []
  parsecMap := ()
  timer := ()
  rng := ()
  fullId := ()
  genPfxInfo := (0 : UInt64)
  routingMsgBacklog := [none]
  directMsgBacklog := [((), .messageSignature (some 1))]
  sigAccumulator := ()
  knowledgeTimerToken := 0
  routingMsgFilter := ()

end SnRouting.States
