import SnRouting.States.Adult.Handlers

/-!
# Where an Adult relays routing messages

An Adult is not an elder, so it hands every routing message it relays to its section's
elders. `send_signed_message_to_elders` asks the outgoing filter about each elder in turn and
sends the message once, to the connection infos of the elders the filter lets through, with
all of them in the delivery group. Handling a hop message, or a signature that completes a
message, therefore either sends nothing or sends its bytes to some of our elders, in their
order and each at most once, and so does every step of a run of them, from the state the
Adult is in before it.
-/

namespace SnRouting.States
set_option autoImplicit false

/-- The operations that bring an Adult routing messages: a hop message, or a signature for a
message it accumulates. -/
def Operation.isRouting {E : Env} : Operation E → Bool
  | .hopMessage _ | .directMessage (.messageSignature _) _ => true
  | _ => false

namespace Adult

variable {E : Env} (ops : AdultOps E)

/-- One step of the loop of `send_signed_message_to_elders`: ask the outgoing filter about an
elder and keep its connection info if the message is new to it. -/
def outgoingStep (msg : E.HopMessageWithBytes) :
    E.RoutingMessageFilter × List E.ConnectionInfo → E.P2pNode →
      E.RoutingMessageFilter × List E.ConnectionInfo :=
  fun (filter, targets) node =>
    let (filter, isNew) := ops.filterOutgoing filter msg (ops.p2pPublicId node)
    (filter, if isNew then targets ++ [ops.connectionInfo node] else targets)

theorem sendSignedMessageToElders_eq (s : Adult E) (msg : E.HopMessageWithBytes) :
    sendSignedMessageToElders ops s msg =
      let (routingMsgFilter, targets) :=
        (ops.ourElders s.chain).foldl (outgoingStep ops msg) (s.routingMsgFilter, [])
      ({ s with
          networkService := ops.sendMessageToTargets s.networkService targets targets.length
            (ops.fullMessageBytes msg),
          routingMsgFilter := (ops.filterIncoming routingMsgFilter msg).1 }, .ok ()) :=
  rfl

/-- The loop adds to the targets some of the elders' connection infos, in their order. -/
theorem foldl_outgoingStep (msg : E.HopMessageWithBytes) (elders : List E.P2pNode)
    (filter : E.RoutingMessageFilter) (targets : List E.ConnectionInfo) :
    ∃ added, added.Sublist (elders.map ops.connectionInfo) ∧
      (elders.foldl (outgoingStep ops msg) (filter, targets)).2 = targets ++ added := by
  induction elders generalizing filter targets with
  | nil => exact ⟨[], List.Sublist.slnil, (List.append_nil _).symm⟩
  | cons node rest ih =>
    rcases hstep : ops.filterOutgoing filter msg (ops.p2pPublicId node) with ⟨filter', isNew⟩
    cases isNew
    · obtain ⟨added, hsub, heq⟩ := ih filter' targets
      refine ⟨added, hsub.cons _, ?_⟩
      simpa only [List.foldl_cons, outgoingStep, hstep, Bool.false_eq_true, if_false] using heq
    · obtain ⟨added, hsub, heq⟩ := ih filter' (targets ++ [ops.connectionInfo node])
      refine ⟨ops.connectionInfo node :: added, hsub.cons₂ _, ?_⟩
      simpa only [List.foldl_cons, outgoingStep, hstep, if_true, List.append_assoc,
        List.singleton_append] using heq

/-- `send_signed_message_to_elders` sends once, to some of our elders in their order. -/
theorem networkService_sendSignedMessageToElders (s : Adult E) (msg : E.HopMessageWithBytes) :
    ∃ targets, targets.Sublist ((ops.ourElders s.chain).map ops.connectionInfo) ∧
      (sendSignedMessageToElders ops s msg).1.networkService =
        ops.sendMessageToTargets s.networkService targets targets.length
          (ops.fullMessageBytes msg) := by
  obtain ⟨targets, hsub, heq⟩ := foldl_outgoingStep ops msg (ops.ourElders s.chain)
    s.routingMsgFilter []
  refine ⟨targets, hsub, ?_⟩
  rw [sendSignedMessageToElders_eq]
  simp only [heq, List.nil_append]

/-- What `handle_filtered_signed_message` does to the network service: nothing, or one send of
the message to some of our elders. -/
def RelaysToElders (s : Adult E) (msg : E.HopMessageWithBytes) (s' : Adult E) : Prop :=
  s'.networkService = s.networkService ∨
    ∃ targets, targets.Sublist ((ops.ourElders s.chain).map ops.connectionInfo) ∧
      s'.networkService = ops.sendMessageToTargets s.networkService targets targets.length
        (ops.fullMessageBytes msg)

theorem relaysToElders_sendSignedMessageToElders (s : Adult E) (msg : E.HopMessageWithBytes) :
    RelaysToElders ops s msg (thenStay (sendSignedMessageToElders ops s msg)).1 := by
  obtain ⟨targets, hsub, heq⟩ := networkService_sendSignedMessageToElders ops s msg
  rcases h : sendSignedMessageToElders ops s msg with ⟨s', _ | _⟩ <;>
    exact .inr ⟨targets, hsub, by rw [← heq, h]; rfl⟩

theorem networkService_handleGenesisUpdate (s : Adult E) (g : E.GenesisPfxInfo) :
    (handleGenesisUpdate ops s g).1.networkService = s.networkService := by
  unfold handleGenesisUpdate
  split <;> rfl

theorem relaysToElders_handleFilteredSignedMessage (s : Adult E) (msg : E.HopMessageWithBytes) :
    RelaysToElders ops s msg (handleFilteredSignedMessage ops s msg).1 := by
  dsimp only [handleFilteredSignedMessage]
  cases ops.inLocation s.chain (ops.messageDst msg)
  · exact relaysToElders_sendSignedMessageToElders ops s msg
  · cases ops.genesisUpdate (ops.signedRoutingMessage msg) with
    | none =>
      exact relaysToElders_sendSignedMessageToElders ops
        { s with routingMsgBacklog := s.routingMsgBacklog ++ [ops.signedRoutingMessage msg] } msg
    | some g =>
      cases verifySignedMessage ops s (ops.signedRoutingMessage msg) with
      | error e => exact .inl rfl
      | ok u => exact .inl (networkService_handleGenesisUpdate ops s g)

theorem relaysToElders_handleSignedMessage (s : Adult E) (msg : E.HopMessageWithBytes) :
    RelaysToElders ops s msg (handleSignedMessage ops s msg).1 := by
  obtain ⟨routingMsgFilter, h | h⟩ := handleSignedMessage_cases ops s msg
  · exact .inl (by rw [h])
  · rw [h]
    exact relaysToElders_handleFilteredSignedMessage ops { s with routingMsgFilter } msg

/-- One step of a run as the network sees it, from the state it starts in: nothing is sent, or
one routing message is sent to some of the elders the Adult has in that state. -/
def RelayStep (s s' : Adult E) : Prop :=
  s'.networkService = s.networkService ∨ ∃ msg, RelaysToElders ops s msg s'

theorem relayStep_apply (s : Adult E) {op : Operation E} (h : op.isRouting = true) :
    RelayStep ops s (s.apply ops op) := by
  cases op with
  | hopMessage msg => exact .inr ⟨msg, relaysToElders_handleSignedMessage ops s msg⟩
  | directMessage msg p2pNode =>
    cases msg with
    | messageSignature signedMsg =>
      obtain ⟨sigAccumulator, ⟨r, h, -⟩ | ⟨hopMsg, h⟩⟩ :=
        handleMessageSignature_cases ops s signedMsg (ops.p2pPublicId p2pNode)
      · exact .inl (by simp only [apply, handleDirectMessage, h])
      · refine .inr ⟨hopMsg, ?_⟩
        simp only [apply, handleDirectMessage, h]
        exact relaysToElders_handleSignedMessage ops { s with sigAccumulator } hopMsg
    | _ => cases h
  | _ => cases h

/-- The state after the first `i + 1` operations is the state after the first `i` with the next
one applied. -/
theorem run_take_succ (s : Adult E) (operations : List (Operation E)) {i : Nat}
    (hi : i < operations.length) :
    s.run ops (operations.take (i + 1)) = (s.run ops (operations.take i)).apply ops operations[i] := by
  rw [List.take_succ, List.getElem?_eq_getElem hi, Option.toList_some, run, List.foldl_append]
  rfl

/-- An Adult relays routing messages only to its own elders. At every step of a run of hop
messages and message signatures, from the state the Adult is in before that operation to the
state after it, nothing is sent, or the network service is asked once to deliver one message's
bytes to some of the connection infos of the elders the Adult has before the operation, in
their order (so to each at most once when they differ) and all counted in the delivery group. -/
theorem run_relays_only_to_elders (s : Adult E) (operations : List (Operation E))
    (hrouting : ∀ op ∈ operations, op.isRouting = true) :
    ∀ i < operations.length,
      RelayStep ops (s.run ops (operations.take i)) (s.run ops (operations.take (i + 1))) := by
  intro i hi
  rw [run_take_succ ops s operations hi]
  exact relayStep_apply ops _ (hrouting _ (List.getElem_mem hi))

end Adult

/-- A routing message for us, then a signature that completes a `GenesisUpdate`. -/
def hopThenSignature : List (Operation trustingEnv) :=
  [.hopMessage none, .directMessage (.messageSignature (some 1)) ()]

/-- The pending Adult handed a routing message for us, then its signature, which completes a
`GenesisUpdate`. -/
theorem run_relays_only_to_elders_pending :
    (∀ op ∈ hopThenSignature, op.isRouting = true) ∧
      ∀ i < hopThenSignature.length,
        Adult.RelayStep trustingOps (pendingAdult.run trustingOps (hopThenSignature.take i))
          (pendingAdult.run trustingOps (hopThenSignature.take (i + 1))) :=
  have hrouting : ∀ op ∈ hopThenSignature, op.isRouting = true := by decide
  ⟨hrouting, Adult.run_relays_only_to_elders trustingOps pendingAdult _ hrouting⟩

end SnRouting.States
