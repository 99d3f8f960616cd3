import SnRouting.States.Adult.Basic

/-!
# What each Adult handler can do

One lemma per handler lists every way it can end, guards included; the invariants of
`Genesis` and the replay of `Replay` case on these and never unfold a handler.
-/

namespace SnRouting.States.Adult
set_option autoImplicit false

variable {E : Env} (ops : AdultOps E)

/-- Two Adults with the same genesis and the same backlogs. -/
structure SameBacklogs (s s' : Adult E) : Prop where
  genPfxInfo : s'.genPfxInfo = s.genPfxInfo
  routingMsgBacklog : s'.routingMsgBacklog = s.routingMsgBacklog
  directMsgBacklog : s'.directMsgBacklog = s.directMsgBacklog

theorem handleGenesisUpdate_of_le (s : Adult E) (g : E.GenesisPfxInfo)
    (h : ops.parsecVersion g ≤ ops.parsecVersion s.genPfxInfo) :
    handleGenesisUpdate ops s g = (s, .ok .stay) := if_pos h

theorem handleGenesisUpdate_of_lt (s : Adult E) (g : E.GenesisPfxInfo)
    (h : ops.parsecVersion s.genPfxInfo < ops.parsecVersion g) :
    handleGenesisUpdate ops s g = (resetGenesis ops s g, .ok .stay) :=
  if_neg (UInt64.not_le.mpr h)

@[simp] theorem handleGenesisUpdate_snd (s : Adult E) (g : E.GenesisPfxInfo) :
    (handleGenesisUpdate ops s g).2 = .ok .stay := by
  unfold handleGenesisUpdate
  split <;> rfl

/-- `handle_filtered_signed_message` forwards a message that is not for us; keeps one for us
for later and forwards it; and for a `GenesisUpdate` for us fails verification or hands it to
`handle_genesis_update`. -/
theorem handleFilteredSignedMessage_cases (s : Adult E) (msg : E.HopMessageWithBytes) :
    (ops.inLocation s.chain (ops.messageDst msg) = false ∧
      ∃ networkService routingMsgFilter, handleFilteredSignedMessage ops s msg =
        ({ s with networkService, routingMsgFilter }, .ok .stay)) ∨
    (ops.inLocation s.chain (ops.messageDst msg) = true ∧
      ops.genesisUpdate (ops.signedRoutingMessage msg) = none ∧
      ∃ networkService routingMsgFilter, handleFilteredSignedMessage ops s msg =
        ({ s with
            networkService, routingMsgFilter,
            routingMsgBacklog := s.routingMsgBacklog ++ [ops.signedRoutingMessage msg] },
          .ok .stay)) ∨
    ∃ g, ops.inLocation s.chain (ops.messageDst msg) = true ∧
      ops.genesisUpdate (ops.signedRoutingMessage msg) = some g ∧
      ((∃ e, verifySignedMessage ops s (ops.signedRoutingMessage msg) = .error e ∧
          handleFilteredSignedMessage ops s msg = (s, .error e)) ∨
        (verifySignedMessage ops s (ops.signedRoutingMessage msg) = .ok () ∧
          handleFilteredSignedMessage ops s msg = handleGenesisUpdate ops s g)) := by
  dsimp only [handleFilteredSignedMessage]
  cases hloc : ops.inLocation s.chain (ops.messageDst msg)
  · exact .inl ⟨rfl, _, _, rfl⟩
  · refine .inr ?_
    cases hg : ops.genesisUpdate (ops.signedRoutingMessage msg) with
    | none => exact .inl ⟨rfl, rfl, _, _, rfl⟩
    | some g =>
      refine .inr ⟨g, rfl, rfl, ?_⟩
      cases hv : verifySignedMessage ops s (ops.signedRoutingMessage msg) with
      | error e => exact .inl ⟨e, rfl, rfl⟩
      | ok u => exact .inr ⟨rfl, rfl⟩

/-- `handle_signed_message` marks the message in the filter, and stops there if it is known. -/
theorem handleSignedMessage_cases (s : Adult E) (msg : E.HopMessageWithBytes) :
    ∃ routingMsgFilter,
      handleSignedMessage ops s msg = ({ s with routingMsgFilter }, .ok .stay) ∨
        handleSignedMessage ops s msg =
          handleFilteredSignedMessage ops { s with routingMsgFilter } msg := by
  rcases h : ops.filterIncoming s.routingMsgFilter msg with ⟨routingMsgFilter, isNew⟩
  refine ⟨routingMsgFilter, ?_⟩
  unfold handleSignedMessage
  rw [h]
  cases isNew
  · exact .inl rfl
  · exact .inr rfl

/-- `handle_message_signature` adds the signature, and handles the message once complete. -/
theorem handleMessageSignature_cases (s : Adult E) (msg : E.SignedRoutingMessage)
    (pubId : E.PublicId) :
    ∃ sigAccumulator,
      (∃ r, handleMessageSignature ops s msg pubId = ({ s with sigAccumulator }, r) ∧
        ∀ t, r = .ok t → t = .stay) ∨
      ∃ hopMsg, handleMessageSignature ops s msg pubId =
        handleSignedMessage ops { s with sigAccumulator } hopMsg := by
  rcases h : ops.addProof s.sigAccumulator msg with ⟨sigAccumulator, _ | signedMsg⟩
  · exact ⟨sigAccumulator, .inl ⟨_, by simp only [handleMessageSignature, h],
      fun _ h => (Except.ok.inj h).symm⟩⟩
  · cases hm : ops.hopMessageWithBytesNew signedMsg with
    | error e =>
      exact ⟨sigAccumulator, .inl ⟨.error e, by simp only [handleMessageSignature, h, hm],
        fun _ h => nomatch h⟩⟩
    | ok hopMsg =>
      exact ⟨sigAccumulator, .inr ⟨hopMsg, by simp only [handleMessageSignature, h, hm]⟩⟩

theorem sameBacklogs_handleRelocate (s : Adult E) (details : E.SignedRelocateDetails) :
    SameBacklogs s (handleRelocate ops s details).1 := by
  unfold handleRelocate
  split_ifs <;> exact ⟨rfl, rfl, rfl⟩

/-- `handle_direct_message` hands a signature on, keeps a join request or member knowledge
for later, and otherwise leaves the genesis and the backlogs alone. -/
theorem handleDirectMessage_cases (s : Adult E) (msg : DirectMessage E) (p2pNode : E.P2pNode) :
    (∃ signedMsg, handleDirectMessage ops s msg p2pNode =
      handleMessageSignature ops s signedMsg (ops.p2pPublicId p2pNode)) ∨
    (((∃ request, msg = .joinRequest request) ∨
        ∃ knowledge, msg = .memberKnowledge knowledge) ∧
      handleDirectMessage ops s msg p2pNode =
        ({ s with directMsgBacklog := s.directMsgBacklog ++ [(p2pNode, msg)] }, .ok .stay)) ∨
    SameBacklogs s (handleDirectMessage ops s msg p2pNode).1 := by
  cases msg with
  | messageSignature signedMsg => exact .inl ⟨signedMsg, rfl⟩
  | relocate details => exact .inr (.inr (sameBacklogs_handleRelocate ops s details))
  | joinRequest request => exact .inr (.inl ⟨.inl ⟨request, rfl⟩, rfl⟩)
  | memberKnowledge knowledge => exact .inr (.inl ⟨.inr ⟨knowledge, rfl⟩, rfl⟩)
  | _ => exact .inr (.inr ⟨rfl, rfl, rfl⟩)

/-- Every operation other than a message or the replay leaves the genesis and the backlogs. -/
theorem sameBacklogs_apply (s : Adult E) (op : Operation E) :
    (∃ msg p2pNode, op = .directMessage msg p2pNode) ∨ (∃ msg, op = .hopMessage msg) ∨
      op = .finishHandleTransition ∨ SameBacklogs s (s.apply ops op) := by
  cases op with
  | directMessage msg p2pNode => exact .inl ⟨msg, p2pNode, rfl⟩
  | hopMessage msg => exact .inr (.inl ⟨msg, rfl⟩)
  | finishHandleTransition => exact .inr (.inr (.inl rfl))
  | timeout token =>
    refine .inr (.inr (.inr ?_))
    dsimp only [apply, handleTimeout]
    split <;> exact ⟨rfl, rfl, rfl⟩
  | sectionInfoEvent oldPfx change =>
    refine .inr (.inr (.inr ?_))
    dsimp only [apply, handleSectionInfoEvent]
    split <;> exact ⟨rfl, rfl, rfl⟩
  | _ => exact .inr (.inr (.inr ⟨rfl, rfl, rfl⟩))

end SnRouting.States.Adult
