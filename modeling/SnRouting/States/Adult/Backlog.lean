import SnRouting.States.Adult.Replay

/-!
# The direct backlog of an Adult

An Adult handles no `JoinRequest` and no `MemberKnowledge`: `handle_direct_message` puts them
back in the direct backlog, and it puts nothing else there; every other handler keeps that
backlog or, on a newer genesis, empties it. So an Adult whose direct backlog holds only such
messages keeps one along every run, and the first loop of `finish_handle_transition` then
hands the Adult back as it was, with `Stay`: only the routing backlog is replayed. A routing
message for us that is no `GenesisUpdate` is relayed and kept again, so however often such an
Adult replays, it loses and repeats none of its messages.
-/

namespace SnRouting.States
set_option autoImplicit false

/-- The direct messages `handle_direct_message` puts back in the backlog. -/
def DirectMessage.isBacklogged {E : Env} : DirectMessage E → Bool
  | .joinRequest _ | .memberKnowledge _ => true
  | _ => false

namespace Adult

variable {E : Env} (ops : AdultOps E)

/-- The direct backlog holds only messages an Adult puts back. -/
def BackloggedOnly (s : Adult E) : Prop := ∀ x ∈ s.directMsgBacklog, x.2.isBacklogged = true

instance (s : Adult E) : Decidable (BackloggedOnly s) :=
  inferInstanceAs (Decidable (∀ x ∈ s.directMsgBacklog, x.2.isBacklogged = true))

theorem handleDirectMessage_backlogged (s : Adult E) (msg : DirectMessage E)
    (p2pNode : E.P2pNode) (h : msg.isBacklogged = true) :
    handleDirectMessage ops s msg p2pNode =
      ({ s with directMsgBacklog := s.directMsgBacklog ++ [(p2pNode, msg)] }, .ok .stay) := by
  cases msg <;> first | rfl | cases h

/-! ## No handler but `handle_direct_message` adds to the direct backlog -/

theorem directMsgBacklog_handleFilteredSignedMessage (s : Adult E) (msg : E.HopMessageWithBytes) :
    (handleFilteredSignedMessage ops s msg).1.directMsgBacklog ⊆ s.directMsgBacklog := by
  rcases handleFilteredSignedMessage_cases ops s msg with
    ⟨-, _, _, h⟩ | ⟨-, -, _, _, h⟩ | ⟨g, -, -, ⟨_, -, h⟩ | ⟨-, h⟩⟩ <;>
    rw [h]
  · exact List.Subset.refl _
  · exact List.Subset.refl _
  · exact List.Subset.refl _
  · unfold handleGenesisUpdate
    split
    · exact List.Subset.refl _
    · exact List.nil_subset _

theorem directMsgBacklog_handleSignedMessage (s : Adult E) (msg : E.HopMessageWithBytes) :
    (handleSignedMessage ops s msg).1.directMsgBacklog ⊆ s.directMsgBacklog := by
  obtain ⟨f, h | h⟩ := handleSignedMessage_cases ops s msg <;> rw [h]
  · exact List.Subset.refl _
  · exact directMsgBacklog_handleFilteredSignedMessage ops { s with routingMsgFilter := f } msg

theorem directMsgBacklog_handleMessageSignature (s : Adult E) (msg : E.SignedRoutingMessage)
    (pubId : E.PublicId) :
    (handleMessageSignature ops s msg pubId).1.directMsgBacklog ⊆ s.directMsgBacklog := by
  obtain ⟨acc, ⟨_, h, -⟩ | ⟨hopMsg, h⟩⟩ :=
    handleMessageSignature_cases ops s msg pubId <;> rw [h]
  · exact List.Subset.refl _
  · exact directMsgBacklog_handleSignedMessage ops { s with sigAccumulator := acc } hopMsg

theorem directMsgBacklog_routingStep (acc : Adult E × Transition E)
    (msg : E.SignedRoutingMessage) :
    (routingStep ops acc msg).1.directMsgBacklog ⊆ acc.1.directMsgBacklog := by
  obtain ⟨s, t⟩ := acc
  dsimp only [routingStep]
  split
  · split
    · exact List.Subset.refl _
    · next hopMsg _ =>
      have hf := directMsgBacklog_handleFilteredSignedMessage ops s hopMsg
      split <;> next heq => rw [heq] at hf; exact hf
  · exact List.Subset.refl _

theorem directMsgBacklog_foldl_routingStep (msgs : List E.SignedRoutingMessage)
    (acc : Adult E × Transition E) :
    (msgs.foldl (routingStep ops) acc).1.directMsgBacklog ⊆ acc.1.directMsgBacklog := by
  induction msgs generalizing acc with
  | nil => exact List.Subset.refl _
  | cons msg msgs ih => exact fun x hx => directMsgBacklog_routingStep ops acc msg (ih _ hx)

/-! ## The backlog is kept along every run -/

theorem BackloggedOnly.of_subset {s s' : Adult E} (h : BackloggedOnly s)
    (hsub : s'.directMsgBacklog ⊆ s.directMsgBacklog) : BackloggedOnly s' :=
  fun x hx => h x (hsub hx)

theorem backloggedOnly_handleDirectMessage {s : Adult E} (h : BackloggedOnly s)
    (msg : DirectMessage E) (p2pNode : E.P2pNode) :
    BackloggedOnly (handleDirectMessage ops s msg p2pNode).1 := by
  rcases handleDirectMessage_cases ops s msg p2pNode with ⟨_, hd⟩ | ⟨hmsg, hd⟩ | hsame
  · rw [hd]
    exact h.of_subset (directMsgBacklog_handleMessageSignature ops s _ _)
  · rw [hd]
    intro x hx
    rcases List.mem_append.mp hx with hx | hx
    · exact h x hx
    · obtain rfl := List.mem_singleton.mp hx
      rcases hmsg with ⟨_, rfl⟩ | ⟨_, rfl⟩ <;> rfl
  · exact h.of_subset (hsame.directMsgBacklog ▸ List.Subset.refl _)

/-- From `Stay`, the direct loop over messages that are all put back only puts them back. -/
theorem foldl_directStep_backlogged (s : Adult E) (msgs : List (E.P2pNode × DirectMessage E))
    (h : ∀ x ∈ msgs, x.2.isBacklogged = true) :
    msgs.foldl (directStep ops) (s, .stay) =
      ({ s with directMsgBacklog := s.directMsgBacklog ++ msgs }, .stay) := by
  induction msgs generalizing s with
  | nil => simp only [List.foldl_nil, List.append_nil]
  | cons msg msgs ih =>
    obtain ⟨p2pNode, msg⟩ := msg
    rw [List.foldl_cons, directStep_stay, handleDirectMessage_backlogged ops s msg p2pNode
      (h _ (List.mem_cons_self _ _))]
    dsimp only
    rw [ih _ fun x hx => h x (List.mem_cons_of_mem _ hx)]
    simp only [List.append_assoc, List.singleton_append]

theorem replayDirectBacklog_backlogged {s : Adult E} (h : BackloggedOnly s) :
    replayDirectBacklog ops s = (s, .stay) :=
  foldl_directStep_backlogged ops _ _ h

theorem finishHandleTransition_backlogged {s : Adult E} (h : BackloggedOnly s) :
    finishHandleTransition ops s = replayRoutingBacklog ops s .stay := by
  rw [finishHandleTransition, replayDirectBacklog_backlogged ops h]

theorem backloggedOnly_apply {s : Adult E} (h : BackloggedOnly s) (op : Operation E) :
    BackloggedOnly (s.apply ops op) := by
  rcases sameBacklogs_apply ops s op with ⟨msg, p2pNode, rfl⟩ | ⟨msg, rfl⟩ | rfl | hsame
  · exact backloggedOnly_handleDirectMessage ops h msg p2pNode
  · exact h.of_subset (directMsgBacklog_handleSignedMessage ops s msg)
  · show BackloggedOnly (finishHandleTransition ops s).1
    rw [finishHandleTransition_backlogged ops h]
    exact h.of_subset (directMsgBacklog_foldl_routingStep ops _ _)
  · exact h.of_subset (hsame.directMsgBacklog ▸ List.Subset.refl _)

theorem backloggedOnly_run {s : Adult E} (h : BackloggedOnly s) (operations : List (Operation E)) :
    BackloggedOnly (s.run ops operations) := by
  induction operations generalizing s with
  | nil => exact h
  | cons op operations ih => exact ih (backloggedOnly_apply ops h op)

/-- An Adult whose direct backlog holds only join requests and member knowledge keeps such a
backlog along every run; the first loop of its `finish_handle_transition` then gives it back
unchanged with `Stay`, so that only the routing backlog is replayed. -/
theorem replayDirectBacklog_run (s : Adult E) (operations : List (Operation E))
    (h : BackloggedOnly s) :
    BackloggedOnly (s.run ops operations) ∧
      replayDirectBacklog ops (s.run ops operations) = (s.run ops operations, .stay) ∧
      finishHandleTransition ops (s.run ops operations) =
        replayRoutingBacklog ops (s.run ops operations) .stay :=
  have hrun := backloggedOnly_run ops h operations
  ⟨hrun, replayDirectBacklog_backlogged ops hrun, finishHandleTransition_backlogged ops hrun⟩

/-! ## What the replay keeps of the routing backlog -/

/-- A routing message an Adult keeps for later: it converts to a `HopMessageWithBytes` and back
to itself, it is for us, and it is no `GenesisUpdate`. -/
def KeptForUs (chain : E.Chain) (msg : E.SignedRoutingMessage) : Prop :=
  ∃ hopMsg, ops.hopMessageWithBytesNew msg = .ok hopMsg ∧
    ops.signedRoutingMessage hopMsg = msg ∧ ops.inLocation chain (ops.messageDst hopMsg) = true ∧
    ops.genesisUpdate msg = none

/-- Replaying a message kept for us relays it and keeps it, after the ones kept before it. -/
theorem replayRoutingMsg_kept (s : Adult E) {msg : E.SignedRoutingMessage}
    (h : KeptForUs ops s.chain msg) :
    ∃ networkService routingMsgFilter, replayRoutingMsg ops s msg =
      { s with networkService, routingMsgFilter,
               routingMsgBacklog := s.routingMsgBacklog ++ [msg] } := by
  obtain ⟨hopMsg, hconv, hback, hloc, hgen⟩ := h
  rw [replayRoutingMsg, hconv]
  dsimp only
  rcases handleFilteredSignedMessage_cases ops s hopMsg with
    ⟨hloc', -⟩ | ⟨-, -, networkService, routingMsgFilter, hf⟩ | ⟨g, -, hg, -⟩
  · rw [hloc] at hloc'
    cases hloc'
  · exact ⟨networkService, routingMsgFilter, by rw [hf, hback]⟩
  · rw [hback, hgen] at hg
    cases hg

theorem foldl_replayRoutingMsg_kept (s : Adult E) (msgs : List E.SignedRoutingMessage)
    (h : ∀ msg ∈ msgs, KeptForUs ops s.chain msg) :
    ∃ networkService routingMsgFilter, msgs.foldl (replayRoutingMsg ops) s =
      { s with networkService, routingMsgFilter,
               routingMsgBacklog := s.routingMsgBacklog ++ msgs } := by
  induction msgs generalizing s with
  | nil => exact ⟨s.networkService, s.routingMsgFilter, by simp⟩
  | cons msg msgs ih =>
    obtain ⟨ns, f, hstep⟩ := replayRoutingMsg_kept ops s (h msg (List.mem_cons_self _ _))
    obtain ⟨ns', f', hrest⟩ := ih
      { s with networkService := ns, routingMsgFilter := f,
               routingMsgBacklog := s.routingMsgBacklog ++ [msg] }
      fun m hm => h m (List.mem_cons_of_mem _ hm)
    refine ⟨ns', f', ?_⟩
    rw [List.foldl_cons, hstep, hrest]
    simp only [List.append_assoc, List.singleton_append]

/-- One replay of an Adult that waits, with a direct backlog of join requests and member
knowledge and a routing backlog of messages kept for us: every message is relayed again and
kept, so only the network service and the filter change. -/
theorem finishHandleTransition_kept (s : Adult E) (hb : BackloggedOnly s)
    (hkept : ∀ msg ∈ s.routingMsgBacklog, KeptForUs ops s.chain msg) :
    ∃ networkService routingMsgFilter,
      finishHandleTransition ops s = ({ s with networkService, routingMsgFilter }, .stay) := by
  obtain ⟨ns, f, h⟩ := foldl_replayRoutingMsg_kept ops { s with routingMsgBacklog := [] }
    s.routingMsgBacklog hkept
  refine ⟨ns, f, ?_⟩
  rw [finishHandleTransition_backlogged ops hb, replayRoutingBacklog, foldl_routingStep_stay, h]
  rfl

/-- However many times an Adult that waits is asked to finish its transition, with a direct
backlog of join requests and member knowledge and a routing backlog of messages kept for us,
it gives every message back: its backlogs, in order, its genesis and its chain are as they
were, and only its network service, which relayed the messages again, and its filter change. -/
theorem replays_keep_backlogs (s : Adult E) (hb : BackloggedOnly s)
    (hkept : ∀ msg ∈ s.routingMsgBacklog, KeptForUs ops s.chain msg) (n : Nat) :
    ∃ networkService routingMsgFilter,
      (fun s => (finishHandleTransition ops s).1)^[n] s =
        { s with networkService, routingMsgFilter } := by
  induction n with
  | zero => exact ⟨s.networkService, s.routingMsgFilter, rfl⟩
  | succ n ih =>
    obtain ⟨ns, f, hn⟩ := ih
    obtain ⟨ns', f', h⟩ := finishHandleTransition_kept ops
      { s with networkService := ns, routingMsgFilter := f } hb hkept
    exact ⟨ns', f', by rw [Function.iterate_succ_apply', hn, h]⟩

end Adult

/-- An Adult of `trustingEnv` whose direct backlog holds a join request. -/
def waitingAdult : Adult trustingEnv :=
  { pendingAdult with directMsgBacklog := [((), .joinRequest ())] }

theorem replayDirectBacklog_run_waiting :
    Adult.BackloggedOnly waitingAdult ∧
    Adult.BackloggedOnly
      (waitingAdult.run trustingOps [.directMessage (.memberKnowledge ()) (), .hopMessage none]) ∧
    Adult.replayDirectBacklog trustingOps
        (waitingAdult.run trustingOps [.directMessage (.memberKnowledge ()) (), .hopMessage none]) =
      (waitingAdult.run trustingOps [.directMessage (.memberKnowledge ()) (), .hopMessage none],
        .stay) ∧
    Adult.finishHandleTransition trustingOps
        (waitingAdult.run trustingOps [.directMessage (.memberKnowledge ()) (), .hopMessage none]) =
      Adult.replayRoutingBacklog trustingOps
        (waitingAdult.run trustingOps [.directMessage (.memberKnowledge ()) (), .hopMessage none])
        .stay :=
  ⟨by decide, Adult.replayDirectBacklog_run trustingOps waitingAdult
    [.directMessage (.memberKnowledge ()) (), .hopMessage none] (by decide)⟩

/-- The Adult waiting on a join request, with a message for us in its routing backlog, asked
twice to finish its transition. -/
theorem replays_keep_backlogs_waiting :
    Adult.BackloggedOnly waitingAdult ∧
      (∀ msg ∈ waitingAdult.routingMsgBacklog,
        Adult.KeptForUs trustingOps waitingAdult.chain msg) ∧
      ∃ networkService routingMsgFilter,
        (fun s => (Adult.finishHandleTransition trustingOps s).1)^[2] waitingAdult =
          { waitingAdult with networkService, routingMsgFilter } :=
  have hkept : ∀ msg ∈ waitingAdult.routingMsgBacklog,
      Adult.KeptForUs trustingOps waitingAdult.chain msg := fun msg hmsg => by
    rw [List.mem_singleton.mp hmsg]
    exact ⟨none, rfl, rfl, rfl, rfl⟩
  ⟨by decide, hkept, Adult.replays_keep_backlogs trustingOps waitingAdult (by decide) hkept 2⟩

end SnRouting.States
