import SnRouting.States.Adult.Genesis

/-!
# The backlog replay of `finish_handle_transition`

The direct backlog is replayed through `handle_direct_message` until a handler asks for another
state; what is left of it goes back, unhandled and in order. `handle_filtered_signed_message`
never asks for another state, so the routing backlog is then replayed in full, or, after a
transition, put back as it is. That routing backlog is the one the first loop left: the old one
with what its handlers kept, unless one of them took a newer `GenesisUpdate`, which empties it.
-/

namespace SnRouting.States.Adult
set_option autoImplicit false

variable {E : Env} (ops : AdultOps E)

/-- `handle_filtered_signed_message` only ever returns `Ok(Stay)` or an error. -/
theorem handleFilteredSignedMessage_stay (s : Adult E) (msg : E.HopMessageWithBytes)
    (t : Transition E) (h : (handleFilteredSignedMessage ops s msg).2 = .ok t) : t = .stay := by
  rcases handleFilteredSignedMessage_cases ops s msg with
    ⟨-, _, _, hf⟩ | ⟨-, -, _, _, hf⟩ | ⟨g, -, -, ⟨_, -, hf⟩ | ⟨-, hf⟩⟩ <;>
    rw [hf] at h
  · exact (Except.ok.inj h).symm
  · exact (Except.ok.inj h).symm
  · cases h
  · rw [handleGenesisUpdate_snd] at h
    exact (Except.ok.inj h).symm

/-! ## After a transition, both loops put the messages back -/

/-- One message of the routing replay while the transition is `Stay`: converted, then handed to
`handle_filtered_signed_message`, or dropped if it does not convert. -/
def replayRoutingMsg (s : Adult E) (msg : E.SignedRoutingMessage) : Adult E :=
  match ops.hopMessageWithBytesNew msg with
  | .error _ => s
  | .ok hopMsg => (handleFilteredSignedMessage ops s hopMsg).1

theorem routingStep_stay (s : Adult E) (msg : E.SignedRoutingMessage) :
    routingStep ops (s, .stay) msg = (replayRoutingMsg ops s msg, .stay) := by
  simp only [routingStep, Transition.isStay, ↓reduceIte, replayRoutingMsg]
  cases ops.hopMessageWithBytesNew msg with
  | error => rfl
  | ok hopMsg =>
    dsimp only
    have hstay := handleFilteredSignedMessage_stay ops s hopMsg
    rcases hf : handleFilteredSignedMessage ops s hopMsg with ⟨s', _ | t⟩
    · rfl
    · rw [hstay t (by rw [hf])]

theorem foldl_routingStep_stay (s : Adult E) (msgs : List E.SignedRoutingMessage) :
    msgs.foldl (routingStep ops) (s, .stay) = (msgs.foldl (replayRoutingMsg ops) s, .stay) := by
  induction msgs generalizing s with
  | nil => rfl
  | cons msg msgs ih => rw [List.foldl_cons, routingStep_stay, ih, List.foldl_cons]

/-! ## The direct replay stops handling at the first transition -/

theorem directStep_stay (s : Adult E) (p2pNode : E.P2pNode) (msg : DirectMessage E) :
    directStep ops (s, .stay) (p2pNode, msg) =
      match handleDirectMessage ops s msg p2pNode with
      | (s, .ok newTransition) => (s, newTransition)
      | (s, .error _) => (s, .stay) := rfl

/-- How a replay of direct messages from `Stay` ends: every handler answered `Stay` or failed;
or the first transition came from one message, handled after the ones before it, and the rest
was put back unhandled and in order after what the handlers kept. -/
def DirectReplayEnds (s : Adult E) (msgs : List (E.P2pNode × DirectMessage E)) : Prop :=
  (msgs.foldl (directStep ops) (s, .stay)).2.isStay = true ∨
    ∃ handled p2pNode msg rest s' t,
      msgs = handled ++ (p2pNode, msg) :: rest ∧
      (handled.foldl (directStep ops) (s, .stay)).2.isStay = true ∧
      handleDirectMessage ops (handled.foldl (directStep ops) (s, .stay)).1 msg p2pNode =
        (s', .ok t) ∧
      t.isStay = false ∧
      msgs.foldl (directStep ops) (s, .stay) =
        ({ s' with directMsgBacklog := s'.directMsgBacklog ++ rest }, t)

/-- A first message whose handler leaves the transition at `Stay` only moves the replay on. -/
theorem DirectReplayEnds.cons {s s' : Adult E} {p2pNode : E.P2pNode} {msg : DirectMessage E}
    {msgs : List (E.P2pNode × DirectMessage E)}
    (hstep : directStep ops (s, .stay) (p2pNode, msg) = (s', .stay))
    (h : DirectReplayEnds ops s' msgs) : DirectReplayEnds ops s ((p2pNode, msg) :: msgs) := by
  rcases h with h | ⟨handled, p, m, rest, s'', t, hmsgs, hstay, hh, ht, hrun⟩
  · exact .inl (by rwa [List.foldl_cons, hstep])
  · refine .inr ⟨(p2pNode, msg) :: handled, p, m, rest, s'', t, by rw [hmsgs]; rfl, ?_, ?_, ht,
      ?_⟩ <;> rwa [List.foldl_cons, hstep]

end SnRouting.States.Adult
