import Mathlib.Data.List.Chain
import SnRouting.States.Adult.Handlers

/-!
# The genesis of an Adult

An Adult's `gen_pfx_info` changes in one place only: `handle_genesis_update`, reached from a
routing message addressed to us whose signature verifies, and only for a larger parsec version;
the chain and the parsec map are then restarted from it and both backlogs dropped.
`runStates` lists the states a run passes through, each message that
`finish_handle_transition` replays included, and each of them follows the one before it by a
`GenesisStep`, whose checks are made in the state the step starts from. A stale or repeated
`GenesisUpdate` changes nothing of what a genesis resets.
-/

namespace SnRouting.States.Adult
set_option autoImplicit false

variable {E : Env} (ops : AdultOps E)

/-- A `GenesisUpdate` addressed to us, verified and of a larger parsec version, all three checked
in `s`, restarts `s` as `s'`: the genesis, the chain, the parsec map and the rng start from it
and both backlogs are emptied. Only the accumulator and the filter, which the message passed on
its way, differ. -/
def Restarts (s s' : Adult E) : Prop :=
  ∃ msg g sigAccumulator routingMsgFilter,
    ops.inLocation s.chain (ops.messageDst msg) = true ∧
    ops.genesisUpdate (ops.signedRoutingMessage msg) = some g ∧
    verifySignedMessage ops s (ops.signedRoutingMessage msg) = .ok () ∧
    ops.parsecVersion s.genPfxInfo < ops.parsecVersion g ∧
    s' = { resetGenesis ops s g with sigAccumulator, routingMsgFilter }

/-- One step of an Adult from the state it is in, as far as its genesis goes: the genesis stays,
or a `GenesisUpdate` restarts the Adult. -/
def GenesisStep (s s' : Adult E) : Prop := s'.genPfxInfo = s.genPfxInfo ∨ Restarts ops s s'

/-- One call of a handler: the genesis stays and messages are only added at the end of the
routing backlog, or a `GenesisUpdate` restarts the Adult. -/
def HandlerStep (s s' : Adult E) : Prop :=
  (s'.genPfxInfo = s.genPfxInfo ∧
      ∃ pushed, s'.routingMsgBacklog = s.routingMsgBacklog ++ pushed) ∨
    Restarts ops s s'

theorem Restarts.version_lt {s s' : Adult E} (h : Restarts ops s s') :
    ops.parsecVersion s.genPfxInfo < ops.parsecVersion s'.genPfxInfo := by
  obtain ⟨_, _, _, _, -, -, -, hlt, rfl⟩ := h
  exact hlt

/-- A restart of the Adult with another accumulator and filter is a restart of the Adult: the
checks and the restart read neither. -/
theorem Restarts.of_with {s s' : Adult E} {sigAccumulator : E.SignatureAccumulator}
    {routingMsgFilter : E.RoutingMessageFilter}
    (h : Restarts ops { s with sigAccumulator, routingMsgFilter } s') : Restarts ops s s' := by
  obtain ⟨msg, g, a, f, hloc, hg, hv, hlt, rfl⟩ := h
  exact ⟨msg, g, a, f, hloc, hg, hv, hlt, rfl⟩

theorem GenesisStep.version_le {s s' : Adult E} (h : GenesisStep ops s s') :
    ops.parsecVersion s.genPfxInfo ≤ ops.parsecVersion s'.genPfxInfo := by
  rcases h with h | h
  · rw [h]
    exact UInt64.le_refl _
  · exact (UInt64.le_total _ _).resolve_right (UInt64.not_le.mpr (h.version_lt ops))

theorem HandlerStep.of_same {s s' : Adult E} (h : s'.genPfxInfo = s.genPfxInfo)
    (hr : s'.routingMsgBacklog = s.routingMsgBacklog) : HandlerStep ops s s' :=
  .inl ⟨h, [], by rw [hr, List.append_nil]⟩

theorem HandlerStep.of_with {s s' : Adult E} (sigAccumulator : E.SignatureAccumulator)
    (routingMsgFilter : E.RoutingMessageFilter)
    (h : HandlerStep ops { s with sigAccumulator, routingMsgFilter } s') :
    HandlerStep ops s s' :=
  h.imp (fun h => h) (Restarts.of_with ops)

theorem HandlerStep.genesisStep {s s' : Adult E} (h : HandlerStep ops s s') :
    GenesisStep ops s s' :=
  h.imp And.left fun h => h

/-! ## Every handler takes one step -/

theorem handlerStep_handleFilteredSignedMessage (s : Adult E) (msg : E.HopMessageWithBytes) :
    HandlerStep ops s (handleFilteredSignedMessage ops s msg).1 := by
  rcases handleFilteredSignedMessage_cases ops s msg with
    ⟨-, _, _, h⟩ | ⟨-, -, _, _, h⟩ | ⟨g, hloc, hg, ⟨_, -, h⟩ | ⟨hv, h⟩⟩ <;> rw [h]
  · exact .of_same ops rfl rfl
  · exact .inl ⟨rfl, _, rfl⟩
  · exact .of_same ops rfl rfl
  · by_cases hle : ops.parsecVersion g ≤ ops.parsecVersion s.genPfxInfo
    · rw [handleGenesisUpdate_of_le ops s g hle]
      exact .of_same ops rfl rfl
    · have hlt := UInt64.not_le.mp hle
      rw [handleGenesisUpdate_of_lt ops s g hlt]
      exact .inr ⟨msg, g, s.sigAccumulator, s.routingMsgFilter, hloc, hg, hv, hlt, rfl⟩

theorem handlerStep_handleSignedMessage (s : Adult E) (msg : E.HopMessageWithBytes) :
    HandlerStep ops s (handleSignedMessage ops s msg).1 := by
  obtain ⟨f, h | h⟩ := handleSignedMessage_cases ops s msg <;> rw [h]
  · exact .of_same ops rfl rfl
  · exact .of_with ops s.sigAccumulator f (handlerStep_handleFilteredSignedMessage ops _ msg)

theorem handlerStep_handleDirectMessage (s : Adult E) (msg : DirectMessage E)
    (p2pNode : E.P2pNode) : HandlerStep ops s (handleDirectMessage ops s msg p2pNode).1 := by
  rcases handleDirectMessage_cases ops s msg p2pNode with ⟨signedMsg, h⟩ | ⟨-, h⟩ | h
  · rw [h]
    obtain ⟨acc, ⟨_, h, -⟩ | ⟨hopMsg, h⟩⟩ :=
      handleMessageSignature_cases ops s signedMsg (ops.p2pPublicId p2pNode) <;> rw [h]
    · exact .of_same ops rfl rfl
    · exact .of_with ops acc s.routingMsgFilter (handlerStep_handleSignedMessage ops _ hopMsg)
  · rw [h]
    exact .of_same ops rfl rfl
  · exact .of_same ops h.genPfxInfo h.routingMsgBacklog

theorem handlerStep_directStep (acc : Adult E × Transition E)
    (x : E.P2pNode × DirectMessage E) : HandlerStep ops acc.1 (directStep ops acc x).1 := by
  obtain ⟨s, t⟩ := acc
  obtain ⟨p2pNode, msg⟩ := x
  have hd := handlerStep_handleDirectMessage ops s msg p2pNode
  dsimp only [directStep]
  split
  · split <;> next heq => rw [heq] at hd; exact hd
  · exact .of_same ops rfl rfl

theorem handlerStep_routingStep (acc : Adult E × Transition E) (msg : E.SignedRoutingMessage) :
    HandlerStep ops acc.1 (routingStep ops acc msg).1 := by
  obtain ⟨s, t⟩ := acc
  dsimp only [routingStep]
  split
  · split
    · exact .of_same ops rfl rfl
    · next hopMsg _ =>
      have hf := handlerStep_handleFilteredSignedMessage ops s hopMsg
      split <;> next heq => rw [heq] at hf; exact hf
  · exact .inl ⟨rfl, _, rfl⟩

/-- Every operation but the replay is one call of a handler. -/
theorem genesisStep_apply (s : Adult E) {op : Operation E} (h : op ≠ .finishHandleTransition) :
    GenesisStep ops s (s.apply ops op) := by
  rcases sameBacklogs_apply ops s op with ⟨msg, p2pNode, rfl⟩ | ⟨msg, rfl⟩ | rfl | hsame
  · exact (handlerStep_handleDirectMessage ops s msg p2pNode).genesisStep ops
  · exact (handlerStep_handleSignedMessage ops s msg).genesisStep ops
  · exact absurd rfl h
  · exact .inl hsame.genPfxInfo

/-! ## The states a run passes through -/

section Fold
variable {α σ τ β : Type}

/-- The states of a fold follow each other by `R` when each step of the fold does. -/
theorem chain_map_fst_scanl {R : σ → σ → Prop} {f : σ × τ → β → σ × τ}
    (hf : ∀ acc x, R acc.1 (f acc x).1) :
    ∀ (l : List β) {a : σ} (acc : σ × τ), R a acc.1 →
      List.Chain R a ((l.scanl f acc).map Prod.fst)
  | [], _, _, h => List.chain_singleton.mpr h
  | x :: l, _, acc, h => .cons h (chain_map_fst_scanl hf l (f acc x) (hf acc x))

/-- The last state of a fold is its result. -/
theorem getLast_map_fst_scanl (f : σ × τ → β → σ × τ) :
    ∀ (l : List β) (a : σ) (acc : σ × τ),
      (a :: (l.scanl f acc).map Prod.fst).getLast (List.cons_ne_nil _ _) = (l.foldl f acc).1
  | [], _, _ => rfl
  | x :: l, _, acc => getLast_map_fst_scanl f l acc.1 (f acc x)

theorem getLast_cons_append (a : α) :
    ∀ (l₁ l₂ : List α), (a :: (l₁ ++ l₂)).getLast (List.cons_ne_nil _ _) =
      ((a :: l₁).getLast (List.cons_ne_nil _ _) :: l₂).getLast (List.cons_ne_nil _ _)
  | [], _ => rfl
  | b :: l₁, l₂ => getLast_cons_append b l₁ l₂

theorem chain_append {R : α → α → Prop} {a : α} :
    ∀ {l₁ l₂ : List α}, List.Chain R a l₁ →
      List.Chain R ((a :: l₁).getLast (List.cons_ne_nil _ _)) l₂ → List.Chain R a (l₁ ++ l₂)
  | [], _, _, h₂ => h₂
  | _ :: _, _, .cons hab h₁, h₂ => .cons hab (chain_append h₁ h₂)

end Fold

/-- The states the first loop of `finish_handle_transition` passes through: the Adult with its
direct backlog taken out, then after each message. -/
def directReplayStates (s : Adult E) : List (Adult E) :=
  (s.directMsgBacklog.scanl (directStep ops) ({ s with directMsgBacklog := [] }, .stay)).map
    Prod.fst

/-- The states the second loop passes through, from where the first left the Adult: with its
routing backlog taken out, then after each message. -/
def routingReplayStates (s : Adult E) (transition : Transition E) : List (Adult E) :=
  (s.routingMsgBacklog.scanl (routingStep ops) ({ s with routingMsgBacklog := [] },
    transition)).map Prod.fst

/-- The states `finish_handle_transition` passes through. -/
def replayStates (s : Adult E) : List (Adult E) :=
  directReplayStates ops s ++
    routingReplayStates ops (replayDirectBacklog ops s).1 (replayDirectBacklog ops s).2

/-- The states one operation passes through: those of the replay, or the state it leaves. -/
def opStates (s : Adult E) : Operation E → List (Adult E)
  | .finishHandleTransition => replayStates ops s
  | op => [s.apply ops op]

/-- The states a run passes through, operation after operation. -/
def runStates (s : Adult E) : List (Operation E) → List (Adult E)
  | [] => []
  | op :: operations => opStates ops s op ++ runStates (s.apply ops op) operations

theorem getLast_directReplayStates (a s : Adult E) :
    (a :: directReplayStates ops s).getLast (List.cons_ne_nil _ _) =
      (replayDirectBacklog ops s).1 :=
  getLast_map_fst_scanl _ _ _ _

theorem getLast_replayStates (a s : Adult E) :
    (a :: replayStates ops s).getLast (List.cons_ne_nil _ _) = (finishHandleTransition ops s).1 := by
  rw [replayStates, getLast_cons_append, getLast_directReplayStates]
  exact getLast_map_fst_scanl _ _ _ _

theorem getLast_opStates (a s : Adult E) (op : Operation E) :
    (a :: opStates ops s op).getLast (List.cons_ne_nil _ _) = s.apply ops op := by
  unfold opStates
  split
  · exact getLast_replayStates ops a s
  · rfl

/-- The last of the states a run passes through is where the run ends. -/
theorem getLast_runStates (s : Adult E) (operations : List (Operation E)) :
    (s :: runStates ops s operations).getLast (List.cons_ne_nil _ _) = s.run ops operations := by
  induction operations generalizing s with
  | nil => rfl
  | cons op operations ih =>
    rw [runStates, getLast_cons_append, getLast_opStates]
    exact ih _

theorem chain_directReplayStates {R : Adult E → Adult E → Prop} (s : Adult E)
    (hstep : ∀ acc x, R acc.1 (directStep ops acc x).1)
    (htake : R s { s with directMsgBacklog := [] }) :
    List.Chain R s (directReplayStates ops s) :=
  chain_map_fst_scanl hstep _ _ htake

theorem chain_replayStates (s : Adult E) :
    List.Chain (GenesisStep ops) s (replayStates ops s) := by
  refine chain_append (chain_directReplayStates ops s
    (fun acc x => (handlerStep_directStep ops acc x).genesisStep ops) (.inl rfl)) ?_
  rw [getLast_directReplayStates]
  exact chain_map_fst_scanl (fun acc x => (handlerStep_routingStep ops acc x).genesisStep ops)
    _ _ (.inl rfl)

theorem chain_opStates (s : Adult E) (op : Operation E) :
    List.Chain (GenesisStep ops) s (opStates ops s op) := by
  unfold opStates
  split
  · exact chain_replayStates ops s
  · exact List.chain_singleton.mpr (genesisStep_apply ops s ‹_›)

theorem chain_runStates (s : Adult E) (operations : List (Operation E)) :
    List.Chain (GenesisStep ops) s (runStates ops s operations) := by
  induction operations generalizing s with
  | nil => exact .nil
  | cons op operations ih =>
    refine chain_append (chain_opStates ops s op) ?_
    rw [getLast_opStates]
    exact ih _

theorem version_le_of_chain {s : Adult E} {l : List (Adult E)}
    (h : List.Chain (GenesisStep ops) s l) :
    ∀ t ∈ s :: l, ops.parsecVersion s.genPfxInfo ≤ ops.parsecVersion t.genPfxInfo := by
  induction h with
  | nil => simp [UInt64.le_refl]
  | cons hstep _ ih =>
    intro t ht
    rcases List.mem_cons.mp ht with rfl | ht
    · exact UInt64.le_refl _
    · exact UInt64.le_trans (hstep.version_le ops) (ih t ht)

/-- Over a whole run the parsec version does not go down. -/
theorem version_le_run (s : Adult E) (operations : List (Operation E)) :
    ops.parsecVersion s.genPfxInfo ≤ ops.parsecVersion (s.run ops operations).genPfxInfo := by
  rw [← getLast_runStates]
  exact version_le_of_chain ops (chain_runStates ops s operations) _ (List.getLast_mem _)

/-! ## A stale `GenesisUpdate` changes nothing a genesis resets -/

/-- Two Adults with the same genesis and the same of everything a genesis resets. -/
structure SameGenesis (s s' : Adult E) : Prop where
  genPfxInfo : s'.genPfxInfo = s.genPfxInfo
  chain : s'.chain = s.chain
  parsecMap : s'.parsecMap = s.parsecMap
  rng : s'.rng = s.rng
  routingMsgBacklog : s'.routingMsgBacklog = s.routingMsgBacklog
  directMsgBacklog : s'.directMsgBacklog = s.directMsgBacklog

theorem SameGenesis.refl (s : Adult E) : SameGenesis s s := ⟨rfl, rfl, rfl, rfl, rfl, rfl⟩

section Stale
variable (s : Adult E) (msg : E.HopMessageWithBytes) (g : E.GenesisPfxInfo)
  (hg : ops.genesisUpdate (ops.signedRoutingMessage msg) = some g)
  (hle : ops.parsecVersion g ≤ ops.parsecVersion s.genPfxInfo)
include hg hle

end Stale

end SnRouting.States.Adult
