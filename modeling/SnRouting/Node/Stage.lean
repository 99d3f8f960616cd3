import Mathlib.Logic.Function.Iterate
import SnRouting.Section

/-!
# The node's stage

`Stage` holds one of three lifecycle states and hands messages and timeouts to it. The three
states' own modules are not under src/: what each does with a message, a timeout or a relay
is a parameter, `StageOps`, and every result below holds for all of them. A Rust `&mut self`
call that may fail becomes a function returning the updated state with an `Except`. Until it
is approved, which takes at least two messages from bootstrapping, a node has no prefix,
refuses to send user messages and ignores every message addressed to a section.
-/

namespace SnRouting.Node
set_option autoImplicit false

/-- `State`: the lifecycle state a node is in. -/
inductive State (B J A : Type)
  | bootstrapping (stage : B)
  | joining (stage : J)
  | approved (stage : A)

/-- What the three stages answer (their modules are not under src/): each one's
`process_message` with the next state it asks for, its `process_timeout`, the approved stage's
`relay_message`, each one's `node_info.name()`, our prefix once approved, and `Message::dst`. -/
structure StageOps (B J A Msg : Type) where
  bootstrappingProcessMessage : B → SocketAddr → Msg → B × Except Error (Option J)
  joiningProcessMessage : J → SocketAddr → Msg → J × Except Error (Option A)
  approvedProcessMessage : A → SocketAddr → Msg → A × Except Error (Option B)
  bootstrappingProcessTimeout : B → UInt64 → B × Except Error Unit
  joiningProcessTimeout : J → UInt64 → J × Except Error Unit
  approvedProcessTimeout : A → UInt64 → A × Except Error Unit
  relayMessage : A → Msg → A × Except Error Unit
  bootstrappingName : B → XorName
  joiningName : J → XorName
  approvedName : A → XorName
  ourPrefix : A → Prefix
  dst : Msg → DstLocation

/-- `Stage`: the node's current state (its `comm` handle is read by neither function below). -/
structure Stage (B J A : Type) where
  state : State B J A

/-- Which of the three states a stage is in. -/
inductive Lifecycle
  | bootstrapping
  | joining
  | approved
deriving DecidableEq

/-- The order the lifecycle goes round: Bootstrapping, Joining, Approved, Bootstrapping. -/
def Lifecycle.next : Lifecycle → Lifecycle
  | .bootstrapping => .joining
  | .joining => .approved
  | .approved => .bootstrapping

/-- A call the node makes on its stage: a message from a sender, or a timer token. -/
inductive Call (Msg : Type)
  | message (sender : SocketAddr) (msg : Msg)
  | timeout (token : UInt64)

/-- Whether a call is a message. -/
def Call.isMessage {Msg : Type} : Call Msg → Bool
  | .message _ _ => true
  | .timeout _ => false

namespace Stage
variable {B J A Msg : Type} (ops : StageOps B J A Msg)

/-- The lifecycle state of a stage. -/
def lifecycle (stage : Stage B J A) : Lifecycle :=
  match stage.state with
  | .bootstrapping _ => .bootstrapping
  | .joining _ => .joining
  | .approved _ => .approved

/-- `Stage::node_info().name()`. -/
def name (stage : Stage B J A) : XorName :=
  match stage.state with
  | .bootstrapping s => ops.bootstrappingName s
  | .joining s => ops.joiningName s
  | .approved s => ops.approvedName s

/-- `Stage::in_dst_location`: whether the message is for us, after relaying it when we are
approved and it is not for us or is for a section. -/
def inDstLocation (stage : Stage B J A) (msg : Msg) : Stage B J A × Except Error Bool :=
  match stage.state with
  | .bootstrapping _ | .joining _ =>
    (stage, .ok <| match ops.dst msg with
      | .node name => name == stage.name ops
      | .«section» _ => false
      | .direct => true)
  | .approved s =>
    let isDstLocation := (ops.dst msg).contains (ops.approvedName s) (ops.ourPrefix s)
    if !isDstLocation || (ops.dst msg).isSection then
      match ops.relayMessage s msg with
      | (s, .error e) => (⟨.approved s⟩, .error e)
      | (s, .ok ()) => (⟨.approved s⟩, .ok isDstLocation)
    else (stage, .ok isDstLocation)

/-- The `match` of `Stage::process_message` once the message is known to be for us: hand it to
the current state and move to the state it returns. -/
def dispatchMessage (stage : Stage B J A) (sender : SocketAddr) (msg : Msg) :
    Stage B J A × Except Error Unit :=
  match stage.state with
  | .bootstrapping s =>
    match ops.bootstrappingProcessMessage s sender msg with
    | (s, .error e) => (⟨.bootstrapping s⟩, .error e)
    | (_, .ok (some joining)) => (⟨.joining joining⟩, .ok ())
    | (s, .ok none) => (⟨.bootstrapping s⟩, .ok ())
  | .joining s =>
    match ops.joiningProcessMessage s sender msg with
    | (s, .error e) => (⟨.joining s⟩, .error e)
    | (_, .ok (some approved)) => (⟨.approved approved⟩, .ok ())
    | (s, .ok none) => (⟨.joining s⟩, .ok ())
  | .approved s =>
    match ops.approvedProcessMessage s sender msg with
    | (s, .error e) => (⟨.approved s⟩, .error e)
    | (_, .ok (some bootstrapping)) => (⟨.bootstrapping bootstrapping⟩, .ok ())
    | (s, .ok none) => (⟨.approved s⟩, .ok ())

/-- `Stage::process_message`. -/
def processMessage (stage : Stage B J A) (sender : SocketAddr) (msg : Msg) :
    Stage B J A × Except Error Unit :=
  match stage.inDstLocation ops msg with
  | (stage, .error e) => (stage, .error e)
  | (stage, .ok false) => (stage, .ok ())
  | (stage, .ok true) => stage.dispatchMessage ops sender msg

/-- `Stage::process_timeout`. -/
def processTimeout (stage : Stage B J A) (token : UInt64) : Stage B J A × Except Error Unit :=
  match stage.state with
  | .bootstrapping s =>
    let (s, r) := ops.bootstrappingProcessTimeout s token
    (⟨.bootstrapping s⟩, r)
  | .joining s =>
    let (s, r) := ops.joiningProcessTimeout s token
    (⟨.joining s⟩, r)
  | .approved s =>
    let (s, r) := ops.approvedProcessTimeout s token
    (⟨.approved s⟩, r)

/-- `Stage::approved`. -/
def approved (stage : Stage B J A) : Option A :=
  match stage.state with
  | .bootstrapping _ | .joining _ => none
  | .approved s => some s

/-- `Stage::our_prefix`: our prefix once we are part of a section. -/
def ourPrefix (stage : Stage B J A) : Option Prefix :=
  match stage.state with
  | .bootstrapping _ | .joining _ => none
  | .approved s => some (ops.ourPrefix s)

/-- `Stage::send_message`, with the approved stage's `send_user_message` (not under src/) as
`sendUserMessage`: only an approved stage sends, any other refuses with `InvalidState`. -/
def sendMessage {Src Bytes : Type}
    (sendUserMessage : A → Src → DstLocation → Bytes → A × Except Error Unit)
    (stage : Stage B J A) (src : Src) (dst : DstLocation) (content : Bytes) :
    Stage B J A × Except Error Unit :=
  match stage.state with
  | .bootstrapping _ | .joining _ => (stage, .error .invalidState)
  | .approved s =>
    let (s, r) := sendUserMessage s src dst content
    (⟨.approved s⟩, r)

/-- The stage after one call; the call's result is not kept. -/
def apply (stage : Stage B J A) : Call Msg → Stage B J A
  | .message sender msg => (stage.processMessage ops sender msg).1
  | .timeout token => (stage.processTimeout ops token).1

/-- The stage after a sequence of calls. -/
def run (stage : Stage B J A) (calls : List (Call Msg)) : Stage B J A :=
  calls.foldl (apply ops) stage

theorem run_cons (stage : Stage B J A) (call : Call Msg) (calls : List (Call Msg)) :
    stage.run ops (call :: calls) = (stage.apply ops call).run ops calls := rfl

/-! ## The lifecycle moves only on messages, one state at a time -/

theorem lifecycle_processTimeout (stage : Stage B J A) (token : UInt64) :
    (stage.processTimeout ops token).1.lifecycle = stage.lifecycle := by
  rcases stage with ⟨s | s | s⟩ <;> rfl

theorem lifecycle_inDstLocation (stage : Stage B J A) (msg : Msg) :
    (stage.inDstLocation ops msg).1.lifecycle = stage.lifecycle := by
  rcases stage with ⟨s | s | s⟩
  · rfl
  · rfl
  · simp only [inDstLocation]
    split
    · split <;> rfl
    · rfl

theorem lifecycle_dispatchMessage (stage : Stage B J A) (sender : SocketAddr) (msg : Msg) :
    (stage.dispatchMessage ops sender msg).1.lifecycle = stage.lifecycle ∨
      (stage.dispatchMessage ops sender msg).1.lifecycle = stage.lifecycle.next := by
  rcases stage with ⟨s | s | s⟩ <;> simp only [dispatchMessage] <;> split <;>
    simp [lifecycle, Lifecycle.next]

theorem lifecycle_processMessage (stage : Stage B J A) (sender : SocketAddr) (msg : Msg) :
    (stage.processMessage ops sender msg).1.lifecycle = stage.lifecycle ∨
      (stage.processMessage ops sender msg).1.lifecycle = stage.lifecycle.next := by
  have h := lifecycle_inDstLocation ops stage msg
  unfold processMessage
  generalize stage.inDstLocation ops msg = r at h
  rcases r with ⟨s, e | _ | _⟩
  · exact .inl h
  · exact .inl h
  · rw [← h]
    exact lifecycle_dispatchMessage ops s sender msg

/-- One call keeps the lifecycle, or is a message that moves it on by one. -/
theorem lifecycle_apply (stage : Stage B J A) (call : Call Msg) :
    (stage.apply ops call).lifecycle = stage.lifecycle ∨
      (call.isMessage ∧ (stage.apply ops call).lifecycle = stage.lifecycle.next) := by
  cases call with
  | message sender msg =>
    simpa [apply, Call.isMessage] using lifecycle_processMessage ops stage sender msg
  | timeout token => exact .inl (lifecycle_processTimeout ops stage token)

theorem lifecycle_run_iterate (stage : Stage B J A) (calls : List (Call Msg)) :
    ∃ k ≤ (calls.filter Call.isMessage).length,
      (stage.run ops calls).lifecycle = Lifecycle.next^[k] stage.lifecycle := by
  induction calls generalizing stage with
  | nil => exact ⟨0, Nat.le_refl 0, rfl⟩
  | cons call calls ih =>
    obtain ⟨k, hk, h⟩ := ih (stage.apply ops call)
    rw [run_cons, h]
    rcases lifecycle_apply ops stage call with hs | ⟨hm, hs⟩
    · exact ⟨k, Nat.le_trans hk ((List.sublist_cons_self call calls).filter _).length_le,
        by rw [hs]⟩
    · refine ⟨k + 1, ?_, by rw [hs, Function.iterate_succ_apply]⟩
      simpa [List.filter_cons, hm] using hk

/-- `process_timeout` never changes the lifecycle state, and over any run of calls the
lifecycle only goes round Bootstrapping, Joining, Approved, one state per message at most. -/
theorem lifecycle_run (stage : Stage B J A) (calls : List (Call Msg)) :
    (∀ token, (stage.processTimeout ops token).1.lifecycle = stage.lifecycle) ∧
      ∃ k ≤ (calls.filter Call.isMessage).length,
        (stage.run ops calls).lifecycle = Lifecycle.next^[k] stage.lifecycle :=
  ⟨lifecycle_processTimeout ops stage, lifecycle_run_iterate ops stage calls⟩

/-! ## Nothing is sent before approval -/

/-- A stage that is not approved has no prefix and refuses every user message. -/
theorem not_approved {stage : Stage B J A} (h : stage.lifecycle ≠ .approved) {Src Bytes : Type}
    (sendUserMessage : A → Src → DstLocation → Bytes → A × Except Error Unit) (src : Src)
    (dst : DstLocation) (content : Bytes) :
    stage.approved = none ∧ stage.ourPrefix ops = none ∧
      stage.sendMessage sendUserMessage src dst content = (stage, .error .invalidState) := by
  rcases stage with ⟨s | s | s⟩
  · exact ⟨rfl, rfl, rfl⟩
  · exact ⟨rfl, rfl, rfl⟩
  · exact absurd rfl h

/-- A node that starts bootstrapping has no prefix and cannot send a user message until it has
been handed at least two messages, one that makes it join and one that approves it, however
its calls are interleaved with timeouts. -/
theorem sendMessage_before_approval (stage : Stage B J A) (hb : stage.lifecycle = .bootstrapping)
    (calls : List (Call Msg)) (hcalls : (calls.filter Call.isMessage).length < 2)
    {Src Bytes : Type}
    (sendUserMessage : A → Src → DstLocation → Bytes → A × Except Error Unit)
    (src : Src) (dst : DstLocation) (content : Bytes) :
    (stage.run ops calls).approved = none ∧ (stage.run ops calls).ourPrefix ops = none ∧
      (stage.run ops calls).sendMessage sendUserMessage src dst content =
        (stage.run ops calls, .error .invalidState) := by
  obtain ⟨k, hk, h⟩ := lifecycle_run_iterate ops stage calls
  refine not_approved ops ?_ sendUserMessage src dst content
  rw [h, hb]
  obtain rfl | rfl : k = 0 ∨ k = 1 := by omega
  all_goals decide

/-! ## A node that is not approved ignores section messages -/

/-- A bootstrapping or joining stage drops a section message: it is not for it, and only an
approved stage relays. -/
theorem processMessage_section_of_not_approved {stage : Stage B J A}
    (h : stage.lifecycle ≠ .approved) (sender : SocketAddr) {msg : Msg}
    (hsec : (ops.dst msg).isSection = true) :
    stage.processMessage ops sender msg = (stage, .ok ()) := by
  obtain ⟨t, ht⟩ : ∃ t, ops.dst msg = .«section» t := by
    cases hd : ops.dst msg <;> simp_all [DstLocation.isSection]
  rcases stage with ⟨s | s | s⟩
  · simp [processMessage, inDstLocation, ht]
  · simp [processMessage, inDstLocation, ht]
  · exact absurd rfl h

/-- A node that is not approved yet never reacts to a message addressed to a section: over any
run whose messages are all section-addressed, it ends as the timeouts alone would leave it. -/
theorem run_section_messages (stage : Stage B J A) (h : stage.lifecycle ≠ .approved)
    (calls : List (Call Msg))
    (hsec : ∀ sender msg, Call.message sender msg ∈ calls → (ops.dst msg).isSection = true) :
    stage.run ops calls = stage.run ops (calls.filter fun call => !call.isMessage) := by
  induction calls generalizing stage with
  | nil => rfl
  | cons call calls ih =>
    have hrest : ∀ sender msg, Call.message sender msg ∈ calls →
        (ops.dst msg).isSection = true := fun sender msg hm =>
      hsec sender msg (List.mem_cons_of_mem _ hm)
    cases call with
    | message sender msg =>
      have hdrop : stage.apply ops (.message sender msg) = stage :=
        congrArg Prod.fst (processMessage_section_of_not_approved ops h sender
          (hsec sender msg (List.mem_cons_self _ _)))
      rw [run_cons, hdrop, ih stage h hrest]
      rfl
    | timeout token =>
      have hkeep : (stage.apply ops (.timeout token)).lifecycle ≠ .approved := by
        rw [apply, lifecycle_processTimeout]
        exact h
      rw [run_cons, ih _ hkeep hrest]
      rfl

/-! ## Relaying comes before local delivery -/

/-- A section-addressed message whose relay fails is not handed to the approved stage:
`process_message` returns the relay's error. -/
theorem processMessage_relay_error (a a' : A) (sender : SocketAddr) (msg : Msg) (e : Error)
    (hsec : (ops.dst msg).isSection = true) (hrelay : ops.relayMessage a msg = (a', .error e)) :
    (⟨.approved a⟩ : Stage B J A).processMessage ops sender msg = (⟨.approved a'⟩, .error e) := by
  simp [processMessage, inDstLocation, hsec, hrelay]

end Stage

/-- A stage whose states keep themselves and answer `Ok`, except that relaying fails: joining
holds its join timer's token, approved counts the messages it has handled, our name is 1 and
our prefix the empty one, and a message is its own destination. -/
def unreachableOps : StageOps Unit UInt64 Nat DstLocation where
  bootstrappingProcessMessage s _ _ := (s, .ok none)
  joiningProcessMessage s _ _ := (s, .ok none)
  approvedProcessMessage n _ _ := (n + 1, .ok none)
  bootstrappingProcessTimeout s _ := (s, .ok ())
  joiningProcessTimeout s _ := (s, .ok ())
  approvedProcessTimeout s _ := (s, .ok ())
  relayMessage n _ := (n, .error .cannotRoute)
  bootstrappingName _ := 1#256
  joiningName _ := 1#256
  approvedName _ := 1#256
  ourPrefix _ := ⟨[], Nat.zero_le _⟩
  dst msg := msg

/-- A joining stage that processes its join timer's token is still joining. -/
theorem joining_timeout_stays :
    (⟨.joining 7⟩ : Stage Unit UInt64 Nat).lifecycle = .joining ∧
      ((⟨.joining 7⟩ : Stage Unit UInt64 Nat).processTimeout unreachableOps 7).1.lifecycle ≠
        .bootstrapping := by
  decide

/-- A message for our own section, relayed first: the relay fails, and the approved stage has
handled no message. -/
theorem processMessage_section_unrelayed :
    (DstLocation.«section» 5#256).contains 1#256 ⟨[], Nat.zero_le _⟩ = true ∧
      (⟨.approved 0⟩ : Stage Unit UInt64 Nat).processMessage unreachableOps ⟨0, 0⟩
          (.«section» 5#256) = (⟨.approved 0⟩, .error .cannotRoute) :=
  ⟨rfl, Stage.processMessage_relay_error unreachableOps 0 0 ⟨0, 0⟩ _ _ rfl rfl⟩

/-- A joining stage handed a section message between two timeouts ends as the timeouts alone
leave it. -/
theorem run_section_messages_joining :
    (⟨.joining 7⟩ : Stage Unit UInt64 Nat).lifecycle ≠ .approved ∧
      (∀ sender msg, Call.message sender msg ∈
          ([.timeout 7, .message ⟨0, 0⟩ (.«section» 5#256), .timeout 3] : List (Call DstLocation)) →
        (unreachableOps.dst msg).isSection = true) ∧
      (⟨.joining 7⟩ : Stage Unit UInt64 Nat).run unreachableOps
          [.timeout 7, .message ⟨0, 0⟩ (.«section» 5#256), .timeout 3] =
        (⟨.joining 7⟩ : Stage Unit UInt64 Nat).run unreachableOps
          ([.timeout 7, .message ⟨0, 0⟩ (.«section» 5#256), .timeout 3].filter
            fun call => !call.isMessage) :=
  have hsec : ∀ sender msg, Call.message sender msg ∈
      ([.timeout 7, .message ⟨0, 0⟩ (.«section» 5#256), .timeout 3] : List (Call DstLocation)) →
        (unreachableOps.dst msg).isSection = true := fun sender msg hm => by
    simp at hm
    rw [hm.2]
    rfl
  ⟨by decide, hsec, Stage.run_section_messages unreachableOps ⟨.joining 7⟩ (by decide) _ hsec⟩

/-- A bootstrapping stage handed one message for it, then a timeout, still has no prefix and
refuses to send. -/
theorem sendMessage_before_approval_one :
    (⟨.bootstrapping ()⟩ : Stage Unit UInt64 Nat).lifecycle = .bootstrapping ∧
      (([.message ⟨0, 0⟩ (.node 1#256), .timeout 3] : List (Call DstLocation)).filter
        Call.isMessage).length < 2 ∧
      ((⟨.bootstrapping ()⟩ : Stage Unit UInt64 Nat).run unreachableOps
          [.message ⟨0, 0⟩ (.node 1#256), .timeout 3]).approved = none ∧
      ((⟨.bootstrapping ()⟩ : Stage Unit UInt64 Nat).run unreachableOps
          [.message ⟨0, 0⟩ (.node 1#256), .timeout 3]).ourPrefix unreachableOps = none ∧
      ((⟨.bootstrapping ()⟩ : Stage Unit UInt64 Nat).run unreachableOps
          [.message ⟨0, 0⟩ (.node 1#256), .timeout 3]).sendMessage
          (fun n (_ : Unit) _ (_ : Unit) => (n + 1, .ok ())) () (.node 5#256) () =
        ((⟨.bootstrapping ()⟩ : Stage Unit UInt64 Nat).run unreachableOps
          [.message ⟨0, 0⟩ (.node 1#256), .timeout 3], .error .invalidState) :=
  ⟨rfl, by decide, Stage.sendMessage_before_approval unreachableOps ⟨.bootstrapping ()⟩ rfl _
    (by decide) _ () _ ()⟩

end SnRouting.Node
