import Mathlib.Algebra.Order.Floor.Div
import Mathlib.Algebra.Order.Ring.Nat
import SnRouting.Section

/-!
# Delivery groups

`delivery_group.rs`: which peers a message is sent on to, and how many of them it must
reach. Rust's `sort_by` is a stable sort, which is core's `List.mergeSort` with the
comparator read as "not greater".
-/

namespace SnRouting.DeliveryGroup
set_option autoImplicit false

/-- `delivery_group_size`: the delivery group size of a section of `n`. -/
def deliveryGroupSize (n : Nat) : Nat := (n + 2) / 3

theorem deliveryGroupSize_le (n : Nat) : deliveryGroupSize n ≤ n := by
  unfold deliveryGroupSize
  omega

theorem deliveryGroupSize_pos {n : Nat} : 0 < deliveryGroupSize n ↔ 0 < n := by
  unfold deliveryGroupSize
  omega

/-- The delivery group size is `⌈n/3⌉`. -/
theorem deliveryGroupSize_eq_ceilDiv (n : Nat) : deliveryGroupSize n = n ⌈/⌉ 3 := by
  rw [Nat.ceilDiv_eq_add_pred_div]
  rfl

/-- The order `sort_by` puts peers in when it compares their names by `cmp_distance` to `t`. -/
def closerPeer (t : XorName) (a b : Peer) : Bool := t.closerOrEq a.name b.name

theorem closerPeer_iff (t : XorName) (a b : Peer) :
    closerPeer t a b = true ↔ (a.name ^^^ t).toNat ≤ (b.name ^^^ t).toNat :=
  XorName.closerOrEq_iff t a.name b.name

/-- The comparator is the order by XOR distance to `t`. -/
theorem closerPeer_eq_decide (t : XorName) :
    closerPeer t = fun a b => decide ((a.name ^^^ t).toNat ≤ (b.name ^^^ t).toNat) := by
  funext a b
  exact Bool.eq_iff_iff.mpr ((closerPeer_iff t a b).trans decide_eq_true_iff.symm)

/-- `sort_by` with `cmp_distance` to `t` leaves peers in order of XOR distance to `t`. -/
theorem sorted_mergeSort_closerPeer (t : XorName) (l : List Peer) :
    (l.mergeSort (closerPeer t)).Pairwise fun a b =>
      (a.name ^^^ t).toNat ≤ (b.name ^^^ t).toNat := by
  refine (List.sorted_mergeSort ?_ ?_ l).imp fun h => (closerPeer_iff t _ _).mp h
  · intro a b c
    simp only [closerPeer_iff]
    omega
  · intro a b
    simp only [Bool.or_eq_true, closerPeer_iff]
    omega

/-- In a list sorted by distance to `t`, the first `k` are at least as close as the rest. -/
theorem take_closer_drop {t : XorName} {l : List Peer} (k : Nat)
    (hs : l.Pairwise fun a b => (a.name ^^^ t).toNat ≤ (b.name ^^^ t).toNat) :
    ∀ a ∈ l.take k, ∀ b ∈ l.drop k, (a.name ^^^ t).toNat ≤ (b.name ^^^ t).toNat := by
  rw [← List.take_append_drop k l, List.pairwise_append] at hs
  exact hs.2.2

/-- The `for` loop of `candidates`: the sections from index `idx` on, with the running
`dg_size` and `nodes_to_send`. -/
def candidatesLoop (ourPfx : Prefix) (ourId : XorName) :
    Nat → List EldersInfo → Nat → List Peer → Nat × List Peer
  | _, [], dgSize, nodesToSend => (dgSize, nodesToSend)
  | idx, info :: rest, _, nodesToSend =>
    let nodesToSend := nodesToSend ++ info.elders.values
    let dgSize := deliveryGroupSize info.elders.len
    if info.pfx = ourPfx then
      let nodesToSend := nodesToSend.filter (·.name != ourId)
      (nodesToSend.length, nodesToSend)
    else if idx = 0 ∧ nodesToSend.length ≥ dgSize then (dgSize, nodesToSend)
    else candidatesLoop ourPfx ourId (idx + 1) rest dgSize nodesToSend

/-- `candidates`: the delivery group candidates for `targetName`. -/
def candidates (targetName ourId : XorName) (sections : SectionMap) :
    Except Error (List Peer × Nat) :=
  let (dgSize, nodesToSend) :=
    candidatesLoop sections.our.pfx ourId 0 (sections.sortedByDistanceTo targetName) 0 []
  let nodesToSend := nodesToSend.mergeSort (closerPeer targetName)
  if dgSize > 0 ∧ nodesToSend.length ≥ dgSize then .ok (nodesToSend, dgSize)
  else .error .cannotRoute

/-- `get_peer`: a member of our section, else an elder we know, under that name. -/
def getPeer (name : XorName) (ourMembers : SectionMembers) (sections : SectionMap) :
    Option Peer :=
  (ourMembers.get name).map (·.peer) <|> sections.getElder name

/-- `get_peer` finds a member's peer under the name, or else an elder under it. -/
theorem getPeer_cases {name : XorName} {ourMembers : SectionMembers} {sections : SectionMap}
    {p : Peer} (h : getPeer name ourMembers sections = some p) :
    (∃ info, ourMembers.get name = some info ∧ info.peer = p) ∨
      sections.getElder name = some p := by
  unfold getPeer at h
  cases hm : ourMembers.get name with
  | some info => exact .inl ⟨info, rfl, by simpa [hm] using h⟩
  | none => exact .inr (by simpa [hm] using h)

/-- `delivery_targets`: the peers a message for `dst` is sent on to, by priority, and how many
of them it must reach. -/
def deliveryTargets (dst : DstLocation) (ourId : XorName) (ourMembers : SectionMembers)
    (sections : SectionMap) : Except Error (List Peer × Nat) :=
  if !sections.isElder ourId then
    let targets := sections.ourElders
    .ok (targets, targets.length)
  else
    match dst with
    | .node targetName =>
      if targetName = ourId then .ok ([], 0)
      else match getPeer targetName ourMembers sections with
        | some node => .ok ([node], 1)
        | none => candidates targetName ourId sections
    | .«section» targetName =>
      let info := sections.closest targetName
      if info.pfx = sections.our.pfx ∨ info.pfx.isNeighbour sections.our.pfx then
        let elders := info.elders.values.filter (·.name != ourId)
        .ok (elders, elders.length)
      else candidates targetName ourId sections
    | .direct => .error .cannotRoute

/-- `signature_targets`: the peers that collect signatures for a message to `dst`. -/
def signatureTargets (dst : DstLocation) (ourElders : List Peer) : List Peer :=
  match dst with
  | .node dstName | .«section» dstName =>
    let list := ourElders.mergeSort (closerPeer dstName)
    list.take (deliveryGroupSize list.length)
  | .direct => []

end SnRouting.DeliveryGroup
