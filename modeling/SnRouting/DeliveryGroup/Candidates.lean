import SnRouting.DeliveryGroup.Basic

/-!
# The candidates loop stops at the closest section

Once the loop has added the `n` elders of the first section, `nodes_to_send` holds
`n ≥ ⌈n/3⌉` peers, so the loop leaves at index 0 by one exit or the other. `candidates`
therefore depends on the closest section alone, and never adds the elders of a later one.
-/

namespace SnRouting.DeliveryGroup
set_option autoImplicit false

/-- The loop run from index 0 looks at its first section and stops. -/
theorem candidatesLoop_zero_cons (ourPfx : Prefix) (ourId : XorName) (info : EldersInfo)
    (rest : List EldersInfo) (dgSize : Nat) :
    candidatesLoop ourPfx ourId 0 (info :: rest) dgSize [] =
      if info.pfx = ourPfx then
        ((info.elders.values.filter (·.name != ourId)).length,
          info.elders.values.filter (·.name != ourId))
      else (deliveryGroupSize info.elders.len, info.elders.values) := by
  simp [candidatesLoop, deliveryGroupSize_le]

/-- `candidates` as a function of the closest section `S` alone: no candidate without a
section or without an elder of `S` other than us, else the elders of `S` stably sorted by XOR
distance to the target, all of them but us when `S` is ours and `⌈|S|/3⌉` of them
otherwise. -/
def candidatesFromClosest (targetName ourId : XorName) (sections : SectionMap) :
    Except Error (List Peer × Nat) :=
  let byDistance := fun a b : Peer => decide ((a.name ^^^ targetName).toNat ≤
    (b.name ^^^ targetName).toNat)
  match sections.sortedByDistanceTo targetName with
  | [] => .error .cannotRoute
  | s :: _ =>
    if s.pfx = sections.our.pfx then
      let peers := s.elders.values.filter (·.name != ourId)
      if peers = [] then .error .cannotRoute
      else .ok (peers.mergeSort byDistance, peers.length)
    else if s.elders.values = [] then .error .cannotRoute
    else .ok (s.elders.values.mergeSort byDistance, s.elders.len ⌈/⌉ (3 : Nat))

theorem candidates_eq_candidatesFromClosest (targetName ourId : XorName)
    (sections : SectionMap) :
    candidates targetName ourId sections = candidatesFromClosest targetName ourId sections := by
  unfold candidates candidatesFromClosest
  rw [closerPeer_eq_decide]
  cases sections.sortedByDistanceTo targetName with
  | nil => simp [candidatesLoop]
  | cons s rest =>
    rw [candidatesLoop_zero_cons]
    by_cases hp : s.pfx = sections.our.pfx
    · by_cases hn : s.elders.values.filter (·.name != ourId) = []
      · simp [hp, hn]
      · simp [hp, hn, List.length_pos.mpr hn]
    · have hn : deliveryGroupSize s.elders.len = 0 ↔ s.elders.values = [] := by
        rw [← List.length_eq_zero, NameMap.length_values, deliveryGroupSize]
        omega
      by_cases hv : s.elders.values = []
      · simp [hp, hv, hn.mpr hv]
      · have hpos : 0 < deliveryGroupSize s.elders.len := Nat.pos_of_ne_zero (mt hn.mp hv)
        simp only [hp, hv, if_false, List.length_mergeSort, NameMap.length_values]
        rw [if_pos ⟨hpos, deliveryGroupSize_le _⟩, deliveryGroupSize_eq_ceilDiv]

/-- What an accepted `candidates` call returns: the elders of one known section sorted by
distance, ours without us or another's whole, and a positive count no larger than the list. -/
theorem candidates_ok {targetName ourId : XorName} {sections : SectionMap} {ts : List Peer}
    {k : Nat} (h : candidates targetName ourId sections = .ok (ts, k)) :
    0 < k ∧ k ≤ ts.length ∧ ∃ s ∈ sections.sortedByDistanceTo targetName,
      (s.pfx = sections.our.pfx ∧
        ts = (s.elders.values.filter (·.name != ourId)).mergeSort (closerPeer targetName)) ∨
      (s.pfx ≠ sections.our.pfx ∧ ts = s.elders.values.mergeSort (closerPeer targetName)) := by
  unfold candidates at h
  cases hs : sections.sortedByDistanceTo targetName with
  | nil => simp [hs, candidatesLoop] at h
  | cons s rest =>
    rw [hs, candidatesLoop_zero_cons] at h
    by_cases hp : s.pfx = sections.our.pfx
    all_goals
      simp only [hp, if_true, if_false] at h
      split at h
      · obtain ⟨rfl, rfl⟩ := Prod.mk.inj (Except.ok.inj h)
        refine ⟨by omega, by omega, s, List.mem_cons_self s rest, ?_⟩
        simp [hp]
      · cases h

end SnRouting.DeliveryGroup
