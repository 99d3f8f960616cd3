import SnRouting.DeliveryGroup.Basic

/-!
# Signature targets

`signature_targets` keeps the `⌈|E|/3⌉` elders closest to the destination: a sub-multiset
of the elders, in order of XOR distance, with no elder left out closer than one kept.
-/

namespace SnRouting.DeliveryGroup
set_option autoImplicit false

theorem signatureTargets_eq {dst : DstLocation} {d : XorName} (hd : dst.name? = some d)
    (ourElders : List Peer) :
    signatureTargets dst ourElders =
      (ourElders.mergeSort (closerPeer d)).take (deliveryGroupSize ourElders.length) := by
  cases dst <;> simp_all [DstLocation.name?, signatureTargets]

theorem signatureTargets_direct (ourElders : List Peer) :
    signatureTargets .direct ourElders = [] := rfl

theorem signatureTargets_spec (dst : DstLocation) (ourElders : List Peer) :
    (dst = .direct → signatureTargets dst ourElders = []) ∧
    ∀ d, dst.name? = some d →
      signatureTargets dst ourElders =
        (ourElders.mergeSort (closerPeer d)).take (deliveryGroupSize ourElders.length) ∧
      (signatureTargets dst ourElders).Subperm ourElders ∧
      (signatureTargets dst ourElders).length = ourElders.length ⌈/⌉ (3 : Nat) ∧
      (ourElders ≠ [] → 1 ≤ (signatureTargets dst ourElders).length) ∧
      ((signatureTargets dst ourElders).Pairwise fun a b =>
        (a.name ^^^ d).toNat ≤ (b.name ^^^ d).toNat) ∧
      ∃ left, ((signatureTargets dst ourElders) ++ left).Perm ourElders ∧
        ∀ x ∈ left, ∀ y ∈ signatureTargets dst ourElders,
          (y.name ^^^ d).toNat ≤ (x.name ^^^ d).toNat := by
  refine ⟨fun h => h ▸ signatureTargets_direct ourElders, fun d hd => ?_⟩
  rw [signatureTargets_eq hd]
  have hperm := List.mergeSort_perm ourElders (closerPeer d)
  have hsorted := sorted_mergeSort_closerPeer d ourElders
  have hlen : ((ourElders.mergeSort (closerPeer d)).take
      (deliveryGroupSize ourElders.length)).length = deliveryGroupSize ourElders.length := by
    simp [deliveryGroupSize_le]
  refine ⟨rfl, (List.take_sublist _ _).subperm.trans hperm.subperm, ?_, ?_,
    hsorted.sublist (List.take_sublist _ _), _, ?_,
    fun x hx y hy => take_closer_drop _ hsorted y hy x hx⟩
  · rw [hlen, deliveryGroupSize_eq_ceilDiv]
  · intro hne
    rw [hlen]
    exact deliveryGroupSize_pos.mpr (List.length_pos.mpr hne)
  · rw [List.take_append_drop]
    exact hperm

end SnRouting.DeliveryGroup
