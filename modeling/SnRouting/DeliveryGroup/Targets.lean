import SnRouting.DeliveryGroup.Candidates

/-!
# What `delivery_targets` returns

One inversion lemma names the five ways `delivery_targets` can succeed; the count law, the
ordering of spare targets, and the absence of ourselves and of repeats follow branch by
branch. A member is looked up by name whatever its state, so a departed member's tombstone
is still a direct target.
-/

namespace SnRouting.DeliveryGroup
set_option autoImplicit false

variable {dst : DstLocation} {ourId : XorName} {ourMembers : SectionMembers}
  {sections : SectionMap} {targets : List Peer} {k : Nat}

/-- The five ways `delivery_targets` succeeds: we are no elder; the destination is us; a
known node; a section near ours; the candidates of the closest section. -/
theorem deliveryTargets_ok (h : deliveryTargets dst ourId ourMembers sections = .ok (targets, k)) :
    (sections.isElder ourId = false ∧ targets = sections.ourElders ∧ k = targets.length) ∨
    (dst = .node ourId ∧ targets = [] ∧ k = 0) ∨
    (∃ t p, dst = .node t ∧ t ≠ ourId ∧ getPeer t ourMembers sections = some p ∧
      targets = [p] ∧ k = 1) ∨
    (∃ t, dst = .«section» t ∧
      targets = (sections.closest t).elders.values.filter (·.name != ourId) ∧
      k = targets.length) ∨
    (∃ t, dst.name? = some t ∧ candidates t ourId sections = .ok (targets, k)) := by
  unfold deliveryTargets at h
  dsimp only at h
  split at h
  · rename_i hne
    obtain ⟨rfl, rfl⟩ := Prod.mk.inj (Except.ok.inj h)
    exact .inl ⟨by simpa using hne, rfl, rfl⟩
  · refine .inr ?_
    split at h
    · rename_i t
      split at h
      · obtain ⟨rfl, rfl⟩ := Prod.mk.inj (Except.ok.inj h)
        exact .inl ⟨by subst_vars; rfl, rfl, rfl⟩
      · split at h
        · obtain ⟨rfl, rfl⟩ := Prod.mk.inj (Except.ok.inj h)
          exact .inr (.inl ⟨t, _, rfl, ‹_›, ‹_›, rfl, rfl⟩)
        · exact .inr (.inr (.inr ⟨t, rfl, h⟩))
    · rename_i t
      split at h
      · obtain ⟨rfl, rfl⟩ := Prod.mk.inj (Except.ok.inj h)
        exact .inr (.inr (.inl ⟨t, rfl, rfl, rfl⟩))
      · exact .inr (.inr (.inr ⟨t, rfl, h⟩))
    · cases h

theorem count_of_eq_length (h : k = targets.length) :
    (targets = [] ∧ k = 0) ∨ (1 ≤ k ∧ k ≤ targets.length) := by
  cases targets with
  | nil => exact .inl ⟨rfl, h⟩
  | cons _ _ => exact .inr ⟨by simp [h], h.le⟩

theorem deliveryTargets_count_sorted
    (h : deliveryTargets dst ourId ourMembers sections = .ok (targets, k)) :
    ((targets = [] ∧ k = 0) ∨ (1 ≤ k ∧ k ≤ targets.length)) ∧
    (k < targets.length → ∃ t, dst.name? = some t ∧
      (targets.Pairwise fun a b => (a.name ^^^ t).toNat ≤ (b.name ^^^ t).toNat) ∧
      ∀ a ∈ targets.take k, ∀ b ∈ targets.drop k, (a.name ^^^ t).toNat ≤ (b.name ^^^ t).toNat) := by
  rcases deliveryTargets_ok h with
    ⟨-, -, hk⟩ | ⟨-, rfl, rfl⟩ | ⟨t, p, -, -, -, rfl, rfl⟩ |
    ⟨t, -, -, hk⟩ | ⟨t, ht, hc⟩
  · exact ⟨count_of_eq_length hk, by omega⟩
  · exact ⟨.inl ⟨rfl, rfl⟩, by simp⟩
  · exact ⟨.inr ⟨le_rfl, by simp⟩, by simp⟩
  · exact ⟨count_of_eq_length hk, by omega⟩
  · obtain ⟨hpos, hle, s, -, hs⟩ := candidates_ok hc
    have hsorted : targets.Pairwise fun a b => (a.name ^^^ t).toNat ≤ (b.name ^^^ t).toNat := by
      rcases hs with ⟨-, rfl⟩ | ⟨-, rfl⟩ <;> exact sorted_mergeSort_closerPeer t _
    exact ⟨.inr ⟨hpos, hle⟩, fun _ => ⟨t, ht, hsorted, take_closer_drop k hsorted⟩⟩

/-- The shape of the routing state `delivery_targets` relies on: every elders map and the
member table are keyed by their peers' names, the known sections' prefixes are pairwise
disjoint, every elder matches its section's prefix, and our name matches ours. -/
structure TargetsInvariant (ourId : XorName) (ourMembers : SectionMembers)
    (sections : SectionMap) : Prop where
  elders_keyed : ∀ info ∈ sections.all, info.elders.KeyedBy Peer.name
  members_keyed : ourMembers.members.KeyedBy (·.peer.name)
  disjoint : sections.all.Pairwise fun a b => a.pfx.isCompatible b.pfx = false
  elders_match : ∀ info ∈ sections.all, ∀ p ∈ info.elders.values, info.pfx.matches p.name
  our_match : sections.our.pfx.matches ourId

/-- No peer of the list is us, and no name occurs twice. -/
def NoSelfNoRepeat (ourId : XorName) (ts : List Peer) : Prop :=
  (ts.map Peer.name).Nodup ∧ ∀ p ∈ ts, p.name ≠ ourId

theorem NoSelfNoRepeat.of_perm {ts ts' : List Peer} (hp : List.Perm ts' ts)
    (h : NoSelfNoRepeat ourId ts) : NoSelfNoRepeat ourId ts' :=
  ⟨(hp.map Peer.name).nodup_iff.mpr h.1, fun p hp' => h.2 p (hp.subset hp')⟩

theorem noSelfNoRepeat_filter {ts : List Peer} (hn : (ts.map Peer.name).Nodup) :
    NoSelfNoRepeat ourId (ts.filter (·.name != ourId)) :=
  ⟨hn.sublist ((List.filter_sublist ts).map Peer.name),
    fun p hp => by simpa using (List.mem_filter.mp hp).2⟩

namespace TargetsInvariant

variable (hinv : TargetsInvariant ourId ourMembers sections)
include hinv

theorem names_nodup {info : EldersInfo} (hi : info ∈ sections.all) :
    (info.elders.values.map Peer.name).Nodup :=
  NameMap.values_nodup (hinv.elders_keyed info hi)

/-- Only our own section can hold us: another section's prefix is disjoint from ours. -/
theorem not_self_of_other {info : EldersInfo} (hi : info ∈ sections.all)
    (hpfx : info.pfx ≠ sections.our.pfx) : ∀ p ∈ info.elders.values, p.name ≠ ourId := by
  intro p hp hself
  have hn : info ∈ sections.neighbours := by
    rcases List.mem_cons.mp hi with rfl | hn
    · exact absurd rfl hpfx
    · exact hn
  have hdis := (List.pairwise_cons.mp hinv.disjoint).1 info hn
  have hcompat := Prefix.isCompatible_of_matches hinv.our_match
    (hself ▸ hinv.elders_match info hi p hp)
  simp_all

theorem getPeer_name {t : XorName} {p : Peer} (h : getPeer t ourMembers sections = some p) :
    p.name = t := by
  rcases getPeer_cases h with ⟨info, hm, rfl⟩ | he
  · exact NameMap.key_of_get hinv.members_keyed hm
  · obtain ⟨info, hi, hg⟩ := SectionMap.mem_all_of_getElder he
    exact NameMap.key_of_get (hinv.elders_keyed info hi) hg

end TargetsInvariant

theorem deliveryTargets_nodup_not_self (hinv : TargetsInvariant ourId ourMembers sections)
    (h : deliveryTargets dst ourId ourMembers sections = .ok (targets, k)) :
    (targets.map Peer.name).Nodup ∧ ∀ p ∈ targets, p.name ≠ ourId := by
  have hour : sections.our ∈ sections.all := List.mem_cons_self _ _
  rcases deliveryTargets_ok h with
    ⟨hne, rfl, -⟩ | ⟨-, rfl, -⟩ | ⟨t, p, -, ht, hp, rfl, -⟩ |
    ⟨t, -, rfl, -⟩ | ⟨t, -, hc⟩
  · exact ⟨hinv.names_nodup hour,
      NameMap.key_ne_of_containsKey (hinv.elders_keyed _ hour) hne⟩
  · simp
  · simp [hinv.getPeer_name hp, ht]
  · exact noSelfNoRepeat_filter (hinv.names_nodup (SectionMap.closest_mem_all sections t))
  · obtain ⟨-, -, s, hs, ⟨-, rfl⟩ | ⟨hpfx, rfl⟩⟩ := candidates_ok hc
    all_goals
      have hs' := SectionMap.mem_all_of_mem_sorted hs
      refine NoSelfNoRepeat.of_perm (List.mergeSort_perm _ _) ?_
    · exact noSelfNoRepeat_filter (hinv.names_nodup hs')
    · exact ⟨hinv.names_nodup hs', hinv.not_self_of_other hs' hpfx⟩

/-- `delivery_targets` names only peers it knows: each target is an elder of a known section,
or the peer of an entry of our member table, in whatever state. -/
theorem deliveryTargets_known
    (h : deliveryTargets dst ourId ourMembers sections = .ok (targets, k)) :
    ∀ p ∈ targets, (∃ s ∈ sections.all, p ∈ s.elders.values) ∨
      ∃ name info, ourMembers.get name = some info ∧ info.peer = p := by
  rcases deliveryTargets_ok h with
    ⟨-, rfl, -⟩ | ⟨-, rfl, -⟩ | ⟨t, p, -, -, hp, rfl, -⟩ |
    ⟨t, -, rfl, -⟩ | ⟨t, -, hc⟩
  · exact fun p hp => .inl ⟨sections.our, List.mem_cons_self _ _, hp⟩
  · simp
  · intro q hq
    obtain rfl := List.mem_singleton.mp hq
    rcases getPeer_cases hp with ⟨info, hm, hpeer⟩ | he
    · exact .inr ⟨t, info, hm, hpeer⟩
    · obtain ⟨info, hi, hg⟩ := SectionMap.mem_all_of_getElder he
      exact .inl ⟨info, hi, NameMap.mem_values_of_get hg⟩
  · exact fun p hp =>
      .inl ⟨_, SectionMap.closest_mem_all sections t, (List.mem_filter.mp hp).1⟩
  · obtain ⟨-, -, s, hs, ⟨-, rfl⟩ | ⟨-, rfl⟩⟩ := candidates_ok hc
    all_goals refine fun p hp => .inl ⟨s, SectionMap.mem_all_of_mem_sorted hs, ?_⟩
    · exact (List.mem_filter.mp (List.mem_mergeSort.mp hp)).1
    · exact List.mem_mergeSort.mp hp

/-- Our section, with us, named `1`, as its only elder, and no neighbours. -/
def soloSection : SectionMap :=
  ⟨⟨⟨[(1#256, ⟨1#256, ⟨0, 0⟩⟩)], by decide⟩, ⟨[], by decide⟩⟩, []⟩

/-- A member table holding only the tombstone of the departed member `2`. -/
def departedMember : SectionMembers :=
  ⟨⟨[(2#256, ⟨⟨2#256, ⟨0, 1⟩⟩, .left⟩)], by decide⟩⟩

/-- The departed member `2` is still the one direct target of a message for it. -/
theorem deliveryTargets_tombstone :
    departedMember.get 2#256 = some ⟨⟨2#256, ⟨0, 1⟩⟩, .left⟩ ∧
    deliveryTargets (.node 2#256) 1#256 departedMember soloSection =
      .ok ([⟨2#256, ⟨0, 1⟩⟩], 1) :=
  ⟨rfl, rfl⟩

/-- When we are an elder, a node destination other than us that has an entry in the member
table, in whatever state, is sent to that entry's peer alone. -/
theorem deliveryTargets_member {t : XorName} {info : MemberInfo}
    (helder : sections.isElder ourId = true) (hne : t ≠ ourId)
    (hm : ourMembers.get t = some info) :
    deliveryTargets (.node t) ourId ourMembers sections = .ok ([info.peer], 1) := by
  simp [deliveryTargets, helder, hne, getPeer, hm]

theorem deliveryTargets_member_departed :
    soloSection.isElder 1#256 = true ∧ 2#256 ≠ 1#256 ∧
    departedMember.get 2#256 = some ⟨⟨2#256, ⟨0, 1⟩⟩, .left⟩ ∧
    deliveryTargets (.node 2#256) 1#256 departedMember soloSection =
      .ok ([⟨2#256, ⟨0, 1⟩⟩], 1) :=
  ⟨rfl, by decide, rfl,
    @deliveryTargets_member 1#256 departedMember soloSection 2#256 _ rfl (by decide) rfl⟩

/-- Sorting two elements that are out of order swaps them. -/
theorem mergeSort_pair {α : Type} (le : α → α → Bool) (a b : α) (h : le a b = false) :
    [a, b].mergeSort le = [b, a] := by
  rw [List.mergeSort]
  simp [List.splitInTwo, List.merge, h]

/-- The name `2^255 + i` of the upper half. -/
def upperName (i : Nat) : XorName := BitVec.ofNat 256 (2 ^ 255 + i)

/-- Four elders named `2^255 + 1` to `2^255 + 4`. -/
def neighbourElders : List Peer := [1, 2, 3, 4].map fun i => ⟨upperName i, ⟨0, i⟩⟩

/-- Our section `0`, with us, named `1`, as its only elder. -/
def lowerSection : EldersInfo := ⟨⟨[(1#256, ⟨1#256, ⟨0, 0⟩⟩)], by decide⟩, ⟨[false], by decide⟩⟩

/-- The neighbour section `1` with the four elders. -/
def upperSection : EldersInfo :=
  ⟨⟨neighbourElders.map fun p => (p.name, p), by decide⟩, ⟨[true], by decide⟩⟩

/-- Our section `0` and its neighbour `1`. -/
def neighbourSections : SectionMap := ⟨lowerSection, [upperSection]⟩

theorem neighbourSections_invariant : TargetsInvariant 1#256 departedMember neighbourSections where
  elders_keyed := by unfold NameMap.KeyedBy; decide
  members_keyed := by simp [departedMember, NameMap.KeyedBy]
  disjoint := by decide
  elders_match := by decide
  our_match := by decide

/-- The name `2^255`, which no member or elder has, is closest to the neighbour, whose four
elders are the candidates in order of distance, two of them needed. -/
theorem deliveryTargets_upper :
    deliveryTargets (.node (upperName 0)) 1#256 departedMember neighbourSections =
      .ok (neighbourElders, 2) := by
  have hsorted : neighbourSections.sortedByDistanceTo (upperName 0) =
      [upperSection, lowerSection] := mergeSort_pair _ _ _ (by decide)
  have helders : neighbourElders.mergeSort (closerPeer (upperName 0)) = neighbourElders :=
    List.mergeSort_of_sorted (by decide)
  have hvalues : upperSection.elders.values = neighbourElders := rfl
  have hcand : candidates (upperName 0) 1#256 neighbourSections = .ok (neighbourElders, 2) := by
    unfold candidates
    rw [hsorted, candidatesLoop_zero_cons, if_neg (by decide)]
    simp only [hvalues, helders]
    rfl
  have hpeer : getPeer (upperName 0) departedMember neighbourSections = none := by decide
  simp only [deliveryTargets, show neighbourSections.isElder 1#256 = true by decide, hpeer, hcand,
    show upperName 0 ≠ 1#256 by decide]
  rfl

/-- A message for `2^255` has four targets, two of them needed and the two spare ones farther
from it. -/
theorem deliveryTargets_count_sorted_upper :
    deliveryTargets (.node (upperName 0)) 1#256 departedMember neighbourSections =
      .ok (neighbourElders, 2) ∧
    ((neighbourElders = [] ∧ 2 = 0) ∨ (1 ≤ 2 ∧ 2 ≤ neighbourElders.length)) ∧
    (2 < neighbourElders.length → ∃ t, (DstLocation.node (upperName 0)).name? = some t ∧
      (neighbourElders.Pairwise fun a b => (a.name ^^^ t).toNat ≤ (b.name ^^^ t).toNat) ∧
      ∀ a ∈ neighbourElders.take 2, ∀ b ∈ neighbourElders.drop 2,
        (a.name ^^^ t).toNat ≤ (b.name ^^^ t).toNat) :=
  ⟨deliveryTargets_upper, deliveryTargets_count_sorted deliveryTargets_upper⟩

theorem deliveryTargets_nodup_not_self_upper :
    TargetsInvariant 1#256 departedMember neighbourSections ∧
    deliveryTargets (.node (upperName 0)) 1#256 departedMember neighbourSections =
      .ok (neighbourElders, 2) ∧
    (neighbourElders.map Peer.name).Nodup ∧ ∀ p ∈ neighbourElders, p.name ≠ 1#256 :=
  ⟨neighbourSections_invariant, deliveryTargets_upper,
    deliveryTargets_nodup_not_self neighbourSections_invariant deliveryTargets_upper⟩

/-- The departed member `2`, the one target of a message for it, is known from the member table;
the candidates for `2^255` are known as elders of the neighbour. -/
theorem deliveryTargets_known_departed_upper :
    deliveryTargets (.node 2#256) 1#256 departedMember soloSection =
      .ok ([⟨2#256, ⟨0, 1⟩⟩], 1) ∧
    (∀ p ∈ ([⟨2#256, ⟨0, 1⟩⟩] : List Peer),
      (∃ s ∈ soloSection.all, p ∈ s.elders.values) ∨
        ∃ name info, departedMember.get name = some info ∧ info.peer = p) ∧
    deliveryTargets (.node (upperName 0)) 1#256 departedMember neighbourSections =
      .ok (neighbourElders, 2) ∧
    ∀ p ∈ neighbourElders, (∃ s ∈ neighbourSections.all, p ∈ s.elders.values) ∨
      ∃ name info, departedMember.get name = some info ∧ info.peer = p :=
  ⟨rfl, @deliveryTargets_known (.node 2#256) 1#256 departedMember soloSection _ _ rfl,
    deliveryTargets_upper, deliveryTargets_known deliveryTargets_upper⟩

end SnRouting.DeliveryGroup
