import Mathlib.Data.List.Dedup
import Mathlib.Data.List.Sort

/-!
# Merging group key responses

`GetGroupKeyResponse::merge` counts every key of our response and of the others in a
histogram and keeps the `GROUP_SIZE` most frequent, under two assertions. A panic is an
`Except` error holding the failed assertion's text. `GROUP_SIZE` (in `types`, not under src/)
is a parameter; the histogram is modelled from the spec.
-/

namespace SnRouting.Messages
set_option autoImplicit false

/-- Modelled from the spec: the histogram of keys (`histogram` is not under src/), kept as
the keys in the order they were seen. -/
structure Histogram (K : Type) where
  seen : List K

namespace Histogram
variable {K : Type}

/-- `Histogram::new`. -/
def new : Histogram K := ⟨[]⟩

/-- `Histogram::update`: one more sighting of `k`. -/
def update (h : Histogram K) (k : K) : Histogram K := ⟨h.seen ++ [k]⟩

/-- `Histogram::sort_by_highest`: each key seen with how often, most frequent first. -/
def sortByHighest [DecidableEq K] [BEq K] (h : Histogram K) : List (K × Nat) :=
  (h.seen.dedup.map fun k => (k, h.seen.count k)).mergeSort fun a b => b.2 ≤ a.2

@[simp] theorem seen_foldl_update (h : Histogram K) (ks : List K) :
    (ks.foldl update h).seen = h.seen ++ ks := by
  induction ks generalizing h with
  | nil => simp
  | cons k ks ih => simp [ih, update]

section
variable [DecidableEq K] [BEq K]

theorem mem_sortByHighest {h : Histogram K} {e : K × Nat} :
    e ∈ h.sortByHighest ↔ e.1 ∈ h.seen ∧ e.2 = h.seen.count e.1 := by
  simp only [sortByHighest, List.mem_mergeSort, List.mem_map, List.mem_dedup]
  constructor
  · rintro ⟨k, hk, rfl⟩
    exact ⟨hk, rfl⟩
  · rintro ⟨hk, he⟩
    exact ⟨e.1, hk, by rw [← he]⟩

@[simp] theorem length_sortByHighest (h : Histogram K) :
    h.sortByHighest.length = h.seen.dedup.length := by
  simp [sortByHighest]

theorem sorted_sortByHighest (h : Histogram K) :
    h.sortByHighest.Pairwise fun a b => b.2 ≤ a.2 := by
  have := @List.sorted_mergeSort _ (fun a b : K × Nat => decide (b.2 ≤ a.2))
    (fun _ _ _ hab hbc => by simp only [decide_eq_true_eq] at *; omega)
    (fun a b => by simp only [Bool.or_eq_true, decide_eq_true_eq]; omega)
    (h.seen.dedup.map fun k => (k, h.seen.count k))
  simpa [sortByHighest] using this

/-- Each key stands in one entry of the sorted histogram. -/
theorem nodup_keys_sortByHighest (h : Histogram K) : (h.sortByHighest.map Prod.fst).Nodup := by
  have hp := (List.mergeSort_perm (h.seen.dedup.map fun k => (k, h.seen.count k))
    fun a b => decide (b.2 ≤ a.2)).map Prod.fst
  rw [List.map_map] at hp
  exact hp.nodup_iff.mpr (by simpa [Function.comp_def] using List.nodup_dedup h.seen)

/-- Two histograms of the same sightings in any order list the same counts, most frequent
first; only which of equally counted keys comes first may differ. -/
theorem counts_sortByHighest_perm {seen seen' : List K} (hp : seen.Perm seen') :
    (Histogram.mk seen).sortByHighest.map Prod.snd =
      (Histogram.mk seen').sortByHighest.map Prod.snd := by
  have hcount : (fun k => (k, seen.count k)) = fun k => (k, seen'.count k) :=
    funext fun k => congrArg (Prod.mk k) (hp.countP_eq (· == k))
  have hperm : (Histogram.mk seen).sortByHighest.Perm (Histogram.mk seen').sortByHighest := by
    unfold sortByHighest
    refine (List.mergeSort_perm _ _).trans (List.Perm.trans ?_ (List.mergeSort_perm _ _).symm)
    rw [hcount]
    exact hp.dedup.map _
  have hsorted : ∀ h : Histogram K, (h.sortByHighest.map Prod.snd).Sorted (· ≥ ·) := fun h =>
    List.pairwise_map.mpr (sorted_sortByHighest h)
  exact List.eq_of_perm_of_sorted (hperm.map _) (hsorted _) (hsorted _)

end

end Histogram

/-- `GetGroupKeyResponse`: the group a response is about and the keys it reports. -/
structure GetGroupKeyResponse (DhtId PublicSignKey : Type) where
  targetId : DhtId
  publicSignKeys : List (DhtId × PublicSignKey)

namespace GetGroupKeyResponse
variable {DhtId PublicSignKey : Type}

section
variable [DecidableEq DhtId] [DecidableEq PublicSignKey]

/-- The loop over the other responses: `None` at the first whose target differs, else the
histogram updated with all their keys. -/
def mergeOthers (targetId : DhtId) :
    Histogram (DhtId × PublicSignKey) → List (GetGroupKeyResponse DhtId PublicSignKey) →
      Option (Histogram (DhtId × PublicSignKey))
  | histogram, [] => some histogram
  | histogram, other :: rest =>
    if other.targetId ≠ targetId then none
    else mergeOthers targetId (other.publicSignKeys.foldl Histogram.update histogram) rest

/-- The loop over `sort_by_highest`: while fewer than `groupSize` keys are kept, assert the
next key's count and keep it. -/
def takeHighest (groupSize : Nat) :
    List ((DhtId × PublicSignKey) × Nat) → List (DhtId × PublicSignKey) →
      Except String (List (DhtId × PublicSignKey))
  | [], mergedGroup => .ok mergedGroup
  | (key, count) :: rest, mergedGroup =>
    if mergedGroup.length < groupSize then
      if count ≤ groupSize then takeHighest groupSize rest (mergedGroup ++ [key])
      else .error "assertion failed: public_sign_key.1 <= types::GROUP_SIZE as usize"
    else .ok mergedGroup

/-- `GetGroupKeyResponse::merge`, for `GROUP_SIZE = groupSize`. -/
def merge (groupSize : Nat) (self : GetGroupKeyResponse DhtId PublicSignKey)
    (responses : List (GetGroupKeyResponse DhtId PublicSignKey)) :
    Except String (Option (GetGroupKeyResponse DhtId PublicSignKey)) :=
  match mergeOthers self.targetId (self.publicSignKeys.foldl Histogram.update .new) responses with
  | none => .ok none
  | some histogram =>
    match takeHighest groupSize histogram.sortByHighest [] with
    | .error msg => .error msg
    | .ok mergedGroup =>
      if mergedGroup.length = groupSize then .ok (some ⟨self.targetId, mergedGroup⟩)
      else .error "assertion failed: merged_group.len() == types::GROUP_SIZE as usize"

end

theorem mergeOthers_eq [DecidableEq DhtId] (targetId : DhtId)
    (histogram : Histogram (DhtId × PublicSignKey))
    (responses : List (GetGroupKeyResponse DhtId PublicSignKey)) :
    mergeOthers targetId histogram responses =
      if ∀ o ∈ responses, o.targetId = targetId then
        some ⟨histogram.seen ++ responses.flatMap (·.publicSignKeys)⟩
      else none := by
  induction responses generalizing histogram with
  | nil => simp [mergeOthers]
  | cons o rest ih =>
    by_cases ho : o.targetId = targetId
    · simp [mergeOthers, ho, ih]
    · simp [mergeOthers, ho]

/-- The assertions of the loop over `sort_by_highest` at once: it fails if one of the entries
it reaches counts more than `groupSize`, and keeps the keys of all it reaches otherwise. -/
theorem takeHighest_eq (groupSize : Nat) (l : List ((DhtId × PublicSignKey) × Nat))
    (mergedGroup : List (DhtId × PublicSignKey)) (hle : mergedGroup.length ≤ groupSize) :
    takeHighest groupSize l mergedGroup =
      if ∃ e ∈ l.take (groupSize - mergedGroup.length), groupSize < e.2 then
        .error "assertion failed: public_sign_key.1 <= types::GROUP_SIZE as usize"
      else .ok (mergedGroup ++ (l.take (groupSize - mergedGroup.length)).map Prod.fst) := by
  induction l generalizing mergedGroup with
  | nil =>
    simp only [takeHighest, List.take_nil, List.not_mem_nil, false_and, exists_false, if_false,
      List.map_nil, List.append_nil]
  | cons e rest ih =>
    obtain ⟨key, count⟩ := e
    by_cases hlt : mergedGroup.length < groupSize
    · obtain ⟨m, hm⟩ : ∃ m, groupSize - (mergedGroup ++ [key]).length = m := ⟨_, rfl⟩
      have hlen : (mergedGroup ++ [key]).length = mergedGroup.length + 1 := List.length_append _ _
      have hsub : groupSize - mergedGroup.length = m + 1 := by omega
      by_cases hc : count ≤ groupSize
      · rw [takeHighest, if_pos hlt, if_pos hc, ih _ (by omega), hm, hsub, List.take_succ_cons]
        by_cases hx : ∃ e ∈ rest.take m, groupSize < e.2
        · rw [if_pos hx, if_pos (List.exists_mem_cons_of_exists hx)]
        · have hx' : ¬ ∃ e ∈ (key, count) :: rest.take m, groupSize < e.2 := by
            rintro ⟨e, he, hg⟩
            rcases List.mem_cons.mp he with rfl | he
            · exact Nat.not_lt.mpr hc hg
            · exact hx ⟨e, he, hg⟩
          rw [if_neg hx, if_neg hx']
          simp
      · rw [takeHighest, if_pos hlt, if_neg hc,
          if_pos ⟨(key, count), by simp [hsub], by omega⟩]
    · have h0 : groupSize - mergedGroup.length = 0 := by omega
      simp only [takeHighest, hlt, h0, List.take_zero, List.not_mem_nil, false_and, exists_false,
        if_false, List.map_nil, List.append_nil]

/-- In a list sorted most frequent first, some entry among the first `n` counts more than
`g` exactly when `n` is positive and some entry at all does. -/
theorem exists_take_iff {K : Type} {l : List (K × Nat)} (hs : l.Pairwise fun a b => b.2 ≤ a.2)
    (n g : Nat) :
    (∃ e ∈ l.take n, g < e.2) ↔ 0 < n ∧ ∃ e ∈ l, g < e.2 := by
  constructor
  · rintro ⟨e, he, hg⟩
    refine ⟨Nat.pos_of_ne_zero fun h => by simp [h] at he, e, List.mem_of_mem_take he, hg⟩
  · rintro ⟨hn, e, he, hg⟩
    cases l with
    | nil => simp at he
    | cons a rest =>
      have ha : e.2 ≤ a.2 := by
        rcases List.mem_cons.mp he with rfl | he
        · exact le_rfl
        · exact (List.pairwise_cons.mp hs).1 e he
      obtain ⟨n, rfl⟩ := Nat.exists_eq_succ_of_ne_zero (Nat.pos_iff_ne_zero.mp hn)
      exact ⟨a, by simp, by omega⟩

/-- In a list sorted most frequent first, every entry of the first `n` counts at least as
much as every entry after them. -/
theorem count_le_of_mem_drop {K : Type} {l : List (K × Nat)}
    (hs : l.Pairwise fun a b => b.2 ≤ a.2) (n : Nat) {a b : K × Nat} (ha : a ∈ l.take n)
    (hb : b ∈ l.drop n) : b.2 ≤ a.2 := by
  rw [← List.take_append_drop n l, List.pairwise_append] at hs
  exact hs.2.2 a ha b hb

section
variable [DecidableEq DhtId] [DecidableEq PublicSignKey]

/-- Every key `merge` counts: ours, then each other response's. -/
def allKeys (self : GetGroupKeyResponse DhtId PublicSignKey)
    (responses : List (GetGroupKeyResponse DhtId PublicSignKey)) : List (DhtId × PublicSignKey) :=
  self.publicSignKeys ++ responses.flatMap (·.publicSignKeys)

/-- Once every target agrees, `merge` takes the first `groupSize` entries of the histogram of
all keys, failing the first assertion if one of them counts more than `groupSize` and the second
if there are fewer than `groupSize`. -/
theorem merge_of_targets (groupSize : Nat) (self : GetGroupKeyResponse DhtId PublicSignKey)
    (responses : List (GetGroupKeyResponse DhtId PublicSignKey))
    (h : ∀ o ∈ responses, o.targetId = self.targetId) :
    merge groupSize self responses =
      if ∃ e ∈ (Histogram.mk (allKeys self responses)).sortByHighest.take groupSize,
          groupSize < e.2 then
        .error "assertion failed: public_sign_key.1 <= types::GROUP_SIZE as usize"
      else if ((Histogram.mk (allKeys self responses)).sortByHighest.take groupSize).length =
          groupSize then
        .ok (some ⟨self.targetId,
          ((Histogram.mk (allKeys self responses)).sortByHighest.take groupSize).map Prod.fst⟩)
      else .error "assertion failed: merged_group.len() == types::GROUP_SIZE as usize" := by
  rw [merge, mergeOthers_eq, if_pos h]
  simp only [Histogram.seen_foldl_update, Histogram.new, List.nil_append]
  rw [takeHighest_eq _ _ _ (Nat.zero_le _)]
  simp only [List.length_nil, Nat.sub_zero, List.nil_append, List.length_map, allKeys]
  split_ifs with _ h2
  · rfl
  · simp only [List.length_map, h2, if_true]
  · simp only [List.length_map, h2, if_false]

/-- `merge` returns `None` once a response has another target. When every target agrees, it fails
an assertion exactly when there are fewer than `groupSize` distinct keys, or some key is counted
more than `groupSize` times; otherwise it returns exactly `groupSize` keys, each one reported. -/
theorem merge_spec (groupSize : Nat) (self : GetGroupKeyResponse DhtId PublicSignKey)
    (responses : List (GetGroupKeyResponse DhtId PublicSignKey)) :
    ((∃ o ∈ responses, o.targetId ≠ self.targetId) → merge groupSize self responses = .ok none) ∧
    ((∀ o ∈ responses, o.targetId = self.targetId) →
      ((∃ msg, merge groupSize self responses = .error msg) ↔
        (allKeys self responses).dedup.length < groupSize ∨
          (0 < groupSize ∧ ∃ k ∈ allKeys self responses,
            groupSize < (allKeys self responses).count k)) ∧
      ∀ r, merge groupSize self responses = .ok r → ∃ merged, r = some merged ∧
        merged.targetId = self.targetId ∧ merged.publicSignKeys.length = groupSize ∧
        ∀ k ∈ merged.publicSignKeys, k ∈ allKeys self responses) := by
  refine ⟨fun ⟨o, ho, hne⟩ => ?_, fun h => ?_⟩
  · rw [merge, mergeOthers_eq, if_neg fun hall => hne (hall o ho)]
  · rw [merge_of_targets groupSize self responses h]
    set l := (Histogram.mk (allKeys self responses)).sortByHighest
    have hex := exists_take_iff (Histogram.sorted_sortByHighest ⟨allKeys self responses⟩)
      groupSize groupSize
    have hmem : (∃ e ∈ l, groupSize < e.2) ↔
        ∃ k ∈ allKeys self responses, groupSize < (allKeys self responses).count k := by
      simp only [l, Histogram.mem_sortByHighest]
      exact ⟨fun ⟨e, ⟨he, hc⟩, hg⟩ => ⟨e.1, he, lt_of_lt_of_eq hg hc⟩,
        fun ⟨k, hk, hg⟩ => ⟨(k, (allKeys self responses).count k), ⟨hk, rfl⟩, hg⟩⟩
    have hlen : (l.take groupSize).length = groupSize ↔
        groupSize ≤ (allKeys self responses).dedup.length := by
      simp only [l, List.length_take, Histogram.length_sortByHighest]
      omega
    refine ⟨?_, fun r hr => ?_⟩
    · split_ifs with h1 h2
      · exact iff_of_true ⟨_, rfl⟩ (.inr ⟨(hex.mp h1).1, hmem.mp (hex.mp h1).2⟩)
      · simp only [exists_const, false_iff, not_or, not_and]
        exact ⟨by omega, fun hg hk => h1 (hex.mpr ⟨hg, hmem.mpr hk⟩)⟩
      · exact iff_of_true ⟨_, rfl⟩ (.inl (by rw [hlen] at h2; omega))
    · split_ifs at hr with h1 h2
      cases hr
      refine ⟨_, rfl, rfl, (List.length_map _ _).trans h2, fun k hk => ?_⟩
      obtain ⟨e, he, rfl⟩ := List.mem_map.mp hk
      exact (Histogram.mem_sortByHighest.mp (List.mem_of_mem_take he)).1

/-- With no keys to merge and a group size of 13, `merge` fails the length assertion. -/
theorem merge_empty_panics :
    merge 13 (⟨0, []⟩ : GetGroupKeyResponse Nat Nat) [] =
      .error "assertion failed: merged_group.len() == types::GROUP_SIZE as usize" := by
  rw [merge_of_targets 13 (⟨0, []⟩ : GetGroupKeyResponse Nat Nat) [] (by simp)]
  simp [allKeys, Histogram.sortByHighest]

/-- The group `merge` returns holds no key twice. -/
theorem merge_keys_nodup (groupSize : Nat) (self : GetGroupKeyResponse DhtId PublicSignKey)
    (responses : List (GetGroupKeyResponse DhtId PublicSignKey))
    (merged : GetGroupKeyResponse DhtId PublicSignKey)
    (h : merge groupSize self responses = .ok (some merged)) : merged.publicSignKeys.Nodup := by
  by_cases hall : ∀ o ∈ responses, o.targetId = self.targetId
  · rw [merge_of_targets groupSize self responses hall] at h
    split_ifs at h
    cases h
    exact ((List.take_sublist _ _).map Prod.fst).nodup (Histogram.nodup_keys_sortByHighest _)
  · rw [merge, mergeOthers_eq, if_neg hall] at h
    cases h

theorem merge_keys_nodup_pair :
    merge 2 (⟨0, [(0, 1), (0, 2)]⟩ : GetGroupKeyResponse Nat Nat) [⟨0, [(0, 2)]⟩] =
      .ok (some ⟨0, [(0, 2), (0, 1)]⟩) ∧ [((0 : Nat), (2 : Nat)), (0, 1)].Nodup := by
  have h : merge 2 (⟨0, [(0, 1), (0, 2)]⟩ : GetGroupKeyResponse Nat Nat) [⟨0, [(0, 2)]⟩] =
      .ok (some ⟨0, [(0, 2), (0, 1)]⟩) := by
    rw [merge_of_targets 2 _ _ (by simp)]
    simp [allKeys, Histogram.sortByHighest, List.mergeSort, List.splitInTwo]
  exact ⟨h, merge_keys_nodup 2 _ _ _ h⟩

/-- `merge` keeps the most frequent keys: each key of the merged group is counted, over our
response and the others, at least as often as each key it leaves out. -/
theorem merge_keeps_most_frequent (groupSize : Nat)
    (self : GetGroupKeyResponse DhtId PublicSignKey)
    (responses : List (GetGroupKeyResponse DhtId PublicSignKey))
    (merged : GetGroupKeyResponse DhtId PublicSignKey)
    (h : merge groupSize self responses = .ok (some merged)) :
    ∀ k ∈ merged.publicSignKeys, ∀ k' ∈ allKeys self responses,
      k' ∉ merged.publicSignKeys →
        (allKeys self responses).count k' ≤ (allKeys self responses).count k := by
  by_cases hall : ∀ o ∈ responses, o.targetId = self.targetId
  · rw [merge_of_targets groupSize self responses hall] at h
    split_ifs at h
    cases h
    set l := (Histogram.mk (allKeys self responses)).sortByHighest
    intro k hk k' hk' hout
    obtain ⟨a, ha, rfl⟩ := List.mem_map.mp hk
    have hb : (k', (allKeys self responses).count k') ∈ l :=
      Histogram.mem_sortByHighest.mpr ⟨hk', rfl⟩
    rw [← List.take_append_drop groupSize l, List.mem_append] at hb
    rcases hb with hb | hb
    · exact absurd (List.mem_map_of_mem Prod.fst hb) hout
    · rw [← (Histogram.mem_sortByHighest.mp (List.mem_of_mem_take ha)).2]
      exact count_le_of_mem_drop (Histogram.sorted_sortByHighest _) groupSize ha hb
  · rw [merge, mergeOthers_eq, if_neg hall] at h
    cases h

/-- A response reporting three keys of one group. -/
def threeKeys : GetGroupKeyResponse Nat Nat := ⟨0, [(0, 1), (0, 2), (0, 3)]⟩

/-- Another response for the same group, reporting the last two of those keys. -/
def lastTwoKeys : GetGroupKeyResponse Nat Nat := ⟨0, [(0, 2), (0, 3)]⟩

/-- Merged into a group of two, the keys reported twice are kept and the one reported once is
left out. -/
theorem merge_keeps_most_frequent_three :
    merge 2 threeKeys [lastTwoKeys] = .ok (some ⟨0, [(0, 2), (0, 3)]⟩) ∧
      ∀ k ∈ [((0 : Nat), (2 : Nat)), (0, 3)], ∀ k' ∈ allKeys threeKeys [lastTwoKeys],
        k' ∉ [((0 : Nat), (2 : Nat)), (0, 3)] →
          (allKeys threeKeys [lastTwoKeys]).count k' ≤
            (allKeys threeKeys [lastTwoKeys]).count k := by
  have h : merge 2 threeKeys [lastTwoKeys] = .ok (some ⟨0, [(0, 2), (0, 3)]⟩) := by
    rw [merge_of_targets 2 _ _ (by simp [threeKeys, lastTwoKeys])]
    simp [allKeys, threeKeys, lastTwoKeys, Histogram.sortByHighest, List.mergeSort,
      List.splitInTwo]
  exact ⟨h, merge_keeps_most_frequent 2 _ _ _ h⟩

/-- What `merge` returns with each kept key replaced by how often it was counted. -/
def mergeCounts (groupSize : Nat) (self : GetGroupKeyResponse DhtId PublicSignKey)
    (responses : List (GetGroupKeyResponse DhtId PublicSignKey)) :
    Except String (Option (DhtId × List Nat)) :=
  (merge groupSize self responses).map
    (Option.map fun merged =>
      (merged.targetId, merged.publicSignKeys.map (allKeys self responses).count))

theorem mergeCounts_of_targets (groupSize : Nat) (self : GetGroupKeyResponse DhtId PublicSignKey)
    (responses : List (GetGroupKeyResponse DhtId PublicSignKey))
    (h : ∀ o ∈ responses, o.targetId = self.targetId) :
    mergeCounts groupSize self responses =
      let counts := (Histogram.mk (allKeys self responses)).sortByHighest.map Prod.snd
      if ∃ c ∈ counts.take groupSize, groupSize < c then
        .error "assertion failed: public_sign_key.1 <= types::GROUP_SIZE as usize"
      else if (counts.take groupSize).length = groupSize then
        .ok (some (self.targetId, counts.take groupSize))
      else .error "assertion failed: merged_group.len() == types::GROUP_SIZE as usize" := by
  have hcounts : (Histogram.mk (allKeys self responses)).sortByHighest.map
      (fun e => (allKeys self responses).count e.1) =
      (Histogram.mk (allKeys self responses)).sortByHighest.map Prod.snd :=
    List.map_congr_left fun e he => (Histogram.mem_sortByHighest.mp he).2.symm
  rw [mergeCounts, merge_of_targets groupSize self responses h]
  simp only [← List.map_take, List.mem_map, List.length_map, exists_exists_and_eq_and]
  split_ifs <;> simp [Except.map, List.map_map, Function.comp_def, hcounts]

/-- What `merge` returns does not depend on the order the other responses arrive in: for every
reordering it returns `None` alike, fails the same assertion alike, or keeps a group for the
same target with the same counts, most frequent first. Only which of equally counted keys it
keeps may differ. -/
theorem mergeCounts_perm (groupSize : Nat) (self : GetGroupKeyResponse DhtId PublicSignKey)
    {responses responses' : List (GetGroupKeyResponse DhtId PublicSignKey)}
    (hp : responses.Perm responses') :
    mergeCounts groupSize self responses = mergeCounts groupSize self responses' := by
  by_cases h : ∀ o ∈ responses, o.targetId = self.targetId
  · have h' : ∀ o ∈ responses', o.targetId = self.targetId := fun o ho =>
      h o (hp.mem_iff.mpr ho)
    have hc : (Histogram.mk (allKeys self responses)).sortByHighest.map Prod.snd =
        (Histogram.mk (allKeys self responses')).sortByHighest.map Prod.snd :=
      Histogram.counts_sortByHighest_perm ((hp.flatMap_right _).append_left _)
    rw [mergeCounts_of_targets _ _ _ h, mergeCounts_of_targets _ _ _ h', hc]
  · have h' : ¬ ∀ o ∈ responses', o.targetId = self.targetId := fun h' =>
      h fun o ho => h' o (hp.mem_iff.mp ho)
    simp only [mergeCounts, merge, mergeOthers_eq, if_neg h, if_neg h']
    rfl

theorem mergeCounts_perm_swap :
    [threeKeys, lastTwoKeys].Perm [lastTwoKeys, threeKeys] ∧
      mergeCounts 2 (⟨0, [(0, 3)]⟩ : GetGroupKeyResponse Nat Nat) [threeKeys, lastTwoKeys] =
        mergeCounts 2 ⟨0, [(0, 3)]⟩ [lastTwoKeys, threeKeys] :=
  ⟨List.Perm.swap _ _ _, mergeCounts_perm 2 _ (List.Perm.swap _ _ _)⟩

end

end GetGroupKeyResponse

end SnRouting.Messages
