import SnRouting.XorName

/-!
# Sections, members and destinations

What `delivery_group.rs` reads: the section map of our own and our neighbours' elders, the
member table of our section, destinations and errors. The `section`, `location` and `error`
modules are not under src/; their types and the queries routing makes of them are modelled
from the spec.
-/

namespace SnRouting
set_option autoImplicit false

/-- A transport address. -/
structure SocketAddr where
  ip : Nat
  port : Nat
deriving DecidableEq

/-- Modelled from the spec: `Peer`, a name and the address it is reached at. -/
structure Peer where
  name : XorName
  addr : SocketAddr
deriving DecidableEq

/-- A `BTreeMap` keyed by names: its entries in ascending key order, so no key repeats. -/
structure NameMap (α : Type) where
  entries : List (XorName × α)
  sorted : entries.Pairwise fun a b => a.1 < b.1

namespace NameMap
variable {α : Type}

/-- `BTreeMap::values`, in key order. -/
def values (m : NameMap α) : List α := m.entries.map Prod.snd

/-- `BTreeMap::len`. -/
def len (m : NameMap α) : Nat := m.entries.length

/-- `BTreeMap::get`. -/
def get (m : NameMap α) (k : XorName) : Option α := (m.entries.find? (·.1 == k)).map Prod.snd

/-- `BTreeMap::contains_key`. -/
def containsKey (m : NameMap α) (k : XorName) : Bool := m.entries.any (·.1 == k)

/-- Every value is filed under the name `key` reads from it. -/
def KeyedBy (m : NameMap α) (key : α → XorName) : Prop := ∀ e ∈ m.entries, key e.2 = e.1

@[simp] theorem length_values (m : NameMap α) : m.values.length = m.len := by
  simp [values, len]

theorem mem_of_get {m : NameMap α} {k : XorName} {v : α} (h : m.get k = some v) :
    (k, v) ∈ m.entries := by
  obtain ⟨e, he, rfl⟩ := Option.map_eq_some'.mp h
  have hk : e.1 = k := by simpa using List.find?_some he
  exact hk ▸ List.mem_of_find?_eq_some he

theorem mem_values_of_get {m : NameMap α} {k : XorName} {v : α} (h : m.get k = some v) :
    v ∈ m.values :=
  List.mem_map.mpr ⟨(k, v), mem_of_get h, rfl⟩

theorem key_of_get {m : NameMap α} {key : α → XorName} (hm : m.KeyedBy key) {k : XorName}
    {v : α} (h : m.get k = some v) : key v = k :=
  hm _ (mem_of_get h)

theorem keys_nodup (m : NameMap α) : (m.entries.map Prod.fst).Nodup :=
  List.pairwise_map.mpr <| m.sorted.imp fun h heq => by
    rw [heq] at h
    exact Nat.lt_irrefl _ h

theorem values_nodup {m : NameMap α} {key : α → XorName} (hm : m.KeyedBy key) :
    (m.values.map key).Nodup := by
  have : m.values.map key = m.entries.map Prod.fst := by
    simp only [values, List.map_map]
    exact List.map_congr_left fun e he => hm e he
  exact this ▸ m.keys_nodup

theorem key_ne_of_containsKey {m : NameMap α} {key : α → XorName} (hm : m.KeyedBy key)
    {k : XorName} (h : m.containsKey k = false) : ∀ v ∈ m.values, key v ≠ k := by
  intro v hv hk
  obtain ⟨e, he, rfl⟩ := List.mem_map.mp hv
  have : m.containsKey k = true := List.any_eq_true.mpr ⟨e, he, by simp [← hk, hm e he]⟩
  simp_all

/-- `BTreeMap::new`. -/
def empty : NameMap α := ⟨[], List.Pairwise.nil⟩

/-- `BTreeMap::insert` on the entries: the entry under `k` is replaced, or a new one is added
in key order. -/
def insertEntry (k : XorName) (v : α) : List (XorName × α) → List (XorName × α)
  | [] => [(k, v)]
  | e :: rest =>
    if k < e.1 then (k, v) :: e :: rest
    else if k = e.1 then (k, v) :: rest
    else e :: insertEntry k v rest

theorem mem_insertEntry {k : XorName} {v : α} {l : List (XorName × α)} {x : XorName × α}
    (h : x ∈ insertEntry k v l) : x = (k, v) ∨ x ∈ l := by
  induction l with
  | nil => exact .inl (List.mem_singleton.mp h)
  | cons e rest ih =>
    simp only [insertEntry] at h
    split_ifs at h
    · exact List.mem_cons.mp h
    · rcases List.mem_cons.mp h with rfl | h
      · exact .inl rfl
      · exact .inr (List.mem_cons_of_mem e h)
    · rcases List.mem_cons.mp h with rfl | h
      · exact .inr (List.mem_cons_self _ _)
      · exact (ih h).imp_right (List.mem_cons_of_mem e)

theorem sorted_insertEntry (k : XorName) (v : α) {l : List (XorName × α)}
    (hl : l.Pairwise fun a b => a.1 < b.1) :
    (insertEntry k v l).Pairwise fun a b => a.1 < b.1 := by
  induction l with
  | nil => exact List.pairwise_singleton _ _
  | cons e rest ih =>
    obtain ⟨he, hrest⟩ := List.pairwise_cons.mp hl
    simp only [insertEntry]
    split_ifs with hlt heq
    · refine List.pairwise_cons.mpr ⟨fun x hx => ?_, hl⟩
      rcases List.mem_cons.mp hx with rfl | hx
      · exact hlt
      · exact BitVec.lt_def.mpr
          (Nat.lt_trans (BitVec.lt_def.mp hlt) (BitVec.lt_def.mp (he x hx)))
    · exact List.pairwise_cons.mpr ⟨fun x hx => heq ▸ he x hx, hrest⟩
    · have hgt : e.1 < k := by
        rw [BitVec.lt_def] at hlt ⊢
        exact Nat.lt_of_le_of_ne (Nat.not_lt.mp hlt) fun h => heq (BitVec.eq_of_toNat_eq h.symm)
      refine List.pairwise_cons.mpr ⟨fun x hx => ?_, ih hrest⟩
      rcases mem_insertEntry hx with rfl | hx
      · exact hgt
      · exact he x hx

/-- `BTreeMap::insert`. -/
def insert (m : NameMap α) (k : XorName) (v : α) : NameMap α :=
  ⟨insertEntry k v m.entries, sorted_insertEntry k v m.sorted⟩

end NameMap

/-- Modelled from the spec: `EldersInfo`, a section's elders by name and its prefix `pfx`. -/
structure EldersInfo where
  elders : NameMap Peer
  pfx : Prefix

/-- Modelled from the spec: `SectionMap`, our section's elders and those of our neighbours. -/
structure SectionMap where
  our : EldersInfo
  neighbours : List EldersInfo

namespace SectionMap

/-- Every known section, ours first. -/
def all (s : SectionMap) : List EldersInfo := s.our :: s.neighbours

/-- Modelled from the spec: `SectionMap::is_elder`, the name is one of our elders. -/
def isElder (s : SectionMap) (name : XorName) : Bool := s.our.elders.containsKey name

/-- Modelled from the spec: `SectionMap::our_elders`. -/
def ourElders (s : SectionMap) : List Peer := s.our.elders.values

/-- Modelled from the spec: `SectionMap::get_elder`, scanning our and our neighbours' elders. -/
def getElder (s : SectionMap) (name : XorName) : Option Peer :=
  s.all.findSome? (·.elders.get name)

/-- Modelled from the spec: `SectionMap::sorted_by_distance_to`, every known section sorted
by the distance of its prefix to `t`. -/
def sortedByDistanceTo (s : SectionMap) (t : XorName) : List EldersInfo :=
  s.all.mergeSort fun a b => a.pfx.cmpDistance b.pfx t != .gt

/-- Modelled from the spec: `SectionMap::closest`, the known section closest to `t`. -/
def closest (s : SectionMap) (t : XorName) : EldersInfo := (s.sortedByDistanceTo t).headD s.our

theorem mem_all_of_getElder {s : SectionMap} {name : XorName} {p : Peer}
    (h : s.getElder name = some p) : ∃ info ∈ s.all, info.elders.get name = some p := by
  obtain ⟨info, hi, hp⟩ := List.exists_of_findSome?_eq_some h
  exact ⟨info, hi, hp⟩

theorem mem_all_of_mem_sorted {s : SectionMap} {t : XorName} {info : EldersInfo}
    (h : info ∈ s.sortedByDistanceTo t) : info ∈ s.all :=
  List.mem_mergeSort.mp h

theorem closest_mem_all (s : SectionMap) (t : XorName) : s.closest t ∈ s.all := by
  unfold closest
  cases h : s.sortedByDistanceTo t with
  | nil => exact List.mem_cons_self _ _
  | cons info _ => exact mem_all_of_mem_sorted (h ▸ List.mem_cons_self info _)

end SectionMap

/-- Modelled from the spec: the state of a member, with `left` kept as a tombstone. -/
inductive MemberState
  | joined
  | relocating (targetDst : XorName)
  | left
deriving DecidableEq

/-- Modelled from the spec: `MemberInfo`, a member's peer and state. -/
structure MemberInfo where
  peer : Peer
  state : MemberState

/-- Modelled from the spec: `SectionMembers`, our section's members by name, tombstones
included until they are pruned. -/
structure SectionMembers where
  members : NameMap MemberInfo

/-- Modelled from the spec: `SectionMembers::get`, the entry under a name, in any state. -/
def SectionMembers.get (m : SectionMembers) (name : XorName) : Option MemberInfo :=
  m.members.get name

/-- Modelled from the spec: the order member states move in, `Joined < Relocating < Left`. -/
def MemberState.rank : MemberState → Nat
  | .joined => 0
  | .relocating _ => 1
  | .left => 2

namespace SectionMembers

/-- Modelled from the spec: no member yet. -/
def empty : SectionMembers := ⟨NameMap.empty⟩

/-- Modelled from the spec: `SectionMembers::update`. A new name is added; a known one takes
the new info only if its state moves on in `Joined < Relocating < Left`. Whether anything
changed is returned; the proof and the section chain it is given are not kept. -/
def update (m : SectionMembers) (info : MemberInfo) : SectionMembers × Bool :=
  match m.get info.peer.name with
  | none => (⟨m.members.insert info.peer.name info⟩, true)
  | some old =>
    if old.state.rank < info.state.rank then (⟨m.members.insert info.peer.name info⟩, true)
    else (m, false)

end SectionMembers

/-- Modelled from the spec: `Proven`, a value with the proof that signs it. -/
structure Proven (α Proof : Type) where
  value : α
  proof : Proof

/-- Modelled from the spec: the part of `SharedState` routing reads, our section map and our
members (its proof chain is left out). -/
structure SharedState where
  sections : SectionMap
  ourMembers : SectionMembers

/-- Modelled from the spec: `SharedState::new`, our section and no neighbour or member yet. -/
def SharedState.new (ourInfo : EldersInfo) : SharedState := ⟨⟨ourInfo, []⟩, .empty⟩

/-- Modelled from the spec: `DstLocation`, where a message is headed. -/
inductive DstLocation
  | node (name : XorName)
  | «section» (name : XorName)
  | direct
deriving DecidableEq

namespace DstLocation

/-- The name a node or section destination is about. -/
def name? : DstLocation → Option XorName
  | node n => some n
  | «section» n => some n
  | direct => none

/-- Modelled from the spec: `DstLocation::contains`, we are at the destination. -/
def contains (dst : DstLocation) (name : XorName) (pfx : Prefix) : Bool :=
  match dst with
  | node n => n == name
  | «section» n => pfx.matches n
  | direct => true

/-- Modelled from the spec: `DstLocation::is_section`. -/
def isSection : DstLocation → Bool
  | «section» _ => true
  | _ => false

end DstLocation

/-- Modelled from the spec: the error kinds of routing. -/
inductive Error
  | cannotRoute
  | invalidSource
  | invalidDestination
  | untrustedMessage
  | badSignature
  | failedSignature
  | invalidSignatureShare
  | invalidState
  | bootstrapFailed
  | joinFailed
  | transportError
  | serializationError
deriving DecidableEq

end SnRouting
