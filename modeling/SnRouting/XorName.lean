import Mathlib.Algebra.Group.Nat.Basic
import Mathlib.Data.List.Basic
import Mathlib.Order.Basic
import Mathlib.Data.Nat.Defs

/-!
# Names and prefixes

The part of the `xor_name` crate that routing reads. A name is 256 bits and the distance
between two names is their XOR read as an unsigned integer. A prefix is the sequence of
leading bits the names of one section share; the names it matches are one interval, from its
bits followed by zeros to its bits followed by ones.
-/

namespace SnRouting
set_option autoImplicit false

/-- Modelled from the spec: `XorName`, a 256-bit name. -/
abbrev XorName := BitVec 256

namespace XorName

/-- Modelled from the spec: `XorName::cmp_distance`. Orders `a` and `b` by XOR distance to
`t`, ties broken on the names themselves. -/
def cmpDistance (t a b : XorName) : Ordering :=
  (compare (a ^^^ t).toNat (b ^^^ t).toNat).then (compare a.toNat b.toNat)

/-- The order `sort_by` gives names when its comparator is `t.cmp_distance`: `a` may stand
before `b` unless it is strictly farther from `t`. -/
def closerOrEq (t a b : XorName) : Bool := t.cmpDistance a b != .gt

/-- The bits of a name, most significant first. -/
def bits (n : XorName) : List Bool := (List.range 256).map n.getMsbD

theorem eq_of_xor_toNat_eq {t a b : XorName} (h : (a ^^^ t).toNat = (b ^^^ t).toNat) :
    a = b := by
  simpa [BitVec.xor_assoc] using congrArg (· ^^^ t) (BitVec.eq_of_toNat_eq h)

/-- Two names are never at the same distance from `t`, so the tie-break never decides. -/
theorem cmpDistance_eq (t a b : XorName) :
    t.cmpDistance a b = compare (a ^^^ t).toNat (b ^^^ t).toNat := by
  unfold cmpDistance
  cases hc : compare (a ^^^ t).toNat (b ^^^ t).toNat
  case eq =>
    rw [eq_of_xor_toNat_eq (Nat.compare_eq_eq.mp hc)]
    exact Nat.compare_eq_eq.mpr rfl
  all_goals rfl

@[simp] theorem closerOrEq_iff (t a b : XorName) :
    t.closerOrEq a b = true ↔ (a ^^^ t).toNat ≤ (b ^^^ t).toNat := by
  rw [closerOrEq, cmpDistance_eq]
  generalize (a ^^^ t).toNat = x
  generalize (b ^^^ t).toNat = y
  cases h : compare x y
  · exact iff_of_true rfl (Nat.le_of_lt (Nat.compare_eq_lt.mp h))
  · exact iff_of_true rfl (Nat.le_of_eq (Nat.compare_eq_eq.mp h))
  · exact iff_of_false (by decide) (Nat.not_le.mpr (Nat.compare_eq_gt.mp h))

end XorName

/-- Modelled from the spec: `Prefix`, an ordered sequence of at most 256 leading bits. -/
structure Prefix where
  bits : List Bool
  length_le : bits.length ≤ 256
deriving DecidableEq

/-- Modelled from the spec: `Prefix::matches`, the name's leading bits are the prefix. -/
def Prefix.matches (p : Prefix) (n : XorName) : Bool := p.bits.isPrefixOf n.bits

namespace Prefix

/-- Modelled from the spec: one prefix extends the other, so some name matches both. -/
def isCompatible (p q : Prefix) : Bool := p.bits.isPrefixOf q.bits || q.bits.isPrefixOf p.bits

/-- A name matched by two prefixes makes them compatible: incompatible prefixes cover disjoint
parts of the name space. -/
theorem isCompatible_of_matches {p q : Prefix} {n : XorName} (hp : p.matches n)
    (hq : q.matches n) : p.isCompatible q := by
  simp only [Prefix.matches, isCompatible, Bool.or_eq_true, List.isPrefixOf_iff_prefix] at *
  exact List.prefix_or_prefix_of_prefix hp hq

/-- Modelled from the spec: `Prefix::is_neighbour`. Neither prefix contains the other and the
first bit they differ in is the last bit of the shorter one. -/
def isNeighbour (p q : Prefix) : Bool :=
  let m := min p.bits.length q.bits.length
  !p.isCompatible q && p.bits.take (m - 1) == q.bits.take (m - 1)

/-- The prefix's bits read as a binary number. -/
def value (p : Prefix) : Nat := p.bits.foldl (fun acc b => 2 * acc + b.toNat) 0

/-- The name in the middle of the prefix's range: its bits, a one, then zeros. -/
def centre (p : Prefix) : XorName :=
  if p.bits.length < 256 then BitVec.ofNat 256 ((2 * p.value + 1) * 2 ^ (255 - p.bits.length))
  else BitVec.ofNat 256 p.value

/-- Modelled from the spec: `Prefix::cmp_distance`, the order of sections by distance to `t`:
by the XOR of `t` with each prefix's centre, then the longer prefix first, then
lexicographically. -/
def cmpDistance (p q : Prefix) (t : XorName) : Ordering :=
  (compare (p.centre ^^^ t).toNat (q.centre ^^^ t).toNat).then
    ((compare q.bits.length p.bits.length).then (compare p.value q.value))

end Prefix

/-! ## The names a prefix matches -/

/-- A list of bits read as a binary number, most significant first. -/
def bitsValue (l : List Bool) : Nat := l.foldl (fun acc b => 2 * acc + b.toNat) 0

@[simp] theorem bitsValue_nil : bitsValue [] = 0 := rfl

@[simp] theorem bitsValue_append_singleton (l : List Bool) (b : Bool) :
    bitsValue (l ++ [b]) = 2 * bitsValue l + b.toNat := by
  simp [bitsValue]

theorem bitsValue_lt (l : List Bool) : bitsValue l < 2 ^ l.length := by
  induction l using List.reverseRecOn with
  | nil => simp
  | append_singleton l b ih =>
    simp only [bitsValue_append_singleton, List.length_append, List.length_singleton, pow_succ]
    cases b <;> simp <;> omega

theorem bitsValue_inj {l₁ l₂ : List Bool} (hlen : l₁.length = l₂.length)
    (h : bitsValue l₁ = bitsValue l₂) : l₁ = l₂ := by
  induction l₁ using List.reverseRecOn generalizing l₂ with
  | nil => exact (List.length_eq_zero.mp hlen.symm).symm
  | append_singleton l₁ b₁ ih =>
    obtain rfl | ⟨l₂, b₂, rfl⟩ := l₂.eq_nil_or_concat
    · simp at hlen
    · rw [List.concat_eq_append] at hlen h ⊢
      simp only [bitsValue_append_singleton] at h
      have hb : b₁ = b₂ := by cases b₁ <;> cases b₂ <;> simp at h ⊢ <;> omega
      subst hb
      rw [ih (by simpa using hlen) (by omega)]

@[simp] theorem XorName.length_bits (n : XorName) : n.bits.length = 256 := by
  simp [XorName.bits]

theorem XorName.take_bits (n : XorName) {k : Nat} (hk : k ≤ 256) :
    n.bits.take k = (List.range k).map n.getMsbD := by
  simp [XorName.bits, ← List.map_take, List.take_range, Nat.min_eq_left hk]

/-- The first `k` bits of a name, read as a number, are the name shifted right by `256 - k`. -/
theorem bitsValue_take_bits (n : XorName) {k : Nat} (hk : k ≤ 256) :
    bitsValue (n.bits.take k) = n.toNat / 2 ^ (256 - k) := by
  induction k with
  | zero => simp [Nat.div_eq_of_lt n.isLt]
  | succ k ih =>
    rw [n.take_bits hk, List.range_succ, List.map_append, List.map_singleton,
      bitsValue_append_singleton, ← n.take_bits (by omega), ih (by omega)]
    obtain ⟨i, hi⟩ : ∃ i, 256 - (k + 1) = i := ⟨_, rfl⟩
    have hsub : 256 - k = i + 1 := by omega
    have hbit : n.getMsbD k = n.toNat.testBit i := by
      simp [BitVec.getMsbD, BitVec.getLsbD, show k < 256 by omega, show 256 - 1 - k = i by omega]
    rw [hsub, hi, hbit, Nat.testBit_to_div_mod, pow_succ, ← Nat.div_div_eq_div_mul]
    generalize n.toNat / 2 ^ i = y
    have := Nat.div_add_mod y 2
    by_cases hy : y % 2 = 1 <;> simp [hy] <;> omega

namespace Prefix

/-- Modelled from the spec: `Prefix::default`, the empty prefix. -/
def default : Prefix := ⟨[], Nat.zero_le _⟩

/-- Every name matches the empty prefix. -/
@[simp] theorem default_matches (n : XorName) : Prefix.default.matches n = true := rfl

/-- Modelled from the spec: `Prefix::lower_bound`, the prefix's bits followed by zeros. -/
def lowerBound (p : Prefix) : XorName := BitVec.ofNat 256 (p.value * 2 ^ (256 - p.bits.length))

/-- Modelled from the spec: `Prefix::upper_bound`, the prefix's bits followed by ones. -/
def upperBound (p : Prefix) : XorName :=
  BitVec.ofNat 256 ((p.value + 1) * 2 ^ (256 - p.bits.length) - 1)

/-- Modelled from the spec: `Prefix::range_inclusive`, the names from the lower bound to the
upper bound. -/
def rangeInclusive (p : Prefix) : XorName × XorName := (p.lowerBound, p.upperBound)

theorem value_eq (p : Prefix) : p.value = bitsValue p.bits := rfl

/-- A name matches a prefix when its leading bits, read as a number, are the prefix's value. -/
theorem matches_iff (p : Prefix) (n : XorName) :
    p.matches n = true ↔ p.value = n.toNat / 2 ^ (256 - p.bits.length) := by
  have hlen : (n.bits.take p.bits.length).length = p.bits.length := by
    simp [Nat.min_eq_left p.length_le]
  rw [Prefix.matches, List.isPrefixOf_iff_prefix, List.prefix_iff_eq_take, value_eq,
    ← bitsValue_take_bits n p.length_le]
  exact ⟨congrArg bitsValue, bitsValue_inj hlen.symm⟩

/-- The names a prefix matches are exactly those of its range. -/
theorem matches_iff_mem_range (p : Prefix) (n : XorName) :
    p.matches n = true ↔ p.lowerBound ≤ n ∧ n ≤ p.upperBound := by
  have hd : 0 < 2 ^ (256 - p.bits.length) := Nat.two_pow_pos _
  have hv : (p.value + 1) * 2 ^ (256 - p.bits.length) ≤ 2 ^ 256 := by
    calc (p.value + 1) * 2 ^ (256 - p.bits.length)
        ≤ 2 ^ p.bits.length * 2 ^ (256 - p.bits.length) :=
          Nat.mul_le_mul_right _ (bitsValue_lt p.bits)
      _ = 2 ^ 256 := by rw [← Nat.pow_add, Nat.add_sub_cancel' p.length_le]
  have hpos : 1 ≤ (p.value + 1) * 2 ^ (256 - p.bits.length) := Nat.mul_pos (Nat.succ_pos _) hd
  have hlo : p.lowerBound.toNat = p.value * 2 ^ (256 - p.bits.length) := by
    rw [lowerBound, BitVec.toNat_ofNat, Nat.mod_eq_of_lt]
    calc p.value * 2 ^ (256 - p.bits.length) < (p.value + 1) * 2 ^ (256 - p.bits.length) :=
          Nat.mul_lt_mul_of_pos_right (Nat.lt_succ_self _) hd
      _ ≤ 2 ^ 256 := hv
  have hhi : p.upperBound.toNat = (p.value + 1) * 2 ^ (256 - p.bits.length) - 1 := by
    rw [upperBound, BitVec.toNat_ofNat, Nat.mod_eq_of_lt (by omega)]
  rw [matches_iff, BitVec.le_def, BitVec.le_def, hlo, hhi, ← Nat.le_div_iff_mul_le hd]
  have : n.toNat / 2 ^ (256 - p.bits.length) < p.value + 1 ↔
      n.toNat < (p.value + 1) * 2 ^ (256 - p.bits.length) := Nat.div_lt_iff_lt_mul hd
  omega

end Prefix

end SnRouting
