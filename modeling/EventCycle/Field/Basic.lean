/-
One data field of a tag, filter or group pattern.

A field is a token together with what it means: one 64-bit value, an inclusive range of them, or
any value. The two tests on fields go through the meanings case by case. What they have in
common is that every meaning is an interval, from its `first` to its `last` value: a value
satisfies a field when it lies in the interval (`admits_iff`), and two fields are disjoint when
one interval ends before the other starts (`disjoint_iff_apart`). `disjoint_iff` says that this
is exactly the absence of a common value; it needs no case analysis because no interval is empty
(`first_le_last`), which for ranges is part of the type.

The bounds are 64-bit integers, as in the tags themselves. Comparisons of these are not linear
arithmetic to the decision procedures, so the lemmas on intervals compare the natural numbers that
they stand for (`UInt64.le_iff_toNat_le`) and leave the rest to `omega`.
-/

set_option autoImplicit false

namespace EventCycle

/-- The values that a field stands for. -/
inductive Field.Kind where
  /-- One value. -/
  | literal (value : UInt64)
  /-- The values from `low` to `high`, both included. -/
  | range (low high : UInt64) (low_le_high : low ≤ high)
  /-- Every value. -/
  | wildcard
  /-- Every value; the value found there becomes part of the group name. -/
  | namedWildcard
deriving DecidableEq

/-- A field: its meaning, and the token it was written with. Two fields of one meaning and different
tokens are different, since the token is what is printed. -/
structure Field where
  kind : Field.Kind
  token : String
deriving DecidableEq

namespace Field

/-! ## Meanings

The tests are defined on meanings, and on fields below they are the same tests: a token is kept for
printing only. -/

namespace Kind

/-- The smallest value. -/
def first : Kind → UInt64
  | .literal value => value
  | .range low _ _ => low
  | .wildcard | .namedWildcard => 0

/-- The largest value. -/
def last : Kind → UInt64
  | .literal value => value
  | .range _ high _ => high
  | .wildcard | .namedWildcard => 0xFFFFFFFFFFFFFFFF

/-- No meaning is empty. For ranges that is the bound that the constructor asks for. -/
theorem first_le_last (kind : Kind) : kind.first ≤ kind.last := by
  cases kind with
  | literal value => exact UInt64.le_refl value
  | range low high low_le_high => exact low_le_high
  | wildcard => decide
  | namedWildcard => decide

/-- Whether a value satisfies the meaning: the operation `is_member` of fields. -/
def admits (kind : Kind) (value : UInt64) : Bool :=
  match kind with
  | .literal own => own == value
  | .range low high _ => low ≤ value && value ≤ high
  | .wildcard | .namedWildcard => true

/-- Whether no value satisfies both meanings: the operation `is_disjoint` of fields. Wildcards
overlap everything, and ranges that touch share the value that they touch in. -/
def disjoint : Kind → Kind → Bool
  | .wildcard, _ | .namedWildcard, _ | _, .wildcard | _, .namedWildcard => false
  | .literal a, .literal b => a != b
  | .literal value, .range low high _ | .range low high _, .literal value =>
    !(low ≤ value && value ≤ high)
  | .range low₁ high₁ _, .range low₂ high₂ _ => high₂ < low₁ || high₁ < low₂

@[simp] theorem admits_literal (own value : UInt64) :
    (Kind.literal own).admits value = (own == value) := rfl

@[simp] theorem admits_wildcard (value : UInt64) : Kind.wildcard.admits value = true := rfl

@[simp] theorem admits_namedWildcard (value : UInt64) :
    Kind.namedWildcard.admits value = true := rfl

/-! ## Meanings as intervals

Wildcards are the interval of all values. With that the two tests become comparisons of bounds, the
same for every meaning. -/

theorem le_last_wildcard (value : UInt64) : value ≤ Kind.wildcard.last := by
  rw [UInt64.le_iff_toNat_le]
  have hlast : Kind.wildcard.last.toNat = 2 ^ 64 - 1 := rfl
  have hvalue := value.toNat_lt
  omega

/-- **A meaning is an interval.** The values that satisfy it lie between its first and its last. -/
theorem admits_iff {kind : Kind} {value : UInt64} :
    kind.admits value = true ↔ kind.first ≤ value ∧ value ≤ kind.last := by
  have hwild : Kind.wildcard.first ≤ value ∧ value ≤ Kind.wildcard.last :=
    ⟨UInt64.le_iff_toNat_le.mpr (Nat.zero_le _), le_last_wildcard value⟩
  cases kind with
  | literal own =>
    rw [admits_literal, beq_iff_eq]
    constructor
    · rintro rfl
      exact ⟨UInt64.le_refl own, UInt64.le_refl own⟩
    · rintro ⟨hfirst, hlast⟩
      exact UInt64.le_antisymm hfirst hlast
  | range low high low_le_high =>
    rw [admits, Bool.and_eq_true, decide_eq_true_eq, decide_eq_true_eq]
    rfl
  | wildcard => exact iff_of_true rfl hwild
  | namedWildcard => exact iff_of_true rfl hwild

/-- The wildcards leave no room before or after them. -/
theorem not_apart_wildcard (kind : Kind) :
    ¬ (kind.last < Kind.wildcard.first ∨ Kind.wildcard.last < kind.first) := by
  rintro (hbefore | hafter)
  · exact absurd (UInt64.lt_iff_toNat_lt.mp hbefore) (Nat.not_lt_zero _)
  · exact UInt64.not_lt.mpr (le_last_wildcard kind.first) hafter

theorem not_in_range_iff {value low high : UInt64} :
    (!(decide (low ≤ value) && decide (value ≤ high))) = true ↔ value < low ∨ high < value := by
  rw [Bool.not_eq_true', Bool.and_eq_false_iff, decide_eq_false_iff_not, decide_eq_false_iff_not,
    UInt64.not_le, UInt64.not_le]

/-- **Meanings are disjoint when one interval ends before the other starts.** This is the one place
where the pairs of meanings are gone through; what is said of disjointness later is said of
intervals. A wildcard on either side is settled at once, and two literals and a range differ in form
only. -/
theorem disjoint_iff_apart {a b : Kind} :
    a.disjoint b = true ↔ a.last < b.first ∨ b.last < a.first := by
  have hright : ¬ (a.last < Kind.wildcard.first ∨ Kind.wildcard.last < a.first) :=
    not_apart_wildcard a
  have hleft : ¬ (Kind.wildcard.last < b.first ∨ b.last < Kind.wildcard.first) :=
    fun h => not_apart_wildcard b h.symm
  cases a with
  | wildcard => exact iff_of_false Bool.false_ne_true hleft
  | namedWildcard => exact iff_of_false Bool.false_ne_true hleft
  | literal own =>
    cases b with
    | wildcard => exact iff_of_false Bool.false_ne_true hright
    | namedWildcard => exact iff_of_false Bool.false_ne_true hright
    -- two values are different when one of them is the smaller one
    | literal other =>
      simp only [disjoint, first, last, bne_iff_ne, UInt64.lt_iff_toNat_lt]
      rw [ne_eq, ← UInt64.toNat_inj]
      omega
    | range low high low_le_high => exact not_in_range_iff
  | range low high low_le_high =>
    cases b with
    | wildcard => exact iff_of_false Bool.false_ne_true hright
    | namedWildcard => exact iff_of_false Bool.false_ne_true hright
    | literal value => exact not_in_range_iff.trans or_comm
    | range low' high' low_le_high' =>
      rw [disjoint, Bool.or_eq_true, decide_eq_true_eq, decide_eq_true_eq]
      exact or_comm

/-- **Disjoint meanings are those without a common value.** If neither interval ends before the
other starts, the larger of the two first values lies in both. -/
theorem disjoint_iff {a b : Kind} :
    a.disjoint b = true ↔ ¬ ∃ value, a.admits value = true ∧ b.admits value = true := by
  have ha := a.first_le_last
  have hb := b.first_le_last
  simp only [disjoint_iff_apart, admits_iff, UInt64.le_iff_toNat_le, UInt64.lt_iff_toNat_lt] at *
  constructor
  · rintro h ⟨value, hva, hvb⟩
    omega
  · intro h
    by_cases hle : a.first.toNat ≤ b.first.toNat
    · exact Classical.byContradiction fun hn => h ⟨b.first, by omega, by omega⟩
    · exact Classical.byContradiction fun hn => h ⟨a.first, by omega, by omega⟩

/-- Which of two meanings is asked does not matter, although the cases are not listed twice. -/
theorem disjoint_comm (a b : Kind) : a.disjoint b = b.disjoint a := by
  rw [Bool.eq_iff_iff, disjoint_iff_apart, disjoint_iff_apart]
  exact or_comm

end Kind

/-! ## Fields

The questions that may be asked of a field. A literal, a range and the two wildcards are told apart
by how they are written, not by their values: a range of one value is no literal. -/

/-- The value of a literal: the operation `value`. Nothing else has a value of its own, a range that
holds a single value included. -/
def value? (field : Field) : Option UInt64 :=
  match field.kind with
  | .literal value => some value
  | _ => none

/-- The lower bound of a range: the operation `low`. -/
def low? (field : Field) : Option UInt64 :=
  match field.kind with
  | .range low _ _ => some low
  | _ => none

/-- The upper bound of a range: the operation `high`. -/
def high? (field : Field) : Option UInt64 :=
  match field.kind with
  | .range _ high _ => some high
  | _ => none

/-- Whether the field is a single value, written as such. -/
def isLiteral (field : Field) : Bool := field.value?.isSome

/-- Whether the field is written as a range, of however many values. -/
def isRange (field : Field) : Bool := field.low?.isSome

/-- Whether the field is open and unnamed. -/
def isWildcard (field : Field) : Bool := field.kind == .wildcard

/-- Whether the field is open and gives the group its name. -/
def isNamedWildcard (field : Field) : Bool := field.kind == .namedWildcard

/-- Whether a tag's value satisfies the field. The token makes no difference. -/
def admits (field : Field) (value : UInt64) : Bool := field.kind.admits value

/-- Whether no value satisfies both fields. The tokens make no difference. -/
def disjoint (a b : Field) : Bool := a.kind.disjoint b.kind

/-- Whether the field of a tag is a value that satisfies this one. A tag that has been read holds
literals only; anything else in its place satisfies nothing, not even a wildcard. -/
def matchesField (field tagField : Field) : Bool := tagField.value?.any field.admits

/-- Only literals have a value, so a value says what the meaning is. -/
theorem value?_eq_some_iff {field : Field} {value : UInt64} :
    field.value? = some value ↔ field.kind = .literal value := by
  unfold value?
  split <;> simp_all

theorem exists_value?_of_isLiteral {field : Field} (h : field.isLiteral = true) :
    ∃ value, field.value? = some value :=
  Option.isSome_iff_exists.mp h

theorem disjoint_comm (a b : Field) : a.disjoint b = b.disjoint a :=
  Kind.disjoint_comm a.kind b.kind

end Field

end EventCycle
