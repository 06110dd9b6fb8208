/-
Which values fields admit, alone and in common.

`Field.disjoint` goes through the meanings of two fields case by case and compares their bounds.
What it decides is whether some value of 64 bits satisfies both. The cases make no difference to
that, since every meaning is an interval and none is empty (`Field.Kind.disjoint_iff`).

The main statement is `disjoint_iff_no_common_value`, about fields that have been read. A range with
its bounds in the wrong order would have no value in common with anything, and its bounds could be
compared all the same; but a token that spells one is refused, so no field stands for it. What
follows is that the order of the fields does not matter, that a field overlaps itself because some
value satisfies it (`admits_first`), and that a wildcard overlaps everything because every value
does (`disjoint_of_admits_all`).

`Field.matchesField` asks about one value only, that of a tag's field. So it can be asked by way of
disjointness as well: a literal matches a field when the two are not disjoint
(`matchesField_eq_not_disjoint`). The lemmas on it are what the tests on lists of fields, and the
names that are filled in from a tag, need to know of a single position.
-/
import EventCycle.Proofs.Field.Spelling

set_option autoImplicit false

namespace EventCycle.Field

variable {usage usage' : Usage} {token token' : String} {f g field tagField : Field}
  {value : UInt64}

/-! ## Common values

The cases of `Field.disjoint` are gone through in one place, where the meanings of fields are
defined. Everything here starts from the values. -/

/-- **Fields overlap when they have a common value.** -/
theorem disjoint_eq_false_iff :
    f.disjoint g = false ↔ ∃ value, f.admits value = true ∧ g.admits value = true := by
  have h : f.disjoint g = true ↔ ¬ ∃ value, f.admits value = true ∧ g.admits value = true :=
    Kind.disjoint_iff
  rw [← Bool.not_eq_true, h, Classical.not_not]

theorem admits_first (field : Field) : field.admits field.kind.first = true :=
  Kind.admits_iff.mpr ⟨UInt64.le_refl _, field.kind.first_le_last⟩

/-- No field is disjoint from itself, since some value satisfies it. -/
theorem disjoint_self (field : Field) : field.disjoint field = false :=
  disjoint_eq_false_iff.mpr ⟨field.kind.first, field.admits_first, field.admits_first⟩

/-! ## Wildcards -/

/-- A field that every value satisfies overlaps every field. -/
theorem disjoint_of_admits_all (h : ∀ value, f.admits value = true) (g : Field) :
    f.disjoint g = false :=
  disjoint_eq_false_iff.mpr ⟨g.kind.first, h g.kind.first, g.admits_first⟩

/-- Every value satisfies what the token of a wildcard is read as. -/
theorem admits_of_wild (h : parse usage token = .ok f) (hwild : token = "*" ∨ token = "X")
    (value : UInt64) : f.admits value = true := by
  obtain ⟨hspells, -⟩ := spells_of_parse h
  rw [admits]
  rcases hwild with hstar | hx
  · rw [hspells.unique (.wildcard hstar)]
    exact Kind.admits_wildcard value
  · rw [hspells.unique (.namedWildcard hx)]
    exact Kind.admits_namedWildcard value

theorem admits_of_isNamedWildcard (hnamed : f.isNamedWildcard = true) (value : UInt64) :
    f.admits value = true := by
  have hkind : f.kind = .namedWildcard := by simpa [isNamedWildcard] using hnamed
  rw [admits, hkind]
  exact Kind.admits_namedWildcard value

/-- **Fields that are disjoint are no named wildcards,** since these overlap everything. -/
theorem not_isNamedWildcard_of_disjoint (h : f.disjoint g = true) :
    f.isNamedWildcard = false ∧ g.isNamedWildcard = false := by
  constructor
  · rw [← Bool.not_eq_true]
    intro hnamed
    rw [disjoint_of_admits_all (admits_of_isNamedWildcard hnamed) g] at h
    exact absurd h (by decide)
  · rw [← Bool.not_eq_true]
    intro hnamed
    rw [disjoint_comm, disjoint_of_admits_all (admits_of_isNamedWildcard hnamed) f] at h
    exact absurd h (by decide)

/-! ## Literals -/

/-- A literal admits its own value and no other. -/
theorem admits_iff_of_value? (h : f.value? = some value) (other : UInt64) :
    f.admits other = true ↔ value = other := by
  rw [admits, value?_eq_some_iff.mp h, Kind.admits_literal, beq_iff_eq]

/-- Literals overlap when they have the same value, whatever their tokens. -/
theorem disjoint_eq_false_iff_of_value? {other : UInt64} (hf : f.value? = some value)
    (hg : g.value? = some other) : f.disjoint g = false ↔ value = other := by
  rw [disjoint, value?_eq_some_iff.mp hf, value?_eq_some_iff.mp hg]
  exact bne_eq_false_iff_eq

/-! ## The fields of tags

A tag's field is a literal, or it matches nothing. Its value is what the other field is asked about.
-/

/-- A tag's field satisfies a field when it is a literal whose value does. -/
theorem matchesField_iff :
    field.matchesField tagField = true ↔
      ∃ value, tagField.value? = some value ∧ field.admits value = true := by
  rw [matchesField, Option.any_eq_true]

theorem matchesField_of_isNamedWildcard (hnamed : field.isNamedWildcard = true)
    (hvalue : tagField.value? = some value) : field.matchesField tagField = true :=
  matchesField_iff.mpr ⟨value, hvalue, admits_of_isNamedWildcard hnamed value⟩

theorem matchesField_self (h : field.value? = some value) : field.matchesField field = true :=
  matchesField_iff.mpr ⟨value, h, (admits_iff_of_value? h value).mpr rfl⟩

/-- A value that satisfies a field does so in decimal digits, too. -/
theorem matchesField_ofValue (h : field.admits value = true) :
    field.matchesField (ofValue value) = true :=
  matchesField_iff.mpr ⟨value, value?_ofValue value, h⟩

/-- **A literal is matched by what overlaps it.** The only value that it has in common with a field
is its own. -/
theorem matchesField_eq_not_disjoint (h : tagField.value? = some value) :
    field.matchesField tagField = !field.disjoint tagField := by
  rw [Bool.eq_iff_iff, Bool.not_eq_true', disjoint_eq_false_iff, matchesField_iff]
  constructor
  · rintro ⟨own, hown, hadmits⟩
    exact ⟨own, hadmits, (admits_iff_of_value? hown own).mpr rfl⟩
  · rintro ⟨common, hadmits, hcommon⟩
    obtain rfl := (admits_iff_of_value? h common).mp hcommon
    exact ⟨value, h, hadmits⟩

/-- A literal is matched by the literals of its value. -/
theorem matchesField_iff_of_isLiteral (hfield : field.isLiteral = true)
    (htagField : tagField.isLiteral = true) :
    field.matchesField tagField = true ↔ tagField.value? = field.value? := by
  obtain ⟨own, hown⟩ := exists_value?_of_isLiteral hfield
  obtain ⟨value, hvalue⟩ := exists_value?_of_isLiteral htagField
  rw [matchesField, hvalue, hown, Option.any_some, admits_iff_of_value? hown, Option.some.injEq,
    eq_comm]

/-! ## Fields that have been read

What has been said of fields holds of those that were read, and of wildcards by their tokens. -/

/-- **Fields are disjoint exactly if they have no common value.** For fields that have been read,
under whatever usages, the test finds them disjoint if and only if no value of 64 bits satisfies
both. So it does not matter which of them is asked, no field is disjoint from itself, and a wildcard
on either side is disjoint from nothing. -/
theorem disjoint_iff_no_common_value (hf : parse usage token = .ok f)
    (hg : parse usage' token' = .ok g) :
    (f.disjoint g = true ↔ ¬ ∃ value : UInt64, f.admits value = true ∧ g.admits value = true) ∧
      f.disjoint g = g.disjoint f ∧ f.disjoint f = false ∧
      (token = "*" ∨ token = "X" → f.disjoint g = false) ∧
      (token' = "*" ∨ token' = "X" → f.disjoint g = false) := by
  refine ⟨Kind.disjoint_iff, disjoint_comm f g, disjoint_self f, ?_, ?_⟩
  · intro hwild
    exact disjoint_of_admits_all (admits_of_wild hf hwild) g
  · intro hwild
    rw [disjoint_comm]
    exact disjoint_of_admits_all (admits_of_wild hg hwild) f

/-- Two ranges that touch in one value, spelled differently, and two that are next to each other. -/
theorem common_value_of_touching_ranges :
    ∃ low high above, parse .filter "[0-009]" = .ok low ∧
      parse .group "[+9-18446744073709551615]" = .ok high ∧
      parse .group "[10-18446744073709551615]" = .ok above ∧
      (∃ value : UInt64, low.admits value = true ∧ high.admits value = true) ∧
      ¬ ∃ value : UInt64, low.admits value = true ∧ above.admits value = true := by
  have hread : ∃ low high above, parse .filter "[0-009]" = .ok low ∧
      parse .group "[+9-18446744073709551615]" = .ok high ∧
      parse .group "[10-18446744073709551615]" = .ok above ∧
      low.disjoint high = false ∧ low.disjoint above = true :=
    ⟨_, _, _, rfl, rfl, rfl, by decide, by decide⟩
  obtain ⟨low, high, above, hlow, hhigh, habove, htouching, hapart⟩ := hread
  obtain ⟨hcommon, -⟩ := disjoint_iff_no_common_value hlow hhigh
  obtain ⟨hnone, -⟩ := disjoint_iff_no_common_value hlow habove
  refine ⟨low, high, above, hlow, hhigh, habove, ?_, hnone.mp hapart⟩
  rw [htouching] at hcommon
  exact Classical.not_not.mp fun h => Bool.false_ne_true (hcommon.mpr h)

end EventCycle.Field
