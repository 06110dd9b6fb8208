/-
Usages, formats and patterns as JSON.

Each is written as the string of its name, token or text. A usage may also be read from an
object with its name as the only member, whose value is null; that is how a choice without
particulars may be written where others have some. A pattern is written only: what it is read from
is a text together with a usage, and its JSON holds the text alone.

For usages and formats the values that are understood are listed in full
(`Usage.ofJson?_eq_some_iff`, `Format.ofJson?_eq_some_iff`); what is written is among them.
-/
import EventCycle.Json.Value
import EventCycle.Pattern.Basic

set_option autoImplicit false

namespace EventCycle

/-! ## Usages

A usage has two spellings, its name alone and its name with nothing to go with it. -/

/-- A usage as the string of its name. -/
def Usage.toJson (usage : Usage) : Json.Value := .ofString usage.name

/-- The usage that a value spells. -/
def Usage.ofJson? : Json.Value → Option Usage
  | .string (some name) => ofName? name
  | .object [(some name, .null)] => ofName? name
  | _ => none

/-- **The values that spell a usage:** its name, and the object with its name as the only member.
Case counts, and so do further members. -/
theorem Usage.ofJson?_eq_some_iff {value : Json.Value} {usage : Usage} :
    Usage.ofJson? value = some usage ↔
      value = usage.toJson ∨ value = .object [(some usage.name, .null)] := by
  constructor
  · intro h
    unfold ofJson? at h
    split at h
    · next name =>
      rw [ofName?_eq_some_iff.mp h]
      exact .inl rfl
    · next name =>
      rw [ofName?_eq_some_iff.mp h]
      exact .inr rfl
    · exact absurd h (by simp)
  · rintro (rfl | rfl)
    · exact ofName?_name usage
    · exact ofName?_name usage

/-! ## Formats -/

/-- A format as the string of its token. -/
def Format.toJson (format : Format) : Json.Value := .ofString format.token

/-- The format that a value spells. -/
def Format.ofJson? (value : Json.Value) : Option Format := value.text?.bind ofToken?

/-- **The value that spells a format** is the string of its token, and there is no other. -/
theorem Format.ofJson?_eq_some_iff {value : Json.Value} {format : Format} :
    Format.ofJson? value = some format ↔ value = format.toJson := by
  constructor
  · intro h
    obtain ⟨token, htext, htoken⟩ := Option.bind_eq_some_iff.mp h
    rw [Json.Value.text?_eq_some_iff.mp htext, ← token_of_ofToken? htoken]
    rfl
  · rintro rfl
    exact ofToken?_token format

/-! ## Patterns -/

/-- A pattern as the string of its text. -/
def Pattern.toJson (pattern : Pattern) : Json.Value := .ofString pattern.text

/-- The JSON of a pattern tells its text, and nothing else: patterns of different usages with one
text are written alike. -/
theorem Pattern.toJson_eq_iff {a b : Pattern} : a.toJson = b.toJson ↔ a.text = b.text :=
  Json.Value.ofString_inj

end EventCycle
