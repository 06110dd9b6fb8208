/-
The tag formats, the token each is written with, and the number of data fields it carries.

The set is closed. Its order is the order in which the known tokens are listed to the user, and the
order in which formats are sorted.

Formats are compared by the patterns and counted with by the reader of patterns; the rest of the
library knows of a format only its token, which names it (`ofToken?_eq_some_iff`), and its number of
data fields, which is never zero (`arity_pos`).
-/

set_option autoImplicit false

namespace EventCycle

/-- The encodings of tags that are understood. In the engine's interface these are the variants of
`TagFormat`. -/
inductive Format where
  | gid96
  | sgtin64
  | sscc64
  | sgtin96
  | sscc96
  | grai96
  | sgtin
  | sscc
  | oid
  | prop
deriving DecidableEq, Repr

namespace Format

/-- Every format, in order. -/
def all : List Format :=
  [.gid96, .sgtin64, .sscc64, .sgtin96, .sscc96, .grai96, .sgtin, .sscc, .oid, .prop]

/-- The token that stands for the format in a pattern. -/
def token : Format → String
  | .gid96 => "gid-96"
  | .sgtin64 => "sgtin-64"
  | .sscc64 => "sscc-64"
  | .sgtin96 => "sgtin-96"
  | .sscc96 => "sscc-96"
  | .grai96 => "grai-96"
  | .sgtin => "sgtin"
  | .sscc => "sscc"
  | .oid => "oid"
  | .prop => "prop"

/-- The number of data fields that a pattern of the format carries. -/
def arity : Format → Nat
  | .gid96 => 3
  | .sgtin64 => 4
  | .sscc64 => 3
  | .sgtin96 => 4
  | .sscc96 => 3
  | .grai96 => 3
  | .sgtin => 3
  | .sscc => 2
  | .oid => 1
  | .prop => 1

/-- The tokens of all formats, in order: the operation `known_tokens`. The report of an unknown
format lists them. -/
def knownTokens : List String := all.map token

/-- The format written with exactly that token: the operation `resolve`. Case counts. -/
def ofToken? (token : String) : Option Format := all.find? (·.token == token)

/-- The place of a format in the order. -/
def rank (format : Format) : Nat := all.idxOf format

/-- Formats in order; equal ones stay where they are. -/
def sorted (formats : List Format) : List Format := formats.mergeSort (·.rank ≤ ·.rank)

/-! ## The tokens name the formats

All of this is checked format by format; the set being closed, there are ten cases and no others. -/

/-- Every format is found under its token: no two formats share one, and none is missing from the
list that is searched. -/
theorem ofToken?_token (format : Format) : ofToken? format.token = some format := by
  cases format <;> decide

/-- The format that is found is written with the token that was looked up. -/
theorem token_of_ofToken? {token : String} {format : Format} (h : ofToken? token = some format) :
    format.token = token := by
  simpa using List.find?_some h

theorem ofToken?_eq_some_iff {token : String} {format : Format} :
    ofToken? token = some format ↔ format.token = token :=
  ⟨token_of_ofToken?, fun h => h ▸ ofToken?_token format⟩

/-- The tokens that name no format are those that are not listed to the user. -/
theorem ofToken?_eq_none_iff {token : String} : ofToken? token = none ↔ token ∉ knownTokens := by
  unfold ofToken? knownTokens
  rw [List.find?_eq_none]
  simp

theorem arity_pos (format : Format) : 0 < format.arity := by
  cases format <;> decide

end Format

end EventCycle
