/-
What can go wrong, in the words that the user is told.

Every reader and compiler of the library has an error type of its own, which says what was found. A
`Fault` is the report made from it: one of nine kinds, each with the texts that its message shows.
The two are kept apart because errors are reasoned about and reports are read. A report has lost
what its message does not say, such as which of the rules a bad range breaks.
-/

set_option autoImplicit false

namespace EventCycle

/-- A report of something that went wrong. In the engine's interface this is an `AleError`. -/
inductive Fault where
  /-- The five-segment skeleton of a pattern is broken. -/
  | malformedPattern (pattern reason expected : String)
  /-- A format token that is not among the known ones. -/
  | unknownFormat (token : String) (known : List String)
  /-- A pattern with too few or too many data fields for its format. -/
  | arityMismatch (pattern format : String) (expected actual : Nat)
  /-- A data field that is not a legal value. -/
  | invalidLiteral (token reason : String)
  /-- A data field that is neither a value nor a legal range. -/
  | invalidRange (token reason : String)
  /-- Two group patterns that can claim the same tag. -/
  | overlappingGroups (first second : String)
  /-- A declaration text that cannot be decoded. -/
  | invalidDeclaration (reason : String)
  /-- Settings that an engine cannot run with. -/
  | invalidConfig (reason : String)
  /-- A file that cannot be read. -/
  | io (reason : String)
deriving DecidableEq, Repr

namespace Fault

/-- What the user is told. -/
def message : Fault → String
  | malformedPattern pattern reason expected =>
    s!"Invalid pattern '{pattern}': {reason}. Pattern must have the form '{expected}'"
  | unknownFormat token known =>
    let listed := String.intercalate "', '" known
    s!"Unknown tag format '{token}'. Known formats are '{listed}'"
  | arityMismatch pattern format expected actual =>
    s!"Invalid number of data fields in pattern '{pattern}': format '{format}' " ++
      s!"expects {expected} data fields, found {actual}"
  | invalidLiteral token reason => s!"Invalid data field '{token}'. {reason}"
  | invalidRange token reason => s!"Invalid range '{token}'. {reason}"
  | overlappingGroups first second =>
    s!"Group patterns '{first}' and '{second}' are not disjoint"
  | invalidDeclaration reason => s!"Invalid declaration: {reason}"
  | invalidConfig reason => s!"Invalid configuration: {reason}"
  | io reason => s!"IO error: {reason}"

/-- Whether the report is about a single pattern text: the operation `is_pattern_error`. An overlap
is about two of them, and does not count. -/
def concernsPattern : Fault → Bool
  | malformedPattern .. | unknownFormat .. | arityMismatch .. | invalidLiteral ..
  | invalidRange .. => true
  | overlappingGroups .. | invalidDeclaration .. | invalidConfig .. | io .. => false

end Fault

end EventCycle
