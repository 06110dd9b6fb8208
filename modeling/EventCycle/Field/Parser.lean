/-
Reading a data field.

A token is tried in this order: `*` and `X` where the usage allows them, then a literal, then a
range where the usage allows one. A literal is a signed numeral in the 128-bit window; what it
spells must be at least zero and fit in 64 bits. A signed numeral outside the window is no
literal at all, so where ranges are allowed it is refused as a range.

A range is `[lo-hi]`: the bounds are unsigned numerals of at most 64 bits, cut at the first `-`
between the brackets.

The steps are functions of their own (`literalValue?`, `rangeBounds?`, `ofNumber`, `ofRange`), on
characters where the token does not matter any more. Each says what it makes of its input and
nothing of the usage; the usage decides in `parse` alone which of them are tried.
-/
import EventCycle.Fault
import EventCycle.Field.Basic
import EventCycle.Text.Numeral
import EventCycle.Usage

set_option autoImplicit false

namespace EventCycle.Field

open EventCycle.Text

/-! ## Why a token is refused -/

/-- What is wrong with a token. There are two kinds of report but four things that go wrong, and the
usage counts for one of them only. -/
inductive Error where
  /-- A numeral below zero. -/
  | negative (token : String)
  /-- A numeral of more than 64 bits. -/
  | tooLarge (token : String)
  /-- A token of no syntax that the usage allows. -/
  | notAllowed (usage : Usage) (token : String)
  /-- A range whose lower bound is above its upper bound. -/
  | inverted (token : String)
deriving DecidableEq, Repr

namespace Error

/-- The token that was refused. -/
def token : Error → String
  | negative token | tooLarge token | notAllowed _ token | inverted token => token

/-- The report of a refused token. Where only literals are allowed, the token is a bad literal;
elsewhere whatever is not a numeral counts as a bad range. -/
def fault : Error → Fault
  | negative token => .invalidLiteral token "Only positive 'int' is allowed."
  | tooLarge token => .invalidLiteral token "Value does not fit in 64 bits."
  | notAllowed .tag token => .invalidLiteral token Usage.tag.allowedSyntax
  | notAllowed usage token => .invalidRange token usage.allowedSyntax
  | inverted token =>
    .invalidRange token "Range must have the form '[lo-hi]' with lo <= hi."

end Error

/-! ## The two numeric syntaxes

A numeral is read in two widths. A literal has a sign and 128 bits, so that a negative or too large
one can be told from a text that is no number; a bound has no sign and 64 bits. -/

/-- The first number that is too large for a signed integer of 128 bits: `2 ^ 127`. It is written as
a numeral, so that comparing with it takes no power. -/
def numeralLimit : Int := 0x80000000000000000000000000000000

/-- The number that a token spells, if it is a signed numeral in the window of 128-bit integers. -/
def literalValue? (chars : List Char) : Option Int :=
  (signedValue? chars).filter fun n => -numeralLimit ≤ n && n < numeralLimit

/-- The bound that a numeral spells, if it fits in 64 bits. A bound has no minus, which would be
taken for the dash. -/
def boundValue? (chars : List Char) : Option UInt64 :=
  (unsignedValue? chars).bind fun n =>
    if h : n < UInt64.size then some (UInt64.ofNatLT n h) else none

/-- What stands between an opening bracket at the start and a closing one at the end. A single
bracket is not both. -/
def bracketed? : List Char → Option (List Char)
  | '[' :: rest => if rest.getLast? = some ']' then some rest.dropLast else none
  | _ => none

/-- What stands before and after the first dash. Later dashes are left to the upper bound, which is
no numeral then. -/
def cutAtDash? (chars : List Char) : Option (List Char × List Char) :=
  match chars.dropWhile (· != '-') with
  | [] => none
  | _ :: after => some (chars.takeWhile (· != '-'), after)

/-- The two bounds of a token of the form `[lo-hi]`, in whichever order. Whether they are the right
way round is asked later, because the report is a different one. -/
def rangeBounds? (chars : List Char) : Option (UInt64 × UInt64) := do
  let (before, after) ← cutAtDash? (← bracketed? chars)
  let low ← boundValue? before
  let high ← boundValue? after
  return (low, high)

/-! ## Reading -/

/-- Reads a token that spells a number. It is a literal or nothing: no usage makes a range of it. -/
def ofNumber (token : String) (n : Int) : Except Error Field :=
  if n < 0 then .error (.negative token)
  else if h : n.toNat < UInt64.size then .ok ⟨.literal (UInt64.ofNatLT n.toNat h), token⟩
  else .error (.tooLarge token)

/-- Reads a token that spells no number, where ranges are allowed: the operation `parse_range`. -/
def ofRange (usage : Usage) (token : String) : Except Error Field :=
  match rangeBounds? token.toList with
  | none => .error (.notAllowed usage token)
  | some (low, high) =>
    if h : low ≤ high then .ok ⟨.range low high h, token⟩ else .error (.inverted token)

/-- **The field that a token stands for under a usage,** or what is wrong with the token: the
operation `parse` of fields. -/
def parse (usage : Usage) (token : String) : Except Error Field :=
  if usage.allowsWildcard && token == "*" then .ok ⟨.wildcard, token⟩
  else if usage.allowsNamedWildcard && token == "X" then .ok ⟨.namedWildcard, token⟩
  else
    match literalValue? token.toList with
    | some n => ofNumber token n
    | none => if usage.allowsRange then ofRange usage token else .error (.notAllowed usage token)

/-! ## The token is kept

Whatever a token means, the field shows it as it was written. There is one lemma for each function
that makes a field. -/

theorem token_of_ofNumber {token : String} {n : Int} {field : Field}
    (h : ofNumber token n = .ok field) : field.token = token := by
  unfold ofNumber at h
  split at h
  · exact absurd h (by simp)
  · split at h
    · rw [← Except.ok.inj h]
    · exact absurd h (by simp)

theorem token_of_ofRange {usage : Usage} {token : String} {field : Field}
    (h : ofRange usage token = .ok field) : field.token = token := by
  unfold ofRange at h
  split at h
  · exact absurd h (by simp)
  · split at h
    · rw [← Except.ok.inj h]
    · exact absurd h (by simp)

/-- **A field that is read keeps the token it was read from.** -/
theorem token_of_parse {usage : Usage} {token : String} {field : Field}
    (h : parse usage token = .ok field) : field.token = token := by
  unfold parse at h
  split at h
  · rw [← Except.ok.inj h]
  · split at h
    · rw [← Except.ok.inj h]
    · split at h
      · exact token_of_ofNumber h
      · split at h
        · exact token_of_ofRange h
        · exact absurd h (by simp)

end EventCycle.Field
