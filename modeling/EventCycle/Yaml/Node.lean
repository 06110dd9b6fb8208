/-
YAML documents as trees.

A scalar is a text, and whether it is plain, which means written without quotes: only plain
scalars can be truth values or numbers, while every scalar is a text. Where a record or a list
is asked for and nothing is written, that is an empty plain scalar, it counts as an empty one.
-/
import EventCycle.DataFormat

set_option autoImplicit false

namespace EventCycle.Yaml

/-- A node of a document. -/
inductive Node where
  | scalar (plain : Bool) (text : String)
  | sequence (items : List Node)
  | mapping (entries : List (Node × Node))

namespace Node

/-- The node that stands where nothing is written. -/
def empty : Node := .scalar true ""

/-- The text of a scalar. -/
def text? : Node → Option String
  | .scalar _ text => some text
  | _ => none

/-- The items of a sequence. -/
def items? : Node → Option (List Node)
  | .sequence items => some items
  | .scalar true "" => some []
  | _ => none

/-- The entries of a mapping, if all their keys are scalars. -/
def members? : Node → Option (List (String × Node))
  | .mapping entries => entries.mapM fun entry => entry.1.text?.map fun name => (name, entry.2)
  | .scalar true "" => some []
  | _ => none

/-- The truth value of a plain scalar, in one of the three usual cases. -/
def bool? : Node → Option Bool
  | .scalar true text =>
    if text = "true" ∨ text = "True" ∨ text = "TRUE" then some true
    else if text = "false" ∨ text = "False" ∨ text = "FALSE" then some false
    else none
  | _ => none

/-! ## Counts

A count is written with decimal digits, or after `0x`, `0o` or `0b` with those of another base,
and may start with a plus sign. Decimal digits with a leading zero are a text, not a number. -/

/-- The value of a digit of any base up to sixteen. -/
def digitValue (c : Char) : Nat :=
  if c.isDigit then c.toNat - '0'.toNat
  else if 'a' ≤ c ∧ c ≤ 'f' then c.toNat - 'a'.toNat + 10
  else if 'A' ≤ c ∧ c ≤ 'F' then c.toNat - 'A'.toNat + 10
  else 16

/-- The value of digits of a base, if there are any. -/
def digitsValue? (base : Nat) (digits : List Char) : Option Nat :=
  if !digits.isEmpty && digits.all fun c => digitValue c < base then
    some (digits.foldl (fun n c => n * base + digitValue c) 0)
  else none

/-- The value of a numeral without its first sign. -/
def numeralValue? : List Char → Option Nat
  | '0' :: 'x' :: digits => digitsValue? 16 digits
  | '0' :: 'o' :: digits => digitsValue? 8 digits
  | '0' :: 'b' :: digits => digitsValue? 2 digits
  | ['0'] => some 0
  | '0' :: _ => none
  | digits => digitsValue? 10 digits

/-- The count that a plain scalar spells. -/
def count? : Node → Option Nat
  | .scalar true text =>
    let value? :=
      match text.toList with
      | '+' :: numeral => numeralValue? numeral
      | numeral => numeralValue? numeral
    value?.filter (· < UInt64.size)
  | _ => none

end Node

/-- YAML as a data format. A record is a mapping. -/
def dataFormat : DataFormat Node where
  record? names node := node.members?.bind (Record.ofMembers? names)
  text? := Node.text?
  items? := Node.items?
  bool? := Node.bool?
  count? := Node.count?

end EventCycle.Yaml
