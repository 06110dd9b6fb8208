/-
JSON values, and their text.

Members of an object are kept in order and with repetitions, because what a repeated name means
is for the one who reads the object. A number is kept as it is written. A string may be written
with escapes that leave half of a surrogate pair alone; such a string spells no text, and may be
passed over but not used.

The text of a value has no blanks. In strings the quote, the backslash and the control characters
below the blank are escaped, five of the latter by a letter and the others by four hexadecimal
digits; all other characters stand for themselves.

What the rest of the library makes of values are texts, lists of texts, counts and objects. Each of
these can be told from the value that is made of it (the `_inj` lemmas), so that two records whose
JSON is the same have the same fields.
-/
import EventCycle.DataFormat

set_option autoImplicit false

namespace EventCycle.Json

/-! ## Values -/

/-- A JSON value. -/
inductive Value where
  | null
  | bool (value : Bool)
  /-- A number, as it is written. -/
  | number (literal : String)
  /-- A string; `none` is one that spells no text. -/
  | string (text : Option String)
  | array (items : List Value)
  | object (members : List (Option String × Value))

namespace Value

/-- The string that spells a text. -/
def ofString (text : String) : Value := .string (some text)

/-- The array of the strings that spell some texts. -/
def ofStrings (texts : List String) : Value := .array (texts.map ofString)

/-- The number of a count, in decimal digits. -/
def ofNat (count : Nat) : Value := .number (toString count)

/-- The object with those members, in order. -/
def ofMembers (members : List (String × Value)) : Value :=
  .object (members.map fun member => (some member.1, member.2))

/-- The string of a text, or null. -/
def ofString? : Option String → Value
  | none => .null
  | some text => ofString text

/-- The text of a string, if it spells one. -/
def text? : Value → Option String
  | .string text => text
  | _ => none

/-- A truth value. Neither numbers nor strings count as one. -/
def bool? : Value → Option Bool
  | .bool value => some value
  | _ => none

/-- The items of an array. -/
def items? : Value → Option (List Value)
  | .array items => some items
  | _ => none

/-- The count that a number spells: digits only, and at most 64 bits. -/
def count? : Value → Option Nat
  | .number literal =>
    if literal.toList.all Char.isDigit && literal ≠ "" then
      let n := Nat.ofDigitChars 10 literal.toList 0
      if n < UInt64.size then some n else none
    else none
  | _ => none

/-- The members of an object, if all their names spell a text. -/
def members? : Value → Option (List (String × Value))
  | .object members => members.mapM fun member => member.1.map fun name => (name, member.2)
  | _ => none

/-! ### What a value was made of

The values that are made here are told apart by what they were made of. So nothing is lost in a
value, and two records with one value are one record. -/

theorem ofString_inj {a b : String} : ofString a = ofString b ↔ a = b := by
  simp [ofString]

theorem text?_eq_some_iff {value : Value} {text : String} :
    value.text? = some text ↔ value = ofString text := by
  cases value <;> simp [text?, ofString]

/-- No text is written as null, so an absent text is told from every other. -/
theorem ofString?_inj {a b : Option String} : ofString? a = ofString? b ↔ a = b := by
  cases a <;> cases b <;> simp [ofString?, ofString]

theorem ofStrings_inj {a b : List String} : ofStrings a = ofStrings b ↔ a = b := by
  rw [ofStrings, ofStrings, Value.array.injEq]
  exact List.map_inj_right fun _ _ h => ofString_inj.mp h

/-- Counts are told by their digits, since reading the digits of a count gives the count. -/
theorem ofNat_inj {a b : Nat} : ofNat a = ofNat b ↔ a = b := by
  refine ⟨fun h => ?_, fun h => h ▸ rfl⟩
  have htext : toString a = toString b := Value.number.inj h
  have hdigits : Nat.toDigits 10 a = Nat.toDigits 10 b := by
    rwa [Nat.toString_eq_ofList_toDigits, Nat.toString_eq_ofList_toDigits, String.ofList_inj]
      at htext
  calc
    a = Nat.ofDigitChars 10 (Nat.toDigits 10 a) 0 := Nat.ofDigitChars_ten_toDigits.symm
    _ = Nat.ofDigitChars 10 (Nat.toDigits 10 b) 0 := by rw [hdigits]
    _ = b := Nat.ofDigitChars_ten_toDigits

/-- An object is told by its members, their names and their order. -/
theorem ofMembers_inj {a b : List (String × Value)} : ofMembers a = ofMembers b ↔ a = b := by
  rw [ofMembers, ofMembers, Value.object.injEq]
  refine List.map_inj_right fun p q h => ?_
  obtain ⟨hname, hvalue⟩ := Prod.mk.inj h
  exact Prod.ext (Option.some.inj hname) hvalue

end Value

/-! ## As a data format -/

/-- JSON as a data format. A record is an object, or an array of its first fields in order. -/
def dataFormat : DataFormat Value where
  record? names
    | .array items => Record.ofItems? names items
    | value => value.members?.bind (Record.ofMembers? names)
  text? := Value.text?
  items? := Value.items?
  bool? := Value.bool?
  count? := Value.count?

/-! ## The text of strings

Only what has to be escaped is: the quote, the backslash, and the control characters. -/

/-- The lower-case hexadecimal digit of a number below sixteen. -/
def hexDigit (n : Nat) : Char := Nat.digitChar n

/-- A character as it stands in a string. -/
def escaped (c : Char) : List Char :=
  if c = '"' then ['\\', '"']
  else if c = '\\' then ['\\', '\\']
  else if c = '\x08' then ['\\', 'b']
  else if c = '\t' then ['\\', 't']
  else if c = '\n' then ['\\', 'n']
  else if c = '\x0c' then ['\\', 'f']
  else if c = '\r' then ['\\', 'r']
  else if c.toNat < 0x20 then
    ['\\', 'u', '0', '0', hexDigit (c.toNat / 16), hexDigit (c.toNat % 16)]
  else [c]

/-- A text between quotes. -/
def quoted (text : String) : List Char := '"' :: text.toList.flatMap escaped ++ ['"']

/-- A string. One that spells no text is written as half of a surrogate pair. -/
def stringChars : Option String → List Char
  | some text => quoted text
  | none => ['"', '\\', 'u', 'd', '8', '0', '0', '"']

/-! ## The text of values

There are no blanks, and members stand in the order in which they were given. -/

mutual

/-- The characters of a value. -/
def valueChars : Value → List Char
  | .null => ['n', 'u', 'l', 'l']
  | .bool true => ['t', 'r', 'u', 'e']
  | .bool false => ['f', 'a', 'l', 's', 'e']
  | .number literal => literal.toList
  | .string text => stringChars text
  | .array items => '[' :: itemsChars items
  | .object members => '\x7b' :: membersChars members

/-- The items of an array, with commas between them and the closing bracket. -/
def itemsChars : List Value → List Char
  | [] => [']']
  | [item] => valueChars item ++ [']']
  | item :: items => valueChars item ++ ',' :: itemsChars items

/-- The members of an object, with commas between them and the closing brace. -/
def membersChars : List (Option String × Value) → List Char
  | [] => ['\x7d']
  | [(name, value)] => stringChars name ++ ':' :: valueChars value ++ ['\x7d']
  | (name, value) :: members =>
    stringChars name ++ ':' :: valueChars value ++ ',' :: membersChars members

end

/-- **The text of a value.** -/
def Value.text (value : Value) : String := String.ofList (valueChars value)

end EventCycle.Json
