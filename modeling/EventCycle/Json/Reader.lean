/-
JSON values from text.

The grammar is the strict one: no comments, no trailing commas, no leading zeros, nothing after the
value but blanks. Nothing bounds the depth of a value or the size of a number.

The reader works on characters and hands back what it has not read. Nesting is bounded by a
number of steps; every step into a value or on to the next item passes at least every second
time over a character, so twice the length of the text is always enough.
-/
import EventCycle.Json.Value

set_option autoImplicit false

namespace EventCycle.Json

/-! ## Blanks -/

/-- Whether a character may stand between the parts of a value. -/
def isBlank (c : Char) : Bool := c == ' ' || c == '\t' || c == '\n' || c == '\r'

/-- What follows the blanks at the start. -/
def skipBlanks (chars : List Char) : List Char := chars.dropWhile isBlank

/-! ## Strings

A string is first read as pieces, one for each character or escape, and the pieces then spell a
text if every surrogate among them has its other half. -/

/-- A part of a string: a character, or the 16-bit unit of a numeric escape. -/
inductive Piece where
  | char (c : Char)
  | unit (code : Nat)
deriving DecidableEq, Repr

/-- The value of a hexadecimal digit of either case. -/
def hexValue? (c : Char) : Option Nat :=
  if '0' ≤ c ∧ c ≤ '9' then some (c.toNat - '0'.toNat)
  else if 'a' ≤ c ∧ c ≤ 'f' then some (c.toNat - 'a'.toNat + 10)
  else if 'A' ≤ c ∧ c ≤ 'F' then some (c.toNat - 'A'.toNat + 10)
  else none

/-- The unit that four hexadecimal digits spell. -/
def unitOfHex? (a b c d : Char) : Option Nat := do
  return (((← hexValue? a) * 16 + (← hexValue? b)) * 16 + (← hexValue? c)) * 16 + (← hexValue? d)

/-- The character that an escape by a letter or a sign stands for. -/
def unescaped? (c : Char) : Option Char :=
  if c = '"' ∨ c = '\\' ∨ c = '/' then some c
  else if c = 'b' then some '\x08'
  else if c = 'f' then some '\x0c'
  else if c = 'n' then some '\n'
  else if c = 'r' then some '\r'
  else if c = 't' then some '\t'
  else none

/-- The pieces of a string up to its closing quote, and what follows the quote. -/
def pieces : List Char → Option (List Piece × List Char)
  | [] => none
  | c :: rest =>
    if c = '"' then some ([], rest)
    else if c = '\\' then
      match rest with
      | [] => none
      | 'u' :: h₁ :: h₂ :: h₃ :: h₄ :: rest =>
        (unitOfHex? h₁ h₂ h₃ h₄).bind fun code =>
          (pieces rest).map fun (more, rest) => (.unit code :: more, rest)
      | escape :: rest =>
        (unescaped? escape).bind fun char =>
          (pieces rest).map fun (more, rest) => (.char char :: more, rest)
    else if c.toNat < 0x20 then none
    else (pieces rest).map fun (more, rest) => (.char c :: more, rest)

/-- Whether a unit is the first half of a character that takes two. -/
def isHighSurrogate (code : Nat) : Bool := 0xD800 ≤ code && code ≤ 0xDBFF

/-- Whether a unit is the second half of a character that takes two. -/
def isLowSurrogate (code : Nat) : Bool := 0xDC00 ≤ code && code ≤ 0xDFFF

/-- The text that pieces spell, if every surrogate has its other half. A first half must be followed
by a second half that is escaped as well. -/
def spelled? : List Piece → Option (List Char)
  | [] => some []
  | .char c :: more => (spelled? more).map (c :: ·)
  | .unit high :: .unit low :: more =>
    if isHighSurrogate high then
      if isLowSurrogate low then
        (spelled? more).map
          (Char.ofNat (0x10000 + (high - 0xD800) * 0x400 + (low - 0xDC00)) :: ·)
      else none
    else if isLowSurrogate high then none
    else (spelled? (.unit low :: more)).map (Char.ofNat high :: ·)
  | .unit code :: more =>
    if isHighSurrogate code || isLowSurrogate code then none
    else (spelled? more).map (Char.ofNat code :: ·)

/-- The string after an opening quote, and what follows it. -/
def stringBody? (chars : List Char) : Option (Option String × List Char) :=
  (pieces chars).map fun (parts, rest) => ((spelled? parts).map String.ofList, rest)

/-! ## Numbers

A number is kept as its characters. Which number it is, is left to whoever asks for a count. -/

/-- Digits at the start, and what follows them. -/
def digits (chars : List Char) : List Char × List Char :=
  (chars.takeWhile Char.isDigit, chars.dropWhile Char.isDigit)

/-- A fraction at the start, if there is a point, and what follows it. -/
def fraction? : List Char → Option (List Char × List Char)
  | '.' :: rest =>
    match digits rest with
    | ([], _) => none
    | (places, rest) => some ('.' :: places, rest)
  | rest => some ([], rest)

/-- The sign of an exponent, and what follows it. -/
def exponentSign : List Char → List Char × List Char
  | '+' :: rest => (['+'], rest)
  | '-' :: rest => (['-'], rest)
  | rest => ([], rest)

/-- An exponent at the start, if there is its letter, and what follows it. -/
def exponent? : List Char → Option (List Char × List Char)
  | [] => some ([], [])
  | e :: rest =>
    if e = 'e' ∨ e = 'E' then
      let (sign, rest) := exponentSign rest
      match digits rest with
      | ([], _) => none
      | (places, rest) => some (e :: sign ++ places, rest)
    else some ([], e :: rest)

/-- A number without sign at the start, and what follows it. Only zero starts with a zero. -/
def unsignedNumber? (chars : List Char) : Option (List Char × List Char) := do
  let (whole, rest) := digits chars
  if whole = [] ∨ (whole.head? = some '0' ∧ whole ≠ ['0']) then none
  else
    let (places, rest) ← fraction? rest
    let (power, rest) ← exponent? rest
    return (whole ++ places ++ power, rest)

/-- A number at the start, as it is written, and what follows it. -/
def number? : List Char → Option (List Char × List Char)
  | '-' :: rest => (unsignedNumber? rest).map fun (literal, rest) => ('-' :: literal, rest)
  | rest => unsignedNumber? rest

/-! ## Values

The three readers call each other. The steps bound how often, so that they are defined by recursion
on the steps, and `read?` gives them more than any text can use up. -/

mutual

/-- A value at the start, after blanks, and what follows it. -/
def value? : Nat → List Char → Option (Value × List Char)
  | 0, _ => none
  | steps + 1, chars =>
    match skipBlanks chars with
    | '"' :: rest => (stringBody? rest).map fun (text, rest) => (.string text, rest)
    | '[' :: rest =>
      match skipBlanks rest with
      | ']' :: rest => some (.array [], rest)
      | _ => (items? steps rest).map fun (items, rest) => (.array items, rest)
    | '\x7b' :: rest =>
      match skipBlanks rest with
      | '\x7d' :: rest => some (.object [], rest)
      | _ => (members? steps rest).map fun (members, rest) => (.object members, rest)
    | 'n' :: 'u' :: 'l' :: 'l' :: rest => some (.null, rest)
    | 't' :: 'r' :: 'u' :: 'e' :: rest => some (.bool true, rest)
    | 'f' :: 'a' :: 'l' :: 's' :: 'e' :: rest => some (.bool false, rest)
    | chars =>
      (number? chars).map fun (literal, rest) => (.number (String.ofList literal), rest)

/-- The items of an array from the first on, and what follows the closing bracket. -/
def items? : Nat → List Char → Option (List Value × List Char)
  | 0, _ => none
  | steps + 1, chars =>
    (value? steps chars).bind fun (item, rest) =>
      match skipBlanks rest with
      | ',' :: rest => (items? steps rest).map fun (items, rest) => (item :: items, rest)
      | ']' :: rest => some ([item], rest)
      | _ => none

/-- The members of an object from the first on, and what follows the closing brace. -/
def members? : Nat → List Char → Option (List (Option String × Value) × List Char)
  | 0, _ => none
  | steps + 1, chars =>
    match skipBlanks chars with
    | '"' :: rest =>
      (stringBody? rest).bind fun (name, rest) =>
        match skipBlanks rest with
        | ':' :: rest =>
          (value? steps rest).bind fun (value, rest) =>
            match skipBlanks rest with
            | ',' :: rest =>
              (members? steps rest).map fun (members, rest) => ((name, value) :: members, rest)
            | '\x7d' :: rest => some ([(name, value)], rest)
            | _ => none
        | _ => none
    | _ => none

end

/-- **The value that a text spells.** -/
def read? (text : String) : Option Value :=
  match value? (2 * text.toList.length + 2) text.toList with
  | some (value, rest) => if skipBlanks rest = [] then some value else none
  | none => none

end EventCycle.Json
