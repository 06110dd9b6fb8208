/-
Reading the scalars of a YAML document.

A scalar may run over several lines. Between two of its words stands a gap: blanks, which are
kept, or line ends, which are folded. A single line end folds to a blank, and of several all but
the first are kept.

Every reader here is given a number of steps that is greater than the number of characters left, and
uses up one at least for every character it passes.
-/
import EventCycle.Yaml.Cursor

set_option autoImplicit false

namespace EventCycle.Yaml

/-! ## Gaps

The same gaps stand in plain and in quoted scalars, between two words of the one and anywhere in the
other. -/

/-- What stands between two words. -/
inductive Gap where
  /-- Blanks on a line; there may be none. -/
  | blanks (chars : List Char)
  /-- Line ends, whatever blanks stand around them. -/
  | lineEnds (ends : List Char)

/-- What a gap counts for. -/
def Gap.folded : Gap → List Char
  | .blanks chars => chars
  | .lineEnds ['\n'] => [' ']
  | .lineEnds ('\n' :: more) => more
  | .lineEnds ends => ends

/-- Whether a line ends in the gap, after which a key may start. -/
def Gap.endsLine : Gap → Bool
  | .blanks _ => false
  | .lineEnds _ => true

/-- The line ends up to the next word, blanks being passed over, and the place of that word. In
a plain scalar a tab must not stand for indentation: `minColumn` is the first column where it
may stand. -/
def lineEnds? (minColumn : Nat) : Nat → Cursor → Option (List Char × Cursor)
  | 0, _ => none
  | steps + 1, cursor =>
    match cursor.rest with
    | [] => some ([], cursor)
    | c :: _ =>
      if isBlank c then
        if c == '\t' && cursor.column < minColumn then none
        else lineEnds? minColumn steps (cursor.skip 1)
      else if isBreak c then
        let (next, lineEnd) := cursor.skipBreak
        (lineEnds? minColumn steps next).map fun (more, finish) => (lineEnd :: more, finish)
      else some ([], cursor)

/-- The gap that starts here, and the place after it. -/
def gap? (minColumn : Nat) (steps : Nat) (cursor : Cursor) : Option (Gap × Cursor) :=
  let blanks := cursor.rest.takeWhile isBlank
  let after := cursor.skip blanks.length
  if after.rest.head?.any isBreak then
    (lineEnds? minColumn steps after).map fun (ends, start) => (.lineEnds ends, start)
  else some (.blanks blanks, after)

/-! ## Plain scalars

A plain scalar has no end of its own. It goes on until something comes that cannot be part of it.
-/

/-- The characters that structure a flow collection. -/
def isFlowIndicator (c : Char) : Bool :=
  c == ',' || c == '[' || c == ']' || c == '\x7b' || c == '\x7d'

/-- A word of a plain scalar. It ends at a blank, at a colon that ends a word, and in a flow
collection at an indicator; a colon right before an indicator is an error there. -/
def plainWord? (inFlow : Bool) : List Char → Option (List Char)
  | [] => some []
  | c :: rest =>
    if isBlank c || isBreak c then some []
    else if inFlow && c == ':' && rest.head?.any fun d => isFlowIndicator d || d == '?' then none
    else if (c == ':' && endsWord rest) || (inFlow && isFlowIndicator c) then some []
    else (plainWord? inFlow rest).map (c :: ·)

/-- A plain scalar from one of its words on, given the gap before that word: its text, whether a
line ended after its last word, and the place after it. -/
def plain? (inFlow : Bool) (minColumn : Nat) :
    Nat → Cursor → Gap → Option (List Char × Bool × Cursor)
  | 0, _, _ => none
  | steps + 1, cursor, gap =>
    if cursor.atDocumentMark || cursor.rest.head? == some '#' then some ([], gap.endsLine, cursor)
    else
      (plainWord? inFlow cursor.rest).bind fun word =>
        let after := cursor.skip word.length
        if word.isEmpty then some ([], gap.endsLine, after)
        else
          let text := gap.folded ++ word
          (gap? minColumn (steps + 1) after).bind fun (next, start) =>
            if start.index == after.index || (!inFlow && start.column < minColumn) then
              some (text, next.endsLine, start)
            else
              (plain? inFlow minColumn steps start next).map fun (more, endsLine, finish) =>
                (text ++ more, endsLine, finish)

/-! ## Quoted scalars -/

/-- The value of a hexadecimal digit of either case. -/
def hexValue? (c : Char) : Option Nat :=
  if '0' ≤ c ∧ c ≤ '9' then some (c.toNat - '0'.toNat)
  else if 'a' ≤ c ∧ c ≤ 'f' then some (c.toNat - 'a'.toNat + 10)
  else if 'A' ≤ c ∧ c ≤ 'F' then some (c.toNat - 'A'.toNat + 10)
  else none

/-- The character whose code the hexadecimal digits spell, if it is one. -/
def charOfHex? (digits : List Char) : Option Char := do
  let code ← digits.foldlM (fun n c => (hexValue? c).map (n * 16 + ·)) 0
  if code.isValidChar then some (Char.ofNat code) else none

/-- The character that an escape by a single character stands for. -/
def unescaped? (c : Char) : Option Char :=
  [('0', '\x00'), ('a', '\x07'), ('b', '\x08'), ('t', '\t'), ('\t', '\t'), ('n', '\n'),
    ('v', '\x0b'), ('f', '\x0c'), ('r', '\r'), ('e', '\x1b'), (' ', ' '), ('"', '"'), ('/', '/'),
    ('\\', '\\'), ('N', '\u0085'), ('_', '\u00a0'), ('L', '\u2028'), ('P', '\u2029')].lookup c

/-- The number of hexadecimal digits after the letter of an escape. -/
def escapeDigits? (c : Char) : Option Nat := [('x', 2), ('u', 4), ('U', 8)].lookup c

/-- A part of a quoted scalar between gaps. -/
structure QuotedWord where
  /-- The characters it spells. -/
  text : List Char := []
  /-- The number of characters it is written with. -/
  width : Nat := 0
  /-- Whether it ends with a backslash at the end of a line. -/
  escapesLineEnd : Bool := false

/-- The word with a character, written with that many, in front. -/
def QuotedWord.push (word : QuotedWord) (c : Char) (width : Nat) : QuotedWord :=
  { word with text := c :: word.text, width := width + word.width }

/-- A word between single quotes, where a quote is written twice. -/
def singleQuotedWord : List Char → QuotedWord
  | [] => {}
  | '\x27' :: '\x27' :: rest => (singleQuotedWord rest).push '\x27' 2
  | c :: rest =>
    if c == '\x27' || isBlank c || isBreak c then {} else (singleQuotedWord rest).push c 1

/-- A word between double quotes, with its escapes. -/
def doubleQuotedWord? : Nat → List Char → Option QuotedWord
  | 0, _ => none
  | _ + 1, [] => some {}
  | steps + 1, c :: rest =>
    if c == '"' || isBlank c || isBreak c then some {}
    else if c == '\\' then
      match rest with
      | [] => none
      | d :: rest =>
        if isBreak d then some { width := 1, escapesLineEnd := true }
        else
          match escapeDigits? d with
          | some count =>
            if rest.length < count then none
            else
              (charOfHex? (rest.take count)).bind fun char =>
                (doubleQuotedWord? steps (rest.drop count)).map (·.push char (2 + count))
          | none =>
            (unescaped? d).bind fun char => (doubleQuotedWord? steps rest).map (·.push char 2)
    else (doubleQuotedWord? steps rest).map (·.push c 1)

/-- A quoted scalar from one of its words on: its text, and the place after its closing quote. -/
def quoted? (quote : Char) : Nat → Cursor → Option (List Char × Cursor)
  | 0, _ => none
  | steps + 1, cursor =>
    if cursor.atDocumentMark || cursor.rest.isEmpty then none
    else
      let word? :=
        if quote == '\x27' then some (singleQuotedWord cursor.rest)
        else doubleQuotedWord? (steps + 1) cursor.rest
      word?.bind fun word =>
        let after := cursor.skip word.width
        if after.rest.head? == some quote then some (word.text, after.skip 1)
        else
          let gapAndStart? :=
            if word.escapesLineEnd then
              -- an escaped line end counts for nothing, and those that follow it are all kept
              lineEnds? 0 (steps + 1) after.skipBreak.1
            else (gap? 0 (steps + 1) after).map fun (gap, start) => (gap.folded, start)
          gapAndStart?.bind fun (folded, start) =>
            (quoted? quote steps start).map fun (more, finish) =>
              (word.text ++ folded ++ more, finish)

end EventCycle.Yaml
