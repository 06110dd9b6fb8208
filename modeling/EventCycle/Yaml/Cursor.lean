/-
A place in the text of a YAML document: what follows it, and where it is.

Lines and columns matter because indentation does, and because a key has to stand on one line. A
line ends at a line feed, a carriage return or both in a row, and at the three other line ends
of Unicode.

Columns count characters and indices count bytes, because indentation is what a reader sees,
while the length of a key is bounded in bytes.

A place is moved forward only, by `skip` within a line and by `skipBreak` to the next one. The text
before it is forgotten.
-/

set_option autoImplicit false

namespace EventCycle.Yaml

/-! ## Characters

Which characters may occur is asked once, of the whole text. The others are asked wherever a token
may start or end. -/

/-- Whether a character may occur in a document: printable ones, blanks and line ends. -/
def isAllowed (c : Char) : Bool :=
  let code := c.toNat
  code == 0x09 || code == 0x0A || code == 0x0D || (0x20 ≤ code && code ≤ 0x7E) || code == 0x85 ||
    (0xA0 ≤ code && code ≤ 0xD7FF) || (0xE000 ≤ code && code ≤ 0xFFFD) || 0x10000 ≤ code

/-- Whether a character separates words on a line. -/
def isBlank (c : Char) : Bool := c == ' ' || c == '\t'

/-- Whether a character ends a line. -/
def isBreak (c : Char) : Bool :=
  c == '\n' || c == '\r' || c == '\u0085' || c == '\u2028' || c == '\u2029'

/-- Whether a word ends before the characters that follow. -/
def endsWord : List Char → Bool
  | [] => true
  | c :: _ => isBlank c || isBreak c

/-- Whether a line starts with the mark of a document's start or end. -/
def isDocumentMark : List Char → Bool
  | '-' :: '-' :: '-' :: rest => endsWord rest
  | '.' :: '.' :: '.' :: rest => endsWord rest
  | _ => false

/-- Whether a character is the mark that a text may start with. It is passed over there. -/
def isByteOrderMark (c : Char) : Bool := c == '\ufeff'

/-- The number of bytes that characters take up in UTF-8. -/
def byteLength (chars : List Char) : Nat := chars.foldl (fun length c => length + c.utf8Size) 0

/-! ## Places

A place keeps the text that follows it, so readers match on that text, and the three numbers go
along. -/

/-- A place in a text. -/
structure Cursor where
  /-- What follows. -/
  rest : List Char
  /-- The number of bytes before it. -/
  index : Nat := 0
  /-- The number of lines before it. -/
  line : Nat := 0
  /-- The number of characters before it on its line. -/
  column : Nat := 0

namespace Cursor

/-- The place after some characters of the line. The caller sees to it that no line ends among them.
-/
def skip (cursor : Cursor) (count : Nat) : Cursor :=
  { rest := cursor.rest.drop count
    index := cursor.index + byteLength (cursor.rest.take count)
    line := cursor.line
    column := cursor.column + count }

/-- The place after the line end that stands here, and the text that the line end counts for. -/
def skipBreak (cursor : Cursor) : Cursor × Char :=
  match cursor.rest with
  | '\r' :: '\n' :: rest => (⟨rest, cursor.index + 2, cursor.line + 1, 0⟩, '\n')
  | c :: rest =>
    (⟨rest, cursor.index + c.utf8Size, cursor.line + 1, 0⟩,
      if c == '\u2028' || c == '\u2029' then c else '\n')
  | [] => (cursor, '\n')

/-- Whether a document starts or ends on this line. -/
def atDocumentMark (cursor : Cursor) : Bool := cursor.column == 0 && isDocumentMark cursor.rest

end Cursor

end EventCycle.Yaml
