/-
The tokens of a YAML text.

In the tokens indentation and line breaks are gone: where a block collection starts and ends there
is a token for it.

The lexer keeps the columns of the open block collections. A line that starts further left
closes those it is left of, and a dash or a key further right opens one. A key is known to be
one only at its colon, so each scalar and each collection that may be a key is remembered until
its line ends; the colon then puts the token for the key in front of it.

The covered part of the language has no directives, anchors, aliases, tags or block scalars. A
text that uses one is refused like one that breaks the rules.
-/
import EventCycle.Yaml.Scalar

set_option autoImplicit false

namespace EventCycle.Yaml

/-! ## Tokens -/

/-- A token. -/
inductive Token where
  /-- The line `---`. -/
  | documentStart
  /-- The line `...`. -/
  | documentEnd
  /-- The indentation of a list of dashes begins. -/
  | blockSequence
  /-- The indentation of a list of keys begins. -/
  | blockMapping
  /-- An indentation ends. -/
  | blockEnd
  /-- An opening bracket. -/
  | flowSequence
  /-- A closing bracket. -/
  | flowSequenceEnd
  /-- An opening brace. -/
  | flowMapping
  /-- A closing brace. -/
  | flowMappingEnd
  /-- The dash of an item. -/
  | entry
  /-- A comma. -/
  | comma
  /-- A key follows. -/
  | key
  /-- The colon before a value. -/
  | value
  /-- A text, and whether it is plain. -/
  | scalar (plain : Bool) (text : String)
deriving DecidableEq, Repr

/-! ## The state of the lexer

Besides its place in the text the lexer keeps two stacks: the columns of the open block collections,
and the places where a key may have started. -/

/-- A place where a key may have started. -/
structure KeyStart where
  /-- The number of tokens before it. -/
  place : Nat
  /-- Whether nothing but a key may start there. -/
  required : Bool
  index : Nat
  line : Nat
  column : Nat

/-- The greatest distance between the start of a key and its colon, in bytes. -/
def maxKeyLength : Nat := 1024

/-- Forgets a place where a key may have started. If nothing else may start there, the key is
missed. -/
def KeyStart.dropped? : Option KeyStart → Option (Option KeyStart)
  | some start => if start.required then none else some none
  | none => some none

/-- A lexer on its way through a text. -/
structure Lexer where
  cursor : Cursor
  tokens : Array Token := #[]
  /-- The columns of the open block collections, the innermost first. -/
  indents : List Nat := []
  /-- For each open flow collection, the innermost first, and for the block around them, where a key
  may have started. -/
  keyStarts : List (Option KeyStart) := [none]
  /-- Whether a key may start here. -/
  keyAllowed : Bool := true

namespace Lexer

/-- Whether a bracket or brace is open. Indentation means nothing then. -/
def inFlow (lexer : Lexer) : Bool := 1 < lexer.keyStarts.length

/-- The first column inside the innermost block collection. -/
def minColumn (lexer : Lexer) : Nat :=
  match lexer.indents with
  | [] => 0
  | column :: _ => column + 1

/-- Adds a token after the others. -/
def push (lexer : Lexer) (token : Token) : Lexer := { lexer with tokens := lexer.tokens.push token }

/-- Passes over some characters of the line. -/
def advance (lexer : Lexer) (count : Nat) : Lexer :=
  { lexer with cursor := lexer.cursor.skip count }

/-! ## Between tokens

What stands between two tokens is passed over, and what the end of a line decides is decided here.
-/

/-- Passes over blanks, comments and line ends. At the start of a line of a block, tabs are no
blanks, since they would stand for indentation. A line may start with a byte order mark, which
is passed over but takes up a column. -/
def skipSpace : Nat → Lexer → Lexer
  | 0, lexer => lexer
  | steps + 1, lexer =>
    match lexer.cursor.rest with
    | [] => lexer
    | c :: rest =>
      if c == ' ' || (c == '\t' && (lexer.inFlow || !lexer.keyAllowed)) ||
          (isByteOrderMark c && lexer.cursor.column == 0) then
        skipSpace steps (lexer.advance 1)
      else if c == '#' then
        skipSpace steps (lexer.advance (1 + (rest.takeWhile fun d => !isBreak d).length))
      else if isBreak c then
        skipSpace steps
          { lexer with
            cursor := lexer.cursor.skipBreak.1
            keyAllowed := lexer.keyAllowed || !lexer.inFlow }
      else lexer

/-- Forgets the places where a key can no longer have started, because the line has ended or
they are too far back. -/
def dropStaleKeys? (lexer : Lexer) : Option Lexer := do
  let keyStarts ← lexer.keyStarts.mapM fun keyStart =>
    if keyStart.any fun start =>
        start.line < lexer.cursor.line || start.index + maxKeyLength < lexer.cursor.index then
      KeyStart.dropped? keyStart
    else some keyStart
  return { lexer with keyStarts }

/-! ## Block collections

Inside brackets or braces indentation means nothing, and all of these leave the lexer as it is. -/

/-- Closes the block collections that the column is left of. -/
def closeBlocks (column : Nat) (lexer : Lexer) : Lexer :=
  if lexer.inFlow then lexer
  else
    let closed := (lexer.indents.takeWhile (column < ·)).length
    { lexer with
      tokens := lexer.tokens ++ Array.replicate closed Token.blockEnd
      indents := lexer.indents.drop closed }

/-- Closes every block collection, as the end of a document does. -/
def closeAllBlocks (lexer : Lexer) : Lexer :=
  if lexer.inFlow then lexer
  else
    { lexer with
      tokens := lexer.tokens ++ Array.replicate lexer.indents.length Token.blockEnd
      indents := [] }

/-- Opens a block collection at a column that is right of the innermost one, with its token at the
given place. -/
def openBlock (column place : Nat) (token : Token) (lexer : Lexer) : Lexer :=
  if lexer.inFlow || column < lexer.minColumn then lexer
  else
    { lexer with
      tokens := lexer.tokens.insertIdxIfInBounds place token
      indents := column :: lexer.indents }

/-! ## Keys

A key that may start here is remembered by its place among the tokens, where the token for it would
have to go. -/

/-- Remembers that a key may start here. -/
def markKey? (lexer : Lexer) : Option Lexer :=
  if lexer.keyAllowed then
    let required :=
      !lexer.inFlow && lexer.indents.head? == some lexer.cursor.column
    (KeyStart.dropped? lexer.keyStarts.head?.join).map fun _ =>
      let start : KeyStart :=
        { place := lexer.tokens.size, required, index := lexer.cursor.index,
          line := lexer.cursor.line, column := lexer.cursor.column }
      { lexer with keyStarts := some start :: lexer.keyStarts.tail }
  else some lexer

/-- Forgets that a key may have started. -/
def dropKey? (lexer : Lexer) : Option Lexer :=
  (KeyStart.dropped? lexer.keyStarts.head?.join).map fun start =>
    { lexer with keyStarts := start :: lexer.keyStarts.tail }

/-! ## One token after another

There is a reader for each kind of token, and `next?` tells by the first characters which one it is.
-/

/-- The mark of a document's start or end. -/
def documentMark? (token : Token) (lexer : Lexer) : Option Lexer :=
  (dropKey? lexer.closeAllBlocks).map fun lexer =>
    { (lexer.advance 3).push token with keyAllowed := false }

/-- An opening bracket or brace. -/
def flowStart? (token : Token) (lexer : Lexer) : Option Lexer :=
  lexer.markKey?.map fun lexer =>
    { (lexer.advance 1).push token with keyStarts := none :: lexer.keyStarts, keyAllowed := true }

/-- A closing bracket or brace. -/
def flowEnd? (token : Token) (lexer : Lexer) : Option Lexer :=
  lexer.dropKey?.map fun lexer =>
    { (lexer.advance 1).push token with
      keyStarts := if lexer.inFlow then lexer.keyStarts.tail else lexer.keyStarts
      keyAllowed := false }

/-- A comma. -/
def comma? (lexer : Lexer) : Option Lexer :=
  lexer.dropKey?.map fun lexer => { (lexer.advance 1).push .comma with keyAllowed := true }

/-- The dash of an item. In a block it must stand where a key may. -/
def entry? (lexer : Lexer) : Option Lexer :=
  if !lexer.inFlow && !lexer.keyAllowed then none
  else
    (lexer.openBlock lexer.cursor.column lexer.tokens.size .blockSequence).dropKey?.map fun lexer =>
      { (lexer.advance 1).push .entry with keyAllowed := true }

/-- The question mark before a key. In a block it must stand where a key may. -/
def key? (lexer : Lexer) : Option Lexer :=
  if !lexer.inFlow && !lexer.keyAllowed then none
  else
    (lexer.openBlock lexer.cursor.column lexer.tokens.size .blockMapping).dropKey?.map fun lexer =>
      { (lexer.advance 1).push .key with keyAllowed := !lexer.inFlow }

/-- The colon before a value. If a key has started on this line, this colon makes it one. -/
def value? (lexer : Lexer) : Option Lexer :=
  match lexer.keyStarts with
  | some start :: outer =>
    let marked :=
      { lexer with
        tokens := lexer.tokens.insertIdxIfInBounds start.place .key
        keyStarts := none :: outer
        keyAllowed := false }
    some (((marked.openBlock start.column start.place .blockMapping).advance 1).push .value)
  | _ =>
    if !lexer.inFlow && !lexer.keyAllowed then none
    else
      let opened := lexer.openBlock lexer.cursor.column lexer.tokens.size .blockMapping
      some { (opened.advance 1).push .value with keyAllowed := !lexer.inFlow }

/-- A quoted scalar. -/
def quotedScalar? (quote : Char) (steps : Nat) (lexer : Lexer) : Option Lexer := do
  let lexer ← lexer.markKey?
  let (text, cursor) ← quoted? quote steps (lexer.cursor.skip 1)
  return { lexer.push (.scalar false (String.ofList text)) with cursor, keyAllowed := false }

/-- A plain scalar. If a line ended after it, a key may start next. -/
def plainScalar? (steps : Nat) (lexer : Lexer) : Option Lexer := do
  let lexer ← lexer.markKey?
  let (text, endsLine, cursor) ← plain? lexer.inFlow lexer.minColumn steps lexer.cursor (.blanks [])
  return { lexer.push (.scalar true (String.ofList text)) with cursor, keyAllowed := endsLine }

/-- Whether a plain scalar cannot start with that character. -/
def isIndicator (c : Char) : Bool :=
  ['-', '?', ':', ',', '[', ']', '\x7b', '\x7d', '#', '&', '*', '!', '|', '>', '\x27', '"', '%',
    '@', '\x60'].contains c

/-- The token that starts here with a character, the rest following. -/
def next? (steps : Nat) (c : Char) (rest : List Char) (lexer : Lexer) : Option Lexer :=
  if lexer.cursor.column == 0 && c == '%' then none
  else if lexer.cursor.atDocumentMark then
    lexer.documentMark? (if c == '-' then .documentStart else .documentEnd)
  else if c == '[' then lexer.flowStart? .flowSequence
  else if c == '\x7b' then lexer.flowStart? .flowMapping
  else if c == ']' then lexer.flowEnd? .flowSequenceEnd
  else if c == '\x7d' then lexer.flowEnd? .flowMappingEnd
  else if c == ',' then lexer.comma?
  else if c == '-' && endsWord rest then lexer.entry?
  else if c == '?' && (lexer.inFlow || endsWord rest) then lexer.key?
  else if c == ':' && (lexer.inFlow || endsWord rest) then lexer.value?
  else if c == '\x27' || c == '"' then lexer.quotedScalar? c steps
  else if !isBlank c && (!isIndicator c || (c == '-' && !rest.head?.any isBlank) ||
      (!lexer.inFlow && (c == '?' || c == ':') && !endsWord rest)) then
    lexer.plainScalar? steps
  else none

/-- The tokens up to the end of the text, with more steps than there are characters left. -/
def run? : Nat → Lexer → Option (List Token)
  | 0, _ => none
  | steps + 1, lexer => do
    let lexer := skipSpace (steps + 1) lexer
    let lexer ← lexer.dropStaleKeys?
    let lexer := lexer.closeBlocks lexer.cursor.column
    match lexer.cursor.rest with
    | [] => (← dropKey? lexer.closeAllBlocks).tokens.toList
    | c :: rest => run? steps (← lexer.next? (steps + 1) c rest)

end Lexer

/-- **The tokens of a text,** unless it breaks the rules of the language. -/
def tokens? (text : String) : Option (List Token) :=
  if text.toList.all isAllowed then
    Lexer.run? (text.toList.length + 1) { cursor := { rest := text.toList } }
  else none

end EventCycle.Yaml
