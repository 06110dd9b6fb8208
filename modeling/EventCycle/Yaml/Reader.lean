/-
The nodes of a YAML text.

The reader takes tokens from the front of a list and hands back the others. Every step takes a
token or has just been started by one that did, so the number of steps is bounded by the number
of tokens.

Where a node may be left out, an empty scalar stands in its place; after which tokens it may be left
out depends on what it is a part of.
-/
import EventCycle.Yaml.Lexer
import EventCycle.Yaml.Node

set_option autoImplicit false

namespace EventCycle.Yaml

/-- Whether one of the given tokens comes next. -/
def comes (tokens : List Token) (next : List Token) : Bool :=
  tokens.head?.any next.contains

mutual

/-- The node that starts here, and the tokens after it. A block collection may start only where
`inBlock` says so, and a list of dashes without an indentation of its own only where `afterKey`
does. -/
def node? (inBlock afterKey : Bool) : Nat → List Token → Option (Node × List Token)
  | 0, _ => none
  | steps + 1, tokens =>
    match tokens with
    | .scalar plain text :: rest => some (.scalar plain text, rest)
    | .flowSequence :: rest =>
      (flowItems? true steps rest).map fun (items, rest) => (.sequence items, rest)
    | .flowMapping :: rest =>
      (flowEntries? true steps rest).map fun (entries, rest) => (.mapping entries, rest)
    | .blockSequence :: rest =>
      if inBlock then (blockItems? steps rest).map fun (items, rest) => (.sequence items, rest)
      else none
    | .blockMapping :: rest =>
      if inBlock then (blockEntries? steps rest).map fun (entries, rest) => (.mapping entries, rest)
      else none
    | .entry :: _ =>
      if afterKey then (dashedItems? steps tokens).map fun (items, rest) => (.sequence items, rest)
      else none
    | _ => none

/-- The items of a list of dashes, and the tokens after its end. -/
def blockItems? : Nat → List Token → Option (List Node × List Token)
  | 0, _ => none
  | steps + 1, .entry :: rest =>
    let item? :=
      if comes rest [.entry, .blockEnd] then some (Node.empty, rest)
      else node? true false steps rest
    item?.bind fun (item, rest) =>
      (blockItems? steps rest).map fun (items, rest) => (item :: items, rest)
  | _ + 1, .blockEnd :: rest => some ([], rest)
  | _ + 1, _ => none

/-- The items of a list of dashes that stands at the column of its key, and the tokens after it. -/
def dashedItems? : Nat → List Token → Option (List Node × List Token)
  | 0, _ => none
  | steps + 1, .entry :: rest =>
    let item? :=
      if comes rest [.entry, .key, .value, .blockEnd] then some (Node.empty, rest)
      else node? true false steps rest
    item?.bind fun (item, rest) =>
      (dashedItems? steps rest).map fun (items, rest) => (item :: items, rest)
  | _ + 1, rest => some ([], rest)

/-- The entries of a list of keys, and the tokens after its end. -/
def blockEntries? : Nat → List Token → Option (List (Node × Node) × List Token)
  | 0, _ => none
  | steps + 1, .key :: rest =>
    let key? :=
      if comes rest [.key, .value, .blockEnd] then some (Node.empty, rest)
      else node? true true steps rest
    key?.bind fun (key, rest) =>
      let value? :=
        match rest with
        | .value :: rest =>
          if comes rest [.key, .value, .blockEnd] then some (Node.empty, rest)
          else node? true true steps rest
        | rest => some (Node.empty, rest)
      value?.bind fun (value, rest) =>
        (blockEntries? steps rest).map fun (entries, rest) => ((key, value) :: entries, rest)
  | _ + 1, .blockEnd :: rest => some ([], rest)
  | _ + 1, _ => none

/-- The items of a list in brackets, and the tokens after the closing bracket. An item may be a
single entry of a mapping. If a question mark is followed by no key, the token after it stands
for the key that is left out, whichever it is: a colon, a comma or a closing bracket. -/
def flowItems? (isFirst : Bool) : Nat → List Token → Option (List Node × List Token)
  | 0, _ => none
  | _ + 1, .flowSequenceEnd :: rest => some ([], rest)
  | steps + 1, tokens =>
    let start? :=
      match isFirst, tokens with
      | true, tokens => some tokens
      | false, .comma :: rest => some rest
      | false, _ => none
    start?.bind fun tokens =>
      match tokens with
      | .flowSequenceEnd :: rest => some ([], rest)
      | .key :: rest =>
        let key? :=
          if comes rest [.value, .comma, .flowSequenceEnd] then some (Node.empty, rest.tail)
          else node? false false steps rest
        key?.bind fun (key, rest) =>
          let value? :=
            match rest with
            | .value :: rest =>
              if comes rest [.comma, .flowSequenceEnd] then some (Node.empty, rest)
              else node? false false steps rest
            | rest => some (Node.empty, rest)
          value?.bind fun (value, rest) =>
            (flowItems? false steps rest).map fun (items, rest) =>
              (.mapping [(key, value)] :: items, rest)
      | tokens =>
        (node? false false steps tokens).bind fun (item, rest) =>
          (flowItems? false steps rest).map fun (items, rest) => (item :: items, rest)

/-- The entries of a mapping in braces, and the tokens after the closing brace. -/
def flowEntries? (isFirst : Bool) : Nat → List Token → Option (List (Node × Node) × List Token)
  | 0, _ => none
  | _ + 1, .flowMappingEnd :: rest => some ([], rest)
  | steps + 1, tokens =>
    let start? :=
      match isFirst, tokens with
      | true, tokens => some tokens
      | false, .comma :: rest => some rest
      | false, _ => none
    start?.bind fun tokens =>
      match tokens with
      | .flowMappingEnd :: rest => some ([], rest)
      | .key :: rest =>
        let key? :=
          if comes rest [.value, .comma, .flowMappingEnd] then some (Node.empty, rest)
          else node? false false steps rest
        key?.bind fun (key, rest) =>
          let value? :=
            match rest with
            | .value :: rest =>
              if comes rest [.comma, .flowMappingEnd] then some (Node.empty, rest)
              else node? false false steps rest
            | rest => some (Node.empty, rest)
          value?.bind fun (value, rest) =>
            (flowEntries? false steps rest).map fun (entries, rest) =>
              ((key, value) :: entries, rest)
      | tokens =>
        (node? false false steps tokens).bind fun (key, rest) =>
          (flowEntries? false steps rest).map fun (entries, rest) =>
            ((key, Node.empty) :: entries, rest)

end

/-- The node of the only document. A document without content is an empty scalar. -/
def document? (tokens : List Token) : Option Node :=
  let steps := 2 * tokens.length + 2
  let content? :=
    match tokens with
    | [] => some (Node.empty, [])
    | .documentStart :: rest =>
      if rest.isEmpty || comes rest [.documentStart, .documentEnd] then some (Node.empty, rest)
      else node? true false steps rest
    | tokens => node? true false steps tokens
  content?.bind fun (node, rest) =>
    if rest.all (· == Token.documentEnd) then some node else none

/-- **The node that a text spells.** -/
def read? (text : String) : Option Node := (tokens? text).bind document?

end EventCycle.Yaml
