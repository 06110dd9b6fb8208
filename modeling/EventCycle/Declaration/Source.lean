/-
Declarations of event cycles: what they hold, and where they come from.

A declaration is plain text: its patterns are read when it is compiled, so a declaration may
hold anything. A read passes the filter when it belongs to an include pattern, or there are
none, and to no exclude pattern; the group patterns then say which group it falls into.

As a document a declaration is a record of a name, a filter and a grouping, and these two are
records of lists of patterns. Whatever is missing is empty. The same holds in every data format, so
that `decode?` is written once and given the format; as JSON a declaration is also written, with
every field, whether empty or not.

Documents come as JSON text, as YAML text, and as files of either. The name of a file says what is
in it. Its extension is what follows the last dot of its last part, unless that dot is the first
character; the extension `json` means JSON and everything else YAML.
-/
import EventCycle.Fault
import EventCycle.Json.Value
import EventCycle.Json.Reader
import EventCycle.Text.Segments
import EventCycle.Yaml.Reader

set_option autoImplicit false

namespace EventCycle

/-- What an event cycle is declared with. In the engine's interface this is a `CycleDeclaration`. -/
structure Declaration where
  name : String := ""
  /-- The include patterns of the filter. -/
  includes : List String := []
  /-- The exclude patterns of the filter. -/
  excludes : List String := []
  /-- The group patterns. -/
  groups : List String := []
deriving DecidableEq, Repr

namespace Declaration

/-! ## Putting a declaration together

A declaration grows by one pattern at a time, and the order in which patterns are added is kept. -/

/-- A declaration of that name without patterns: the operation `new`. -/
def named (name : String) : Declaration := { name }

/-- Adds an include pattern after the others: the operation `include`. -/
def addInclude (declaration : Declaration) (pattern : String) : Declaration :=
  { declaration with includes := declaration.includes ++ [pattern] }

/-- Adds an exclude pattern after the others: the operation `exclude`. -/
def addExclude (declaration : Declaration) (pattern : String) : Declaration :=
  { declaration with excludes := declaration.excludes ++ [pattern] }

/-- Adds a group pattern after the others: the operation `group`. -/
def addGroup (declaration : Declaration) (pattern : String) : Declaration :=
  { declaration with groups := declaration.groups ++ [pattern] }

/-! ## Reading documents

The readers follow the nesting of the document, the inner records first. A field that is missing is
empty; one that cannot be understood makes the document no declaration. -/

/-- The include and exclude patterns of a filter. -/
def decodeFilter? {V : Type} (format : DataFormat V) (value : V) :
    Option (List String × List String) :=
  (format.record? ["include", "exclude"] value).bind fun record =>
    (record.field? "include" [] format.texts?).bind fun includes =>
      (record.field? "exclude" [] format.texts?).map fun excludes => (includes, excludes)

/-- The patterns of a grouping. -/
def decodeGroup? {V : Type} (format : DataFormat V) (value : V) : Option (List String) :=
  (format.record? ["patterns"] value).bind fun record => record.field? "patterns" [] format.texts?

/-- The declaration that a value of a data format spells. A field that is there has to be
understood, also where leaving it out would have meant the same. -/
def decode? {V : Type} (format : DataFormat V) (value : V) : Option Declaration :=
  (format.record? ["name", "filter", "group"] value).bind fun record =>
    (record.field? "name" "" format.text?).bind fun name =>
      (record.field? "filter" ([], []) (decodeFilter? format)).bind fun (includes, excludes) =>
        (record.field? "group" [] (decodeGroup? format)).map fun groups =>
          { name, includes, excludes, groups }

/-! ## Writing documents -/

/-- The JSON value of a declaration, with every field. -/
def toJson (declaration : Declaration) : Json.Value :=
  .ofMembers
    [("name", .ofString declaration.name),
      ("filter", .ofMembers
        [("include", .ofStrings declaration.includes),
          ("exclude", .ofStrings declaration.excludes)]),
      ("group", .ofMembers [("patterns", .ofStrings declaration.groups)])]

/-! ## Texts and files

What can go wrong with a text is one thing, that it is no declaration. A file can also be missing,
or hold bytes that are no text. -/

/-- The declaration, or the report that there is none. -/
def orRefuse : Option Declaration → Except Fault Declaration
  | some declaration => .ok declaration
  | none => .error (.invalidDeclaration "the text is no record of a name, a filter and a group")

/-- **The declaration that a JSON text spells:** the operation `from_json`. -/
def ofJson (text : String) : Except Fault Declaration :=
  orRefuse ((Json.read? text).bind (decode? Json.dataFormat))

/-- The declaration that a YAML text spells: the operation `from_yaml`. A text without content
spells the empty one. -/
def ofYaml (text : String) : Except Fault Declaration :=
  orRefuse ((Yaml.read? text).bind (decode? Yaml.dataFormat))

/-- The extension of a file's name, which is the last part of its path. A name without a dot has
none, nor has a name whose only dot is its first character. -/
def extension? (path : String) : Option String :=
  let name := (Text.segments '/' path).getLastD ""
  let parts := Text.segments '.' name
  match parts.dropLast with
  | [] | [""] => none
  | _ => parts.getLast?

/-- The declaration in a file, given by its path and, if it exists, its bytes: the operation
`from_file`. The file is read before its extension is looked at, so what is wrong with the file is
reported first. -/
def ofFile (path : String) (content : Option ByteArray) : Except Fault Declaration :=
  match content with
  | none => .error (.io "No such file or directory (os error 2)")
  | some bytes =>
    match String.fromUTF8? bytes with
    | none => .error (.io "stream did not contain valid UTF-8")
    | some text => if extension? path = some "json" then ofJson text else ofYaml text

end Declaration

end EventCycle
