/-
Data formats, as far as settings and declarations need them.

Settings and declarations are records, lists of texts, texts, truth values and counts. A data format
says how its values are understood as these; what a record must hold is then said once for all
formats.

In a record every field may be missing, unknown names are passed over, and a known name may occur
once. So the order of the fields and whatever else a record holds make no difference, which is said
by `lookup` on the known fields.

Decoding fails as a whole or not at all: a field that is there and not understood is not replaced by
its default.
-/

set_option autoImplicit false

namespace EventCycle

/-! ## Records -/

/-- The known fields of a record, by name. -/
abbrev Record (V : Type) := List (String × V)

namespace Record

variable {V α : Type}

/-- The members with a known name, unless such a name is repeated. An unknown name may be. -/
def ofMembers? (names : List String) (members : List (String × V)) : Option (Record V) :=
  let known := members.filter fun member => names.contains member.1
  if (known.map Prod.fst).Nodup then some known else none

/-- The values of the first known names, in order, unless there are more values than names. A format
that writes records as lists leaves out fields at the end only. -/
def ofItems? (names : List String) (items : List V) : Option (Record V) :=
  if items.length ≤ names.length then some (names.zip items) else none

/-- What a field says, or the default if it is missing. -/
def field? (record : Record V) (name : String) (default : α) (decode : V → Option α) : Option α :=
  match record.lookup name with
  | none => some default
  | some value => decode value

end Record

/-! ## Formats -/

/-- How the values of a data format are understood. -/
structure DataFormat (V : Type) where
  /-- The fields of a record with those names. -/
  record? : List String → V → Option (Record V)
  /-- A text. -/
  text? : V → Option String
  /-- The items of a list. -/
  items? : V → Option (List V)
  /-- A truth value. -/
  bool? : V → Option Bool
  /-- A count of at most 64 bits. -/
  count? : V → Option Nat

/-- The texts of a list of texts. -/
def DataFormat.texts? {V : Type} (format : DataFormat V) (value : V) : Option (List String) :=
  (format.items? value).bind fun items => items.mapM format.text?

end EventCycle
