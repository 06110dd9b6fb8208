/-
What a pattern is used for, and which field syntaxes that allows.

    usage     literal   `*`   `X`   `[lo-hi]`
    tag       yes       no    no    no
    filter    yes       yes   no    yes
    group     yes       yes   yes   yes

Each usage allows what those above it allow. The table is read off three tests, one for each column
that is not always `yes`, and the words for the user are written beside them.
-/

set_option autoImplicit false

namespace EventCycle

/-- The role of a pattern. In the engine's interface this is its `PatternUsage`. -/
inductive Usage where
  /-- A concrete tag identifier: literals only. -/
  | tag
  /-- A pattern that lets reads through a filter. -/
  | filter
  /-- A pattern that names the group of a read. -/
  | group
deriving DecidableEq, Repr

namespace Usage

/-- The usages, in order of what they allow. -/
def all : List Usage := [.tag, .filter, .group]

/-- The name of a usage, as it stands in documents. -/
def name : Usage → String
  | .tag => "TAG"
  | .filter => "FILTER"
  | .group => "GROUP"

/-- The usage of that name. Case counts. -/
def ofName? (name : String) : Option Usage := all.find? (·.name == name)

/-- Filters and groups may leave a position open with `*`: the operation `allows_wildcard`. -/
def allowsWildcard : Usage → Bool
  | .tag => false
  | .filter | .group => true

/-- Only groups may name a position with `X`: the operation `allows_named_wildcard`. -/
def allowsNamedWildcard : Usage → Bool
  | .tag | .filter => false
  | .group => true

/-- Filters and groups may give a position as a range: the operation `allows_range`. -/
def allowsRange : Usage → Bool
  | .tag => false
  | .filter | .group => true

/-- The field syntaxes that a usage allows, in words: the operation `allowed_syntax`. The report of
a refused token says so. -/
def allowedSyntax : Usage → String
  | .tag => "Only 'int' is allowed."
  | .filter => "Only '*', '[lo-hi]' or 'int' are allowed."
  | .group => "Only '*', 'X', '[lo-hi]' or 'int' are allowed."

theorem ofName?_name (usage : Usage) : ofName? usage.name = some usage := by
  cases usage <;> decide

/-- A name names a usage exactly when it is that usage's name. -/
theorem ofName?_eq_some_iff {name : String} {usage : Usage} :
    ofName? name = some usage ↔ name = usage.name := by
  constructor
  · intro h
    have hfound := List.find?_some h
    exact (beq_iff_eq.mp hfound).symm
  · rintro rfl
    exact ofName?_name usage

end Usage

end EventCycle
