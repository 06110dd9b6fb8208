/-
Declarations survive JSON.

A declaration is written as an object of objects, and there are many objects that say the same: on
either level the members may stand in another order, and what is empty may be left out, a whole
filter or grouping as well as a list in it. `SpelledBy` holds of all of these, and the text of each
is read as the declaration. What is written as the name or as a pattern is any text.

The main statement is `ofJson_undoes_writing`. Reading is the same for every data format and is gone
through here on values (`decode?_of_spelledBy`); that the text of a value is read as the value is
`Json.read?_text`.
-/
import EventCycle.Declaration.Source
import EventCycle.Proofs.Json.Records

set_option autoImplicit false

namespace EventCycle.Declaration

open EventCycle.Json

variable {declaration : Declaration} {filter group : List (String × Json.Value)}
  {value : Json.Value}

/-! ## The objects that spell a declaration

An object is described by its entries: for each a name, a value, and when it may be left out. What
`Holds` allows an object to be, given its entries, does not depend on declarations. -/

/-- The fields of the filter. -/
def filterEntries (declaration : Declaration) : List Entry :=
  [⟨"include", .ofStrings declaration.includes, declaration.includes = []⟩,
    ⟨"exclude", .ofStrings declaration.excludes, declaration.excludes = []⟩]

/-- The field of the grouping. -/
def groupEntries (declaration : Declaration) : List Entry :=
  [⟨"patterns", .ofStrings declaration.groups, declaration.groups = []⟩]

/-- The fields of the declaration, given how its filter and its grouping are written. -/
def entries (declaration : Declaration) (filter group : List (String × Json.Value)) :
    List Entry :=
  [⟨"name", .ofString declaration.name, declaration.name = ""⟩,
    ⟨"filter", .ofMembers filter, declaration.includes = [] ∧ declaration.excludes = []⟩,
    ⟨"group", .ofMembers group, declaration.groups = []⟩]

/-- **The values that spell a declaration:** its fields and theirs are in any order, and any of them
that are empty may be missing. -/
inductive SpelledBy (declaration : Declaration) : Json.Value → Prop where
  | object {filter group members : List (String × Json.Value)}
    (filterHolds : Holds declaration.filterEntries filter)
    (groupHolds : Holds declaration.groupEntries group)
    (holds : Holds (declaration.entries filter group) members) :
    SpelledBy declaration (.ofMembers members)

/-- With every field and in the usual order. -/
theorem spelledBy_toJson (declaration : Declaration) :
    declaration.SpelledBy declaration.toJson := by
  have hfilter : Holds declaration.filterEntries
      [("include", .ofStrings declaration.includes),
        ("exclude", .ofStrings declaration.excludes)] := holds_all (by simp [filterEntries])
  have hgroup : Holds declaration.groupEntries
      [("patterns", .ofStrings declaration.groups)] := holds_all (by simp [groupEntries])
  exact .object hfilter hgroup (holds_all (by simp [entries]))

/-! ## Reading them

From the inside to the outside: the filter, the grouping, the declaration, and then its text. -/

/-- An object with the fields of the filter is understood as the filter. -/
theorem decodeFilter?_of_holds (h : Holds declaration.filterEntries filter) :
    decodeFilter? Json.dataFormat (.ofMembers filter) =
      some (declaration.includes, declaration.excludes) := by
  have hrecord : Json.dataFormat.record? ["include", "exclude"] (.ofMembers filter) = some filter :=
    h.record?_eq rfl
  have hincludes : Record.field? filter "include" [] Json.dataFormat.texts? =
      some declaration.includes :=
    h.field?_eq (by simp [filterEntries]) (.head _) (texts?_ofStrings _) Eq.symm
  have hexcludes : Record.field? filter "exclude" [] Json.dataFormat.texts? =
      some declaration.excludes :=
    h.field?_eq (by simp [filterEntries]) (.tail _ (.head _)) (texts?_ofStrings _) Eq.symm
  rw [decodeFilter?, hrecord, Option.bind_some, hincludes, Option.bind_some, hexcludes,
    Option.map_some]

/-- An object with the field of the grouping is understood as the grouping. -/
theorem decodeGroup?_of_holds (h : Holds declaration.groupEntries group) :
    decodeGroup? Json.dataFormat (.ofMembers group) = some declaration.groups := by
  have hrecord : Json.dataFormat.record? ["patterns"] (.ofMembers group) = some group :=
    h.record?_eq rfl
  have hpatterns : Record.field? group "patterns" [] Json.dataFormat.texts? =
      some declaration.groups :=
    h.field?_eq (by simp [groupEntries]) (.head _) (texts?_ofStrings _) Eq.symm
  rw [decodeGroup?, hrecord, Option.bind_some, hpatterns]

/-- **A value that spells a declaration is understood as the declaration.** Each field is looked up
by its name, so their order does not count, and a field that is missing was the default. -/
theorem decode?_of_spelledBy (h : declaration.SpelledBy value) :
    decode? Json.dataFormat value = some declaration := by
  obtain @⟨filter, group, members, hfilter, hgroup, h⟩ := h
  have hnames : ((declaration.entries filter group).map Entry.name).Nodup := by simp [entries]
  have hrecord : Json.dataFormat.record? ["name", "filter", "group"] (.ofMembers members) =
      some members := h.record?_eq rfl
  have hname : Record.field? members "name" "" Json.dataFormat.text? = some declaration.name :=
    h.field?_eq hnames (.head _) rfl Eq.symm
  have hfilter : Record.field? members "filter" ([], []) (decodeFilter? Json.dataFormat) =
      some (declaration.includes, declaration.excludes) := by
    refine h.field?_eq hnames (.tail _ (.head _)) (decodeFilter?_of_holds hfilter) ?_
    rintro ⟨hincludes, hexcludes⟩
    rw [hincludes, hexcludes]
  have hgroup : Record.field? members "group" [] (decodeGroup? Json.dataFormat) =
      some declaration.groups :=
    h.field?_eq hnames (.tail _ (.tail _ (.head _))) (decodeGroup?_of_holds hgroup) Eq.symm
  rw [decode?, hrecord, Option.bind_some, hname, Option.bind_some, hfilter, Option.bind_some,
    hgroup]
  rfl

/-- Only strings stand in a declaration, and no numbers. -/
theorem spellable_of_spelledBy (h : declaration.SpelledBy value) : value.Spellable := by
  obtain ⟨hfilter, hgroup, h⟩ := h
  have hfilter := hfilter.spellable (by simp [filterEntries, Value.spellable_ofStrings])
  have hgroup := hgroup.spellable (by simp [groupEntries, Value.spellable_ofStrings])
  have hname : (Value.ofString declaration.name).Spellable := .string _
  exact h.spellable (by simp [entries, hname, hfilter, hgroup])

theorem ofJson_of_spelledBy (h : declaration.SpelledBy value) :
    ofJson value.text = .ok declaration := by
  rw [ofJson, read?_text (spellable_of_spelledBy h), Option.bind_some, decode?_of_spelledBy h]
  rfl

/-- **Declarations survive JSON.** The text of a declaration is read as the declaration, so no other
declaration has that text. The same is read if, on any level, members are put in another order or
empty ones are left out. -/
theorem ofJson_undoes_writing (declaration : Declaration) :
    ofJson declaration.toJson.text = .ok declaration ∧
      (∀ other : Declaration, other.toJson.text = declaration.toJson.text → other = declaration) ∧
      ∀ value, declaration.SpelledBy value → ofJson value.text = .ok declaration := by
  have hread := ofJson_of_spelledBy (spelledBy_toJson declaration)
  refine ⟨hread, fun other hsame => ?_, fun value => ofJson_of_spelledBy⟩
  have hother := ofJson_of_spelledBy (spelledBy_toJson other)
  rw [hsame, hread] at hother
  exact (Except.ok.inj hother).symm

/-- The grouping and the excluded patterns are left out, and the name comes last. -/
theorem ofJson_of_short_text :
    ofJson "\x7b\"filter\":\x7b\"include\":[\"\\\"\\\\\\u0001😀\"]\x7d,\"name\":\"a\\nb\"\x7d" =
      .ok ⟨"a\nb", ["\"\\\x01😀"], [], []⟩ := by
  have hfilter : Holds (filterEntries ⟨"a\nb", ["\"\\\x01😀"], [], []⟩)
      [("include", .ofStrings ["\"\\\x01😀"])] := by
    constructor <;> simp [filterEntries]
  have hgroup : Holds (groupEntries ⟨"a\nb", ["\"\\\x01😀"], [], []⟩) [] := by
    constructor <;> simp [groupEntries]
  have hmembers : Holds
      (entries ⟨"a\nb", ["\"\\\x01😀"], [], []⟩ [("include", .ofStrings ["\"\\\x01😀"])] [])
      [("filter", .ofMembers [("include", .ofStrings ["\"\\\x01😀"])]),
        ("name", .ofString "a\nb")] := by
    constructor <;> simp [entries]
  have htext : (Value.ofMembers
      [("filter", .ofMembers [("include", .ofStrings ["\"\\\x01😀"])]),
        ("name", .ofString "a\nb")]).text =
      "\x7b\"filter\":\x7b\"include\":[\"\\\"\\\\\\u0001😀\"]\x7d,\"name\":\"a\\nb\"\x7d" := by
    rw [Value.text, ← String.toList_inj, String.toList_ofList]
    simp only [Value.ofMembers, Value.ofStrings, Value.ofString, List.map_cons, List.map_nil,
      valueChars, membersChars, itemsChars, stringChars, quoted]
    decide
  rw [← htext]
  exact (ofJson_undoes_writing _).2.2 _ (.object hfilter hgroup hmembers)

end EventCycle.Declaration
