/-
Event cycles: a filter and a grouping, compiled and ready for reads.

The filter says which reads a cycle lets through. A read that is no tag identifier belongs to no
pattern, so it passes exactly where there is no include pattern, like a tag that no pattern speaks
of.

The grouping says which group a read falls into. The group of a read is named by the first group
pattern that claims it; a read that none claims is in the default group. Where two patterns can
claim the same tag, a strict grouping is refused on account of the first such pair, and a lenient
one logs every such pair. Both look at the same list, `overlaps`, which holds the pairs in the
order in which they are declared.

A cycle parses a read once. What is asked of its parts is therefore asked of a parsed read, `none`
standing for a read that is no tag identifier (`acceptsTag`, `groupNameFor?`, `verdict`), and the
operations on texts parse and then ask (`accepts`, `groupName?`, `classify`). The `value_` lemmas
say so, and callers cite them instead of unfolding an operation; what the operations log is left to
the modules that are about the log.
-/
import EventCycle.Pattern.Matching

set_option autoImplicit false

namespace EventCycle

/-! ## Filters

A filter has two lists, and the tests on them are the same. They differ in what it means that a list
is empty, which is why the include patterns are asked whether there are any. -/

/-- The compiled include and exclude patterns, in the order in which they were declared. -/
structure Filter where
  /-- A read has to belong to one of these, if there are any. -/
  includes : List Pattern := []
  /-- A read must belong to none of these. -/
  excludes : List Pattern := []
deriving DecidableEq

namespace Filter

/-- The operation `compile` of filters: reads the include patterns and then the exclude patterns,
all under the usage filter. The first text that cannot be read is reported, so one that is bad
among the excludes is not seen while there is a bad one among the includes. -/
def compile (includes excludes : List String) : Except Pattern.Error Filter := do
  let includes ← readAll (Pattern.parse .filter) includes
  let excludes ← readAll (Pattern.parse .filter) excludes
  return { includes, excludes }

/-- Whether a read belongs to one of the patterns; `none` is a read that is no tag identifier. -/
def anyMatches (patterns : List Pattern) (tag : Option Pattern) : Bool :=
  patterns.any fun pattern => tag.any pattern.matchesTag

/-- Whether an already parsed read passes: the operation `accepts_tag`. No include pattern lets
everything through, and an exclude pattern wins over every include pattern. -/
def acceptsTag (filter : Filter) (tag : Option Pattern) : Bool :=
  (filter.includes.isEmpty || anyMatches filter.includes tag) && !anyMatches filter.excludes tag

/-- **Whether a read passes:** the operation `accepts`. -/
def accepts (filter : Filter) (read : String) : Logged Bool := do
  let tag ← Pattern.readTag .readRefused read
  return filter.acceptsTag tag

/-- A filter accepts a text when it accepts the tag that the text reads as, or nothing. -/
@[simp] theorem value_accepts (filter : Filter) (read : String) :
    (filter.accepts read).value = filter.acceptsTag (Pattern.parse .tag read).toOption := by
  simp [accepts]

end Filter

/-! ## Groupings

Compiling and naming both depend on the order of the patterns: the first overlap is reported, and
the first pattern that claims a read names its group. -/

/-- The compiled group patterns, in the order in which they were declared, which is the order in
which they claim reads. -/
structure Grouping where
  patterns : List Pattern := []
deriving DecidableEq

/-- Why a declaration cannot be compiled. -/
inductive CompileError where
  /-- A pattern text cannot be read. -/
  | pattern (error : Pattern.Error)
  /-- Two group patterns can claim the same tag. -/
  | overlap (first second : Pattern)
deriving DecidableEq

/-- The report of a refused declaration. -/
def CompileError.fault : CompileError → Fault
  | .pattern error => error.fault
  | .overlap first second => .overlappingGroups first.text second.text

namespace Grouping

/-- The pairs of patterns that are not disjoint, the earlier pattern first. The pairs of the first
pattern come before those of the second and so on: the order of two nested loops over the list. -/
def overlaps : List Pattern → List (Pattern × Pattern)
  | [] => []
  | first :: others =>
    (others.filter fun second => !first.disjoint second).map (first, ·) ++ overlaps others

/-- The operation `compile` of groupings: reads the group patterns under the usage group, and then
looks for overlaps. Nothing is logged about a declaration that is refused, since the first overlap
refuses it. -/
def compile (patterns : List String) (requireDisjoint : Bool) :
    Logged (Except CompileError Grouping) :=
  match readAll (Pattern.parse .group) patterns with
  | .error error => pure (.error (.pattern error))
  | .ok patterns =>
    match requireDisjoint, overlaps patterns with
    | true, (first, second) :: _ => pure (.error (.overlap first second))
    | _, pairs => do
      Logged.recordAll (pairs.map fun pair => .groupsOverlap pair.1 pair.2)
      return .ok { patterns }

/-- The group of an already parsed read, `none` being the default group: the operation
`group_name_for` of groupings. Patterns after the first that claims the read are not asked. -/
def groupNameFor? (grouping : Grouping) (tag : Pattern) : Option String :=
  grouping.patterns.findSome? (·.groupNameFor? tag)

/-- **The group of a read:** the operation `group_name` of groupings. `none` is the default group,
which also holds what is no tag identifier. -/
def groupName? (grouping : Grouping) (read : String) : Logged (Option String) := do
  let tag ← Pattern.readTag .readRefused read
  return tag.bind grouping.groupNameFor?

/-- The group of a text is the group of the tag that it reads as. -/
@[simp] theorem value_groupName? (grouping : Grouping) (read : String) :
    (grouping.groupName? read).value =
      (Pattern.parse .tag read).toOption.bind grouping.groupNameFor? := by
  simp [groupName?]

/-- A read in a group is a tag identifier, and it is the tag that gives the group its name. -/
theorem value_groupName?_eq_some_iff {grouping : Grouping} {read name : String} :
    (grouping.groupName? read).value = some name ↔
      ∃ tag, Pattern.parse .tag read = .ok tag ∧ grouping.groupNameFor? tag = some name := by
  rw [value_groupName?, toOption_bind_eq_some_iff]

/-- **Overlaps are the pairs that are not disjoint:** two positions in the list, in order, of
patterns that some tag may share. Positions in order are sublists of length two, so that a pattern
which is declared twice counts as a pair with itself, and a pattern that stands alone does not. The
induction is on the list: a pair either has the head as its first or stands in the tail. -/
theorem mem_overlaps_iff {patterns : List Pattern} {first second : Pattern} :
    (first, second) ∈ overlaps patterns ↔
      [first, second].Sublist patterns ∧ first.disjoint second = false := by
  induction patterns with
  | nil => simp [overlaps]
  | cons head tail ih =>
    rw [overlaps, List.mem_append, ih]
    simp only [List.mem_map, List.mem_filter, Bool.not_eq_true', Prod.mk.injEq]
    constructor
    · rintro (⟨p, ⟨hp, hdisjoint⟩, rfl, rfl⟩ | ⟨hsub, hdisjoint⟩)
      · exact ⟨List.Sublist.cons_cons _ (List.singleton_sublist.mpr hp), hdisjoint⟩
      · exact ⟨hsub.cons _, hdisjoint⟩
    · rintro ⟨hsub, hdisjoint⟩
      -- either both stand in the tail, or the first is the head
      cases hsub with
      | cons _ h => exact .inr ⟨h, hdisjoint⟩
      | cons_cons _ h =>
        exact .inl ⟨second, ⟨List.singleton_sublist.mp h, hdisjoint⟩, rfl, rfl⟩

end Grouping

/-! ## Cycles

A cycle is a filter and a grouping side by side. Nothing ties them together but the order in which
they are asked. -/

/-- What becomes of a read. In the engine's interface this is its `Classification`. -/
inductive Verdict where
  /-- The filter does not let it through. -/
  | rejected
  /-- It is in that group; `none` is the default group. -/
  | accepted (group : Option String)
deriving DecidableEq, Repr

/-- Whether the filter let the read through: the operation `is_accepted`. -/
def Verdict.isAccepted : Verdict → Bool
  | .rejected => false
  | .accepted _ => true

/-- A compiled cycle. Without patterns, as in the default values here, it takes every read into the
default group. -/
structure Cycle where
  name : String := ""
  filter : Filter := {}
  grouping : Grouping := {}
deriving DecidableEq

namespace Cycle

/-- What becomes of an already parsed read. The grouping is asked only if the filter lets the read
through. -/
def verdict (cycle : Cycle) (tag : Option Pattern) : Verdict :=
  if cycle.filter.acceptsTag tag then .accepted (tag.bind cycle.grouping.groupNameFor?)
  else .rejected

/-- **What becomes of a read:** the operation `classify`. -/
def classify (cycle : Cycle) (read : String) : Logged Verdict := do
  let tag ← Pattern.readTag .readRefused read
  return cycle.verdict tag

/-- The verdict on a text is the verdict on the tag that it reads as, or on nothing. -/
@[simp] theorem value_classify (cycle : Cycle) (read : String) :
    (cycle.classify read).value = cycle.verdict (Pattern.parse .tag read).toOption := by
  simp [classify]

end Cycle

end EventCycle
