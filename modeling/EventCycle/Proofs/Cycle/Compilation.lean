/-
What a compiled cycle is made of.

Compiling reads three lists of texts and looks at pairs of group patterns. Seen from a success there
is no order in it: the compiled lists are what the declared texts read as, one for one
(`Grouping.ReadFrom`, `Declaration.ReadAs`), and under strict settings no two group patterns
overlap. `Engine.value_compile_eq_ok_iff` and the lemmas for the two parts say so part by part, and
`Engine.value_compile_eq_ok_iff_readAs` says it of the whole declaration.

Whatever is proved of compiled patterns is through these equivalences a statement about the declared
texts. The main results about cycles therefore repeat `ReadAs` or `ReadFrom` in their conclusions.
-/
import EventCycle.Engine
import EventCycle.Proofs.Pattern.Readable

set_option autoImplicit false

namespace EventCycle

/-! ## Filters -/

/-- A filter is compiled when all its texts are read, in whichever list they stand. -/
theorem Filter.compile_eq_ok_iff {includes excludes : List String} {filter : Filter} :
    Filter.compile includes excludes = .ok filter ↔
      readAll (Pattern.parse .filter) includes = .ok filter.includes ∧
        readAll (Pattern.parse .filter) excludes = .ok filter.excludes := by
  unfold compile
  cases hincludes : readAll (Pattern.parse .filter) includes with
  | error e => simp [bind, Except.bind]
  | ok is =>
    cases hexcludes : readAll (Pattern.parse .filter) excludes with
    | error e => simp [bind, Except.bind]
    | ok es =>
      obtain ⟨fis, fes⟩ := filter
      simp [bind, Except.bind, pure, Except.pure]

/-! ## Groupings

Compiling a grouping also logs, and under lenient settings it logs every overlap. Whether there is a
grouping in the end, and which, can be said without the log. -/

namespace Grouping

/-- The patterns of a grouping are what some texts read as under the usage group, one for one. -/
def ReadFrom (grouping : Grouping) (texts : List String) : Prop :=
  texts.map (Pattern.parse .group) = grouping.patterns.map .ok

/-- There are no overlaps when the patterns are disjoint in pairs. The pairs of the first pattern
stand first in the list of overlaps, and `List.Pairwise` takes them first, too. -/
theorem overlaps_eq_nil_iff {patterns : List Pattern} :
    overlaps patterns = [] ↔ patterns.Pairwise fun p q => p.disjoint q = true := by
  induction patterns with
  | nil => simp [overlaps]
  | cons first others ih =>
    rw [overlaps, List.append_eq_nil_iff, List.map_eq_nil_iff, List.filter_eq_nil_iff,
      List.pairwise_cons, ih]
    simp

theorem eq_iff {a b : Grouping} : a = b ↔ a.patterns = b.patterns := by
  obtain ⟨as⟩ := a
  obtain ⟨bs⟩ := b
  rw [Grouping.mk.injEq]

/-- **A grouping is compiled when its patterns are read** and, under strict settings, do not
overlap. What is logged on the way does not count. -/
theorem value_compile_eq_ok_iff {texts : List String} {requireDisjoint : Bool}
    {grouping : Grouping} :
    (compile texts requireDisjoint).value = .ok grouping ↔
      readAll (Pattern.parse .group) texts = .ok grouping.patterns ∧
        (requireDisjoint = true →
          grouping.patterns.Pairwise fun p q => p.disjoint q = true) := by
  unfold compile
  cases hread : readAll (Pattern.parse .group) texts with
  | error e => simp
  | ok patterns =>
    have hpatterns : Except.ok (ε := CompileError) (Grouping.mk patterns) = .ok grouping ↔
        Except.ok (ε := Pattern.Error) patterns = .ok grouping.patterns := by
      rw [Except.ok.injEq, Except.ok.injEq, Grouping.eq_iff]
    dsimp only
    rw [← overlaps_eq_nil_iff]
    cases requireDisjoint with
    | false => simpa using hpatterns
    | true =>
      cases hoverlaps : overlaps patterns with
      | nil =>
        constructor
        · intro h
          have hread := hpatterns.mp h
          refine ⟨hread, fun _ => ?_⟩
          rw [← Except.ok.inj hread, hoverlaps]
        · exact fun h => hpatterns.mpr h.1
      -- a strict grouping is refused on account of its first overlap
      | cons pair rest =>
        constructor
        · intro h
          exact absurd h (by simp)
        · rintro ⟨hread, hnil⟩
          rw [← Except.ok.inj hread, hoverlaps] at hnil
          exact absurd (hnil rfl) (by simp)

/-- **A compiled grouping is read from its texts.** -/
theorem readFrom_of_compile {texts : List String} {requireDisjoint : Bool} {grouping : Grouping}
    (h : (compile texts requireDisjoint).value = .ok grouping) : grouping.ReadFrom texts :=
  readAll_eq_ok_iff.mp (value_compile_eq_ok_iff.mp h).1

/-- What is compiled has been read, so all that is known of patterns that have been read holds of
the patterns of a grouping. -/
theorem readable_of_compile {texts : List String} {requireDisjoint : Bool} {grouping : Grouping}
    (h : (compile texts requireDisjoint).value = .ok grouping) :
    ∀ pattern ∈ grouping.patterns, pattern.Readable ∧ pattern.usage = .group := by
  intro pattern hpattern
  obtain ⟨hread, -⟩ := value_compile_eq_ok_iff.mp h
  obtain ⟨text, -, hparse⟩ := (mem_iff_of_readAll hread).mp hpattern
  exact ⟨Pattern.readable_of_parse hparse, Pattern.usage_of_parse hparse⟩

end Grouping

/-! ## Cycles

There are two descriptions. The first one has the parts of the computation in it and serves the
lemmas about a filter or a grouping alone; the second one, `ReadAs`, is about patterns and texts. -/

/-- **A cycle is compiled when its filter and its grouping are.** It keeps the declared name. -/
theorem Engine.value_compile_eq_ok_iff {engine : Engine} {declaration : Declaration}
    {cycle : Cycle} :
    (engine.compile declaration).value = .ok cycle ↔
      cycle.name = declaration.name ∧
        Filter.compile declaration.includes declaration.excludes = .ok cycle.filter ∧
        (Grouping.compile declaration.groups engine.config.requireDisjointGroups).value =
          .ok cycle.grouping := by
  obtain ⟨name, filter, grouping⟩ := cycle
  unfold compile
  cases hfilter : Filter.compile declaration.includes declaration.excludes with
  | error e => simp
  | ok compiled =>
    simp only [Logged.value_bind]
    cases hgrouping : (Grouping.compile declaration.groups
        engine.config.requireDisjointGroups).value with
    | error e => simp
    | ok groups =>
      simp only [Logged.value_bind, Logged.value_pure, Except.ok.injEq, Cycle.mk.injEq]
      rw [eq_comm (a := declaration.name)]

/-- The patterns of a cycle are those that the texts of a declaration read as, one for one: filter
patterns for the filter, group patterns for the grouping. -/
structure Declaration.ReadAs (declaration : Declaration) (cycle : Cycle) : Prop where
  /-- The name is no text to be read. -/
  name : cycle.name = declaration.name
  includes : declaration.includes.map (Pattern.parse .filter) = cycle.filter.includes.map .ok
  excludes : declaration.excludes.map (Pattern.parse .filter) = cycle.filter.excludes.map .ok
  groups : cycle.grouping.ReadFrom declaration.groups

/-- **A cycle is compiled when the declaration reads as it** and, under strict settings, its group
patterns are disjoint in pairs. -/
theorem Engine.value_compile_eq_ok_iff_readAs {engine : Engine} {declaration : Declaration}
    {cycle : Cycle} :
    (engine.compile declaration).value = .ok cycle ↔
      declaration.ReadAs cycle ∧
        (engine.config.requireDisjointGroups = true →
          cycle.grouping.patterns.Pairwise fun p q => p.disjoint q = true) := by
  rw [value_compile_eq_ok_iff, Filter.compile_eq_ok_iff, Grouping.value_compile_eq_ok_iff,
    readAll_eq_ok_iff, readAll_eq_ok_iff, readAll_eq_ok_iff]
  constructor
  · rintro ⟨hname, ⟨hincludes, hexcludes⟩, hgroups, hdisjoint⟩
    exact ⟨⟨hname, hincludes, hexcludes, hgroups⟩, hdisjoint⟩
  · rintro ⟨⟨hname, hincludes, hexcludes, hgroups⟩, hdisjoint⟩
    exact ⟨hname, ⟨hincludes, hexcludes⟩, hgroups, hdisjoint⟩

/-- **A compiled cycle is what the declaration reads as.** -/
theorem Engine.readAs_of_compile {engine : Engine} {declaration : Declaration} {cycle : Cycle}
    (h : (engine.compile declaration).value = .ok cycle) : declaration.ReadAs cycle :=
  (value_compile_eq_ok_iff_readAs.mp h).1

end EventCycle
