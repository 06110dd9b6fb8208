/-
Under strict settings the order of a declaration does not matter.

A filter asks whether some pattern matches, which no order can change. A grouping asks for the
first pattern that matches, and there strict settings make the difference. The pairs that are
looked at when overlaps are refused are the pairs of an earlier and a later pattern; since
disjointness is symmetric, that is every pair, in whichever order the patterns stand. So the
patterns of a strict grouping are disjoint in pairs, disjoint patterns share no tag
(`Pattern.no_common_member_of_disjoint`), and the first pattern that matches a tag is the only
one.

The main statement is `Engine.compile_reordered`. A declaration and a rearrangement of it are
compiled or refused together, and their cycles cannot be told apart by reads.
-/
import EventCycle.Proofs.Cycle.Batch
import EventCycle.Proofs.Cycle.Compilation
import EventCycle.Proofs.Pattern.Disjointness

set_option autoImplicit false

namespace EventCycle

/-! ## Searching in any order

The search for a name stops at the first item that has one. It finds the same in every order if no
two items have a result, which is what strict settings will be used for. -/

section Search

variable {α β : Type} {f : α → Option β} {l l' : List α}

/-- If at most one item has a result, the search finds the result of whatever item has one. The
induction is on the list, and goes past an item without a result. -/
theorem findSome?_eq_some_iff_of_pairwise (h : l.Pairwise fun a b => f a = none ∨ f b = none)
    {result : β} : l.findSome? f = some result ↔ ∃ a ∈ l, f a = some result := by
  constructor
  · exact List.exists_of_findSome?_eq_some
  · intro hexists
    induction l with
    | nil =>
      obtain ⟨a, ha, -⟩ := hexists
      exact absurd ha (by simp)
    | cons head tail ih =>
      obtain ⟨hhead, htail⟩ := List.pairwise_cons.mp h
      obtain ⟨a, ha, hresult⟩ := hexists
      rw [List.findSome?_cons]
      rcases List.mem_cons.mp ha with rfl | ha
      · rw [hresult]
      -- a result in the tail leaves none for the head
      · rcases hhead a ha with hnone | hnone
        · rw [hnone]
          exact ih htail ⟨a, ha, hresult⟩
        · exact absurd (hnone.symm.trans hresult) (by simp)

/-- If at most one item has a result, the search does not depend on the order. -/
theorem findSome?_eq_of_perm (hperm : l.Perm l')
    (h : l.Pairwise fun a b => f a = none ∨ f b = none) : l.findSome? f = l'.findSome? f := by
  have h' : l'.Pairwise fun a b => f a = none ∨ f b = none :=
    (hperm.pairwise_iff fun hab => hab.symm).mp h
  ext result
  rw [findSome?_eq_some_iff_of_pairwise h, findSome?_eq_some_iff_of_pairwise h']
  constructor
  · rintro ⟨a, ha, hresult⟩
    exact ⟨a, hperm.mem_iff.mp ha, hresult⟩
  · rintro ⟨a, ha, hresult⟩
    exact ⟨a, hperm.mem_iff.mpr ha, hresult⟩

end Search

/-! ## Filters -/

/-- A filter asks whether some pattern matches, and whether there are any. Neither depends on the
order. -/
theorem Filter.acceptsTag_eq_of_perm {filter filter' : Filter}
    (hincludes : filter.includes.Perm filter'.includes)
    (hexcludes : filter.excludes.Perm filter'.excludes) (tag : Option Pattern) :
    filter.acceptsTag tag = filter'.acceptsTag tag := by
  have hempty : filter.includes.isEmpty = filter'.includes.isEmpty := by
    rw [Bool.eq_iff_iff, List.isEmpty_iff_length_eq_zero, List.isEmpty_iff_length_eq_zero,
      hincludes.length_eq]
  have hany : anyMatches filter.includes tag = anyMatches filter'.includes tag := hincludes.any_eq
  have hnone : anyMatches filter.excludes tag = anyMatches filter'.excludes tag := hexcludes.any_eq
  rw [acceptsTag, acceptsTag, hempty, hany, hnone]

/-- A rearranged filter is compiled to a rearrangement of the filter. -/
theorem Filter.compile_perm {includes includes' excludes excludes' : List String} {filter : Filter}
    (hincludes : includes.Perm includes') (hexcludes : excludes.Perm excludes')
    (h : compile includes excludes = .ok filter) :
    ∃ filter', compile includes' excludes' = .ok filter' ∧
      filter.includes.Perm filter'.includes ∧ filter.excludes.Perm filter'.excludes := by
  obtain ⟨his, hes⟩ := compile_eq_ok_iff.mp h
  obtain ⟨is', his', hincludes'⟩ := readAll_perm hincludes his
  obtain ⟨es', hes', hexcludes'⟩ := readAll_perm hexcludes hes
  exact ⟨⟨is', es'⟩, compile_eq_ok_iff.mpr ⟨his', hes'⟩, hincludes', hexcludes'⟩

/-! ## Strict groupings -/

namespace Grouping

/-- The patterns of a grouping are disjoint in pairs, an earlier one from every later one. Since
disjointness is symmetric, that is every pair. -/
def Strict (grouping : Grouping) : Prop :=
  grouping.patterns.Pairwise fun p q => p.disjoint q = true

/-- No read belongs to the patterns at two positions. A pattern that has members and stands at two
positions is excluded by this, too. -/
def Exclusive (grouping : Grouping) : Prop :=
  ∀ (read : String) (i j : Nat) (p q : Pattern), grouping.patterns[i]? = some p →
    grouping.patterns[j]? = some q → (p.isMember read).value = true →
      (q.isMember read).value = true → i = j

/-- The patterns at two positions of a strict grouping share no read. -/
theorem Strict.no_common_member {grouping : Grouping} (h : grouping.Strict) {i j : Nat}
    {p q : Pattern} (hij : i < j) (hp : grouping.patterns[i]? = some p)
    (hq : grouping.patterns[j]? = some q) (read : String) :
    ¬ ((p.isMember read).value = true ∧ (q.isMember read).value = true) := by
  obtain ⟨hi, rfl⟩ := List.getElem?_eq_some_iff.mp hp
  obtain ⟨hj, rfl⟩ := List.getElem?_eq_some_iff.mp hq
  exact Pattern.no_common_member_of_disjoint (List.pairwise_iff_getElem.mp h i j hi hj hij) read

/-- **A read belongs to at most one pattern of a strict grouping.** -/
theorem Strict.exclusive {grouping : Grouping} (h : grouping.Strict) : grouping.Exclusive := by
  intro read i j p q hp hq hpread hqread
  rcases Nat.lt_trichotomy i j with hlt | heq | hgt
  · exact absurd ⟨hpread, hqread⟩ (h.no_common_member hlt hp hq read)
  · exact heq
  · exact absurd ⟨hqread, hpread⟩ (h.no_common_member hgt hq hp read)

/-- At most one pattern of a strict grouping gives a tag a name. -/
theorem Strict.pairwise_groupNameFor? {grouping : Grouping} (h : grouping.Strict) (tag : Pattern) :
    grouping.patterns.Pairwise fun p q =>
      p.groupNameFor? tag = none ∨ q.groupNameFor? tag = none := by
  refine List.Pairwise.imp ?_ h
  intro p q hdisjoint
  -- two names for one tag would make it a common match of disjoint patterns
  cases hp : p.groupNameFor? tag with
  | none => exact .inl rfl
  | some name =>
    cases hq : q.groupNameFor? tag with
    | none => exact .inr rfl
    | some name' =>
      obtain ⟨-, hpmatches, -⟩ := Pattern.groupNameFor?_eq_some_iff.mp hp
      obtain ⟨-, hqmatches, -⟩ := Pattern.groupNameFor?_eq_some_iff.mp hq
      rw [Pattern.disjoint_eq_false_of_matchesTag hpmatches hqmatches] at hdisjoint
      exact absurd hdisjoint (by decide)

/-- A strict grouping names tags alike in any order of its patterns. -/
theorem Strict.groupNameFor?_eq_of_perm {grouping grouping' : Grouping} (h : grouping.Strict)
    (hperm : grouping.patterns.Perm grouping'.patterns) :
    grouping.groupNameFor? = grouping'.groupNameFor? := by
  funext tag
  exact findSome?_eq_of_perm hperm (h.pairwise_groupNameFor? tag)

/-- A rearranged strict grouping is compiled to a rearrangement of the grouping. -/
theorem compile_perm {texts texts' : List String} {grouping : Grouping} (hperm : texts.Perm texts')
    (h : (compile texts true).value = .ok grouping) :
    ∃ grouping', (compile texts' true).value = .ok grouping' ∧
      grouping.patterns.Perm grouping'.patterns := by
  obtain ⟨hread, hdisjoint⟩ := value_compile_eq_ok_iff.mp h
  obtain ⟨patterns', hread', hpatterns⟩ := readAll_perm hperm hread
  refine ⟨⟨patterns'⟩, value_compile_eq_ok_iff.mpr ⟨hread', fun _ => ?_⟩, hpatterns⟩
  -- disjointness is symmetric, so it is a property of the pairs in any order
  refine (hpatterns.pairwise_iff ?_).mp (hdisjoint rfl)
  intro p q hpq
  rwa [Pattern.disjoint_comm]

end Grouping

/-! ## Declarations

Compiling takes a rearrangement of the texts to a rearrangement of the patterns, so the two cycles
are rearranged in the same way and are compared without looking at texts again. -/

/-- A declaration with the same patterns in other orders. -/
structure Declaration.Reordered (declaration other : Declaration) : Prop where
  name : declaration.name = other.name
  includes : declaration.includes.Perm other.includes
  excludes : declaration.excludes.Perm other.excludes
  groups : declaration.groups.Perm other.groups

theorem Declaration.Reordered.symm {declaration other : Declaration}
    (h : declaration.Reordered other) : other.Reordered declaration :=
  ⟨h.name.symm, h.includes.symm, h.excludes.symm, h.groups.symm⟩

/-- A cycle with the same patterns in other orders. -/
structure Cycle.Reordered (cycle other : Cycle) : Prop where
  includes : cycle.filter.includes.Perm other.filter.includes
  excludes : cycle.filter.excludes.Perm other.filter.excludes
  groups : cycle.grouping.patterns.Perm other.grouping.patterns

/-- **Reads do not tell a cycle with a strict grouping from a rearrangement of it.** For the filter
the order never counts; for the grouping it does not because at most one pattern has a name to give.
-/
theorem Cycle.Reordered.classify_eq {cycle other : Cycle} (h : cycle.Reordered other)
    (hstrict : cycle.grouping.Strict) (read : String) :
    (cycle.classify read).value = (other.classify read).value := by
  rw [Cycle.value_classify, Cycle.value_classify, Cycle.verdict, Cycle.verdict,
    Filter.acceptsTag_eq_of_perm h.includes h.excludes,
    hstrict.groupNameFor?_eq_of_perm h.groups]

namespace Engine

variable {engine : Engine} {declaration other : Declaration}

theorem strict_of_compile (hengine : engine.config.requireDisjointGroups = true) {cycle : Cycle}
    (h : (engine.compile declaration).value = .ok cycle) : cycle.grouping.Strict :=
  (value_compile_eq_ok_iff_readAs.mp h).2 hengine

/-- A rearranged declaration is compiled to a rearrangement of the cycle. -/
theorem exists_compile_of_reordered (hengine : engine.config.requireDisjointGroups = true)
    (hdeclaration : declaration.Reordered other) {cycle : Cycle}
    (h : (engine.compile declaration).value = .ok cycle) :
    ∃ cycle', (engine.compile other).value = .ok cycle' ∧ cycle.Reordered cycle' := by
  obtain ⟨-, hfilter, hgrouping⟩ := value_compile_eq_ok_iff.mp h
  rw [hengine] at hgrouping
  obtain ⟨filter', hfilter', hincludes, hexcludes⟩ :=
    Filter.compile_perm hdeclaration.includes hdeclaration.excludes hfilter
  obtain ⟨grouping', hgrouping', hgroups⟩ :=
    Grouping.compile_perm hdeclaration.groups hgrouping
  refine ⟨⟨other.name, filter', grouping'⟩, ?_, ⟨hincludes, hexcludes, hgroups⟩⟩
  refine value_compile_eq_ok_iff.mpr ⟨rfl, hfilter', ?_⟩
  rw [hengine]
  exact hgrouping'

/-- **Under strict settings the order of a declaration does not matter.** A declaration is compiled
exactly when a rearrangement of it is. Then each of the two cycles is what its own declaration reads
as, so the compiled patterns stand in the orders that were declared; all the same a read belongs to
at most one group pattern, the two cycles give every read the same verdict, and every batch has the
same buckets. -/
theorem compile_reordered (hengine : engine.config.requireDisjointGroups = true)
    (hdeclaration : declaration.Reordered other) :
    ((∃ cycle, (engine.compile declaration).value = .ok cycle) ↔
        ∃ cycle', (engine.compile other).value = .ok cycle') ∧
      ∀ cycle cycle', (engine.compile declaration).value = .ok cycle →
        (engine.compile other).value = .ok cycle' →
          declaration.ReadAs cycle ∧ other.ReadAs cycle' ∧
          cycle.grouping.Exclusive ∧ cycle'.grouping.Exclusive ∧
          (∀ read, (cycle.classify read).value = (cycle'.classify read).value) ∧
          ∀ (runner : Engine) (reads : List String),
            (runner.groupBatch cycle reads).value = (runner.groupBatch cycle' reads).value := by
  refine ⟨⟨?_, ?_⟩, ?_⟩
  · rintro ⟨cycle, hcycle⟩
    obtain ⟨cycle', hcycle', -⟩ := exists_compile_of_reordered hengine hdeclaration hcycle
    exact ⟨cycle', hcycle'⟩
  · rintro ⟨cycle', hcycle'⟩
    obtain ⟨cycle, hcycle, -⟩ := exists_compile_of_reordered hengine hdeclaration.symm hcycle'
    exact ⟨cycle, hcycle⟩
  · intro cycle cycle' hcycle hcycle'
    have hstrict := strict_of_compile hengine hcycle
    obtain ⟨compiled, hcompiled, hreordered⟩ :=
      exists_compile_of_reordered hengine hdeclaration hcycle
    -- compiling gives one cycle, so the rearrangement is the one that was asked about
    obtain rfl := Except.ok.inj (hcompiled.symm.trans hcycle')
    have hclassify := hreordered.classify_eq hstrict
    refine ⟨readAs_of_compile hcycle, readAs_of_compile hcycle', hstrict.exclusive,
      (strict_of_compile hengine hcycle').exclusive, hclassify, ?_⟩
    intro runner reads
    rw [value_groupBatch, value_groupBatch]
    simp only [hclassify]

/-- Two groups that share no read may trade places. -/
theorem groupBatch_eq_of_groups_swapped :
    ∃ cycle cycle',
      (({} : Engine).compile { name := "dock", groups :=
        ["urn:epc:pat:gid-96:1.X.*", "urn:epc:pat:gid-96:[2-9].*.X"] }).value = .ok cycle ∧
      (({} : Engine).compile { name := "dock", groups :=
        ["urn:epc:pat:gid-96:[2-9].*.X", "urn:epc:pat:gid-96:1.X.*"] }).value = .ok cycle' ∧
      ∀ (runner : Engine) (reads : List String),
        (runner.groupBatch cycle reads).value = (runner.groupBatch cycle' reads).value := by
  have hcompiled : ∃ cycle, (({} : Engine).compile { name := "dock", groups :=
      ["urn:epc:pat:gid-96:1.X.*", "urn:epc:pat:gid-96:[2-9].*.X"] }).value = .ok cycle := ⟨_, rfl⟩
  have h := @compile_reordered {}
    { name := "dock", groups := ["urn:epc:pat:gid-96:1.X.*", "urn:epc:pat:gid-96:[2-9].*.X"] }
    { name := "dock", groups := ["urn:epc:pat:gid-96:[2-9].*.X", "urn:epc:pat:gid-96:1.X.*"] }
    rfl ⟨rfl, .refl _, .refl _, .swap _ _ _⟩
  obtain ⟨cycle, hcycle⟩ := hcompiled
  obtain ⟨cycle', hcycle'⟩ := h.1.mp ⟨cycle, hcycle⟩
  obtain ⟨-, -, -, -, -, hbuckets⟩ := h.2 cycle cycle' hcycle hcycle'
  exact ⟨cycle, cycle', hcycle, hcycle', hbuckets⟩

end Engine

end EventCycle
