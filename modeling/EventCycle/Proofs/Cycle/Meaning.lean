/-
What a declaration means, pattern by pattern.

A compiled cycle parses a read once and then looks at compiled patterns. A declaration is plain
text, and what it says can be said without any of this: read each of its texts as a pattern, and
ask that pattern alone about the read. `Declaration.Refuses` and `Declaration.groupOf?` say it
so. The main statement is `Engine.classify_of_compile`. A cycle compiled from the declaration
gives each read the verdict that the declaration means, whether the read is a tag or not, and
its filter and its grouping agree with it.

There are two steps. The compiled lists are what the texts read as, so asking the texts is
asking the lists (`mem_iff_of_readAll`, `findSome?_readAll`). And a pattern that is asked about
a text answers as it does for the tag that the text reads as (`Pattern.value_isMember_eq_any`,
`Pattern.value_groupName?_eq_bind`), so it makes no difference who parses the read.
-/
import EventCycle.Proofs.Cycle.Compilation

set_option autoImplicit false

namespace EventCycle

/-! ## What a declaration says

The definitions of this section mention texts, the readings of single texts, and single patterns.
They are the specification, and know nothing of compiling. -/

namespace Declaration

/-- A read belongs to the filter pattern that one of the texts reads as. -/
def SomeMember (texts : List String) (read : String) : Prop :=
  ∃ text ∈ texts, ∃ pattern, Pattern.parse .filter text = .ok pattern ∧
    (pattern.isMember read).value = true

/-- A declaration refuses a read that belongs to none of its include patterns, if it has any, or
to one of its exclude patterns. -/
def Refuses (declaration : Declaration) (read : String) : Prop :=
  (declaration.includes ≠ [] ∧ ¬ SomeMember declaration.includes read) ∨
    SomeMember declaration.excludes read

/-- What a declaration does not refuse belongs to an include pattern, unless there are none, and
to no exclude pattern. -/
theorem not_refuses_iff {declaration : Declaration} {read : String} :
    ¬ declaration.Refuses read ↔
      (declaration.includes = [] ∨ SomeMember declaration.includes read) ∧
        ¬ SomeMember declaration.excludes read := by
  rw [Refuses, not_or, Classical.not_and_iff_not_or_not, ne_eq, Classical.not_not,
    Classical.not_not]

/-- The first name that a group pattern of the declaration gives a read; `none` if no pattern
does. -/
def groupOf? (declaration : Declaration) (read : String) : Option String :=
  declaration.groups.findSome? fun text =>
    (Pattern.parse .group text).toOption.bind fun pattern => (pattern.groupName? read).value

end Declaration

/-! ## Asking the patterns one by one

The compiled form is led back to the specification, first from the tag to the read, then from the
patterns to the texts. -/

/-- Testing the tag that was read is asking the patterns about the read. -/
theorem Filter.anyMatches_eq_any (patterns : List Pattern) (read : String) :
    anyMatches patterns (Pattern.parse .tag read).toOption =
      patterns.any fun pattern => (pattern.isMember read).value := by
  simp only [anyMatches, Pattern.value_isMember_eq_any]

/-- The first name for the tag of a read is the first name for the read. A read that is no tag has
no name from any pattern. -/
theorem Grouping.value_groupName?_eq_findSome? (grouping : Grouping) (read : String) :
    (grouping.groupName? read).value =
      grouping.patterns.findSome? fun pattern => (pattern.groupName? read).value := by
  simp only [value_groupName?, Pattern.value_groupName?_eq_bind]
  cases Pattern.parse .tag read with
  | error e =>
    have hnone : grouping.patterns.findSome? (fun _ => (none : Option String)) = none := by
      rw [List.findSome?_eq_none_iff]
      exact fun _ _ => rfl
    exact hnone.symm
  | ok tag => rfl

/-- What is asked of compiled patterns is asked of the texts. Every text reads as one of the
patterns, and every pattern is what some text reads as. -/
theorem Filter.anyMatches_iff_someMember {texts : List String} {patterns : List Pattern}
    (h : readAll (Pattern.parse .filter) texts = .ok patterns) (read : String) :
    anyMatches patterns (Pattern.parse .tag read).toOption = true ↔
      Declaration.SomeMember texts read := by
  rw [anyMatches_eq_any, List.any_eq_true]
  constructor
  · rintro ⟨pattern, hpattern, hmember⟩
    obtain ⟨text, htext, hparse⟩ := (mem_iff_of_readAll h).mp hpattern
    exact ⟨text, htext, pattern, hparse, hmember⟩
  · rintro ⟨text, htext, pattern, hparse, hmember⟩
    exact ⟨pattern, (mem_iff_of_readAll h).mpr ⟨text, htext, hparse⟩, hmember⟩

/-- **A compiled filter lets through what the declaration does not refuse.** -/
theorem Filter.value_accepts_iff {declaration : Declaration} {filter : Filter}
    (h : compile declaration.includes declaration.excludes = .ok filter) (read : String) :
    (filter.accepts read).value = true ↔ ¬ declaration.Refuses read := by
  obtain ⟨hincludes, hexcludes⟩ := compile_eq_ok_iff.mp h
  have hempty : filter.includes.isEmpty = true ↔ declaration.includes = [] := by
    rw [List.isEmpty_iff_length_eq_zero, length_eq_of_readAll hincludes, List.length_eq_zero_iff]
  rw [value_accepts, acceptsTag, Bool.and_eq_true, Bool.or_eq_true, Bool.not_eq_true',
    ← Bool.not_eq_true, anyMatches_iff_someMember hincludes, anyMatches_iff_someMember hexcludes,
    hempty, Declaration.not_refuses_iff]

/-- **A compiled grouping names a read as the declaration does.** -/
theorem Grouping.value_groupName?_eq_groupOf? {declaration : Declaration} {requireDisjoint : Bool}
    {grouping : Grouping}
    (h : (compile declaration.groups requireDisjoint).value = .ok grouping) (read : String) :
    (grouping.groupName? read).value = declaration.groupOf? read := by
  obtain ⟨hread, -⟩ := value_compile_eq_ok_iff.mp h
  rw [value_groupName?_eq_findSome?, Declaration.groupOf?, findSome?_readAll hread]

/-! ## Verdicts

The filter and the grouping have been dealt with, and a verdict is put together from their answers.
-/

/-- The verdict on a read is that of the filter and the grouping, asked one after the other. -/
theorem Cycle.value_classify_eq (cycle : Cycle) (read : String) :
    (cycle.classify read).value =
      if (cycle.filter.accepts read).value = true then
        .accepted (cycle.grouping.groupName? read).value
      else .rejected := by
  rw [value_classify, verdict, Filter.value_accepts, Grouping.value_groupName?]

/-- A text that is no tag belongs to no pattern of a declaration. -/
theorem Declaration.not_someMember {texts : List String} {read : String}
    (h : ∀ tag, Pattern.parse .tag read ≠ .ok tag) : ¬ SomeMember texts read := by
  rintro ⟨text, -, pattern, -, hmember⟩
  obtain ⟨tag, htag, -⟩ := (Pattern.value_isMember pattern read).mp hmember
  exact h tag htag

/-- A text that is no tag is in no group. -/
theorem Grouping.value_groupName?_of_not_tag {read : String}
    (h : ∀ tag, Pattern.parse .tag read ≠ .ok tag) (grouping : Grouping) :
    (grouping.groupName? read).value = none := by
  rw [value_groupName?]
  cases hparse : Pattern.parse .tag read with
  | error e => rfl
  | ok tag => exact absurd hparse (h tag)

/-- **A compiled cycle does what the declaration says,** pattern by pattern. It rejects a read
exactly when the declaration refuses it, and puts any other into the group that the declaration
names first; its filter and its grouping, asked on their own, say the same. A read that is no
tag is accepted exactly when there is no include pattern, and then into the default group. -/
theorem Engine.classify_of_compile {engine : Engine} {declaration : Declaration} {cycle : Cycle}
    (h : (engine.compile declaration).value = .ok cycle) (read : String) :
    ((cycle.classify read).value = .rejected ↔ declaration.Refuses read) ∧
      (¬ declaration.Refuses read →
        (cycle.classify read).value = .accepted (declaration.groupOf? read)) ∧
      (cycle.filter.accepts read).value = (cycle.classify read).value.isAccepted ∧
      (cycle.grouping.groupName? read).value = declaration.groupOf? read ∧
      ((∀ tag, Pattern.parse .tag read ≠ .ok tag) →
        ((cycle.classify read).value.isAccepted = true ↔ declaration.includes = []) ∧
          ∀ group, (cycle.classify read).value = .accepted group → group = none) := by
  obtain ⟨-, hfilter, hgrouping⟩ := value_compile_eq_ok_iff.mp h
  have haccepts := Filter.value_accepts_iff hfilter read
  have hgroup := Grouping.value_groupName?_eq_groupOf? hgrouping read
  have hverdict := cycle.value_classify_eq read
  rw [hgroup] at hverdict
  have hisAccepted :
      (cycle.filter.accepts read).value = (cycle.classify read).value.isAccepted := by
    rw [hverdict]
    split
    · next hpass => exact hpass
    · next hpass => exact Bool.not_eq_true _ |>.mp hpass
  refine ⟨?_, ?_, hisAccepted, hgroup, ?_⟩
  -- an accepted read is no rejected one, so the verdict says which way the filter decided
  · rw [hverdict, ite_eq_right_iff, haccepts]
    constructor
    · intro hrejected
      refine Classical.byContradiction fun hrefuses => ?_
      exact absurd (hrejected hrefuses) (by simp)
    · exact fun hrefuses hpass => absurd hrefuses hpass
  · intro hrefuses
    rw [hverdict, if_pos (haccepts.mpr hrefuses)]
  -- a text that is no tag is in no pattern, so it only counts whether there is an include pattern
  · intro hnotag
    have hnone := cycle.grouping.value_groupName?_of_not_tag hnotag
    refine ⟨?_, ?_⟩
    · rw [← hisAccepted, haccepts, Declaration.not_refuses_iff]
      simp only [Declaration.not_someMember hnotag, not_false_eq_true, and_true, or_false]
    · intro group haccepted
      rw [hverdict, ← hgroup, hnone] at haccepted
      split at haccepted
      · exact (Verdict.accepted.inj haccepted).symm
      · exact absurd haccepted (by simp)

/-- An included read falls into the group of the pattern that it belongs to. -/
theorem Engine.classify_included_read :
    ∃ cycle, (({} : Engine).compile
          { includes := ["urn:epc:pat:gid-96:1.*.*"]
            groups := ["urn:epc:pat:gid-96:1.X.*"] }).value = .ok cycle ∧
      (cycle.classify "urn:epc:tag:gid-96:1.7.3").value =
        .accepted (some "urn:epc:pat:gid-96:1.7.*") := by
  have hcompiled : ∃ cycle, (({} : Engine).compile
      { includes := ["urn:epc:pat:gid-96:1.*.*"]
        groups := ["urn:epc:pat:gid-96:1.X.*"] }).value = .ok cycle := ⟨_, rfl⟩
  obtain ⟨cycle, hcycle⟩ := hcompiled
  refine ⟨cycle, hcycle, ?_⟩
  refine (classify_of_compile hcycle "urn:epc:tag:gid-96:1.7.3").2.1 ?_
  refine Declaration.not_refuses_iff.mpr ⟨.inr ?_, ?_⟩
  · exact ⟨"urn:epc:pat:gid-96:1.*.*", List.mem_singleton_self _, _, rfl, rfl⟩
  · rintro ⟨text, htext, -⟩
    exact absurd htext (by simp)

end EventCycle
