/-
Which reported overlaps are collisions.

Strict settings refuse a declaration on account of two group patterns that are not disjoint. That is
meant to say that some tag belongs to both, and for patterns with the same number of fields it does.
But a pair of fields is compared only where both patterns have one, while a tag has to have as many
fields as the pattern. The two counts come apart in one place. The formats `oid` and `prop` are
reached with one field in the domain `epc`, and without fields in the domains of their own names; a
pattern of each kind have no pair of fields to compare, and no member in common.

`Engine.overlap_without_common_member` is such a declaration, refused although its patterns cannot
collide. The main statement, `Engine.reported_overlap_shared_iff`, says that this is all that goes
wrong. A reported overlap is shared by some tag exactly if both patterns are of the domain `epc` or
neither is.
-/
import EventCycle.Proofs.Cycle.Outcomes
import EventCycle.Proofs.Pattern.Disjointness

set_option autoImplicit false

namespace EventCycle

/-! ## Common members

Disjointness is known to be right for patterns with the same number of fields. What is added here is
when two patterns of one format have that. -/

namespace Pattern

variable {p q : Pattern}

/-- Patterns with a common member have as many fields as the tag, and so as each other. -/
theorem length_eq_of_common_member {text : String} (hp : (p.isMember text).value = true)
    (hq : (q.isMember text).value = true) : p.fields.length = q.fields.length := by
  obtain ⟨tag, hptag, hqtag⟩ := exists_common_tag hp hq
  have hplength := length_eq_of_fieldsMatch (matchesTag_iff.mp hptag).2.2
  have hqlength := length_eq_of_fieldsMatch (matchesTag_iff.mp hqtag).2.2
  omega

/-- **Of patterns that are not disjoint, those with the same number of fields collide.** A common
member has one number of fields for both; conversely the fields of such patterns have values in
common. -/
theorem exists_common_member_iff (hreadable : p.Readable) (hp : p.usage ≠ .tag)
    (hq : q.usage ≠ .tag) (h : p.disjoint q = false) :
    (∃ text, (p.isMember text).value = true ∧ (q.isMember text).value = true) ↔
      p.fields.length = q.fields.length := by
  constructor
  · rintro ⟨text, hptext, hqtext⟩
    exact length_eq_of_common_member hptext hqtext
  · intro hlength
    exact exists_common_member hreadable hp hq hlength h

/-- The number of fields of any pattern. In the domain `epc` it is that of the format, and elsewhere
the format has one that is not there. -/
theorem length_fields (pattern : Pattern) :
    pattern.fields.length = if pattern.domain = .epc then pattern.format.arity else 0 := by
  by_cases h : pattern.domain = .epc
  · rw [if_pos h, length_fields_of_epc h]
  · rw [if_neg h, fields_eq_nil_iff.mpr h, List.length_nil]

/-- **Patterns of one format** have the same number of fields if both have fields or neither has. -/
theorem length_eq_iff_domains (hformat : p.format = q.format) :
    p.fields.length = q.fields.length ↔ (p.domain = .epc ↔ q.domain = .epc) := by
  have hpositive := q.format.arity_pos
  rw [length_fields p, length_fields q, hformat]
  by_cases hp : p.domain = .epc
  · rw [if_pos hp]
    by_cases hq : q.domain = .epc
    · rw [if_pos hq]
      exact iff_of_true rfl (iff_of_true hp hq)
    · rw [if_neg hq]
      exact iff_of_false (by omega) fun hboth => hq (hboth.mp hp)
  · rw [if_neg hp]
    by_cases hq : q.domain = .epc
    -- every format has a field, so the counts differ
    · rw [if_pos hq]
      exact iff_of_false (by omega) fun hboth => hp (hboth.mpr hq)
    · rw [if_neg hq]
      exact iff_of_true rfl (iff_of_false hp hq)

end Pattern

/-! ## Reported overlaps

From a report back to the patterns: a report of an overlap comes from no other outcome, so its texts
are those of two group patterns that are not disjoint. -/

theorem Declaration.ReadAs.parse_text {declaration : Declaration} {cycle : Cycle}
    (h : declaration.ReadAs cycle) {pattern : Pattern} (hmem : pattern ∈ cycle.grouping.patterns) :
    Pattern.parse .group pattern.text = .ok pattern := by
  obtain ⟨text, -, hparse⟩ := (mem_iff_of_readAll (readAll_eq_ok_iff.mpr h.groups)).mp hmem
  rw [Pattern.text_of_parse hparse]
  exact hparse

namespace Engine

variable {engine : Engine} {declaration : Declaration} {p q : Pattern}

/-- Of the three outcomes of compiling, one is an overlap. The others are ruled out by what the
equations for them say of the value. -/
theorem exists_mem_overlaps (h : (engine.compile declaration).value = .error (.overlap p q)) :
    ∃ cycle, declaration.ReadAs cycle ∧ (p, q) ∈ Grouping.overlaps cycle.grouping.patterns := by
  rcases declaration.readAs_or_firstRefused with ⟨cycle, hcycle⟩ | ⟨error, hfirst⟩
  · by_cases hadmitted : engine.config.requireDisjointGroups = true →
        Grouping.overlaps cycle.grouping.patterns = []
    · rw [compile_of_readAs hcycle hadmitted] at h
      exact absurd h (by simp)
    -- strict settings, and an overlap: the first one is the one that is reported
    · obtain ⟨hstrict, hoverlaps⟩ := Classical.not_imp.mp hadmitted
      obtain ⟨⟨first, second⟩, others, hcons⟩ := List.exists_cons_of_ne_nil hoverlaps
      rw [compile_of_overlap hcycle hstrict hcons, Logged.value_pure] at h
      obtain ⟨rfl, rfl⟩ : first = p ∧ second = q := by simpa using h
      exact ⟨cycle, hcycle, by simp [hcons]⟩
  · rw [compile_of_firstRefused hfirst, Logged.value_pure] at h
    exact absurd h (by simp)

/-- **An overlap that is reported** is one of two group patterns that are not disjoint. -/
theorem overlap_of_compile (h : (engine.compile declaration).value = .error (.overlap p q)) :
    Pattern.parse .group p.text = .ok p ∧ Pattern.parse .group q.text = .ok q ∧
      p.disjoint q = false := by
  obtain ⟨cycle, hcycle, hmem⟩ := exists_mem_overlaps h
  obtain ⟨hsublist, hdisjoint⟩ := Grouping.mem_overlaps_iff.mp hmem
  have hp : p ∈ cycle.grouping.patterns := hsublist.subset (by simp)
  have hq : q ∈ cycle.grouping.patterns := hsublist.subset (by simp)
  exact ⟨hcycle.parse_text hp, hcycle.parse_text hq, hdisjoint⟩

/-- Only an overlap is reported as one, since what is reported of a text is about a pattern. -/
theorem exists_overlap_of_fault {error : CompileError} {first second : String}
    (h : error.fault = .overlappingGroups first second) :
    ∃ p q, error = .overlap p q ∧ p.text = first ∧ q.text = second := by
  cases error with
  | pattern cause =>
    have hconcerns := cause.concernsPattern_fault
    rw [CompileError.fault] at h
    rw [h] at hconcerns
    exact absurd hconcerns Bool.false_ne_true
  | overlap p q =>
    rw [CompileError.fault, Fault.overlappingGroups.injEq] at h
    exact ⟨p, q, rfl, h.1, h.2⟩

/-- **A reported overlap is a collision unless one pattern has data fields and the other has none.**
The two texts of the report read as group patterns, and some tag belongs to both of them exactly if
both are of the domain `epc` or neither is. -/
theorem reported_overlap_shared_iff {error : CompileError} {first second : String}
    (h : (engine.compile declaration).value = .error error)
    (hfault : error.fault = .overlappingGroups first second) :
    ∃ p q, Pattern.parse .group first = .ok p ∧ Pattern.parse .group second = .ok q ∧
      ((∃ read, (p.isMember read).value = true ∧ (q.isMember read).value = true) ↔
        (p.domain = .epc ↔ q.domain = .epc)) := by
  obtain ⟨p, q, rfl, rfl, rfl⟩ := exists_overlap_of_fault hfault
  obtain ⟨hp, hq, hdisjoint⟩ := overlap_of_compile h
  have hpusage : p.usage ≠ .tag := by
    rw [Pattern.usage_of_parse hp]
    decide
  have hqusage : q.usage ≠ .tag := by
    rw [Pattern.usage_of_parse hq]
    decide
  refine ⟨p, q, hp, hq, ?_⟩
  rw [Pattern.exists_common_member_iff (Pattern.readable_of_parse hp) hpusage hqusage hdisjoint]
  exact Pattern.length_eq_iff_domains (Pattern.disjoint_eq_false_iff.mp hdisjoint).1

/-- Two patterns that cross at one tag. -/
theorem shared_overlap_of_crossing_groups :
    ∃ error, (({} : Engine).compile
        { groups := ["urn:epc:pat:gid-96:1.X.*", "urn:epc:pat:gid-96:*.2.[3-4]"] }).value =
          .error error ∧
      error.fault =
        .overlappingGroups "urn:epc:pat:gid-96:1.X.*" "urn:epc:pat:gid-96:*.2.[3-4]" ∧
      ∃ p q, Pattern.parse .group "urn:epc:pat:gid-96:1.X.*" = .ok p ∧
        Pattern.parse .group "urn:epc:pat:gid-96:*.2.[3-4]" = .ok q ∧
        ∃ read, (p.isMember read).value = true ∧ (q.isMember read).value = true := by
  have hcompile : ∃ error, (({} : Engine).compile
      { groups := ["urn:epc:pat:gid-96:1.X.*", "urn:epc:pat:gid-96:*.2.[3-4]"] }).value =
        .error error ∧
      error.fault =
        .overlappingGroups "urn:epc:pat:gid-96:1.X.*" "urn:epc:pat:gid-96:*.2.[3-4]" :=
    ⟨_, rfl, rfl⟩
  have hdomains : ∀ p q, Pattern.parse .group "urn:epc:pat:gid-96:1.X.*" = .ok p →
      Pattern.parse .group "urn:epc:pat:gid-96:*.2.[3-4]" = .ok q →
        (p.domain = .epc ↔ q.domain = .epc) := by
    intro p q hp hq
    rw [← Except.ok.inj hp, ← Except.ok.inj hq]
    exact iff_of_true rfl rfl
  obtain ⟨error, herror, hfault⟩ := hcompile
  obtain ⟨p, q, hp, hq, hshared⟩ := reported_overlap_shared_iff herror hfault
  exact ⟨error, herror, hfault, p, q, hp, hq, hshared.mpr (hdomains p q hp hq)⟩

/-- **An overlap without a common member.** The first pattern takes tags with one field, the second
tags without fields; the declaration is refused all the same. -/
theorem overlap_without_common_member :
    ∃ error, (({} : Engine).compile
        { groups := ["urn:epc:pat:oid:5", "urn:oid:pat:a:b"] }).value = .error error ∧
      error.fault = .overlappingGroups "urn:epc:pat:oid:5" "urn:oid:pat:a:b" ∧
      ∀ p q, Pattern.parse .group "urn:epc:pat:oid:5" = .ok p →
        Pattern.parse .group "urn:oid:pat:a:b" = .ok q →
          ¬ ∃ read, (p.isMember read).value = true ∧ (q.isMember read).value = true := by
  refine ⟨_, rfl, rfl, ?_⟩
  intro p q hp hq
  rw [← Except.ok.inj hp, ← Except.ok.inj hq]
  rintro ⟨read, hpread, hqread⟩
  exact absurd (Pattern.length_eq_of_common_member hpread hqread) (by decide)

end Engine

end EventCycle
