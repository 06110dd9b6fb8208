/-
Operands given as texts.

Membership, group names and disjointness come in two forms. One takes a second pattern that has
already been read, the other takes a text and reads it: as a tag for the first two, as a group
pattern for the third. The text of a pattern need not be read there under the usage that the pattern
has. The main statement, `operations_on_text`, says that the two forms still agree on every pattern
that has been read, so the test on its text never fails.

For disjointness the reason is that every usage is part of usage group. For the other two the text
may be refused, since a tag has literals only. That happens to exactly those patterns that no
pattern matches as tags: a field is matched by its value, and only a literal has one
(`isLiteral_of_fieldsMatch`).
-/
import EventCycle.Proofs.Field.Disjointness
import EventCycle.Proofs.Pattern.Usages

set_option autoImplicit false

namespace EventCycle.Pattern

variable {usage : Usage} {text : String}

/-! ## Only literals are matched -/

/-- **What is matched position by position** has a literal at each. -/
theorem isLiteral_of_fieldsMatch {fields tagFields : List Field}
    (h : fieldsMatch fields tagFields = true) :
    ∀ tagField ∈ tagFields, tagField.isLiteral = true := by
  induction fields, tagFields using fieldsMatch.induct with
  | case1 => simp
  | case2 field fields tagField tagFields ih =>
    rw [fieldsMatch, Bool.and_eq_true] at h
    obtain ⟨value, hvalue, -⟩ := Field.matchesField_iff.mp h.1
    rw [List.forall_mem_cons]
    refine ⟨?_, ih h.2⟩
    rw [Field.isLiteral, hvalue]
    rfl
  | case3 => exact absurd h (by simp [fieldsMatch])

/-- What belongs to a pattern has literals only, whatever it was read for. -/
theorem isLiteral_of_matchesTag {pattern tag : Pattern} (h : pattern.matchesTag tag = true) :
    ∀ field ∈ tag.fields, field.isLiteral = true :=
  isLiteral_of_fieldsMatch (matchesTag_iff.mp h).2.2

/-! ## The usage of an operand

A pattern that was read under one usage is compared with its text read under another. The operations
do not look at the usage of their operand, so what is left is whether the text can be read. -/

/-- A tag is tested for its format and its fields. -/
theorem matchesTag_withUsage (pattern tag : Pattern) (usage : Usage) :
    pattern.matchesTag (tag.withUsage usage) = pattern.matchesTag tag := rfl

/-- A name is made of the tag's tokens, which do not depend on the usage. -/
theorem groupNameFor?_withUsage (pattern tag : Pattern) (usage : Usage) :
    pattern.groupNameFor? (tag.withUsage usage) = pattern.groupNameFor? tag := rfl

/-- **The text of a pattern reads as a tag, or nothing matches the pattern.** The case split is on
whether all its fields are literals, since either side depends on that alone. -/
theorem parse_tag_or_not_matchesTag {tag : Pattern} (h : parse usage text = .ok tag) :
    parse .tag text = .ok (tag.withUsage .tag) ∨
      (parse .tag text).toOption = none ∧ ∀ pattern : Pattern, pattern.matchesTag tag = false := by
  by_cases hliteral : ∀ field ∈ tag.fields, field.isLiteral = true
  · left
    exact parse_withUsage h fun field hfield => Field.allowedBy_tag_iff.mpr (hliteral field hfield)
  -- one open field is enough for both
  · right
    refine ⟨?_, fun pattern => ?_⟩
    · cases hparse : parse .tag text with
      | error e => rfl
      | ok other =>
        have hallowed := (parse_iff_withUsage h).mp hparse
        exact absurd (fun field hfield => Field.allowedBy_tag_iff.mp (hallowed.2 field hfield))
          hliteral
    · rw [← Bool.not_eq_true]
      exact fun hmatches => hliteral (isLiteral_of_matchesTag hmatches)

/-! ## Agreement

Disjointness can always be asked of the text. For the other two there are the two cases of the lemma
above. -/

/-- **An operation on the text of a pattern is the operation on the pattern.** Whatever the usages
of the two patterns are, membership of the text, the group name of the text and disjointness from
the text are what the tests on the pattern itself yield. -/
theorem operations_on_text {operand : Pattern} (h : parse usage text = .ok operand)
    (pattern : Pattern) :
    (pattern.isMember operand.text).value = pattern.matchesTag operand ∧
      (pattern.groupName? operand.text).value = pattern.groupNameFor? operand ∧
      pattern.disjointFromText operand.text = .ok (pattern.disjoint operand) := by
  have hgroup : parse .group text = .ok (operand.withUsage .group) :=
    parse_withUsage h fun field _ => field.allowedBy_group
  rw [text_of_parse h, value_isMember_eq_any, value_groupName?_eq_bind, disjointFromText, hgroup]
  rcases parse_tag_or_not_matchesTag h with htag | ⟨hnone, hunmatched⟩
  · rw [htag]
    refine ⟨?_, ?_, rfl⟩
    · exact pattern.matchesTag_withUsage operand .tag
    · exact pattern.groupNameFor?_withUsage operand .tag
  · rw [hnone, hunmatched]
    refine ⟨rfl, ?_, rfl⟩
    rw [groupNameFor?, hunmatched, if_neg (by simp)]
    rfl

/-- Read as filter patterns, a text without open fields is a member of the group pattern and gets a
name from it, and one with an open field is not a member, although the two overlap. -/
theorem operations_on_filter_texts :
    ∃ group literal, parse .group "urn:epc:pat:gid-96:X.[5-9].*" = .ok group ∧
      parse .filter "urn:epc:tag:gid-96:007.+5.-0" = .ok literal ∧
      (group.isMember literal.text).value = true ∧
      (group.groupName? literal.text).value = some "urn:epc:pat:gid-96:007.[5-9].*" ∧
      ∃ wide, parse .filter "urn:epc:tag:gid-96:007.+5.*" = .ok wide ∧
        (group.isMember wide.text).value = false ∧
        group.disjointFromText wide.text = .ok false := by
  have hgroup : ∃ group, parse .group "urn:epc:pat:gid-96:X.[5-9].*" = .ok group ∧
      ∃ literal, parse .filter "urn:epc:tag:gid-96:007.+5.-0" = .ok literal ∧
        group.matchesTag literal = true ∧
        group.groupNameFor? literal = some "urn:epc:pat:gid-96:007.[5-9].*" ∧
        ∃ wide, parse .filter "urn:epc:tag:gid-96:007.+5.*" = .ok wide ∧
          group.matchesTag wide = false ∧ group.disjoint wide = false :=
    ⟨_, rfl, _, rfl, rfl, rfl, _, rfl, rfl, rfl⟩
  obtain ⟨group, hgroup, literal, hliteral, hmatches, hname, wide, hwide, hunmatched, hoverlap⟩ :=
    hgroup
  obtain ⟨hmember, hnamed, -⟩ := operations_on_text hliteral group
  obtain ⟨hwideMember, -, hdisjoint⟩ := operations_on_text hwide group
  refine ⟨group, literal, hgroup, hliteral, hmember.trans hmatches, hnamed.trans hname, wide,
    hwide, hwideMember.trans hunmatched, ?_⟩
  rw [hdisjoint, hoverlap]

end EventCycle.Pattern
