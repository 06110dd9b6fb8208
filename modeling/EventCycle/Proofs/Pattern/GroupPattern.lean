/-
A group name read as a pattern.

A group name is the text of the group pattern with the tag's fields in place of its named
wildcards. Nothing checks that text again, and nothing needs to. A tag that belongs to the pattern
has a literal for each of its fields, so no named wildcard is left, and the name is the text of a
filter pattern as much as of a group pattern (`parse_group_of_groupNameFor?`,
`parse_filter_of_groupNameFor?`).

The main statement is `groupName?_describes_group`. The pattern that a name reads as describes the
group: the tag belongs to it, only members of the group pattern do, and it gives all of its members
the same name again. Of lists of fields this says that filling in the named wildcards keeps the
tag's match, that what matches the filled fields matches the fields, and that filling in a second
time changes nothing.
-/
import EventCycle.Proofs.Pattern.GroupName
import EventCycle.Proofs.Pattern.Usages

set_option autoImplicit false

namespace EventCycle

namespace Pattern

/-! ## What is filled in

Of a filled list of fields a name shows the tokens, and to be a filter it must hold no named
wildcard. That the tag matches it has been said where names are compared. -/

section Fields

variable {fields tagFields others : List Field}

/-- Where the tag matches, no named wildcard is left. -/
theorem not_isNamedWildcard_of_mem_fillFields (h : fieldsMatch fields tagFields = true) :
    ∀ field ∈ fillFields fields tagFields, field.isNamedWildcard = false := by
  induction fields, tagFields using fieldsMatch.induct with
  | case1 =>
    rw [fillFields_nil]
    simp
  | case2 field fields tagField tagFields ih =>
    rw [fieldsMatch, Bool.and_eq_true] at h
    intro filled hfilled
    rw [fillFields_cons_cons, List.mem_cons] at hfilled
    rcases hfilled with rfl | hfilled
    · exact not_isNamedWildcard_filledField h.1
    · exact ih h.2 filled hfilled
  | case3 => exact absurd h (by simp [fieldsMatch])

/-- Without named wildcards there is nothing to fill in. -/
theorem fillFields_eq_self (h : ∀ field ∈ fields, field.isNamedWildcard = false)
    (tagFields : List Field) : fillFields fields tagFields = fields := by
  induction fields generalizing tagFields with
  | nil => exact fillFields_nil tagFields
  | cons field fields ih =>
    cases tagFields with
    | nil => rfl
    | cons tagField tagFields =>
      have hfield : field.isNamedWildcard = false := h field (by simp)
      have hfields := ih (fun other hother => h other (List.mem_cons_of_mem _ hother)) tagFields
      rw [fillFields, hfields, hfield]
      rfl

/-- The tokens of filled fields are the tag's at the named wildcards, and else those that were
there. -/
theorem map_token_fillFields (hlength : fields.length = tagFields.length) :
    (fillFields fields tagFields).map Field.token =
      List.zipWith
        (fun field tagField => if field.isNamedWildcard then tagField.token else field.token)
        fields tagFields := by
  rw [fillFields_eq_zipWith hlength, List.map_zipWith]
  simp only [token_filledField]

end Fields

/-! ## The pattern of a group name

What a name reads as is the filled pattern, under the usage that it is read under. So the pattern of
a name is described first, and that it is the reading of the name comes after. -/

/-- A pattern has its parts from a group pattern, and the tokens at the named wildcards from a
tag. -/
structure FilledFrom (named pattern tag : Pattern) : Prop where
  domain : named.domain = pattern.domain
  idSpace : named.idSpace = pattern.idSpace
  format : named.format = pattern.format
  verbatim : named.body.verbatim = pattern.body.verbatim
  count : named.fields.length = pattern.fields.length
  tokens : named.fields.map Field.token =
    List.zipWith
      (fun field tagField => if field.isNamedWildcard then tagField.token else field.token)
      pattern.fields tag.fields

/-- A pattern describes the group that a read falls into under a group pattern: it is filled in
from the read, the read belongs to it, and whatever belongs to it belongs to the group pattern. -/
structure Describes (named pattern : Pattern) (read : String) : Prop where
  filledFrom : ∃ tag, parse .tag read = .ok tag ∧ named.FilledFrom pattern tag
  isMember : (named.isMember read).value = true
  subset : ∀ other, (named.isMember other).value = true → (pattern.isMember other).value = true

variable {pattern tag : Pattern} {read name : String} {usage : Usage}

/-- Where the tag belongs to the pattern, the filled pattern has no named wildcard. -/
theorem not_isNamedWildcard_of_mem_filled (h : pattern.matchesTag tag = true) :
    ∀ field ∈ (pattern.filled tag).fields, field.isNamedWildcard = false := by
  rw [fields_filled]
  exact not_isNamedWildcard_of_mem_fillFields (matchesTag_iff.mp h).2.2

/-- A pattern without named wildcards is left as it is. -/
theorem filled_eq_self (h : ∀ field ∈ pattern.fields, field.isNamedWildcard = false)
    (tag : Pattern) : pattern.filled tag = pattern := by
  obtain ⟨usage, idSpace, body⟩ := pattern
  cases body with
  | epc format fields harity =>
    have hfields : fillFields fields tag.fields = fields := fillFields_eq_self h tag.fields
    simp only [filled, hfields]
  | oid format data => rfl
  | prop format data => rfl

/-- A filled pattern has its parts from the pattern and the tag, under any usage. -/
theorem filledFrom_filled (h : pattern.matchesTag tag = true) (usage : Usage) :
    ((pattern.filled tag).withUsage usage).FilledFrom pattern tag := by
  have hlength := length_eq_of_fieldsMatch (matchesTag_iff.mp h).2.2
  refine ⟨?_, ?_, ?_, ?_, ?_, ?_⟩
  · rw [domain_withUsage, domain_filled]
  · rw [idSpace_withUsage, idSpace_filled]
  · rw [format_withUsage, format_filled]
  · rw [body_withUsage, verbatim_filled]
  · rw [fields_withUsage, fields_filled, length_fillFields]
  · rw [fields_withUsage, fields_filled, map_token_fillFields hlength]

/-- **A pattern filled in from a tag describes its group,** under every usage that has members. -/
theorem describes_filled (husage : usage ≠ .tag) (htag : parse .tag read = .ok tag)
    (h : pattern.matchesTag tag = true) :
    ((pattern.filled tag).withUsage usage).Describes pattern read := by
  obtain ⟨hpattern, hformat, hfields⟩ := matchesTag_iff.mp h
  refine ⟨⟨tag, htag, filledFrom_filled h usage⟩, ?_, ?_⟩
  · refine (value_isMember _ read).mpr ⟨tag, htag, matchesTag_iff.mpr ⟨husage, ?_, ?_⟩⟩
    · rw [format_withUsage, format_filled, hformat]
    · rw [fields_withUsage, fields_filled]
      exact fieldsMatch_fillFields hfields
  · intro other hother
    obtain ⟨otherTag, hotherTag, hmatches⟩ := (value_isMember _ other).mp hother
    obtain ⟨-, hotherFormat, hotherFields⟩ := matchesTag_iff.mp hmatches
    rw [format_withUsage, format_filled] at hotherFormat
    rw [fields_withUsage, fields_filled] at hotherFields
    refine (value_isMember pattern other).mpr ⟨otherTag, hotherTag, ?_⟩
    exact matchesTag_iff.mpr
      ⟨hpattern, hotherFormat, fieldsMatch_of_fillFields hfields hotherFields⟩

/-! ## Group names as texts -/

/-- A group pattern names the reads that belong to it. -/
theorem exists_groupName?_iff_isMember (husage : pattern.usage = .group) :
    (∃ name, (pattern.groupName? read).value = some name) ↔
      (pattern.isMember read).value = true := by
  simp only [value_groupName?_eq_some_iff]
  constructor
  · rintro ⟨name, tag, htag, hname⟩
    obtain ⟨-, hmatches, -⟩ := groupNameFor?_eq_some_iff.mp hname
    exact (value_isMember pattern read).mpr ⟨tag, htag, hmatches⟩
  · intro h
    obtain ⟨tag, htag, hmatches⟩ := (value_isMember pattern read).mp h
    exact ⟨_, tag, htag, groupNameFor?_eq_some_iff.mpr ⟨husage, hmatches, rfl⟩⟩

/-- A group name reads as the filled pattern under usage group. The filled pattern is readable, and
the name is its text. -/
theorem parse_group_of_groupNameFor? (hpattern : pattern.Readable)
    (htag : parse .tag read = .ok tag) (hname : pattern.groupNameFor? tag = some name) :
    parse .group name = .ok (pattern.filled tag) := by
  obtain ⟨husage, -, rfl⟩ := groupNameFor?_eq_some_iff.mp hname
  have hparse := (readable_filled hpattern htag).parse_text
  rw [usage_filled, husage] at hparse
  exact hparse

/-- A group name reads as the filled pattern under usage filter, too. What a filter may not hold is
a named wildcard, and none is left. -/
theorem parse_filter_of_groupNameFor? (hpattern : pattern.Readable)
    (htag : parse .tag read = .ok tag) (hname : pattern.groupNameFor? tag = some name) :
    parse .filter name = .ok ((pattern.filled tag).withUsage .filter) := by
  obtain ⟨-, hmatches, -⟩ := groupNameFor?_eq_some_iff.mp hname
  refine parse_withUsage (parse_group_of_groupNameFor? hpattern htag hname) fun field hfield => ?_
  exact Field.allowedBy_filter_iff.mpr (not_isNamedWildcard_of_mem_filled hmatches field hfield)

/-- A group pattern without named wildcards gives its members its own text as their name. -/
theorem value_groupName?_of_no_names (husage : pattern.usage = .group)
    (hnamed : ∀ field ∈ pattern.fields, field.isNamedWildcard = false)
    (h : (pattern.isMember read).value = true) :
    (pattern.groupName? read).value = some pattern.text := by
  obtain ⟨tag, htag, hmatches⟩ := (value_isMember pattern read).mp h
  refine value_groupName?_eq_some_iff.mpr ⟨tag, htag, ?_⟩
  refine groupNameFor?_eq_some_iff.mpr ⟨husage, hmatches, ?_⟩
  rw [filled_eq_self hnamed tag]

/-- **A group name is a pattern that describes its group.** A group pattern names exactly the reads
that belong to it. Each name reads under the usages group and filter as a pattern with the tag's
tokens at the named wildcards and everything else from the group pattern; the read belongs to that
pattern, only members of the group pattern do, and as a group pattern it gives all its members the
same name. -/
theorem groupName?_describes_group {text : String} {pattern : Pattern}
    (h : parse .group text = .ok pattern) (read : String) :
    ((∃ name, (pattern.groupName? read).value = some name) ↔
        (pattern.isMember read).value = true) ∧
      ∀ name, (pattern.groupName? read).value = some name →
        ∃ group filter, parse .group name = .ok group ∧ parse .filter name = .ok filter ∧
          group.Describes pattern read ∧ filter.Describes pattern read ∧
          ∀ other, (group.isMember other).value = true →
            (group.groupName? other).value = some name := by
  have hpattern := readable_of_parse h
  have husage := usage_of_parse h
  refine ⟨exists_groupName?_iff_isMember husage, ?_⟩
  intro name hname
  obtain ⟨tag, htag, hnameFor⟩ := value_groupName?_eq_some_iff.mp hname
  obtain ⟨-, hmatches, htext⟩ := groupNameFor?_eq_some_iff.mp hnameFor
  -- one description for both readings: they are the filled pattern under two usages
  have hfilled : (pattern.filled tag).usage = .group := by rw [usage_filled, husage]
  have hgroup : (pattern.filled tag).Describes pattern read := by
    rw [← withUsage_eq_self hfilled]
    exact describes_filled (by decide) htag hmatches
  have hfilter : ((pattern.filled tag).withUsage .filter).Describes pattern read :=
    describes_filled (by decide) htag hmatches
  refine ⟨_, _, parse_group_of_groupNameFor? hpattern htag hnameFor,
    parse_filter_of_groupNameFor? hpattern htag hnameFor, hgroup, hfilter, ?_⟩
  -- nothing is left to be filled in, so every member gets the text of the filled pattern
  intro other hother
  rw [← htext]
  exact value_groupName?_of_no_names hfilled (not_isNamedWildcard_of_mem_filled hmatches) hother

/-- The name takes over the tag's spelling, the range and the leading zeros of the pattern stay. -/
theorem groupName?_keeps_spelling :
    ∃ pattern, parse .group "urn:epc:pat:sgtin-96:[0-3].X.0050.X" = .ok pattern ∧
      (pattern.isMember "urn:epc:tag:sgtin-96:3.007.50.+9").value = true ∧
      (pattern.groupName? "urn:epc:tag:sgtin-96:3.007.50.+9").value =
        some "urn:epc:pat:sgtin-96:[0-3].007.0050.+9" ∧
      ∃ group filter, parse .group "urn:epc:pat:sgtin-96:[0-3].007.0050.+9" = .ok group ∧
        parse .filter "urn:epc:pat:sgtin-96:[0-3].007.0050.+9" = .ok filter ∧
        group.Describes pattern "urn:epc:tag:sgtin-96:3.007.50.+9" ∧
        filter.Describes pattern "urn:epc:tag:sgtin-96:3.007.50.+9" := by
  have hname : ∃ pattern, parse .group "urn:epc:pat:sgtin-96:[0-3].X.0050.X" = .ok pattern ∧
      (pattern.groupName? "urn:epc:tag:sgtin-96:3.007.50.+9").value =
        some "urn:epc:pat:sgtin-96:[0-3].007.0050.+9" := ⟨_, rfl, rfl⟩
  obtain ⟨pattern, hpattern, hname⟩ := hname
  have h := groupName?_describes_group hpattern "urn:epc:tag:sgtin-96:3.007.50.+9"
  obtain ⟨group, filter, hgroup, hfilter, hgroupDescribes, hfilterDescribes, -⟩ := h.2 _ hname
  exact ⟨pattern, hpattern, h.1.mp ⟨_, hname⟩, hname, group, filter, hgroup, hfilter,
    hgroupDescribes, hfilterDescribes⟩

end Pattern

end EventCycle
