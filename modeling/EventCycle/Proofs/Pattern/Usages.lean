/-
One text under the three usages.

The usage decides which fields a pattern may have, and nothing else about how its text is read. So
the readings of one text are all one pattern, but for the usage that is recorded: if a text reads as
a pattern under one usage, then under another it reads as that pattern with the other usage, or it
is refused because some field is not allowed (`parse_iff_withUsage`). The argument goes up through
the parser, from a token to a list of tokens and from there to a text.

What the usages allow grows from tag to filter to group. A filter allows what a group does except
the named wildcard, a tag allows literals only. The main statement, `usages_nested`, puts both
together. The usage is no part of what a filter or a group pattern is tested for, either, so the two
readings have the same members and are disjoint from the same patterns.
-/
import EventCycle.Pattern.Matching
import EventCycle.Proofs.Pattern.Grammar

set_option autoImplicit false

namespace EventCycle.Pattern

variable {usage usage' : Usage} {text : String} {pattern other : Pattern}

/-! ## One pattern under two usages

Changing the usage leaves every other part as it is, and there is a lemma for each part. -/

/-- The pattern under another usage. Nothing says that it can be read under it. -/
def withUsage (pattern : Pattern) (usage : Usage) : Pattern := { pattern with usage }

@[simp] theorem usage_withUsage (pattern : Pattern) (usage : Usage) :
    (pattern.withUsage usage).usage = usage := rfl

@[simp] theorem domain_withUsage (pattern : Pattern) (usage : Usage) :
    (pattern.withUsage usage).domain = pattern.domain := rfl

@[simp] theorem idSpace_withUsage (pattern : Pattern) (usage : Usage) :
    (pattern.withUsage usage).idSpace = pattern.idSpace := rfl

@[simp] theorem body_withUsage (pattern : Pattern) (usage : Usage) :
    (pattern.withUsage usage).body = pattern.body := rfl

@[simp] theorem format_withUsage (pattern : Pattern) (usage : Usage) :
    (pattern.withUsage usage).format = pattern.format := rfl

@[simp] theorem fields_withUsage (pattern : Pattern) (usage : Usage) :
    (pattern.withUsage usage).fields = pattern.fields := rfl

theorem withUsage_eq_self {pattern : Pattern} {usage : Usage} (h : pattern.usage = usage) :
    pattern.withUsage usage = pattern := by
  rw [← h]
  rfl

/-! ## One text under two usages

From a token to a list of tokens and on to a text, the same is said at each level: what is read is
the same, or some field is not allowed. -/

/-- **Tokens that can be read** are read as the same fields, or one of the fields is not allowed.
The induction is on the tokens. -/
theorem readAll_iff_allowedBy {tokens : List String} {fields others : List Field}
    (h : readAll (Field.parse usage) tokens = .ok fields) :
    readAll (Field.parse usage') tokens = .ok others ↔
      others = fields ∧ ∀ field ∈ fields, field.kind.allowedBy usage' = true := by
  induction tokens generalizing fields others with
  | nil =>
    obtain rfl := Except.ok.inj h
    rw [readAll_nil, Except.ok.injEq, eq_comm]
    simp
  | cons token tokens ih =>
    obtain ⟨field, rest, hfield, hrest, rfl⟩ := readAll_cons_eq_ok_iff.mp h
    rw [readAll_cons_eq_ok_iff, List.forall_mem_cons]
    constructor
    · rintro ⟨field', rest', hfield', hrest', rfl⟩
      obtain ⟨rfl, hallowed⟩ := (Field.parse_iff_allowedBy hfield).mp hfield'
      obtain ⟨rfl, hothers⟩ := (ih hrest).mp hrest'
      exact ⟨rfl, hallowed, hothers⟩
    · rintro ⟨rfl, hallowed, hothers⟩
      exact ⟨field, rest, (Field.parse_iff_allowedBy hfield).mpr ⟨rfl, hallowed⟩,
        (ih hrest).mpr ⟨rfl, hothers⟩, rfl⟩

/-- **A text that can be read** is read as the same pattern but for the usage, or one of its fields
is not allowed. -/
theorem parse_iff_withUsage (h : parse usage text = .ok pattern) :
    parse usage' text = .ok other ↔
      other = pattern.withUsage usage' ∧
        ∀ field ∈ pattern.fields, field.kind.allowedBy usage' = true := by
  cases parse_eq_ok_iff_written.mp h with
  | @epc idSpace format tokens fields harity hshape hread =>
    obtain ⟨data, hskeleton, rfl⟩ := epcText_iff_segments.mp hshape
    have hfields := readAll_eq_ok_iff.mpr hread
    rw [parse_of_known hskeleton]
    constructor
    · intro hother
      cases hbody : parseFields usage' text format data with
      | error e =>
        rw [hbody] at hother
        exact absurd hother (by simp [Except.map])
      | ok body =>
        rw [hbody] at hother
        obtain ⟨others, _, rfl, hothers⟩ := parseFields_eq_ok_iff.mp hbody
        obtain ⟨rfl, hallowed⟩ := (readAll_iff_allowedBy hfields).mp hothers
        exact ⟨(Except.ok.inj hother).symm, hallowed⟩
    · rintro ⟨rfl, hallowed⟩
      have hothers := (readAll_iff_allowedBy hfields).mpr ⟨rfl, hallowed⟩
      rw [parseFields_eq_ok_iff.mpr ⟨fields, harity, rfl, hothers⟩]
      rfl
  -- without fields there is nothing that a usage could forbid
  | oid hskeleton | prop hskeleton =>
    rw [parse_of_skeleton hskeleton]
    constructor
    · intro hother
      exact ⟨(Except.ok.inj hother).symm, fun field hfield => absurd hfield List.not_mem_nil⟩
    · rintro ⟨rfl, -⟩
      rfl

/-- Where all fields are allowed, the text is read. -/
theorem parse_withUsage (h : parse usage text = .ok pattern)
    (hallowed : ∀ field ∈ pattern.fields, field.kind.allowedBy usage' = true) :
    parse usage' text = .ok (pattern.withUsage usage') :=
  (parse_iff_withUsage h).mpr ⟨rfl, hallowed⟩

/-- A text that reads as a pattern can be read under another usage if that allows all fields. -/
theorem exists_parse_iff_allowedBy (h : parse usage text = .ok pattern) :
    (∃ other, parse usage' text = .ok other) ↔
      ∀ field ∈ pattern.fields, field.kind.allowedBy usage' = true := by
  constructor
  · rintro ⟨other, hother⟩
    exact ((parse_iff_withUsage h).mp hother).2
  · intro hallowed
    exact ⟨_, parse_withUsage h hallowed⟩

theorem allowedBy_of_parse (h : parse usage text = .ok pattern) :
    ∀ field ∈ pattern.fields, field.kind.allowedBy usage = true :=
  ((parse_iff_withUsage h).mp h).2

/-! ## Members and disjointness

Of the operations on patterns, membership asks for the usage, and only whether it is that of tags.
Disjointness does not ask for it at all. -/

/-- **Filters and groups are tested alike:** of two usages that have members it does not matter
which one is recorded. -/
theorem isMember_withUsage (pattern : Pattern) (h : usage ≠ .tag) (h' : usage' ≠ .tag)
    (read : String) :
    (pattern.withUsage usage).isMember read = (pattern.withUsage usage').isMember read := by
  have hmatches : (pattern.withUsage usage).matchesTag = (pattern.withUsage usage').matchesTag := by
    funext tag
    rw [matchesTag, matchesTag, usage_withUsage, usage_withUsage, bne_iff_ne.mpr h,
      bne_iff_ne.mpr h']
    rfl
  rw [isMember, isMember, usage_withUsage, usage_withUsage, if_neg h, if_neg h', hmatches]

/-- The usage of a pattern is not compared. -/
theorem disjoint_withUsage_left (pattern other : Pattern) (usage : Usage) :
    (pattern.withUsage usage).disjoint other = pattern.disjoint other := rfl

/-- Nor is that of the pattern it is compared with. -/
theorem disjoint_withUsage_right (pattern other : Pattern) (usage : Usage) :
    other.disjoint (pattern.withUsage usage) = other.disjoint pattern := rfl

/-- **The usages are nested.** What reads as a tag reads as a filter pattern, and what reads as a
filter pattern reads as a group pattern; the readings differ in the usage only. The other way round,
a group pattern's text reads as a filter pattern exactly if there is no named wildcard, and a filter
pattern's text as a tag exactly if all fields are literals. The filter and the group pattern of one
text have the same members, and are disjoint from the same patterns. -/
theorem usages_nested (text : String) :
    (∀ tag, parse .tag text = .ok tag → parse .filter text = .ok (tag.withUsage .filter)) ∧
      (∀ filter, parse .filter text = .ok filter →
        parse .group text = .ok (filter.withUsage .group) ∧
          ((∃ tag, parse .tag text = .ok tag) ↔
            ∀ field ∈ filter.fields, field.isLiteral = true)) ∧
      (∀ group, parse .group text = .ok group →
        ((∃ filter, parse .filter text = .ok filter) ↔
          ∀ field ∈ group.fields, field.isNamedWildcard = false)) ∧
      ∀ filter group, parse .filter text = .ok filter → parse .group text = .ok group →
        (∀ read, filter.isMember read = group.isMember read) ∧
          ∀ other, filter.disjoint other = group.disjoint other ∧
            other.disjoint filter = other.disjoint group := by
  refine ⟨?_, ?_, ?_, ?_⟩
  · intro tag htag
    refine parse_withUsage htag fun field hfield => ?_
    exact Field.allowedBy_filter_of_tag (allowedBy_of_parse htag field hfield)
  · intro filter hfilter
    refine ⟨parse_withUsage hfilter fun field _ => field.allowedBy_group, ?_⟩
    simp only [exists_parse_iff_allowedBy hfilter, Field.allowedBy_tag_iff]
  · intro group hgroup
    simp only [exists_parse_iff_allowedBy hgroup, Field.allowedBy_filter_iff]
  · intro filter group hfilter hgroup
    have hsame : group = filter.withUsage .group := ((parse_iff_withUsage hfilter).mp hgroup).1
    have hself : filter.withUsage .filter = filter := withUsage_eq_self (usage_of_parse hfilter)
    rw [hsame]
    refine ⟨fun read => ?_, fun other => ?_⟩
    -- a filter pattern under the usage of filters is the pattern itself
    · have h := filter.isMember_withUsage (by decide : Usage.filter ≠ .tag)
        (by decide : Usage.group ≠ .tag) read
      rwa [hself] at h
    · rw [disjoint_withUsage_left, disjoint_withUsage_right]
      exact ⟨rfl, rfl⟩

/-- A text with open fields is a filter and a group pattern, and no tag. -/
theorem usages_of_open_fields :
    ∃ filter group, parse .filter "urn:epc:pat:gid-96:007.*.[2-3]" = .ok filter ∧
      parse .group "urn:epc:pat:gid-96:007.*.[2-3]" = .ok group ∧
      group = filter.withUsage .group ∧
      (¬ ∃ tag, parse .tag "urn:epc:pat:gid-96:007.*.[2-3]" = .ok tag) ∧
      ∀ read, filter.isMember read = group.isMember read := by
  have hfilter : ∃ filter, parse .filter "urn:epc:pat:gid-96:007.*.[2-3]" = .ok filter ∧
      ¬ ∀ field ∈ filter.fields, field.isLiteral = true := ⟨_, rfl, by decide⟩
  obtain ⟨filter, hfilter, hopen⟩ := hfilter
  obtain ⟨-, hnested, -, halike⟩ := usages_nested "urn:epc:pat:gid-96:007.*.[2-3]"
  obtain ⟨hgroup, htag⟩ := hnested filter hfilter
  refine ⟨filter, filter.withUsage .group, hfilter, hgroup, rfl, ?_, ?_⟩
  · exact fun h => hopen (htag.mp h)
  · exact (halike filter _ hfilter hgroup).1

end EventCycle.Pattern
