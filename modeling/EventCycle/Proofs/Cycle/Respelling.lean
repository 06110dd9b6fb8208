/-
A read counts for what it spells, not for how it is spelled.

Two tags may have the same format and the same values and still be different texts: the id space is
free, a value may have leading zeros or a sign, and outside the domain `epc` the last two segments
are carried as they stand. `Pattern.Respells` relates such tags. Patterns look at a tag's format and
values only (`Respells.matchesTag_eq`), so whatever is decided by patterns is decided alike: whether
the filter lets a read through, and which group pattern claims it. Tokens are looked at in one
place, where a name is put together, and there only the ones at the named wildcards of the pattern
that claims the read.

The main statement is `Engine.classify_respelled`. Two spellings of a tag are both rejected, or both
accepted under names that are filled in from them in the same pattern.
-/
import EventCycle.Proofs.Cycle.GroupIdentity
import EventCycle.Proofs.Cycle.Meaning
import EventCycle.Proofs.Pattern.GroupPattern

set_option autoImplicit false

namespace EventCycle

/-! ## Tags that spell the same

What a pattern asks of a tag is its format and its values. Where a tag's tokens do come in, in its
name, the difference is kept to the positions that are filled in. -/

namespace Pattern

/-- Two tags have the same format and, position by position, the same values. The fields of a tag
are literals, so there is a value at each position. -/
structure Respells (s t : Pattern) : Prop where
  format : s.format = t.format
  values : s.fields.map Field.value? = t.fields.map Field.value?

/-- The tokens of a tag do not matter to the match, its values do. The induction is on the fields of
the first tag; the second has as many, since there is a value for each. -/
theorem fieldsMatch_congr {ss ts : List Field} (h : ss.map Field.value? = ts.map Field.value?)
    (fields : List Field) : fieldsMatch fields ss = fieldsMatch fields ts := by
  induction ss generalizing ts fields with
  | nil =>
    obtain rfl : ts = [] := List.map_eq_nil_iff.mp h.symm
    rfl
  | cons sfield ss ih =>
    cases ts with
    | nil => exact absurd h (by simp)
    | cons tfield ts =>
      obtain ⟨hfield, hfields⟩ := List.cons.inj h
      cases fields with
      | nil => rfl
      | cons field fields =>
        rw [fieldsMatch, fieldsMatch, ih hfields, Field.matchesField, Field.matchesField, hfield]

/-- **A pattern does not tell two spellings of a tag apart.** -/
theorem Respells.matchesTag_eq {s t : Pattern} (h : s.Respells t) (pattern : Pattern) :
    pattern.matchesTag s = pattern.matchesTag t := by
  rw [matchesTag, matchesTag, h.format, fieldsMatch_congr h.values]

/-- A pattern names two tags: both names have all their parts from the pattern, but for the tokens
at its named wildcards, which each name has from its own tag. -/
structure NamesBoth (pattern s t : Pattern) (m n : String) : Prop where
  /-- The first name reads as the pattern, filled in from the first tag. -/
  left : ∃ named, parse .group m = .ok named ∧ named.FilledFrom pattern s
  /-- So does the second name for the second tag. -/
  right : ∃ named, parse .group n = .ok named ∧ named.FilledFrom pattern t
  /-- Without named wildcards there is nothing in which the names could differ. -/
  eq : (∀ field ∈ pattern.fields, field.isNamedWildcard = false) → m = n

/-- The texts of a pattern filled in from two tags are such names. -/
theorem namesBoth_filled {pattern s t : Pattern} {a b : String} (hpattern : pattern.Readable)
    (husage : pattern.usage = .group) (hs : parse .tag a = .ok s) (ht : parse .tag b = .ok t)
    (hps : pattern.matchesTag s = true) (hpt : pattern.matchesTag t = true) :
    pattern.NamesBoth s t (pattern.filled s).text (pattern.filled t).text where
  left := by
    have hname := groupNameFor?_eq_some_iff.mpr ⟨husage, hps, rfl⟩
    refine ⟨pattern.filled s, parse_group_of_groupNameFor? hpattern hs hname, ?_⟩
    exact filledFrom_filled hps (pattern.filled s).usage
  right := by
    have hname := groupNameFor?_eq_some_iff.mpr ⟨husage, hpt, rfl⟩
    refine ⟨pattern.filled t, parse_group_of_groupNameFor? hpattern ht hname, ?_⟩
    exact filledFrom_filled hpt (pattern.filled t).usage
  eq hnamed := by
    rw [filled_eq_self hnamed s, filled_eq_self hnamed t]

end Pattern

/-! ## Cycles

A cycle asks its patterns one after the other. Since no pattern tells the two spellings apart, every
search stops at the same place for both. -/

section Respelled

variable {a b : String} {s t : Pattern}

theorem Pattern.Respells.value_isMember_eq (h : s.Respells t) (hs : Pattern.parse .tag a = .ok s)
    (ht : Pattern.parse .tag b = .ok t) (pattern : Pattern) :
    (pattern.isMember a).value = (pattern.isMember b).value := by
  rw [value_isMember_of_parse hs, value_isMember_of_parse ht, h.matchesTag_eq]

theorem Filter.acceptsTag_respelled (h : s.Respells t) (filter : Filter) :
    filter.acceptsTag (some s) = filter.acceptsTag (some t) := by
  simp only [acceptsTag, anyMatches, Option.any_some, h.matchesTag_eq]

/-- Reads that belong to the same patterns are claimed at the same position. -/
theorem Grouping.ClaimedBy.congr {grouping : Grouping} {position : Nat} {pattern : Pattern}
    (hmember : ∀ other : Pattern, (other.isMember a).value = (other.isMember b).value)
    (h : grouping.ClaimedBy a position pattern) : grouping.ClaimedBy b position pattern := by
  refine ⟨h.atPosition, ?_, ?_⟩
  · rw [← hmember]
    exact h.isMember
  · intro earlier hearlier other hother
    rw [← hmember]
    exact h.first earlier hearlier other hother

/-- How a grouping names two reads alike: no pattern claims either and both are in the default
group, or one pattern claims and names both. -/
inductive Grouping.NamedAlike (grouping : Grouping) (a b : String) (s t : Pattern) : Prop where
  | unclaimed
      (left_unclaimed : ∀ position pattern, ¬ grouping.ClaimedBy a position pattern)
      (right_unclaimed : ∀ position pattern, ¬ grouping.ClaimedBy b position pattern)
      (left_default : (grouping.groupName? a).value = none)
      (right_default : (grouping.groupName? b).value = none)
  | claimed {position : Nat} {pattern : Pattern} {m n : String}
      (left_claimed : grouping.ClaimedBy a position pattern)
      (right_claimed : grouping.ClaimedBy b position pattern)
      (left_named : (grouping.groupName? a).value = some m)
      (right_named : (grouping.groupName? b).value = some n)
      (names : pattern.NamesBoth s t m n)

/-- **A grouping names two spellings of a tag alike.** They belong to the same patterns, so the
pattern that claims one of them claims the other, at the same position. -/
theorem Grouping.namedAlike_of_respells {grouping : Grouping}
    (hpatterns : ∀ pattern ∈ grouping.patterns, pattern.Readable ∧ pattern.usage = .group)
    (h : s.Respells t) (hs : Pattern.parse .tag a = .ok s) (ht : Pattern.parse .tag b = .ok t) :
    grouping.NamedAlike a b s t := by
  have hgroup := fun pattern hmem => (hpatterns pattern hmem).2
  have hmember := h.value_isMember_eq hs ht
  by_cases hclaimed : ∃ position pattern, grouping.ClaimedBy a position pattern
  · obtain ⟨position, pattern, hleft⟩ := hclaimed
    have hright := hleft.congr hmember
    obtain ⟨hreadable, husage⟩ := hpatterns pattern (List.mem_of_getElem? hleft.atPosition)
    refine .claimed hleft hright (hleft.value_groupName? hgroup hs)
      (hright.value_groupName? hgroup ht) ?_
    exact Pattern.namesBoth_filled hreadable husage hs ht (hleft.matchesTag hs)
      (hright.matchesTag ht)
  · have hleft : ∀ position pattern, ¬ grouping.ClaimedBy a position pattern :=
      fun position pattern hclaim => hclaimed ⟨position, pattern, hclaim⟩
    have hright : ∀ position pattern, ¬ grouping.ClaimedBy b position pattern :=
      fun position pattern hclaim =>
        hleft position pattern (hclaim.congr fun other => (hmember other).symm)
    exact .unclaimed hleft hright (value_groupName?_of_unclaimed hgroup hleft)
      (value_groupName?_of_unclaimed hgroup hright)

/-- **A cycle judges a tag by what it spells.** A compiled cycle is what its declaration reads as,
and of two reads that spell the same tag it rejects both, or accepts both into the groups that the
grouping names; and it is the same pattern that claims them, if there is one, and their names differ
in the tokens at its named wildcards only. -/
theorem Engine.classify_respelled {engine : Engine} {declaration : Declaration} {cycle : Cycle}
    (h : (engine.compile declaration).value = .ok cycle) (hs : Pattern.parse .tag a = .ok s)
    (ht : Pattern.parse .tag b = .ok t) (hspell : s.Respells t) :
    declaration.ReadAs cycle ∧
      ((cycle.classify a).value = .rejected ∧ (cycle.classify b).value = .rejected ∨
        (cycle.classify a).value = .accepted (cycle.grouping.groupName? a).value ∧
          (cycle.classify b).value = .accepted (cycle.grouping.groupName? b).value) ∧
      cycle.grouping.NamedAlike a b s t := by
  obtain ⟨-, -, hgrouping⟩ := value_compile_eq_ok_iff.mp h
  have haccepts : (cycle.filter.accepts a).value = (cycle.filter.accepts b).value := by
    rw [Filter.value_accepts, Filter.value_accepts, hs, ht]
    exact Filter.acceptsTag_respelled hspell cycle.filter
  refine ⟨readAs_of_compile h, ?_,
    Grouping.namedAlike_of_respells (Grouping.readable_of_compile hgrouping) hspell hs ht⟩
  -- the filter answers alike, and what is accepted goes where the grouping says
  rw [Cycle.value_classify_eq, Cycle.value_classify_eq, ← haccepts]
  by_cases hpass : (cycle.filter.accepts a).value = true
  · rw [if_pos hpass, if_pos hpass]
    exact .inr ⟨rfl, rfl⟩
  · rw [if_neg hpass, if_neg hpass]
    exact .inl ⟨rfl, rfl⟩

end Respelled

/-- Another id space, a sign and leading zeros make no difference, but for the name's own token. -/
theorem Engine.classify_two_spellings :
    ∃ cycle s t, (({} : Engine).compile
          { includes := ["urn:epc:pat:gid-96:[0-5].*.*"]
            groups := ["urn:epc:pat:gid-96:[7-9].*.X", "urn:epc:pat:gid-96:1.X.*"] }).value =
        .ok cycle ∧
      Pattern.parse .tag "urn:epc:tag:gid-96:1.7.0" = .ok s ∧
      Pattern.parse .tag "urn:epc:id:gid-96:+01.007.-0" = .ok t ∧ s.Respells t ∧
      (cycle.classify "urn:epc:tag:gid-96:1.7.0").value =
        .accepted (some "urn:epc:pat:gid-96:1.7.*") ∧
      (cycle.classify "urn:epc:id:gid-96:+01.007.-0").value =
        .accepted (some "urn:epc:pat:gid-96:1.007.*") ∧
      cycle.grouping.NamedAlike "urn:epc:tag:gid-96:1.7.0" "urn:epc:id:gid-96:+01.007.-0" s t := by
  have hcycle : ∃ cycle, (({} : Engine).compile
          { includes := ["urn:epc:pat:gid-96:[0-5].*.*"]
            groups := ["urn:epc:pat:gid-96:[7-9].*.X", "urn:epc:pat:gid-96:1.X.*"] }).value =
        .ok cycle ∧
      (cycle.classify "urn:epc:tag:gid-96:1.7.0").value =
        .accepted (some "urn:epc:pat:gid-96:1.7.*") ∧
      (cycle.classify "urn:epc:id:gid-96:+01.007.-0").value =
        .accepted (some "urn:epc:pat:gid-96:1.007.*") := ⟨_, rfl, rfl, rfl⟩
  have htags : ∃ s t, Pattern.parse .tag "urn:epc:tag:gid-96:1.7.0" = .ok s ∧
      Pattern.parse .tag "urn:epc:id:gid-96:+01.007.-0" = .ok t ∧ s.Respells t :=
    ⟨_, _, rfl, rfl, rfl, rfl⟩
  obtain ⟨cycle, hcycle, ha, hb⟩ := hcycle
  obtain ⟨s, t, hs, ht, hspell⟩ := htags
  obtain ⟨-, -, hnamed⟩ := classify_respelled hcycle hs ht hspell
  exact ⟨cycle, s, t, hcycle, hs, ht, hspell, ha, hb, hnamed⟩

end EventCycle
