/-
Disjointness is the absence of a common member.

`Pattern.disjoint` compares two patterns field by field and never looks at a tag. The main
statement, `disjoint_iff_no_common_member`, says what the comparison is worth: disjoint patterns
share no text at all, and patterns with the same number of fields that are not disjoint share
one.

For the first half a common member is taken apart: its fields satisfy both patterns position by
position, so no position can be disjoint. For the second half a common member is put together.
Where no position is disjoint there is a common value at each (`exists_common_values`); the
values are written in decimal, and the tag of those fields is readable, so its text reads as the
tag again.

The number of fields is no idle condition. The formats `oid` and `prop` are reached with one
field in the domain `epc` and without fields in their own domains, and two such patterns have
neither a disjoint position nor a common member.
-/
import EventCycle.Pattern.Matching
import EventCycle.Proofs.Field.Disjointness
import EventCycle.Proofs.Pattern.Readable

set_option autoImplicit false

namespace EventCycle.Pattern

/-! ## Lists of fields

Both directions for fields, by induction. In the first the lists may have any lengths; the second
needs as many fields on both sides, because its values are for the fields of both. -/

/-- **Fields with a common match are not disjoint** at any position. The induction is on the fields
of the first pattern. What one of the patterns has beyond the other is not compared, and need not
be. -/
theorem fieldsDisjoint_eq_false_of_fieldsMatch {ps qs tagFields : List Field}
    (hp : fieldsMatch ps tagFields = true) (hq : fieldsMatch qs tagFields = true) :
    fieldsDisjoint ps qs = false := by
  induction ps generalizing qs tagFields with
  | nil => cases qs <;> rfl
  | cons p ps ih =>
    cases qs with
    | nil => rfl
    | cons q qs =>
      cases tagFields with
      | nil => exact absurd hp (by simp [fieldsMatch])
      | cons tagField tagFields =>
        rw [fieldsMatch, Bool.and_eq_true] at hp hq
        obtain ⟨value, hvalue, hpadmits⟩ := Field.matchesField_iff.mp hp.1
        obtain ⟨value', hvalue', hqadmits⟩ := Field.matchesField_iff.mp hq.1
        -- both fields are satisfied by the one value of the tag's field
        obtain rfl := Option.some.inj (hvalue.symm.trans hvalue')
        have hhead : p.disjoint q = false :=
          Field.disjoint_eq_false_iff.mpr ⟨value, hpadmits, hqadmits⟩
        rw [fieldsDisjoint, hhead, ih hp.2 hq.2]
        rfl

/-- **Fields that are disjoint at no position have values in common,** one for each position. The
same values are found for both sides, and so both must have the same number of positions. -/
theorem exists_common_values {ps qs : List Field} (hlength : ps.length = qs.length)
    (h : fieldsDisjoint ps qs = false) :
    ∃ values : List UInt64, fieldsMatch ps (values.map Field.ofValue) = true ∧
      fieldsMatch qs (values.map Field.ofValue) = true := by
  induction ps generalizing qs with
  | nil =>
    have hqs : qs = [] := List.length_eq_zero_iff.mp hlength.symm
    rw [hqs]
    exact ⟨[], rfl, rfl⟩
  | cons p ps ih =>
    cases qs with
    | nil => exact absurd hlength (by simp)
    | cons q qs =>
      rw [fieldsDisjoint, Bool.or_eq_false_iff] at h
      obtain ⟨value, hp, hq⟩ := Field.disjoint_eq_false_iff.mp h.1
      obtain ⟨values, hps, hqs⟩ := ih (Nat.succ.inj hlength) h.2
      refine ⟨value :: values, ?_, ?_⟩
      · rw [List.map_cons, fieldsMatch, Field.matchesField_ofValue hp, hps]
        rfl
      · rw [List.map_cons, fieldsMatch, Field.matchesField_ofValue hq, hqs]
        rfl

theorem fieldsDisjoint_self (fields : List Field) : fieldsDisjoint fields fields = false := by
  induction fields with
  | nil => rfl
  | cons field fields ih =>
    rw [fieldsDisjoint, Field.disjoint_self, ih]
    rfl

/-! ## Patterns

A member is a text that reads as a tag. Going from fields to members takes a text for given values,
and it is the reason why patterns are asked to be readable here. -/

/-- What disjointness looks at: the format, and the fields one by one. -/
theorem disjoint_eq_false_iff {p q : Pattern} :
    p.disjoint q = false ↔ p.format = q.format ∧ fieldsDisjoint p.fields q.fields = false := by
  rw [disjoint, Bool.or_eq_false_iff, bne_eq_false_iff_eq]

/-- No pattern is disjoint from itself, not even a tag, which has no members. -/
theorem disjoint_self (pattern : Pattern) : pattern.disjoint pattern = false :=
  disjoint_eq_false_iff.mpr ⟨rfl, fieldsDisjoint_self pattern.fields⟩

/-- A tag that matches both patterns shows that they are not disjoint. -/
theorem disjoint_eq_false_of_matchesTag {p q tag : Pattern} (hp : p.matchesTag tag = true)
    (hq : q.matchesTag tag = true) : p.disjoint q = false := by
  obtain ⟨-, hpformat, hpfields⟩ := matchesTag_iff.mp hp
  obtain ⟨-, hqformat, hqfields⟩ := matchesTag_iff.mp hq
  exact disjoint_eq_false_iff.mpr
    ⟨hpformat.symm.trans hqformat, fieldsDisjoint_eq_false_of_fieldsMatch hpfields hqfields⟩

/-- **There is a tag for all values.** It has the format of the pattern and the given values as its
fields, and its text reads as the tag. The rest it has from the pattern: the domain, and what is
carried as it stands, which cannot hold a colon if the pattern is readable. -/
theorem exists_tag_of_values {pattern : Pattern} (hreadable : pattern.Readable)
    (values : List UInt64) (hlength : values.length = pattern.fields.length) :
    ∃ tag, parse .tag tag.text = .ok tag ∧ tag.format = pattern.format ∧
      tag.fields = values.map Field.ofValue := by
  obtain ⟨usage, idSpace, body⟩ := pattern
  cases body with
  | epc format fields harity =>
    have harity' : (values.map Field.ofValue).length = format.arity := by
      rw [List.length_map, hlength]
      exact harity
    let tag : Pattern := ⟨.tag, idSpace, .epc format (values.map Field.ofValue) harity'⟩
    have htag : tag.Readable := by
      refine ⟨hreadable.verbatim, ?_⟩
      intro field hfield
      obtain ⟨value, -, rfl⟩ := List.mem_map.mp hfield
      exact Field.readable_ofValue .tag value
    exact ⟨tag, htag.parse_text, rfl, rfl⟩
  -- without fields there are no values, and the pattern itself can be read as a tag
  | oid format data =>
    have hvalues : values = [] := List.length_eq_zero_iff.mp hlength
    have htag : (⟨.tag, idSpace, .oid format data⟩ : Pattern).Readable :=
      ⟨hreadable.verbatim, by simp [Pattern.fields]⟩
    exact ⟨_, htag.parse_text, rfl, by rw [hvalues]; rfl⟩
  | prop format data =>
    have hvalues : values = [] := List.length_eq_zero_iff.mp hlength
    have htag : (⟨.tag, idSpace, .prop format data⟩ : Pattern).Readable :=
      ⟨hreadable.verbatim, by simp [Pattern.fields]⟩
    exact ⟨_, htag.parse_text, rfl, by rw [hvalues]; rfl⟩

/-- A common member reads as one tag that belongs to both patterns. -/
theorem exists_common_tag {p q : Pattern} {text : String} (hp : (p.isMember text).value = true)
    (hq : (q.isMember text).value = true) :
    ∃ tag, p.matchesTag tag = true ∧ q.matchesTag tag = true := by
  obtain ⟨tag, hparse, hptag⟩ := (value_isMember p text).mp hp
  obtain ⟨tag', hparse', hqtag⟩ := (value_isMember q text).mp hq
  obtain rfl := Except.ok.inj (hparse.symm.trans hparse')
  exact ⟨tag, hptag, hqtag⟩

theorem no_common_member_of_disjoint {p q : Pattern} (h : p.disjoint q = true) (text : String) :
    ¬ ((p.isMember text).value = true ∧ (q.isMember text).value = true) := by
  rintro ⟨hp, hq⟩
  obtain ⟨tag, hptag, hqtag⟩ := exists_common_tag hp hq
  rw [disjoint_eq_false_of_matchesTag hptag hqtag] at h
  exact absurd h (by decide)

/-- Patterns with the same number of fields that are not disjoint have a common member: the text of
the tag of their common values. -/
theorem exists_common_member {p q : Pattern} (hreadable : p.Readable) (hp : p.usage ≠ .tag)
    (hq : q.usage ≠ .tag) (hlength : p.fields.length = q.fields.length)
    (h : p.disjoint q = false) :
    ∃ text, (p.isMember text).value = true ∧ (q.isMember text).value = true := by
  obtain ⟨hformat, hfields⟩ := disjoint_eq_false_iff.mp h
  obtain ⟨values, hpvalues, hqvalues⟩ := exists_common_values hlength hfields
  have hcount : values.length = p.fields.length := by
    rw [length_eq_of_fieldsMatch hpvalues, List.length_map]
  obtain ⟨tag, hparse, htagformat, htagfields⟩ := exists_tag_of_values hreadable values hcount
  rw [← htagfields] at hpvalues hqvalues
  -- the tag was made after the first pattern, and the formats are the same
  have hpmatches : p.matchesTag tag = true := matchesTag_iff.mpr ⟨hp, htagformat, hpvalues⟩
  have hqmatches : q.matchesTag tag = true :=
    matchesTag_iff.mpr ⟨hq, htagformat.trans hformat, hqvalues⟩
  refine ⟨tag.text, ?_, ?_⟩
  · exact (value_isMember p tag.text).mpr ⟨tag, hparse, hpmatches⟩
  · exact (value_isMember q tag.text).mpr ⟨tag, hparse, hqmatches⟩

/-- **Disjointness is the absence of a common member.** The order of the two patterns does not
matter. Disjoint patterns share no text, and filter or group patterns with the same number of
fields that are not disjoint share one; so each of these has a member, and is not disjoint from
itself. -/
theorem disjoint_iff_no_common_member {usage usage' : Usage} {text text' : String} {p q : Pattern}
    (hp : parse usage text = .ok p) (hq : parse usage' text' = .ok q) :
    p.disjoint q = q.disjoint p ∧
      (p.disjoint q = true →
        ∀ read, ¬ ((p.isMember read).value = true ∧ (q.isMember read).value = true)) ∧
      (usage ≠ .tag → usage' ≠ .tag → p.fields.length = q.fields.length → p.disjoint q = false →
        ∃ read, (p.isMember read).value = true ∧ (q.isMember read).value = true) ∧
      (usage ≠ .tag → (∃ read, (p.isMember read).value = true) ∧ p.disjoint p = false) := by
  have hpreadable := readable_of_parse hp
  have hpusage := usage_of_parse hp
  have hqusage := usage_of_parse hq
  refine ⟨disjoint_comm p q, no_common_member_of_disjoint, ?_, ?_⟩
  · intro husage husage'
    rw [← hpusage] at husage
    rw [← hqusage] at husage'
    exact exists_common_member hpreadable husage husage'
  · intro husage
    rw [← hpusage] at husage
    obtain ⟨read, hread, -⟩ :=
      exists_common_member hpreadable husage husage rfl (disjoint_self p)
    exact ⟨⟨read, hread⟩, disjoint_self p⟩

/-- Two ranges that touch in one value, and neither pattern part of the other. -/
theorem common_member_of_touching_ranges :
    ∃ p q, parse .filter "urn:epc:pat:gid-96:7.*.[2-5]" = .ok p ∧
      parse .group "urn:epc:pat:gid-96:*.X.[5-9]" = .ok q ∧ p.disjoint q = false ∧
      ∃ read, (p.isMember read).value = true ∧ (q.isMember read).value = true := by
  refine ⟨_, _, rfl, rfl, by decide, ?_⟩
  exact (disjoint_iff_no_common_member
    (rfl : parse .filter "urn:epc:pat:gid-96:7.*.[2-5]" = .ok _)
    (rfl : parse .group "urn:epc:pat:gid-96:*.X.[5-9]" = .ok _)).2.2.1
    (by decide) (by decide) (by decide) (by decide)

end EventCycle.Pattern
