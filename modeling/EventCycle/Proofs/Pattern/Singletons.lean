/-
A tag read as a pattern.

What reads as a tag reads as a filter pattern too, and as that it has literals only. Such a pattern
asks for one value at each position, so its members are the spellings of the tag that it was read
from. And to be a member of another pattern is to overlap with this one: `Pattern.matchesTag` tests
whether the tag's values satisfy the fields, `Pattern.disjoint` whether the fields have values in
common with the literals of those values, and these two tests answer alike
(`Field.matchesField_eq_not_disjoint`, and along the fields `fieldsMatch_eq_not_fieldsDisjoint`).

The main statement is `tag_denotes_itself`. The condition on the number of fields is needed in its
last part only, and for one pair of kinds only: a pattern of the format `oid` or `prop` with a field
and a tag of that format without fields have no position to be disjoint at.
-/
import EventCycle.Proofs.Cycle.Respelling
import EventCycle.Proofs.Pattern.Disjointness
import EventCycle.Proofs.Pattern.Operands

set_option autoImplicit false

namespace EventCycle.Pattern

variable {usage : Usage} {text : String} {pattern tag : Pattern}

/-! ## Lists of literals

Two comparisons of lists of fields, each with the test on single fields that it comes down to. -/

/-- **Literals are matched by what overlaps them** at every position. The induction is on the
fields; at a single position this is said of single fields. -/
theorem fieldsMatch_eq_not_fieldsDisjoint {fields tagFields : List Field}
    (hlength : fields.length = tagFields.length)
    (hliteral : ∀ tagField ∈ tagFields, tagField.isLiteral = true) :
    fieldsMatch fields tagFields = !fieldsDisjoint fields tagFields := by
  induction fields generalizing tagFields with
  | nil =>
    rw [List.length_eq_zero_iff.mp hlength.symm]
    rfl
  | cons field fields ih =>
    cases tagFields with
    | nil => exact absurd hlength (by simp)
    | cons tagField tagFields =>
      obtain ⟨hfirst, hrest⟩ := List.forall_mem_cons.mp hliteral
      obtain ⟨value, hvalue⟩ := Field.exists_value?_of_isLiteral hfirst
      rw [fieldsMatch, fieldsDisjoint, Field.matchesField_eq_not_disjoint hvalue,
        ih (Nat.succ.inj hlength) hrest, Bool.not_or]

/-- Literals are matched by the literals of their values, none being left over. No condition on the
number of fields is needed, since lists of different lengths neither match nor have the same values.
-/
theorem fieldsMatch_iff_of_isLiteral {fields tagFields : List Field}
    (hfields : ∀ field ∈ fields, field.isLiteral = true)
    (htagFields : ∀ tagField ∈ tagFields, tagField.isLiteral = true) :
    fieldsMatch fields tagFields = true ↔
      tagFields.map Field.value? = fields.map Field.value? := by
  induction fields generalizing tagFields with
  | nil =>
    cases tagFields with
    | nil => exact iff_of_true rfl rfl
    | cons => exact iff_of_false (by simp [fieldsMatch]) (by simp)
  | cons field fields ih =>
    cases tagFields with
    | nil => exact iff_of_false (by simp [fieldsMatch]) (by simp)
    | cons tagField tagFields =>
      obtain ⟨hfield, hfields⟩ := List.forall_mem_cons.mp hfields
      obtain ⟨htagField, htagFields⟩ := List.forall_mem_cons.mp htagFields
      rw [fieldsMatch, Bool.and_eq_true, Field.matchesField_iff_of_isLiteral hfield htagField,
        ih hfields htagFields, List.map_cons, List.map_cons, List.cons.injEq]

/-! ## The pattern of a tag

The lemmas on fields are lifted to patterns, where the format has to be the same as well. -/

theorem isLiteral_of_parse_tag (h : parse .tag text = .ok tag) :
    ∀ field ∈ tag.fields, field.isLiteral = true :=
  fun field hfield => Field.allowedBy_tag_iff.mp (allowedBy_of_parse h field hfield)

/-- **What a tag matches as a pattern** are the spellings of the tag. -/
theorem matchesTag_withUsage_iff {other : Pattern} {read : String} (husage : usage ≠ .tag)
    (h : parse .tag text = .ok tag) (hother : parse .tag read = .ok other) :
    (tag.withUsage usage).matchesTag other = true ↔ other.Respells tag := by
  rw [matchesTag_iff, usage_withUsage, format_withUsage, fields_withUsage,
    fieldsMatch_iff_of_isLiteral (isLiteral_of_parse_tag h) (isLiteral_of_parse_tag hother)]
  constructor
  · rintro ⟨-, hformat, hvalues⟩
    exact ⟨hformat, hvalues⟩
  · rintro ⟨hformat, hvalues⟩
    exact ⟨husage, hformat, hvalues⟩

/-- **A tag belongs to a pattern with the same number of fields** when the two overlap. -/
theorem matchesTag_eq_not_disjoint (husage : pattern.usage ≠ .tag)
    (h : parse .tag text = .ok tag) (hlength : pattern.fields.length = tag.fields.length) :
    pattern.matchesTag tag = !pattern.disjoint tag := by
  rw [matchesTag, disjoint, bne_iff_ne.mpr husage, Bool.true_and,
    fieldsMatch_eq_not_fieldsDisjoint hlength (isLiteral_of_parse_tag h), Bool.not_or, bne,
    Bool.not_not, Bool.beq_comm]

/-- **A tag denotes itself.** What reads as a tag reads as a filter pattern, whose members are the
texts that read as a tag of the same format with the same values; the tag is one of them. For a
filter or group pattern with as many fields as the tag, the tag is a member exactly if the pattern
is not disjoint from the one that the tag reads as. -/
theorem tag_denotes_itself (h : parse .tag text = .ok tag) :
    ∃ single, parse .filter text = .ok single ∧
      (∀ read, (single.isMember read).value = true ↔
        ∃ other, parse .tag read = .ok other ∧ other.Respells tag) ∧
      (single.isMember text).value = true ∧
      ∀ usage form pattern, usage ≠ .tag → parse usage form = .ok pattern →
        pattern.fields.length = tag.fields.length →
          ((pattern.isMember text).value = true ↔ pattern.disjoint single = false) := by
  have hallowed : ∀ field ∈ tag.fields, field.kind.allowedBy .filter = true :=
    fun field hfield => Field.allowedBy_filter_of_tag (allowedBy_of_parse h field hfield)
  have hfilter : Usage.filter ≠ .tag := by decide
  refine ⟨tag.withUsage .filter, parse_withUsage h hallowed, ?_, ?_, ?_⟩
  · intro read
    rw [value_isMember]
    constructor
    · rintro ⟨other, hother, hmatches⟩
      exact ⟨other, hother, (matchesTag_withUsage_iff hfilter h hother).mp hmatches⟩
    · rintro ⟨other, hother, hspell⟩
      exact ⟨other, hother, (matchesTag_withUsage_iff hfilter h hother).mpr hspell⟩
  · rw [value_isMember_of_parse h]
    exact (matchesTag_withUsage_iff hfilter h h).mpr ⟨rfl, rfl⟩
  · intro usage form pattern husage hpattern hlength
    rw [← usage_of_parse hpattern] at husage
    rw [value_isMember_of_parse h, matchesTag_eq_not_disjoint husage h hlength,
      disjoint_withUsage_right, Bool.not_eq_true']

/-- Another spelling is a member of the tag read as a pattern, and the tag itself is a member of a
group pattern that overlaps with it. -/
theorem spelling_and_group_of_tag :
    ∃ tag single group, parse .tag "urn:epc:tag:gid-96:007.+5.-0" = .ok tag ∧
      parse .filter "urn:epc:tag:gid-96:007.+5.-0" = .ok single ∧
      (single.isMember "urn:epc:raw:gid-96:7.0005.0").value = true ∧
      parse .group "urn:epc:pat:gid-96:X.[5-9].*" = .ok group ∧ group.disjoint single = false ∧
      (group.isMember "urn:epc:tag:gid-96:007.+5.-0").value = true := by
  have hspell : ∃ tag other, parse .tag "urn:epc:tag:gid-96:007.+5.-0" = .ok tag ∧
      parse .tag "urn:epc:raw:gid-96:7.0005.0" = .ok other ∧ other.Respells tag ∧
      tag.fields.length = 3 := ⟨_, _, rfl, rfl, ⟨rfl, rfl⟩, rfl⟩
  have hgroup : ∃ single group, parse .filter "urn:epc:tag:gid-96:007.+5.-0" = .ok single ∧
      parse .group "urn:epc:pat:gid-96:X.[5-9].*" = .ok group ∧ group.fields.length = 3 ∧
      group.disjoint single = false := ⟨_, _, rfl, rfl, rfl, rfl⟩
  obtain ⟨tag, other, htag, hother, hrespells, hthree⟩ := hspell
  obtain ⟨single, group, hsingle, hgroup, hlength, hoverlap⟩ := hgroup
  obtain ⟨single', hsingle', hmembers, -, hoverlaps⟩ := tag_denotes_itself htag
  obtain rfl := Except.ok.inj (hsingle.symm.trans hsingle')
  refine ⟨tag, single, group, htag, hsingle, ?_, hgroup, hoverlap, ?_⟩
  · exact (hmembers _).mpr ⟨other, hother, hrespells⟩
  · exact (hoverlaps .group _ group (by decide) hgroup (hlength.trans hthree.symm)).mpr hoverlap

end EventCycle.Pattern
