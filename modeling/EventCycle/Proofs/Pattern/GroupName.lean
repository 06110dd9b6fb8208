/-
What a group name tells about the pattern and the tag it was made from.

A group name is the text of the group pattern with the tag's fields in place of its named
wildcards. The same text may come from two patterns: `5.X.*` and `X.5.*` both name the tag
`5.5.1` by `5.5.*`. What the name does tell is said by the two main statements.

`matchesTag_of_groupNameFor?_eq`: a pattern that gives a name to one tag matches every tag that
gets the name from any pattern. The filled patterns are readable, so equal names make them equal
field by field (`fieldsMatch_of_fillFields_eq`). Filling in loses the named wildcards and nothing
else: the tag still matches what it fills in (`fieldsMatch_fillFields`), and whatever matches that
matches the pattern (`fieldsMatch_of_fillFields`).

`filled_eq_filled_iff`: a pattern gives two tags one name exactly when they carry the same
tokens at its named wildcards.
-/
import EventCycle.Pattern.Matching
import EventCycle.Proofs.Field.Disjointness
import EventCycle.Proofs.Pattern.Readable

set_option autoImplicit false

namespace EventCycle.Pattern

/-! ## Filling in one field

There are two cases throughout, a named wildcard and any other field. Here they are told apart; the
lists of fields below, and the modules about groups, only use the results. -/

section Field

variable {field tagField other : Field}

/-- A named wildcard gives way to the tag's field, any other field stays. -/
def filledField (field tagField : Field) : Field :=
  if field.isNamedWildcard then tagField else field

/-- At a named wildcard the tag's field stands, whatever it is. -/
theorem filledField_of_isNamedWildcard (h : field.isNamedWildcard = true) :
    filledField field = id := by
  funext tagField
  rw [filledField, if_pos h]
  rfl

/-- Anywhere else the pattern's own field stands, whatever the tag carries. -/
theorem filledField_of_not_isNamedWildcard (h : ¬field.isNamedWildcard = true) :
    filledField field = fun _ => field := by
  funext tagField
  rw [filledField, if_neg h]

/-- A name is made of tokens, so this is all that is seen of a filled field in the end. -/
theorem token_filledField (field tagField : Field) :
    (filledField field tagField).token =
      if field.isNamedWildcard then tagField.token else field.token := by
  rw [filledField]
  split <;> rfl

/-- What a tag fills in is a literal, so no named wildcard is left. -/
theorem not_isNamedWildcard_filledField (h : field.matchesField tagField = true) :
    (filledField field tagField).isNamedWildcard = false := by
  by_cases hnamed : field.isNamedWildcard = true
  · obtain ⟨value, hvalue, -⟩ := Field.matchesField_iff.mp h
    rw [filledField, if_pos hnamed, Field.isNamedWildcard, Field.value?_eq_some_iff.mp hvalue]
    rfl
  · rw [filledField, if_neg hnamed, ← Bool.not_eq_true]
    exact hnamed

/-- The tag's field matches the filled field: it is the tag's field itself, or the field it matched.
-/
theorem matchesField_filledField (h : field.matchesField tagField = true) :
    (filledField field tagField).matchesField tagField = true := by
  by_cases hnamed : field.isNamedWildcard = true
  · obtain ⟨value, hvalue, -⟩ := Field.matchesField_iff.mp h
    rw [filledField, if_pos hnamed]
    exact Field.matchesField_self hvalue
  · rw [filledField, if_neg hnamed]
    exact h

/-- A named wildcard takes every value, so it takes the one that was filled in. -/
theorem matchesField_of_filledField (h : (filledField field tagField).matchesField other = true) :
    field.matchesField other = true := by
  by_cases hnamed : field.isNamedWildcard = true
  · obtain ⟨value, hvalue, -⟩ := Field.matchesField_iff.mp h
    exact Field.matchesField_of_isNamedWildcard hnamed hvalue
  · rw [filledField, if_neg hnamed] at h
    exact h

/-- A field filled in from two matches overlaps itself, unless it is a named wildcard and the
matches have different values. -/
theorem disjoint_filledField_eq_false_iff {s t : Field} (hs : field.matchesField s = true)
    (ht : field.matchesField t = true) :
    (filledField field s).disjoint (filledField field t) = false ↔
      (field.isNamedWildcard = true → s.value? = t.value?) := by
  by_cases hnamed : field.isNamedWildcard = true
  · obtain ⟨v, hv, -⟩ := Field.matchesField_iff.mp hs
    obtain ⟨w, hw, -⟩ := Field.matchesField_iff.mp ht
    rw [filledField, filledField, if_pos hnamed, if_pos hnamed,
      Field.disjoint_eq_false_iff_of_value? hv hw, hv, hw]
    simp [hnamed]
  · rw [filledField, filledField, if_neg hnamed, if_neg hnamed]
    exact iff_of_true field.disjoint_self fun h => absurd h hnamed

end Field

/-! ## Filling in fields

The inductions about a match follow `fieldsMatch`: both lists end, or both go on, or there is no
match. -/

theorem fillFields_nil (tagFields : List Field) : fillFields [] tagFields = [] := by
  cases tagFields <;> rfl

theorem fillFields_cons_cons (field tagField : Field) (fields tagFields : List Field) :
    fillFields (field :: fields) (tagField :: tagFields) =
      filledField field tagField :: fillFields fields tagFields := rfl

/-- With as many fields on both sides, filling in goes position by position. -/
theorem fillFields_eq_zipWith {fields tagFields : List Field}
    (h : fields.length = tagFields.length) :
    fillFields fields tagFields = List.zipWith filledField fields tagFields := by
  induction fields generalizing tagFields with
  | nil => rw [fillFields_nil, List.zipWith_nil_left]
  | cons field fields ih =>
    cases tagFields with
    | nil => exact absurd h (by simp)
    | cons tagField tagFields =>
      rw [fillFields_cons_cons, ih (Nat.succ.inj h), List.zipWith_cons_cons]

/-- A filled field is a field of the pattern or one of the tag. -/
theorem mem_fillFields {fields tagFields : List Field} {field : Field}
    (h : field ∈ fillFields fields tagFields) : field ∈ fields ∨ field ∈ tagFields := by
  induction fields generalizing tagFields with
  | nil =>
    rw [fillFields_nil] at h
    exact absurd h (by simp)
  | cons head fields ih =>
    cases tagFields with
    | nil => exact .inl h
    | cons tagField tagFields =>
      rw [fillFields, List.mem_cons] at h
      rcases h with h | h
      · by_cases hnamed : head.isNamedWildcard = true
        · rw [if_pos hnamed] at h
          exact .inr (by simp [h])
        · rw [if_neg hnamed] at h
          exact .inl (by simp [h])
      · rcases ih h with h | h
        · exact .inl (List.mem_cons_of_mem _ h)
        · exact .inr (List.mem_cons_of_mem _ h)

section Match

variable {fields tagFields others : List Field}

/-- **The tag matches the fields that it fills in.** -/
theorem fieldsMatch_fillFields (h : fieldsMatch fields tagFields = true) :
    fieldsMatch (fillFields fields tagFields) tagFields = true := by
  induction fields, tagFields using fieldsMatch.induct with
  | case1 => rfl
  | case2 field fields tagField tagFields ih =>
    rw [fieldsMatch, Bool.and_eq_true] at h
    rw [fillFields_cons_cons, fieldsMatch, Bool.and_eq_true]
    exact ⟨matchesField_filledField h.1, ih h.2⟩
  | case3 => exact absurd h (by simp [fieldsMatch])

/-- **Filling in leaves fewer matches.** What matches the filled fields matches the fields. -/
theorem fieldsMatch_of_fillFields (h : fieldsMatch fields tagFields = true)
    (hothers : fieldsMatch (fillFields fields tagFields) others = true) :
    fieldsMatch fields others = true := by
  induction fields, tagFields using fieldsMatch.induct generalizing others with
  | case1 => exact hothers
  | case2 field fields tagField tagFields ih =>
    rw [fillFields_cons_cons] at hothers
    cases others with
    | nil => exact absurd hothers (by simp [fieldsMatch])
    | cons other others =>
      rw [fieldsMatch, Bool.and_eq_true] at h hothers ⊢
      exact ⟨matchesField_of_filledField hothers.1, ih h.2 hothers.2⟩
  | case3 => exact absurd h (by simp [fieldsMatch])

end Match

/-- **Equal fillings match each other's tags.** The second tag matches what it fills in, which is
also a filling of the first pattern, and that has no matches but those of the pattern. -/
theorem fieldsMatch_of_fillFields_eq {ps qs ss ts : List Field}
    (hp : fieldsMatch ps ss = true) (hq : fieldsMatch qs ts = true)
    (h : fillFields ps ss = fillFields qs ts) : fieldsMatch ps ts = true := by
  have hfilled : fieldsMatch (fillFields ps ss) ts = true := by
    rw [h]
    exact fieldsMatch_fillFields hq
  exact fieldsMatch_of_fillFields hp hfilled

/-! ## Filled patterns

Filling in changes the fields and nothing else. -/

@[simp] theorem usage_filled (pattern tag : Pattern) :
    (pattern.filled tag).usage = pattern.usage := by
  obtain ⟨usage, idSpace, body⟩ := pattern
  cases body <;> rfl

@[simp] theorem domain_filled (pattern tag : Pattern) :
    (pattern.filled tag).domain = pattern.domain := by
  obtain ⟨usage, idSpace, body⟩ := pattern
  cases body <;> rfl

@[simp] theorem idSpace_filled (pattern tag : Pattern) :
    (pattern.filled tag).idSpace = pattern.idSpace := by
  obtain ⟨usage, idSpace, body⟩ := pattern
  cases body <;> rfl

@[simp] theorem format_filled (pattern tag : Pattern) :
    (pattern.filled tag).format = pattern.format := by
  obtain ⟨usage, idSpace, body⟩ := pattern
  cases body <;> rfl

@[simp] theorem verbatim_filled (pattern tag : Pattern) :
    (pattern.filled tag).body.verbatim = pattern.body.verbatim := by
  obtain ⟨usage, idSpace, body⟩ := pattern
  cases body <;> rfl

/-- In the domains without fields, too, the fields are filled in: there are none. -/
@[simp] theorem fields_filled (pattern tag : Pattern) :
    (pattern.filled tag).fields = fillFields pattern.fields tag.fields := by
  obtain ⟨usage, idSpace, body⟩ := pattern
  cases body with
  | epc format fields harity => rfl
  | oid format data => exact (fillFields_nil tag.fields).symm
  | prop format data => exact (fillFields_nil tag.fields).symm

/-- A pattern is filled in alike by tags that fill in its fields alike. -/
theorem filled_eq_filled {pattern s t : Pattern}
    (h : fillFields pattern.fields s.fields = fillFields pattern.fields t.fields) :
    pattern.filled s = pattern.filled t := by
  obtain ⟨usage, idSpace, body⟩ := pattern
  cases body with
  | epc format fields harity =>
    have hfields : fillFields fields s.fields = fillFields fields t.fields := h
    simp only [filled, hfields]
  | oid format data => rfl
  | prop format data => rfl

/-- **A filled group pattern is readable,** since what a tag holds a group pattern may hold. -/
theorem readable_filled {pattern tag : Pattern} {text : String} (hpattern : pattern.Readable)
    (htag : parse .tag text = .ok tag) : (pattern.filled tag).Readable where
  verbatim := by
    rw [idSpace_filled, verbatim_filled]
    exact hpattern.verbatim
  fields := by
    rw [fields_filled, usage_filled]
    intro field hfield
    rcases mem_fillFields hfield with h | h
    · exact hpattern.fields field h
    · obtain ⟨hcolon, hdot, hparse⟩ := (readable_of_parse htag).fields field h
      rw [usage_of_parse htag] at hparse
      exact ⟨hcolon, hdot, Field.parse_of_parse_tag hparse pattern.usage⟩

/-! ## Tags with one name

A name is a text, so two names are compared by what they read as. Both filled patterns are readable
and have the usage of groups, and such patterns are equal when their texts are. -/

variable {p q s t : Pattern} {a b name : String}

/-- **A name is shared by tags of one pattern only.** The pattern that names one tag matches
every tag of that name. The two filled patterns are readable and have one text, so they are equal,
and equal fillings match each other's tags. -/
theorem matchesTag_of_groupNameFor?_eq (hp : p.Readable) (hq : q.Readable)
    (hs : parse .tag a = .ok s) (ht : parse .tag b = .ok t)
    (hps : p.groupNameFor? s = some name) (hqt : q.groupNameFor? t = some name) :
    p.matchesTag t = true := by
  obtain ⟨hpusage, hpmatches, hptext⟩ := groupNameFor?_eq_some_iff.mp hps
  obtain ⟨hqusage, hqmatches, hqtext⟩ := groupNameFor?_eq_some_iff.mp hqt
  have hfilled : p.filled s = q.filled t := by
    refine (readable_filled hp hs).eq_of_text_eq (readable_filled hq ht) ?_ ?_
    · rw [usage_filled, usage_filled, hpusage, hqusage]
    · rw [hptext, hqtext]
  -- the format is not filled in, so the patterns have it in common as well
  have hformat : p.format = q.format := by
    rw [← format_filled p s, hfilled, format_filled]
  have hfields : fillFields p.fields s.fields = fillFields q.fields t.fields := by
    rw [← fields_filled, hfilled, fields_filled]
  obtain ⟨hpnottag, -, hpfields⟩ := matchesTag_iff.mp hpmatches
  obtain ⟨-, hqformat, hqfields⟩ := matchesTag_iff.mp hqmatches
  exact matchesTag_iff.mpr ⟨hpnottag, hqformat.trans hformat.symm,
    fieldsMatch_of_fillFields_eq hpfields hqfields hfields⟩

/-- Two tags carry the same tokens at the named wildcards of a pattern. -/
def AgreeAtNames (pattern s t : Pattern) : Prop :=
  ∀ (position : Nat) (field : Field), pattern.fields[position]? = some field →
    field.isNamedWildcard = true →
      s.fields[position]?.map Field.token = t.fields[position]?.map Field.token

/-- A position of a filled pattern, where the tag has as many fields as the pattern. -/
theorem getElem?_fillFields {fields tagFields : List Field} {position : Nat} {field : Field}
    (hlength : fields.length = tagFields.length) (hfield : fields[position]? = some field) :
    (fillFields fields tagFields)[position]? =
      tagFields[position]?.map (filledField field) := by
  rw [fillFields_eq_zipWith hlength, List.getElem?_zipWith, hfield]
  cases tagFields[position]? <;> rfl

/-- A tag's field is what its token reads as, so equal tokens make equal fields. -/
theorem getElem?_fields_eq_of_token_eq {position : Nat} (hs : parse .tag a = .ok s)
    (ht : parse .tag b = .ok t)
    (h : s.fields[position]?.map Field.token = t.fields[position]?.map Field.token) :
    s.fields[position]? = t.fields[position]? := by
  cases hsfield : s.fields[position]? with
  | none =>
    rw [hsfield, Option.map_none, eq_comm, Option.map_eq_none_iff] at h
    rw [h]
  | some sfield =>
    rw [hsfield, Option.map_some, eq_comm, Option.map_eq_some_iff] at h
    obtain ⟨tfield, htfield, htoken⟩ := h
    have hsparse :=
      ((readable_of_parse hs).fields sfield (List.mem_of_getElem? hsfield)).parse_token
    have htparse :=
      ((readable_of_parse ht).fields tfield (List.mem_of_getElem? htfield)).parse_token
    rw [htoken] at htparse
    rw [htfield, Field.eq_of_parse_of_parse hsparse htparse]

/-- **Two tags get one name from a pattern** exactly when they agree at its named wildcards. The
filled patterns are compared position by position. At a named wildcard the tags' fields stand there,
and these are equal when their tokens are; elsewhere the pattern's own field stands on both sides.
-/
theorem filled_eq_filled_iff (hs : parse .tag a = .ok s) (ht : parse .tag b = .ok t)
    (hps : p.matchesTag s = true) (hpt : p.matchesTag t = true) :
    p.filled s = p.filled t ↔ p.AgreeAtNames s t := by
  obtain ⟨-, -, hsfields⟩ := matchesTag_iff.mp hps
  obtain ⟨-, -, htfields⟩ := matchesTag_iff.mp hpt
  have hslength := length_eq_of_fieldsMatch hsfields
  have htlength := length_eq_of_fieldsMatch htfields
  constructor
  · intro h position field hfield hnamed
    have hposition : (fillFields p.fields s.fields)[position]? =
        (fillFields p.fields t.fields)[position]? := by
      rw [← fields_filled, ← fields_filled, h]
    rw [getElem?_fillFields hslength hfield, getElem?_fillFields htlength hfield] at hposition
    rw [filledField_of_isNamedWildcard hnamed, Option.map_id, id, id] at hposition
    rw [hposition]
  · intro h
    refine filled_eq_filled (List.ext_getElem? fun position => ?_)
    cases hfield : p.fields[position]? with
    -- past the last field there is nothing on either side
    | none =>
      have hout : p.fields.length ≤ position := List.getElem?_eq_none_iff.mp hfield
      rw [List.getElem?_eq_none (by rw [length_fillFields]; exact hout),
        List.getElem?_eq_none (by rw [length_fillFields]; exact hout)]
    | some field =>
      rw [getElem?_fillFields hslength hfield, getElem?_fillFields htlength hfield]
      by_cases hnamed : field.isNamedWildcard = true
      · rw [getElem?_fields_eq_of_token_eq hs ht (h position field hfield hnamed)]
      -- the tags' fields do not show, only that both tags have one at the position
      · obtain ⟨hin, -⟩ := List.getElem?_eq_some_iff.mp hfield
        rw [List.getElem?_eq_getElem (by omega), List.getElem?_eq_getElem (by omega),
          filledField_of_not_isNamedWildcard hnamed]
        rfl

end EventCycle.Pattern
