/-
Which patterns are what their text reads as.

A pattern can be put together in other ways than by reading a text: a group name is the text of
a pattern whose fields come from two different readings, and a tag with given values comes from
no text at all. `Readable` is the condition under which nothing is lost on the way through the
text. No part holds a separator that would cut it, and every field is what its own token reads
as.

The main statement is `parse_eq_ok_iff_readable`. The readings of a text under a usage are
exactly the readable patterns of that usage with that text; so a readable pattern can be treated
as if it had been read, and is determined by its usage and its text (`eq_of_text_eq`). What this
means for patterns that have been read is `text_undoes_parse`: writing gives back the text, and
equal texts under one usage make equal patterns.
-/
import EventCycle.Pattern.Parser
import EventCycle.Proofs.Field.Spelling

set_option autoImplicit false

namespace EventCycle

open EventCycle.Text

/-! ## Characters of joined parts -/

namespace Text

/-- Joining puts the separator behind the first part and goes on with the others. -/
theorem toList_joined_cons_cons (sep : Char) (a b : String) (rest : List String) :
    (joined sep (a :: b :: rest)).toList = a.toList ++ sep :: (joined sep (b :: rest)).toList := by
  simp only [joined, String.toList_ofList, List.map_cons, List.intercalate_cons_cons]
  rw [List.append_assoc, List.singleton_append]

/-- A character of a joined text is the separator or stands in one of the parts. The induction is on
the parts, the last of which has no separator behind it. -/
theorem mem_toList_joined {sep c : Char} {parts : List String}
    (h : c ∈ (joined sep parts).toList) : c = sep ∨ ∃ part ∈ parts, c ∈ part.toList := by
  induction parts with
  | nil => simp [joined, List.intercalate_nil] at h
  | cons a rest ih =>
    cases rest with
    | nil =>
      refine .inr ⟨a, by simp, ?_⟩
      simpa [joined, List.intercalate_singleton] using h
    | cons b rest =>
      rw [toList_joined_cons_cons, List.mem_append, List.mem_cons] at h
      rcases h with h | h | h
      · exact .inr ⟨a, by simp, h⟩
      · exact .inl h
      · rcases ih h with h | ⟨part, hpart, hc⟩
        · exact .inl h
        · exact .inr ⟨part, List.mem_cons_of_mem _ hpart, hc⟩

/-- Joining loses no character of a part. -/
theorem mem_toList_joined_of_mem {sep c : Char} {parts : List String} {part : String}
    (hpart : part ∈ parts) (hc : c ∈ part.toList) : c ∈ (joined sep parts).toList := by
  induction parts with
  | nil => exact absurd hpart (by simp)
  | cons a rest ih =>
    cases rest with
    | nil =>
      obtain rfl := List.mem_singleton.mp hpart
      simpa [joined, List.intercalate_singleton] using hc
    | cons b rest =>
      rw [toList_joined_cons_cons, List.mem_append, List.mem_cons]
      rcases List.mem_cons.mp hpart with rfl | hpart
      · exact .inl hc
      · exact .inr (.inr (ih hpart))

end Text

/-! ## The condition

Only the parts that may be any text are restricted. Everything else that a pattern writes into its
text comes from a closed list, or from the tokens of its fields. -/

namespace Pattern

/-- The last two segments where they are carried as they stand. In the domain `epc` they are made of
the format and the fields, which are parts of their own. -/
def Body.verbatim : Body → List String
  | .epc .. => []
  | .oid format data | .prop format data => [format, data]

/-- A pattern that its text reads as. The condition is on the parts; that it is what the name says
is `parse_eq_ok_iff_readable`. -/
structure Readable (pattern : Pattern) : Prop where
  /-- What is carried as it stands is not cut by the separator of segments. -/
  verbatim : ∀ segment ∈ pattern.idSpace :: pattern.body.verbatim, ':' ∉ segment.toList
  /-- Every field is what its own token reads as. -/
  fields : ∀ field ∈ pattern.fields, field.Readable pattern.usage

/-! ## Reading yields readable patterns

Cutting at a character leaves pieces without it, which is all that the condition asks for. -/

/-- The fields of a data segment that is read are readable. -/
theorem readable_of_readAll {usage : Usage} {data : String} {fields : List Field}
    (hcolon : ':' ∉ data.toList)
    (h : readAll (Field.parse usage) (Text.segments '.' data) = .ok fields) :
    ∀ field ∈ fields, field.Readable usage := by
  intro field hfield
  obtain ⟨token, htoken, hparse⟩ := (mem_iff_of_readAll h).mp hfield
  -- a field keeps the token that it is read from
  obtain rfl := Field.token_of_parse hparse
  refine ⟨fun hmem => hcolon ?_, not_mem_of_mem_segments htoken, hparse⟩
  rw [← joined_segments '.' data]
  exact mem_toList_joined_of_mem htoken hmem

/-- **What is read is readable.** Cutting leaves no separator in the segments, and a field keeps the
token that it is read from. -/
theorem readable_of_parse {usage : Usage} {text : String} {pattern : Pattern}
    (h : parse usage text = .ok pattern) : pattern.Readable := by
  obtain ⟨domain, format, data, body, hpattern, hsegments, hbody⟩ := parse_eq_ok_iff.mp h
  have hcolon : ∀ segment ∈ [scheme, domain.token, pattern.idSpace, format, data],
      ':' ∉ segment.toList := by
    intro segment hsegment
    rw [← hsegments] at hsegment
    exact not_mem_of_mem_segments hsegment
  have hidSpace := hcolon pattern.idSpace (by simp)
  have hformat := hcolon format (by simp)
  have hdata := hcolon data (by simp)
  rw [hpattern]
  -- outside the domain `epc` these three are carried as they stand
  have hverbatim : ∀ segment ∈ [pattern.idSpace, format, data], ':' ∉ segment.toList := by
    simp only [List.mem_cons, List.not_mem_nil, or_false]
    rintro segment (rfl | rfl | rfl) <;> assumption
  cases domain with
  | epc =>
    rw [parseBody] at hbody
    split at hbody
    · exact absurd hbody (by simp)
    · obtain ⟨fields, harity, rfl, hread⟩ := parseFields_eq_ok_iff.mp hbody
      refine ⟨?_, readable_of_readAll hdata hread⟩
      simpa [Body.verbatim] using hidSpace
  | oid =>
    rw [← Except.ok.inj hbody]
    exact ⟨hverbatim, by simp [Pattern.fields]⟩
  | prop =>
    rw [← Except.ok.inj hbody]
    exact ⟨hverbatim, by simp [Pattern.fields]⟩

/-! ## Readable patterns are read

A pattern is written by joining its segments, so what has to be seen is that none of them would be
cut in two. The first two segments and the format come from a closed list of tokens. -/

theorem colonFree_scheme : ':' ∉ scheme.toList := by decide

theorem colonFree_domain (domain : Domain) : ':' ∉ domain.token.toList := by
  cases domain <;> decide

theorem colonFree_format (format : Format) : ':' ∉ format.token.toList := by
  cases format <;> decide

/-- **No segment of a readable pattern holds the separator.** The data segment of a pattern in the
domain `epc` is joined from tokens with another separator, so it takes two steps. -/
theorem Readable.colonFree {pattern : Pattern} (h : pattern.Readable) :
    ∀ segment ∈ pattern.segments, ':' ∉ segment.toList := by
  have hidSpace := h.verbatim pattern.idSpace (by simp)
  have htail : ∀ segment ∈ pattern.body.tail, ':' ∉ segment.toList := by
    have hverbatim := h.verbatim
    have hfields := h.fields
    unfold Pattern.fields at hfields
    cases hbody : pattern.body with
    | epc format fields harity =>
      rw [hbody] at hfields
      intro segment hsegment
      simp only [Body.tail, List.mem_cons, List.not_mem_nil, or_false] at hsegment
      rcases hsegment with rfl | rfl
      · exact colonFree_format format
      -- a colon in the data segment would be the dot that joins it, or stand in a token
      · intro hmem
        rcases mem_toList_joined hmem with heq | ⟨token, htoken, hc⟩
        · exact absurd heq (by decide)
        · obtain ⟨field, hfield, rfl⟩ := List.mem_map.mp htoken
          exact (hfields field hfield).colonFree hc
    | oid format data =>
      rw [hbody] at hverbatim
      exact fun segment hsegment => hverbatim segment (List.mem_cons_of_mem _ hsegment)
    | prop format data =>
      rw [hbody] at hverbatim
      exact fun segment hsegment => hverbatim segment (List.mem_cons_of_mem _ hsegment)
  intro segment hsegment
  simp only [segments, List.mem_cons] at hsegment
  rcases hsegment with rfl | rfl | rfl | hsegment
  · exact colonFree_scheme
  · exact colonFree_domain pattern.domain
  · exact hidSpace
  · exact htail segment hsegment

/-- Readable fields are read from their tokens joined. There must be a field, since a text without
any would be cut into one empty token. -/
theorem readAll_segments_joined {usage : Usage} {fields : List Field} (hne : fields ≠ [])
    (h : ∀ field ∈ fields, field.Readable usage) :
    readAll (Field.parse usage) (Text.segments '.' (joined '.' (fields.map Field.token))) =
      .ok fields := by
  rw [segments_joined, readAll_eq_ok_iff, List.map_map]
  · exact List.map_congr_left fun field hfield => (h field hfield).parse_token
  · simpa using hne
  · intro part hpart
    obtain ⟨field, hfield, rfl⟩ := List.mem_map.mp hpart
    exact (h field hfield).dotFree

/-- The body of a readable pattern is read from its own last two segments. -/
theorem Readable.parseBody_tail {pattern : Pattern} (h : pattern.Readable) (text : String) :
    ∃ format data, pattern.body.tail = [format, data] ∧
      parseBody pattern.usage text pattern.domain format data = .ok pattern.body := by
  have hfields := h.fields
  unfold domain
  unfold Pattern.fields at hfields
  cases hbody : pattern.body with
  | epc format fields harity =>
    rw [hbody] at hfields
    refine ⟨format.token, joined '.' (fields.map Field.token), rfl, ?_⟩
    -- a format has at least one field, so there is something to join
    have hne : fields ≠ [] := by
      intro hnil
      rw [hnil] at harity
      exact absurd harity (Nat.ne_of_lt format.arity_pos)
    rw [parseBody, Format.ofToken?_token]
    exact parseFields_eq_ok_iff.mpr ⟨fields, harity, rfl, readAll_segments_joined hne hfields⟩
  | oid format data => exact ⟨format, data, rfl, rfl⟩
  | prop format data => exact ⟨format, data, rfl, rfl⟩

/-- **A readable pattern is what its text reads as.** Its text is cut into the segments that it was
joined from, and the last two of these are read as its body. -/
theorem Readable.parse_text {pattern : Pattern} (h : pattern.Readable) :
    parse pattern.usage pattern.text = .ok pattern := by
  obtain ⟨format, data, htail, hbody⟩ := h.parseBody_tail pattern.text
  refine parse_eq_ok_iff.mpr ⟨pattern.domain, format, data, pattern.body, rfl, ?_, hbody⟩
  rw [text, segments_joined ':' (by simp [segments]) h.colonFree, segments, htail]

/-- **The readings of a text** are the readable patterns with that text. -/
theorem parse_eq_ok_iff_readable {usage : Usage} {text : String} {pattern : Pattern} :
    parse usage text = .ok pattern ↔
      pattern.Readable ∧ pattern.usage = usage ∧ pattern.text = text := by
  constructor
  · intro h
    exact ⟨readable_of_parse h, usage_of_parse h, text_of_parse h⟩
  · rintro ⟨h, rfl, rfl⟩
    exact h.parse_text

/-- Readable patterns of one usage are told apart by their texts, since a text reads as one pattern.
-/
theorem Readable.eq_of_text_eq {p q : Pattern} (hp : p.Readable) (hq : q.Readable)
    (husage : p.usage = q.usage) (htext : p.text = q.text) : p = q := by
  have hparse := hp.parse_text
  rw [husage, htext, hq.parse_text] at hparse
  exact (Except.ok.inj hparse).symm

/-! ## Patterns and their texts

A readable pattern and its text determine each other, up to the usage, which is not written. The
parts of a pattern are listed once, so that equality can be argued part by part. -/

/-- Two patterns have the same parts, those carried as they stand included. -/
structure SameParts (p q : Pattern) : Prop where
  usage : p.usage = q.usage
  domain : p.domain = q.domain
  idSpace : p.idSpace = q.idSpace
  format : p.format = q.format
  fields : p.fields = q.fields
  verbatim : p.body.verbatim = q.body.verbatim

/-- Bodies of two domains are told apart by the domain, those of one by the other parts. The cases
are the pairs of domains, and only those of one domain twice are left. -/
theorem SameParts.body {p q : Pattern} (h : p.SameParts q) : p.body = q.body := by
  obtain ⟨-, hdomain, -, hformat, hfields, hverbatim⟩ := h
  obtain ⟨usage, idSpace, body⟩ := p
  obtain ⟨usage', idSpace', body'⟩ := q
  cases body with
  | epc format fields harity =>
    cases body' with
    | epc format' fields' harity' =>
      obtain rfl : format = format' := hformat
      obtain rfl : fields = fields' := hfields
      rfl
    | oid => exact absurd hdomain (by simp [Pattern.domain])
    | prop => exact absurd hdomain (by simp [Pattern.domain])
  | oid format data =>
    cases body' with
    | epc => exact absurd hdomain (by simp [Pattern.domain])
    | oid format' data' =>
      obtain ⟨rfl, rfl⟩ : format = format' ∧ data = data' := by
        simpa [Body.verbatim] using hverbatim
      rfl
    | prop => exact absurd hdomain (by simp [Pattern.domain])
  | prop format data =>
    cases body' with
    | epc => exact absurd hdomain (by simp [Pattern.domain])
    | oid => exact absurd hdomain (by simp [Pattern.domain])
    | prop format' data' =>
      obtain ⟨rfl, rfl⟩ : format = format' ∧ data = data' := by
        simpa [Body.verbatim] using hverbatim
      rfl

/-- There is no more to a pattern than its parts. -/
theorem eq_iff_sameParts {p q : Pattern} : p = q ↔ p.SameParts q := by
  constructor
  · rintro rfl
    exact ⟨rfl, rfl, rfl, rfl, rfl, rfl⟩
  · intro h
    have hbody := h.body
    obtain ⟨usage, idSpace, body⟩ := p
    obtain ⟨usage', idSpace', body'⟩ := q
    rw [Pattern.mk.injEq]
    exact ⟨h.usage, h.idSpace, hbody⟩

/-- **Writing a pattern undoes reading it.** A pattern is written as the text that it was read from,
so that its text reads as the pattern again. Patterns that have been read are equal when all their
parts are, and for that it is enough that their usages and their texts are. -/
theorem text_undoes_parse {usage usage' : Usage} {text text' : String} {p q : Pattern}
    (hp : parse usage text = .ok p) (hq : parse usage' text' = .ok q) :
    p.text = text ∧ parse p.usage p.text = .ok p ∧
      (p = q ↔ p.SameParts q) ∧ (p = q ↔ p.usage = q.usage ∧ p.text = q.text) := by
  have hpreadable := readable_of_parse hp
  have hqreadable := readable_of_parse hq
  refine ⟨text_of_parse hp, hpreadable.parse_text, eq_iff_sameParts, ?_, ?_⟩
  · rintro rfl
    exact ⟨rfl, rfl⟩
  · rintro ⟨husage, htext⟩
    exact hpreadable.eq_of_text_eq hqreadable husage htext

/-- Leading zeros and signs are kept, so fields of one value may make different patterns. -/
theorem text_keeps_spelling :
    ∃ p q, parse .filter "urn:epc:pat:gid-96:+7.[007-8].-0" = .ok p ∧
      parse .filter "urn:epc:pat:gid-96:7.[7-8].0" = .ok q ∧
      p.text = "urn:epc:pat:gid-96:+7.[007-8].-0" ∧ p ≠ q := by
  have hp : ∃ p, parse .filter "urn:epc:pat:gid-96:+7.[007-8].-0" = .ok p := ⟨_, rfl⟩
  have hq : ∃ q, parse .filter "urn:epc:pat:gid-96:7.[7-8].0" = .ok q := ⟨_, rfl⟩
  obtain ⟨p, hp⟩ := hp
  obtain ⟨q, hq⟩ := hq
  have h := text_undoes_parse hp hq
  refine ⟨p, q, hp, hq, h.1, fun heq => ?_⟩
  have htext := (h.2.2.2.mp heq).2
  rw [h.1, text_of_parse hq] at htext
  exact absurd htext (by decide)

end Pattern

end EventCycle
