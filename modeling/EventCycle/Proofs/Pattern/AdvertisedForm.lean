/-
The form that the users are told, and what is read besides.

Whoever writes a text with a broken skeleton is told which form a pattern has, `Pattern.form`: the
scheme, one of three domains, one of six id spaces, and two more segments. The domain is looked for
when a text is read. The id space is not: the third segment is taken as it stands, whether it is
one of the six or not, and so texts are read that do not have the form. `read_outside_form` is one.

The main statement, `advertised_iff_idSpace`, says that this is all that is let through. What is
read has the form but for the id space, so it has the form exactly if its id space is one of the
six. And the id space has no part in the reading: with any other text in its place the text reads
as the same pattern, with that id space.

The last part is where the parser might have looked at the id space after all. It is argued with the
grammar instead: `Written` puts a text together from a skeleton and what belongs into the data
segment, and no constructor asks anything of the id space.
-/
import EventCycle.Proofs.Pattern.Grammar

set_option autoImplicit false

namespace EventCycle.Pattern

variable {usage : Usage} {text other idSpace idSpace' format format' data data' : String}
  {domain domain' : Domain} {pattern : Pattern}

/-! ## The form

The form is a skeleton with a listed id space. A text has one skeleton at most, so for a text that
has one the form is a matter of the id space alone. -/

/-- **The form of a pattern, as it is told:** one of the domains, one of the listed id spaces, and
any format and data. -/
def Advertised (text : String) : Prop :=
  ∃ domain idSpace format data, Skeleton text domain idSpace format data ∧ idSpace ∈ idSpaces

/-- The words in which it is told. -/
example : form =
    "urn:(epc | oid | prop):(urn | tag | pat | id | idpat | raw):tag-format:data-fields" := rfl

/-- A text has its last three segments from one skeleton only. -/
theorem Skeleton.unique (h : Skeleton text domain idSpace format data)
    (h' : Skeleton text domain' idSpace' format' data') :
    idSpace = idSpace' ∧ format = format' ∧ data = data' := by
  have hsegments := skeleton_iff_segments.mp h
  rw [skeleton_iff_segments.mp h'] at hsegments
  simp only [List.cons.injEq] at hsegments
  obtain ⟨-, -, hidSpace, hformat, hdata, -⟩ := hsegments
  exact ⟨hidSpace.symm, hformat.symm, hdata.symm⟩

/-- A text with a skeleton has the form when its id space is a listed one. -/
theorem advertised_iff_of_skeleton (h : Skeleton text domain idSpace format data) :
    Advertised text ↔ idSpace ∈ idSpaces := by
  constructor
  · rintro ⟨domain', idSpace', format', data', h', hlisted⟩
    obtain ⟨hidSpace, -, -⟩ := h.unique h'
    rw [hidSpace]
    exact hlisted
  · intro hlisted
    exact ⟨domain, idSpace, format, data, h, hlisted⟩

/-! ## What is read

Every text that is read has a skeleton, and the parser uses all of it but the id space. -/

/-- The pattern with another id space. -/
def withIdSpace (pattern : Pattern) (idSpace : String) : Pattern := { pattern with idSpace }

/-- What is read has a skeleton, with the domain and the id space of the pattern. -/
theorem skeleton_of_parse (h : parse usage text = .ok pattern) :
    ∃ format data, Skeleton text pattern.domain pattern.idSpace format data := by
  cases parse_eq_ok_iff_written.mp h with
  | epc shape read => exact ⟨_, _, shape.skeleton⟩
  | oid shape => exact ⟨_, _, shape⟩
  | prop shape => exact ⟨_, _, shape⟩

/-- **The id space has no part in the reading.** Texts that differ in nothing else are read as
patterns that differ in nothing else. -/
theorem parse_withIdSpace (h : parse usage text = .ok pattern)
    (hshape : Skeleton text pattern.domain pattern.idSpace format data)
    (hother : Skeleton other pattern.domain idSpace format data) :
    parse usage other = .ok (pattern.withIdSpace idSpace) := by
  cases parse_eq_ok_iff_written.mp h with
  | @epc idSpace' known tokens fields harity shape read =>
    obtain ⟨-, rfl, rfl⟩ := shape.skeleton.unique hshape
    -- the tokens are those of the first text, and they are read whatever stands before them
    have hepc : EpcText other idSpace known tokens :=
      ⟨hother, shape.tokens_ne_nil, shape.dotFree⟩
    exact parse_eq_ok_iff_written.mpr (.epc hepc read)
  | oid shape =>
    obtain ⟨-, rfl, rfl⟩ := shape.unique hshape
    exact parse_eq_ok_iff_written.mpr (.oid hother)
  | prop shape =>
    obtain ⟨-, rfl, rfl⟩ := shape.unique hshape
    exact parse_eq_ok_iff_written.mpr (.prop hother)

/-- **What is read has the advertised form but for the id space.** A text that reads as a pattern
has the form exactly if its id space is a listed one. In any case it has the five segments of the
form, and with any id space in place of its own it reads as the pattern with that id space. -/
theorem advertised_iff_idSpace (h : parse usage text = .ok pattern) :
    (Advertised text ↔ pattern.idSpace ∈ idSpaces) ∧
      ∃ format data, Skeleton text pattern.domain pattern.idSpace format data ∧
        ∀ idSpace other, Skeleton other pattern.domain idSpace format data →
          parse usage other = .ok (pattern.withIdSpace idSpace) := by
  obtain ⟨format, data, hshape⟩ := skeleton_of_parse h
  refine ⟨advertised_iff_of_skeleton hshape, format, data, hshape, ?_⟩
  intro idSpace other hother
  exact parse_withIdSpace h hshape hother

/-- A group pattern of the form, and the same pattern with nothing for an id space. -/
theorem group_read_without_idSpace :
    ∃ pattern, parse .group "urn:epc:pat:gid-96:1.X.*" = .ok pattern ∧
      Advertised "urn:epc:pat:gid-96:1.X.*" ∧
      parse .group "urn:epc::gid-96:1.X.*" = .ok (pattern.withIdSpace "") := by
  have hread : ∃ pattern, parse .group "urn:epc:pat:gid-96:1.X.*" = .ok pattern ∧
      pattern.idSpace ∈ idSpaces ∧
      Skeleton "urn:epc:pat:gid-96:1.X.*" pattern.domain pattern.idSpace "gid-96" "1.X.*" ∧
      Skeleton "urn:epc::gid-96:1.X.*" pattern.domain "" "gid-96" "1.X.*" :=
    ⟨_, rfl, by decide, skeleton_iff_segments.mpr rfl, skeleton_iff_segments.mpr rfl⟩
  obtain ⟨pattern, hparse, hlisted, hshape, hother⟩ := hread
  obtain ⟨hform, format, data, hshape', hswap⟩ := advertised_iff_idSpace hparse
  obtain ⟨-, rfl, rfl⟩ := hshape.unique hshape'
  exact ⟨pattern, hparse, hform.mpr hlisted, hswap "" _ hother⟩

/-- **A text outside the form that is read,** whatever it is read for. -/
theorem read_outside_form :
    (∀ usage, ∃ pattern, parse usage "urn:epc:foo:gid-96:1.2.3" = .ok pattern) ∧
      ¬ Advertised "urn:epc:foo:gid-96:1.2.3" := by
  have hshape : Skeleton "urn:epc:foo:gid-96:1.2.3" .epc "foo" "gid-96" "1.2.3" :=
    skeleton_iff_segments.mpr rfl
  constructor
  · intro usage
    cases usage with
    | tag => exact ⟨_, rfl⟩
    | filter => exact ⟨_, rfl⟩
    | group => exact ⟨_, rfl⟩
  · rw [advertised_iff_of_skeleton hshape]
    decide

end EventCycle.Pattern
