/-
Reading a pattern.

What can go wrong is looked for in a fixed order: the number of segments, the first segment, the
domain, then in the domain `epc` the format, the number of data fields, and the data fields from
left to right. `parse` reports the first fault of that order. The id space, which is the third
segment, is not looked at, and outside the domain `epc` nothing after the domain is.

An error keeps what was found and no more. The report to the user is made from it (`Error.fault`),
so the texts of the messages stand in one place and no proof about reading looks at them.

The main statements say that reading is undone by writing: `text_of_parse` gives back the text
character by character, `usage_of_parse` the usage. Both rest on `parse_eq_ok_iff`, which says what
a success looks like once and for all; what is proved of patterns that have been read starts there
and not at the definition of `parse`.
-/
import EventCycle.Fault
import EventCycle.Field.Parser
import EventCycle.Pattern.Basic
import EventCycle.ReadAll

set_option autoImplicit false

namespace EventCycle.Pattern

open EventCycle.Text

/-! ## Why a text is refused

One constructor for each thing that is looked at, in the order in which it is looked at. The texts
of the reports are put together in `Error.fault`. -/

/-- What is wrong with a pattern text. -/
inductive Error where
  /-- The text does not have five segments. -/
  | segmentCount (text : String) (found : Nat)
  /-- The first segment is not the scheme. -/
  | scheme (text found : String)
  /-- The second segment is no domain. -/
  | domain (text found : String)
  /-- The fourth segment is no format. -/
  | format (token : String)
  /-- The fifth segment does not have the number of fields that the format says. -/
  | arity (text : String) (format : Format) (found : Nat)
  /-- A data field is refused. -/
  | field (error : Field.Error)
deriving DecidableEq, Repr

/-- The form of a pattern, in words. It lists the id spaces although reading does not check them. -/
def form : String :=
  let domains := String.intercalate " | " (Domain.all.map Domain.token)
  let spaces := String.intercalate " | " idSpaces
  s!"{scheme}:({domains}):({spaces}):tag-format:data-fields"

/-- The number of segments of a pattern. -/
def segmentCount : Nat := 5

namespace Error

/-- The report of a refused text. -/
def fault : Error → Fault
  | .segmentCount text found =>
    .malformedPattern text
      s!"expected {Pattern.segmentCount} ':'-separated segments, found {found}" form
  | .scheme text found =>
    .malformedPattern text s!"first segment must be '{Pattern.scheme}', found '{found}'" form
  | .domain text found => .malformedPattern text s!"unknown domain '{found}'" form
  | .format token => .unknownFormat token Format.knownTokens
  | .arity text known found => .arityMismatch text known.token known.arity found
  | .field error => error.fault

/-- What is said about a refused text. -/
def message (error : Error) : String := error.fault.message

/-- Every report made while reading a pattern is about a pattern. Only a token of no allowed syntax
is reported in two ways, by usage, and both are. -/
theorem concernsPattern_fault (error : Error) : error.fault.concernsPattern = true := by
  cases error with
  | field e =>
    cases e with
    | notAllowed usage token => cases usage <;> rfl
    | _ => rfl
  | _ => rfl

end Error

/-! ## Reading

From the inside to the outside: the data fields, the last two segments, the text. -/

/-- Reads the data segment of a pattern in the domain `epc`: the operation `parse_data_fields`. The
fields are counted before any of them is read, so a wrong count is reported first. -/
def parseFields (usage : Usage) (text : String) (format : Format) (data : String) :
    Except Error Body :=
  if harity : (Text.segments '.' data).length = format.arity then
    match hread : readAll (Field.parse usage) (Text.segments '.' data) with
    | .error e => .error (.field e)
    | .ok fields => .ok (.epc format fields ((length_eq_of_readAll hread).trans harity))
  else .error (.arity text format (Text.segments '.' data).length)

/-- Reads the format and data segments of a pattern of a known domain. Outside the domain `epc` they
are taken as they stand. -/
def parseBody (usage : Usage) (text : String) (domain : Domain) (format data : String) :
    Except Error Body :=
  match domain with
  | .oid => .ok (.oid format data)
  | .prop => .ok (.prop format data)
  | .epc =>
    match Format.ofToken? format with
    | none => .error (.format format)
    | some known => parseFields usage text known data

/-- **The pattern that a text stands for under a usage,** or the first thing wrong with the text:
the operation `parse`. -/
def parse (usage : Usage) (text : String) : Except Error Pattern :=
  match Text.segments ':' text with
  | [first, second, idSpace, format, data] =>
    if first ≠ scheme then .error (.scheme text first)
    else
      match Domain.ofToken? second with
      | none => .error (.domain text second)
      | some domain =>
        (parseBody usage text domain format data).map fun body => ⟨usage, idSpace, body⟩
  | parts => .error (.segmentCount text parts.length)

/-! ## Reading is undone by writing

Each of the three readers has a lemma that takes a success apart, and from these it follows that
nothing of the text is lost. -/

/-- The fields that are read keep their tokens, so the data segment can be put together again. -/
theorem map_token_of_readAll {usage : Usage} {tokens : List String} {fields : List Field}
    (h : readAll (Field.parse usage) tokens = .ok fields) : fields.map Field.token = tokens :=
  map_write_of_readAll (fun _ _ => Field.token_of_parse) h

/-- A data segment is read when all its fields are. That there are as many as the format says is
part of the body, so it need not be said again. -/
theorem parseFields_eq_ok_iff {usage : Usage} {text : String} {format : Format} {data : String}
    {body : Body} :
    parseFields usage text format data = .ok body ↔
      ∃ fields harity, body = .epc format fields harity ∧
        readAll (Field.parse usage) (Text.segments '.' data) = .ok fields := by
  unfold parseFields
  constructor
  · intro h
    split at h
    · split at h
      · exact absurd h (by simp)
      · next fields hread => exact ⟨fields, _, (Except.ok.inj h).symm, hread⟩
    · exact absurd h (by simp)
  -- there are as many tokens as fields, so the arity test passes
  · rintro ⟨fields, harity, rfl, hread⟩
    rw [dif_pos ((length_eq_of_readAll hread).symm.trans harity)]
    split
    · next e he => exact absurd (hread.symm.trans he) (by simp)
    · next fields' hfields =>
      obtain rfl := Except.ok.inj (hread.symm.trans hfields)
      rfl

/-- The segments of a body that is read are the ones it was read from. -/
theorem tail_of_parseBody {usage : Usage} {text : String} {domain : Domain} {format data : String}
    {body : Body} (h : parseBody usage text domain format data = .ok body) :
    body.tail = [format, data] := by
  unfold parseBody at h
  split at h
  -- in the domains `oid` and `prop` the segments are carried as they stand
  · rw [← Except.ok.inj h]
    rfl
  · rw [← Except.ok.inj h]
    rfl
  · split at h
    · exact absurd h (by simp)
    · next known hknown =>
      -- the format's token is the segment, and the fields keep their tokens
      obtain ⟨fields, harity, rfl, hread⟩ := parseFields_eq_ok_iff.mp h
      simp only [Body.tail, map_token_of_readAll hread, joined_segments,
        Format.token_of_ofToken? hknown]

/-- A body that is read belongs to the domain it was read for. -/
theorem domain_of_parseBody {usage : Usage} {text : String} {domain : Domain} {format data : String}
    {body : Body} (h : parseBody usage text domain format data = .ok body) (idSpace : String) :
    (Pattern.mk usage idSpace body).domain = domain := by
  unfold parseBody at h
  split at h
  · rw [← Except.ok.inj h]
    rfl
  · rw [← Except.ok.inj h]
    rfl
  · split at h
    · exact absurd h (by simp)
    · obtain ⟨fields, harity, rfl, -⟩ := parseFields_eq_ok_iff.mp h
      rfl

/-- **What a text reads as:** its segments are the scheme, a domain, an id space and two segments
that make a body of that domain. -/
theorem parse_eq_ok_iff {usage : Usage} {text : String} {pattern : Pattern} :
    parse usage text = .ok pattern ↔
      ∃ domain format data body, pattern = ⟨usage, pattern.idSpace, body⟩ ∧
        Text.segments ':' text = [scheme, domain.token, pattern.idSpace, format, data] ∧
        parseBody usage text domain format data = .ok body := by
  unfold parse
  constructor
  · intro h
    split at h
    · next first second idSpace format data hsegments =>
      split at h
      · exact absurd h (by simp)
      · next hfirst =>
        split at h
        · exact absurd h (by simp)
        · next domain hdomain =>
          cases hbody : parseBody usage text domain format data with
          | error e =>
            rw [hbody] at h
            exact absurd h (by simp [Except.map])
          -- every test has been passed, and each has left an equation for its segment
          | ok body =>
            rw [hbody] at h
            obtain rfl := Except.ok.inj h
            refine ⟨domain, format, data, body, rfl, ?_, hbody⟩
            rw [hsegments, Domain.ofToken?_eq_some_iff.mp hdomain, Decidable.not_not.mp hfirst]
    · exact absurd h (by simp)
  · rintro ⟨domain, format, data, body, hpattern, hsegments, hbody⟩
    simp only [hsegments, ne_eq, not_true_eq_false, if_false, Domain.ofToken?_token, hbody]
    rw [hpattern]
    rfl

theorem usage_of_parse {usage : Usage} {text : String} {pattern : Pattern}
    (h : parse usage text = .ok pattern) : pattern.usage = usage := by
  obtain ⟨domain, format, data, body, hpattern, -⟩ := parse_eq_ok_iff.mp h
  rw [hpattern]

/-- **Writing undoes reading:** a pattern that is read is written as the text it was read from. -/
theorem text_of_parse {usage : Usage} {text : String} {pattern : Pattern}
    (h : parse usage text = .ok pattern) : pattern.text = text := by
  obtain ⟨domain, format, data, body, hpattern, hsegments, hbody⟩ := parse_eq_ok_iff.mp h
  have hdomain : pattern.domain = domain := by
    rw [hpattern]
    exact domain_of_parseBody hbody _
  have htail : pattern.body.tail = [format, data] := by
    rw [hpattern]
    exact tail_of_parseBody hbody
  unfold Pattern.text Pattern.segments
  rw [hdomain, htail, ← hsegments, joined_segments]

end EventCycle.Pattern
