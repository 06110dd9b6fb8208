/-
The grammar of patterns, and the report that is made of a text outside it.

`Pattern.parse` cuts a text at `:`, then its last segment at `.`, and gives up at the first thing
that is wrong. Here the same is said by two relations. `Written` cuts nothing: it puts the texts of
a usage together from their parts, one constructor per domain, and says which pattern each stands
for. `FirstFault` has one constructor for each thing that can be wrong. A constructor asks for all
that is looked at earlier to be right, which is how the order in which faults are looked for becomes
part of the relation.

The main statement is `parse_follows_grammar`. What a text reads as is what it is written for, what
is reported otherwise is its first fault, and every such report is about a pattern.

Both halves rest on two equivalences, `skeleton_iff_segments` and `epcText_iff_segments`. A text
has been put together from parts that do not hold the separator exactly when cutting it yields those
parts, at either level.
-/
import EventCycle.Proofs.Pattern.Readable

set_option autoImplicit false

namespace EventCycle.Pattern

open EventCycle.Text

/-! ## Texts put together from their parts

These are the relations that the main statement is about. The one function in them that reads
anything is that of single tokens, which has a grammar of its own, and the reports about numbers of
segments and tokens have to count them. -/

/-- A text of five segments that starts with the scheme and a domain. -/
structure Skeleton (text : String) (domain : Domain) (idSpace format data : String) : Prop where
  /-- The text is put together from its segments. The scheme and the domain hold no colon. -/
  text_eq : text = "urn:" ++ domain.token ++ ":" ++ idSpace ++ ":" ++ format ++ ":" ++ data
  idSpace_colonFree : ':' ∉ idSpace.toList
  format_colonFree : ':' ∉ format.toList
  data_colonFree : ':' ∉ data.toList

/-- A text in the domain `epc` with a known format and some tokens in its data segment. Nothing is
said of how many tokens there are or what they spell. -/
structure EpcText (text idSpace : String) (format : Format) (tokens : List String) : Prop where
  skeleton : Skeleton text .epc idSpace format.token (joined '.' tokens)
  tokens_ne_nil : tokens ≠ []
  dotFree : ∀ token ∈ tokens, '.' ∉ token.toList

/-- **The grammar.** A text, and the pattern that it is written for under a usage. In the domain
`epc` it has one token for each field, in order; in the others the last two segments are any
texts. -/
inductive Written (usage : Usage) (text : String) : Pattern → Prop where
  | epc {idSpace : String} {format : Format} {tokens : List String} {fields : List Field}
      {arity_eq : fields.length = format.arity} (shape : EpcText text idSpace format tokens)
      (read : tokens.map (Field.parse usage) = fields.map .ok) :
      Written usage text ⟨usage, idSpace, .epc format fields arity_eq⟩
  | oid {idSpace format data : String} (shape : Skeleton text .oid idSpace format data) :
      Written usage text ⟨usage, idSpace, .oid format data⟩
  | prop {idSpace format data : String} (shape : Skeleton text .prop idSpace format data) :
      Written usage text ⟨usage, idSpace, .prop format data⟩

/-- **The first thing wrong with a text,** as it is reported. -/
inductive FirstFault (usage : Usage) (text : String) : Fault → Prop where
  /-- There are not five segments. -/
  | segmentCount {found : Nat} (cut : (Text.segments ':' text).length = found)
      (count : found ≠ 5) :
      FirstFault usage text
        (.malformedPattern text s!"expected 5 ':'-separated segments, found {found}" form)
  /-- There are five, and the first is not the scheme. -/
  | scheme {first second idSpace format data : String}
      (cut : Text.segments ':' text = [first, second, idSpace, format, data])
      (other : first ≠ "urn") :
      FirstFault usage text
        (.malformedPattern text s!"first segment must be 'urn', found '{first}'" form)
  /-- The scheme is followed by something that is no domain. -/
  | domain {second idSpace format data : String}
      (cut : Text.segments ':' text = ["urn", second, idSpace, format, data])
      (unknown : ∀ domain : Domain, domain.token ≠ second) :
      FirstFault usage text (.malformedPattern text s!"unknown domain '{second}'" form)
  /-- The domain is `epc`, and the fourth segment is no format. -/
  | format {idSpace token data : String} (shape : Skeleton text .epc idSpace token data)
      (unknown : token ∉ Format.knownTokens) :
      FirstFault usage text (.unknownFormat token Format.knownTokens)
  /-- There are not as many tokens as the format says. -/
  | arity {idSpace : String} {known : Format} {tokens : List String}
      (shape : EpcText text idSpace known tokens) (count : tokens.length ≠ known.arity) :
      FirstFault usage text (.arityMismatch text known.token known.arity tokens.length)
  /-- There are, and one of them cannot be read although all before it can. -/
  | field {idSpace : String} {known : Format} {before after : List String} {token : String}
      {error : Field.Error} (shape : EpcText text idSpace known (before ++ token :: after))
      (count : (before ++ token :: after).length = known.arity)
      (read : ∀ earlier ∈ before, ∃ field, Field.parse usage earlier = .ok field)
      (refused : Field.parse usage token = .error error) :
      FirstFault usage text error.fault

/-! ## Putting together and cutting

The parser sees a list of segments and the grammar a text. The two equivalences lead from one to the
other, and after this section no text is cut any more. -/

variable {usage : Usage} {text idSpace format data : String} {domain : Domain} {known : Format}
  {tokens : List String} {pattern : Pattern}

theorem joined_five (a b c d e : String) :
    joined ':' [a, b, c, d, e] = a ++ ":" ++ b ++ ":" ++ c ++ ":" ++ d ++ ":" ++ e := by
  apply String.toList_injective
  simp [joined, List.intercalate_cons_cons, List.intercalate_singleton]

/-- **A skeleton is a text that is cut into five segments,** the first two being known. One
direction cuts what was put together, the other puts together what was cut; `segments_eq_iff` is
both. -/
theorem skeleton_iff_segments :
    Skeleton text domain idSpace format data ↔
      Text.segments ':' text = [scheme, domain.token, idSpace, format, data] := by
  have htext : joined ':' [scheme, domain.token, idSpace, format, data] =
      "urn:" ++ domain.token ++ ":" ++ idSpace ++ ":" ++ format ++ ":" ++ data := by
    rw [joined_five]
    rfl
  rw [segments_eq_iff, htext]
  constructor
  · rintro ⟨htext, hidSpace, hformat, hdata⟩
    refine ⟨by simp, ?_, htext⟩
    intro part hpart
    simp only [List.mem_cons, List.not_mem_nil, or_false] at hpart
    rcases hpart with rfl | rfl | rfl | rfl | rfl
    · exact colonFree_scheme
    · exact colonFree_domain domain
    · exact hidSpace
    · exact hformat
    · exact hdata
  · rintro ⟨-, hfree, htext⟩
    exact ⟨htext, hfree idSpace (by simp), hfree format (by simp), hfree data (by simp)⟩

/-- The same one level below: the tokens are what the data segment is cut into. -/
theorem epcText_iff_segments :
    EpcText text idSpace known tokens ↔
      ∃ data, Skeleton text .epc idSpace known.token data ∧ Text.segments '.' data = tokens := by
  constructor
  · rintro ⟨hskeleton, hne, hfree⟩
    exact ⟨joined '.' tokens, hskeleton, segments_joined '.' hne hfree⟩
  · rintro ⟨data, hskeleton, rfl⟩
    refine ⟨?_, segments_ne_nil '.' data, fun token htoken => not_mem_of_mem_segments htoken⟩
    rw [joined_segments]
    exact hskeleton

/-! ## Reading what is written

Two equations say what is left to be done once the outer parts of a text are known, for the segments
and for the format. What the grammar writes is read by them. -/

/-- Once the segments are there, only the last two are left to be read. -/
theorem parse_of_skeleton (h : Skeleton text domain idSpace format data) :
    parse usage text =
      (parseBody usage text domain format data).map fun body => ⟨usage, idSpace, body⟩ := by
  rw [parse, skeleton_iff_segments.mp h]
  simp only [ne_eq, not_true_eq_false, if_false, Domain.ofToken?_token]

/-- Once the format is known, only the data fields are left to be read. -/
theorem parse_of_known (h : Skeleton text .epc idSpace known.token data) :
    parse usage text =
      (parseFields usage text known data).map fun body => ⟨usage, idSpace, body⟩ := by
  rw [parse_of_skeleton h, parseBody, Format.ofToken?_token]

/-- **A text is read as the pattern that it is written for.** From left to right the cases are the
domains, from right to left the constructors of the grammar, which correspond to them. -/
theorem parse_eq_ok_iff_written :
    parse usage text = .ok pattern ↔ Written usage text pattern := by
  constructor
  · intro h
    obtain ⟨domain, format, data, body, hpattern, hsegments, hbody⟩ := parse_eq_ok_iff.mp h
    have hskeleton := skeleton_iff_segments.mpr hsegments
    rw [hpattern]
    cases domain with
    | epc =>
      rw [parseBody] at hbody
      split at hbody
      · exact absurd hbody (by simp)
      -- the fourth segment is the token of the format that was found for it
      · next known hknown =>
        obtain ⟨fields, harity, rfl, hread⟩ := parseFields_eq_ok_iff.mp hbody
        rw [← Format.token_of_ofToken? hknown] at hskeleton
        have hshape := epcText_iff_segments.mpr ⟨data, hskeleton, rfl⟩
        exact .epc hshape (readAll_eq_ok_iff.mp hread)
    | oid =>
      obtain rfl := Except.ok.inj hbody
      exact .oid hskeleton
    | prop =>
      obtain rfl := Except.ok.inj hbody
      exact .prop hskeleton
  · intro h
    cases h with
    | @epc idSpace format tokens fields harity hshape hread =>
      obtain ⟨data, hskeleton, rfl⟩ := epcText_iff_segments.mp hshape
      have hbody : parseFields usage text format data = .ok (.epc format fields harity) :=
        parseFields_eq_ok_iff.mpr ⟨fields, harity, rfl, readAll_eq_ok_iff.mpr hread⟩
      rw [parse_of_known hskeleton, hbody]
      rfl
    | oid hskeleton =>
      rw [parse_of_skeleton hskeleton]
      rfl
    | prop hskeleton =>
      rw [parse_of_skeleton hskeleton]
      rfl

/-! ## Refusing what is not

The parser looks at the parts from the outside to the inside: the number of segments, the scheme,
the domain, the format, the number of tokens, the tokens from left to right. It is followed on that
way down and then, in the other direction, sent down to a given fault. -/

/-- A data segment is refused for the number of its tokens, or else for the first token that
cannot be read. -/
theorem parseFields_eq_error_iff {error : Error} :
    parseFields usage text known data = .error error ↔
      (Text.segments '.' data).length ≠ known.arity ∧
          error = .arity text known (Text.segments '.' data).length ∨
        (Text.segments '.' data).length = known.arity ∧
          ∃ fieldError, readAll (Field.parse usage) (Text.segments '.' data) = .error fieldError ∧
            error = .field fieldError := by
  unfold parseFields
  by_cases hcount : (Text.segments '.' data).length = known.arity
  · rw [dif_pos hcount]
    split
    · next fieldError hread => simp [hcount, hread, eq_comm]
    · next fields hread => simp [hcount, hread]
  · rw [dif_neg hcount]
    simp [hcount, eq_comm]

/-- What is reported of a data segment is its first fault. -/
theorem firstFault_of_parseFields {error : Error}
    (hskeleton : Skeleton text .epc idSpace known.token data)
    (h : parseFields usage text known data = .error error) :
    FirstFault usage text error.fault := by
  have hshape : EpcText text idSpace known (Text.segments '.' data) :=
    epcText_iff_segments.mpr ⟨data, hskeleton, rfl⟩
  rcases parseFields_eq_error_iff.mp h with ⟨hcount, rfl⟩ | ⟨hcount, fieldError, hread, rfl⟩
  · exact .arity hshape hcount
  · obtain ⟨before, token, after, hsplit, hbefore, hrefused⟩ := readAll_eq_error_iff.mp hread
    rw [hsplit] at hshape hcount
    exact .field hshape hcount hbefore hrefused

/-- What is reported of the last two segments is the first fault of the text. -/
theorem firstFault_of_parseBody {error : Error}
    (hskeleton : Skeleton text domain idSpace format data)
    (h : parseBody usage text domain format data = .error error) :
    FirstFault usage text error.fault := by
  cases domain with
  | epc =>
    rw [parseBody] at h
    split at h
    · next hformat =>
      obtain rfl := Except.error.inj h
      exact .format hskeleton (Format.ofToken?_eq_none_iff.mp hformat)
    · next known hknown =>
      rw [← Format.token_of_ofToken? hknown] at hskeleton
      exact firstFault_of_parseFields hskeleton h
  -- the other domains take every text
  | oid => exact absurd h (by simp [parseBody])
  | prop => exact absurd h (by simp [parseBody])

theorem exists_eq_five {α : Type} {l : List α} (h : l.length = 5) :
    ∃ a b c d e, l = [a, b, c, d, e] := by
  match l, h with
  | [a, b, c, d, e], _ => exact ⟨a, b, c, d, e, rfl⟩

/-- **What is reported of a text is its first fault.** The cases are the branches of the parser, in
its order, and each branch that gives up is a constructor. What the branches before it have found is
what the constructor asks for. -/
theorem firstFault_of_parse {error : Error} (h : parse usage text = .error error) :
    FirstFault usage text error.fault := by
  unfold parse at h
  split at h
  -- five segments, looked at from left to right
  · next first second idSpace format data hsegments =>
    split at h
    · next hother =>
      obtain rfl := Except.error.inj h
      exact .scheme hsegments hother
    · next hfirst =>
      obtain rfl : first = Pattern.scheme := Decidable.not_not.mp hfirst
      split at h
      · next hunknown =>
        obtain rfl := Except.error.inj h
        refine .domain hsegments fun domain hdomain => ?_
        rw [Domain.ofToken?_eq_some_iff.mpr hdomain] at hunknown
        exact absurd hunknown (by simp)
      · next domain hdomain =>
        rw [← Domain.ofToken?_eq_some_iff.mp hdomain] at hsegments
        cases hbody : parseBody usage text domain format data with
        | ok body =>
          rw [hbody] at h
          exact absurd h (by simp [Except.map])
        | error e =>
          rw [hbody] at h
          obtain rfl := Except.error.inj h
          exact firstFault_of_parseBody (skeleton_iff_segments.mpr hsegments) hbody
  -- any other number of them: none of the five-part lists is this one
  · next hcount =>
    obtain rfl := Except.error.inj h
    refine .segmentCount rfl fun hlength => ?_
    obtain ⟨a, b, c, d, e, hsegments⟩ := exists_eq_five hlength
    exact hcount a b c d e hsegments

/-- **The first fault of a text is reported.** The cases are the constructors. Each gives the parser
what it needs to come as far as the fault, and no further. -/
theorem exists_error_of_firstFault {fault : Fault} (h : FirstFault usage text fault) :
    ∃ error, parse usage text = .error error ∧ error.fault = fault := by
  cases h with
  | @segmentCount found hfound hcount =>
    refine ⟨.segmentCount text found, ?_, rfl⟩
    unfold parse
    split
    -- five segments would be counted as five
    · next hsegments =>
      rw [hsegments] at hfound
      exact absurd hfound.symm hcount
    · rw [hfound]
  | @scheme first second idSpace format data hsegments hother =>
    refine ⟨.scheme text first, ?_, rfl⟩
    rw [parse, hsegments]
    exact if_pos hother
  | @domain second idSpace format data hsegments hunknown =>
    refine ⟨.domain text second, ?_, rfl⟩
    -- the search for a domain finds only what has the token, and nothing has it
    have hnone : Domain.ofToken? second = none := by
      rw [Option.eq_none_iff_forall_ne_some]
      exact fun domain hdomain => hunknown domain (Domain.ofToken?_eq_some_iff.mp hdomain)
    rw [parse, hsegments]
    simp only [hnone]
    exact if_neg (not_not_intro rfl)
  | @format idSpace token data hskeleton hunknown =>
    refine ⟨.format token, ?_, rfl⟩
    rw [parse_of_skeleton hskeleton, parseBody, Format.ofToken?_eq_none_iff.mpr hunknown]
    rfl
  | @arity idSpace known tokens hshape hcount =>
    obtain ⟨data, hskeleton, rfl⟩ := epcText_iff_segments.mp hshape
    refine ⟨.arity text known (Text.segments '.' data).length, ?_, rfl⟩
    rw [parse_of_known hskeleton, parseFields_eq_error_iff.mpr (.inl ⟨hcount, rfl⟩)]
    rfl
  | @field idSpace known before after token error hshape hcount hread hrefused =>
    obtain ⟨data, hskeleton, hsplit⟩ := epcText_iff_segments.mp hshape
    refine ⟨.field error, ?_, rfl⟩
    have hreadAll : readAll (Field.parse usage) (Text.segments '.' data) = .error error :=
      readAll_eq_error_iff.mpr ⟨before, token, after, hsplit, hread, hrefused⟩
    rw [← hsplit] at hcount
    rw [parse_of_known hskeleton,
      parseFields_eq_error_iff.mpr (.inr ⟨hcount, error, hreadAll, rfl⟩)]
    rfl

/-! ## The parser and the grammar -/

/-- **The parser follows the grammar.** A text is read exactly when it is written for a pattern, and
then as that pattern; any other text is reported with its first fault. All that is reported in
reading a pattern is about a pattern. -/
theorem parse_follows_grammar (usage : Usage) (text : String) :
    (∀ pattern, parse usage text = .ok pattern ↔ Written usage text pattern) ∧
      (∀ fault, (∃ error, parse usage text = .error error ∧ error.fault = fault) ↔
        FirstFault usage text fault) ∧
      ∀ error : Error, error.fault.concernsPattern = true := by
  refine ⟨fun pattern => parse_eq_ok_iff_written, fun fault => ⟨?_, ?_⟩, ?_⟩
  · rintro ⟨error, herror, rfl⟩
    exact firstFault_of_parse herror
  · exact exists_error_of_firstFault
  · exact Error.concernsPattern_fault

/-- The unknown format is reported, and neither the missing field nor the one that is no number. -/
example : parse .tag "urn:epc:tag:sgtin-198:1.X" = .error (.format "sgtin-198") := rfl

/-- In the domain `epc` the format `oid` has a field like any other. -/
example : (parse .tag "urn:epc:tag:oid:5").map (Pattern.fields ·) = .ok [⟨.literal 5, "5"⟩] := rfl

end EventCycle.Pattern
