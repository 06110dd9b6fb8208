/-
What the tokens of data fields look like, and what is said of those that look otherwise.

`Field.parse` strips brackets, cuts at a dash and reads numerals in two widths. `Decodes` is the
grammar that results: one constructor for each form that a token may have, with the usages that
allow the form, and no form is taken apart. `OutOfBounds` are the tokens that are numerals but
stand for no value: their number is negative or has more than 64 bits, and still is a 128-bit
integer.

The main statement is `parse_decodes_token`. A token is read exactly when it has one of the forms,
as what the form stands for, and is kept as it is. A token that is refused is called a bad literal
where only literals are allowed or where it is out of bounds, and a bad range otherwise; so a
numeral beyond 128 bits is called a bad range.

Which of the forms a token has is `Spells`, in terms of the readers of the two numeric syntaxes.
What is left to do is to say what these readers accept. They take a token apart from the left and
from the right, while the grammar puts it together; the two meet where a token is cut at its first
dash, since a lower bound that can be read has no dash in it (`Unsigned.minus_not_mem`).
-/
import EventCycle.Proofs.Field.Spelling
import EventCycle.Proofs.Text.Numerals

set_option autoImplicit false

namespace EventCycle.Field

open EventCycle.Text

/-! ## The forms of a token -/

/-- **What a token stands for under a usage.** The values have 64 bits, as their type says. -/
inductive Decodes (usage : Usage) (token : String) : Kind → Prop where
  | wildcard (allowed : usage = .filter ∨ usage = .group) (token_eq : token = "*") :
      Decodes usage token .wildcard
  | namedWildcard (allowed : usage = .group) (token_eq : token = "X") :
      Decodes usage token .namedWildcard
  | literal {value : UInt64} (written : Unsigned token value.toNat) :
      Decodes usage token (.literal value)
  | minusZero {zeros : String} (token_eq : token = "-" ++ zeros) (ne_empty : zeros ≠ "")
      (zero : ∀ c ∈ zeros.toList, c = '0') : Decodes usage token (.literal 0)
  | range {low high : UInt64} {low_le_high : low ≤ high} {before after : String}
      (allowed : usage ≠ .tag) (token_eq : token = "[" ++ before ++ "-" ++ after ++ "]")
      (low_written : Unsigned before low.toNat) (high_written : Unsigned after high.toNat) :
      Decodes usage token (.range low high low_le_high)

/-- A numeral of a 128-bit integer that is below zero or has more than 64 bits. -/
def OutOfBounds (token : String) : Prop :=
  ∃ n : Int, Signed token n ∧
    (-numeralLimit ≤ n ∧ n ≤ -1 ∨ (UInt64.size : Int) ≤ n ∧ n ≤ numeralLimit - 1)

/-- The window is that of 128-bit integers. -/
example : numeralLimit = (Nat.pow 2 127 : Nat) := rfl

/-! ## What the readers accept

One equivalence for each reader, from the small ones to that of ranges. On the left the reader takes
a text apart, on the right the text is written down. -/

variable {usage : Usage} {token : String} {n : Int} {low high : UInt64} {kind : Kind}
  {error : Error}

/-- A literal is a signed numeral in the window. -/
theorem literalValue?_eq_some_iff :
    literalValue? token.toList = some n ↔
      Signed token n ∧ -numeralLimit ≤ n ∧ n < numeralLimit := by
  rw [literalValue?, Option.filter_eq_some_iff, signedValue?_eq_some_iff, Bool.and_eq_true,
    decide_eq_true_eq, decide_eq_true_eq]

/-- A bound is an unsigned numeral of a 64-bit value. -/
theorem boundValue?_eq_some_iff {text : String} {value : UInt64} :
    boundValue? text.toList = some value ↔ Unsigned text value.toNat := by
  rw [boundValue?, Option.bind_eq_some_iff, ← unsignedValue?_eq_some_iff]
  constructor
  · rintro ⟨n, hn, hfits⟩
    split at hfits
    · rw [← Option.some.inj hfits, UInt64.toNat_ofNatLT]
      exact hn
    · exact absurd hfits (by simp)
  · intro h
    refine ⟨value.toNat, h, ?_⟩
    rw [dif_pos value.toNat_lt]
    rfl

/-- What is bracketed stands between two different brackets, so a single character is not enough. -/
theorem bracketed?_eq_some_iff {chars inner : List Char} :
    bracketed? chars = some inner ↔ chars = '[' :: (inner ++ [']']) := by
  constructor
  · intro h
    unfold bracketed? at h
    split at h
    · next rest =>
      split at h
      · next hlast =>
        obtain ⟨inside, rfl⟩ := List.getLast?_eq_some_iff.mp hlast
        rw [← Option.some.inj h, List.dropLast_concat]
      · exact absurd h (by simp)
    · exact absurd h (by simp)
  · rintro rfl
    simp [bracketed?]

/-- The first dash is the one that has none before it. -/
theorem cutAtDash?_eq_some_iff {chars before after : List Char} :
    cutAtDash? chars = some (before, after) ↔ chars = before ++ '-' :: after ∧ '-' ∉ before := by
  constructor
  · intro h
    unfold cutAtDash? at h
    split at h
    · exact absurd h (by simp)
    · next c rest hdrop =>
      obtain ⟨rfl, rfl⟩ := Prod.mk.inj (Option.some.inj h)
      -- what is not passed over starts with the character that is looked for
      have hdash : c = '-' := by
        have hhead := List.head?_dropWhile_not (· != '-') chars
        rw [hdrop] at hhead
        simpa using hhead
      refine ⟨?_, ?_⟩
      · rw [hdash] at hdrop
        rw [← hdrop, List.takeWhile_append_dropWhile]
      · intro hmem
        have hpassed := List.all_eq_true.mp (List.all_takeWhile (p := (· != '-'))) _ hmem
        simp at hpassed
  · rintro ⟨rfl, hfree⟩
    have hpass : ∀ c ∈ before, (c != '-') = true := by
      intro c hc
      rw [bne_iff_ne]
      rintro rfl
      exact hfree hc
    unfold cutAtDash?
    rw [List.dropWhile_append_of_pos hpass, List.takeWhile_append_of_pos hpass]
    simp

/-- **A range is two unsigned numerals** with a dash between them and brackets around them. -/
theorem rangeBounds?_eq_some_iff :
    rangeBounds? token.toList = some (low, high) ↔
      ∃ before after, token = "[" ++ before ++ "-" ++ after ++ "]" ∧
        Unsigned before low.toNat ∧ Unsigned after high.toNat := by
  -- the reader fails where one of its steps does, so its success is that of all of them
  have hsteps : rangeBounds? token.toList = some (low, high) ↔
      ∃ inner before after, bracketed? token.toList = some inner ∧
        cutAtDash? inner = some (before, after) ∧ boundValue? before = some low ∧
        boundValue? after = some high := by
    simp [rangeBounds?, Option.bind_eq_some_iff]
  rw [hsteps]
  constructor
  · rintro ⟨inner, before, after, hbracket, hcut, hlow, hhigh⟩
    obtain ⟨rfl, -⟩ := cutAtDash?_eq_some_iff.mp hcut
    have htoken := bracketed?_eq_some_iff.mp hbracket
    rw [← String.toList_ofList (l := before)] at hlow
    rw [← String.toList_ofList (l := after)] at hhigh
    refine ⟨String.ofList before, String.ofList after, ?_, boundValue?_eq_some_iff.mp hlow,
      boundValue?_eq_some_iff.mp hhigh⟩
    apply String.toList_injective
    rw [htoken]
    simp
  · rintro ⟨before, after, rfl, hlow, hhigh⟩
    refine ⟨before.toList ++ '-' :: after.toList, before.toList, after.toList, ?_, ?_,
      boundValue?_eq_some_iff.mpr hlow, boundValue?_eq_some_iff.mpr hhigh⟩
    · apply bracketed?_eq_some_iff.mpr
      simp
    -- a lower bound has no dash in it, so the first one is the one between the bounds
    · exact cutAtDash?_eq_some_iff.mpr ⟨rfl, hlow.minus_not_mem⟩

/-! ## Tokens that are read

With the readers known, the grammar and `Spells` differ in two respects: the usage, which each form
names itself, and zero with a minus, which is a form of its own. -/

/-- A 64-bit value is well within the window of 128-bit integers. -/
theorem literalValue?_eq_some_toNat_iff {value : UInt64} :
    literalValue? token.toList = some (value.toNat : Int) ↔ Signed token (value.toNat : Int) := by
  have hfits : value.toNat < UInt64.size := value.toNat_lt
  have hsize : (UInt64.size : Int) ≤ numeralLimit := by decide
  rw [literalValue?_eq_some_iff, and_iff_left]
  omega

theorem allowsWildcard_iff : usage.allowsWildcard = true ↔ usage = .filter ∨ usage = .group := by
  cases usage <;> decide

theorem allowsNamedWildcard_iff : usage.allowsNamedWildcard = true ↔ usage = .group := by
  cases usage <;> decide

theorem allowsRange_iff : usage.allowsRange = true ↔ usage ≠ .tag := by
  cases usage <;> decide

/-- **A token has the form of what it spells,** where the usage allows that. Every syntax is one
form but for literals, which are two: zero may be written with a minus, and no other value may. -/
theorem decodes_iff_spells :
    Decodes usage token kind ↔ Spells token kind ∧ kind.allowedBy usage = true := by
  constructor
  · intro h
    cases h with
    | wildcard hallowed htoken => exact ⟨.wildcard htoken, allowsWildcard_iff.mpr hallowed⟩
    | namedWildcard hallowed htoken =>
      exact ⟨.namedWildcard htoken, allowsNamedWildcard_iff.mpr hallowed⟩
    | literal hwritten =>
      exact ⟨.literal (literalValue?_eq_some_toNat_iff.mpr (.unsigned hwritten)), rfl⟩
    | minusZero htoken hne hzero =>
      have hdigits := digits_zero_iff.mpr ⟨hne, hzero⟩
      have hsigned := signed_natCast_iff.mpr (.inr ⟨rfl, _, htoken, hdigits⟩)
      exact ⟨.literal (literalValue?_eq_some_toNat_iff.mpr hsigned), rfl⟩
    | range hallowed htoken hlow hhigh =>
      exact ⟨.range (rangeBounds?_eq_some_iff.mpr ⟨_, _, htoken, hlow, hhigh⟩),
        allowsRange_iff.mpr hallowed⟩
  · rintro ⟨hspells, hallowed⟩
    cases hspells with
    | wildcard htoken => exact .wildcard (allowsWildcard_iff.mp hallowed) htoken
    | namedWildcard htoken => exact .namedWildcard (allowsNamedWildcard_iff.mp hallowed) htoken
    | @literal value hvalue =>
      rcases signed_natCast_iff.mp (literalValue?_eq_some_toNat_iff.mp hvalue) with
        hwritten | ⟨hzero, zeros, htoken, hzeros⟩
      · exact .literal hwritten
      · obtain ⟨hne, hall⟩ := digits_zero_iff.mp hzeros
        -- the one value that may have a minus
        have hvalue : value = 0 := UInt64.toNat_inj.mp hzero
        rw [hvalue]
        exact .minusZero htoken hne hall
    | range hbounds =>
      obtain ⟨before, after, htoken, hlow, hhigh⟩ := rangeBounds?_eq_some_iff.mp hbounds
      exact .range (allowsRange_iff.mp hallowed) htoken hlow hhigh

/-! ## Tokens that are refused

A report is made in one of three places: where a number is found that is no 64-bit value, where a
token is tried as a range, and where there are no ranges. -/

/-- A number that is no 64-bit value makes a bad literal. -/
theorem fault_of_ofNumber (h : ofNumber token n = .error error) :
    (n ≤ -1 ∨ (UInt64.size : Int) ≤ n) ∧ ∃ reason, error.fault = .invalidLiteral token reason := by
  unfold ofNumber at h
  split at h
  · rw [← Except.error.inj h]
    exact ⟨by omega, _, rfl⟩
  · split at h
    · exact absurd h (by simp)
    · rw [← Except.error.inj h]
      exact ⟨by omega, _, rfl⟩

/-- Where ranges are allowed, a token that is none makes a bad range, whatever is wrong with it. -/
theorem fault_of_ofRange (husage : usage ≠ .tag) (h : ofRange usage token = .error error) :
    ∃ reason, error.fault = .invalidRange token reason := by
  unfold ofRange at h
  split at h
  · rw [← Except.error.inj h]
    cases usage with
    | tag => exact absurd rfl husage
    | filter => exact ⟨_, rfl⟩
    | group => exact ⟨_, rfl⟩
  · split at h
    · exact absurd h (by simp)
    · rw [← Except.error.inj h]
      exact ⟨_, rfl⟩

/-- Where no number is found, the token is not out of bounds, however long it is. -/
theorem not_outOfBounds (h : literalValue? token.toList = none) : ¬ OutOfBounds token := by
  rintro ⟨n, hsigned, hbounds⟩
  have hsize : (0 : Int) ≤ UInt64.size := by decide
  have hlimit : (0 : Int) ≤ numeralLimit := by decide
  have hread : literalValue? token.toList = some n :=
    literalValue?_eq_some_iff.mpr ⟨hsigned, by omega, by omega⟩
  exact absurd (h.symm.trans hread) (by simp)

/-- **What is said of a refused token.** Past the wildcards a number is looked for; if there is
none, the usage decides. -/
theorem fault_of_parse (h : parse usage token = .error error) :
    (usage = .tag ∨ OutOfBounds token) ∧ (∃ reason, error.fault = .invalidLiteral token reason) ∨
      ¬ (usage = .tag ∨ OutOfBounds token) ∧
        ∃ reason, error.fault = .invalidRange token reason := by
  unfold parse at h
  split at h
  · exact absurd h (by simp)
  · split at h
    · exact absurd h (by simp)
    · split at h
      -- a number is found, and it is not a 64-bit value
      · next n hn =>
        obtain ⟨hbounds, hfault⟩ := fault_of_ofNumber h
        obtain ⟨hsigned, hlow, hhigh⟩ := literalValue?_eq_some_iff.mp hn
        exact .inl ⟨.inr ⟨n, hsigned, by omega⟩, hfault⟩
      -- no number is found: the token is taken for a range, where there are ranges
      · next hnone =>
        split at h
        · next hrange =>
          have husage := allowsRange_iff.mp hrange
          refine .inr ⟨?_, fault_of_ofRange husage h⟩
          rintro (htag | hbounds)
          · exact husage htag
          · exact not_outOfBounds hnone hbounds
        · next hrange =>
          have husage : usage = .tag := by
            by_contra hne
            exact hrange (allowsRange_iff.mpr hne)
          rw [← Except.error.inj h, husage]
          exact .inl ⟨.inl rfl, _, rfl⟩

/-- **Tokens are decoded exactly.** A token is read under a usage exactly when it has a form that
the usage allows, as the meaning of that form, and the field keeps the token as it is. A token that
is refused is reported as a bad literal if only literals are allowed or if it is out of bounds, and
otherwise as a bad range; either report carries the token. -/
theorem parse_decodes_token (usage : Usage) (token : String) :
    (∀ field, parse usage token = .ok field ↔
        field.token = token ∧ Decodes usage token field.kind) ∧
      ∀ error, parse usage token = .error error →
        ((∃ reason, error.fault = .invalidLiteral token reason) ↔
            usage = .tag ∨ OutOfBounds token) ∧
          ((∃ reason, error.fault = .invalidRange token reason) ↔
            ¬ (usage = .tag ∨ OutOfBounds token)) := by
  refine ⟨fun field => ?_, fun error herror => ?_⟩
  · rw [parse_eq_ok_iff, decodes_iff_spells]
  · rcases fault_of_parse herror with ⟨hliteral, reason, hfault⟩ | ⟨hrange, reason, hfault⟩
    · rw [hfault]
      simp [hliteral]
    · rw [hfault]
      simp [hrange]

/-- The smallest 128-bit integer makes a bad literal and the one below it a bad range, where ranges
are allowed. Bounds may have a plus and leading zeros. -/
theorem decodes_at_the_limits :
    (∃ low_le_high, Decodes .filter "[+007-8]" (.range 7 8 low_le_high)) ∧
      (∃ error, parse .group "-170141183460469231731687303715884105728" = .error error ∧
        OutOfBounds "-170141183460469231731687303715884105728") ∧
      ∃ error, parse .group "-170141183460469231731687303715884105729" = .error error ∧
        ¬ OutOfBounds "-170141183460469231731687303715884105729" := by
  have hrange : ∃ low_le_high, parse .filter "[+007-8]" =
      .ok ⟨.range 7 8 low_le_high, "[+007-8]"⟩ := ⟨by decide, rfl⟩
  have hlast : parse .group "-170141183460469231731687303715884105728" =
      .error (.negative "-170141183460469231731687303715884105728") := rfl
  have hbelow : parse .group "-170141183460469231731687303715884105729" =
      .error (.notAllowed .group "-170141183460469231731687303715884105729") := rfl
  obtain ⟨low_le_high, hread⟩ := hrange
  refine ⟨⟨low_le_high, ?_⟩, ⟨_, hlast, ?_⟩, ⟨_, hbelow, ?_⟩⟩
  · exact (((parse_decodes_token .filter "[+007-8]").1 _).mp hread).2
  · exact (((parse_decodes_token .group _).2 _ hlast).1.mp ⟨_, rfl⟩).resolve_left (by decide)
  · exact fun hbounds => ((parse_decodes_token .group _).2 _ hbelow).2.mp ⟨_, rfl⟩ (.inr hbounds)

/-- The cut is at the first dash, and what stands behind it is no bound. -/
example : parse .group "[1--2]" = .error (.notAllowed .group "[1--2]") := rfl

end EventCycle.Field
