/-
What a token spells, whoever reads it.

`Field.parse` tries the syntaxes in a fixed order and lets the usage decide which of them it
tries at all. `Spells` says the same without an order and without a usage: it relates a token to
a meaning, one constructor per syntax. The main statement is `parse_eq_ok_iff`. A token is read
as a field exactly when it spells the meaning of the field and the usage allows that meaning.

Everything that follows needs only one fact about the relation: no token spells two meanings
(`Spells.unique`). So two readings of one token never disagree, even under different usages, and a
token that is read under one usage is read alike under every usage that allows its meaning
(`parse_iff_allowedBy`). What a tag may hold every usage may hold (`parse_of_parse_tag`); a token
that is moved from a tag into a group pattern keeps its meaning.
-/
import EventCycle.Field.Parser

set_option autoImplicit false

namespace EventCycle.Field

open EventCycle.Text

/-! ## The relation

The relation has the readers of numbers and ranges in it, but not the order in which they are tried;
that order is what the lemmas below make irrelevant. -/

/-- A token spells a meaning. -/
inductive Spells (token : String) : Kind → Prop where
  | literal {value : UInt64} (h : literalValue? token.toList = some (value.toNat : Int)) :
      Spells token (.literal value)
  | range {low high : UInt64} {low_le_high : low ≤ high}
      (h : rangeBounds? token.toList = some (low, high)) :
      Spells token (.range low high low_le_high)
  | wildcard (h : token = "*") : Spells token .wildcard
  | namedWildcard (h : token = "X") : Spells token .namedWildcard

/-- Whether a usage allows the syntax of a meaning. -/
def Kind.allowedBy (usage : Usage) : Kind → Bool
  | .literal _ => true
  | .range .. => usage.allowsRange
  | .wildcard => usage.allowsWildcard
  | .namedWildcard => usage.allowsNamedWildcard

/-! ## No token spells two meanings

The syntaxes are told apart by the first character: a range starts with `[`, the wildcards are
`*` and `X`, and none of the three starts a numeral. -/

/-- What starts with neither a digit nor a sign is no literal. -/
theorem literalValue?_of_not_digit {c : Char} {rest : List Char} (hdigit : c.isDigit = false)
    (hplus : c ≠ '+') (hminus : c ≠ '-') : literalValue? (c :: rest) = none := by
  have hunsigned : unsignedValue? (c :: rest) = none := by
    unfold unsignedValue?
    split
    · next digits heq => exact absurd (List.cons.inj heq).1 hplus
    · exact digitsValue?_of_not_digit hdigit
  have hsigned : signedValue? (c :: rest) = none := by
    unfold signedValue?
    split
    · next digits heq => exact absurd (List.cons.inj heq).1 hminus
    · rw [hunsigned]
      rfl
  rw [literalValue?, hsigned]
  rfl

/-- A range starts with its bracket. -/
theorem head_of_rangeBounds? {chars : List Char} {bounds : UInt64 × UInt64}
    (h : rangeBounds? chars = some bounds) : ∃ rest, chars = '[' :: rest := by
  cases hbracket : bracketed? chars with
  | none =>
    rw [rangeBounds?, hbracket] at h
    exact absurd h (by simp)
  | some inner =>
    unfold bracketed? at hbracket
    split at hbracket
    · next rest => exact ⟨rest, rfl⟩
    · exact absurd hbracket (by simp)

/-- A range is no literal, since a bracket is neither a digit nor a sign. -/
theorem literalValue?_of_rangeBounds? {chars : List Char} {bounds : UInt64 × UInt64}
    (h : rangeBounds? chars = some bounds) : literalValue? chars = none := by
  obtain ⟨rest, rfl⟩ := head_of_rangeBounds? h
  exact literalValue?_of_not_digit (by decide) (by decide) (by decide)

/-- A literal is no wildcard. -/
theorem ne_wild_of_literalValue? {token : String} {n : Int}
    (h : literalValue? token.toList = some n) : token ≠ "*" ∧ token ≠ "X" := by
  constructor
  · rintro rfl
    have hnone : literalValue? "*".toList = none := by decide
    exact absurd (hnone.symm.trans h) (by simp)
  · rintro rfl
    have hnone : literalValue? "X".toList = none := by decide
    exact absurd (hnone.symm.trans h) (by simp)

/-- A range is no wildcard. -/
theorem ne_wild_of_rangeBounds? {token : String} {bounds : UInt64 × UInt64}
    (h : rangeBounds? token.toList = some bounds) : token ≠ "*" ∧ token ≠ "X" := by
  obtain ⟨rest, hrest⟩ := head_of_rangeBounds? h
  constructor
  · rintro rfl
    exact absurd (List.cons.inj hrest).1 (by decide)
  · rintro rfl
    exact absurd (List.cons.inj hrest).1 (by decide)

/-- **A token spells at most one meaning.** The cases are the pairs of syntaxes. Two different
syntaxes exclude each other by the lemmas above, and each of them reads its token in one way. -/
theorem Spells.unique {token : String} {a b : Kind} (ha : Spells token a) (hb : Spells token b) :
    a = b := by
  cases ha with
  | literal ha =>
    cases hb with
    -- one number, and different values are different numbers
    | literal hb =>
      have heq := Option.some.inj (ha.symm.trans hb)
      rw [UInt64.toNat_inj.mp (Int.ofNat_inj.mp heq)]
    | range hb => exact absurd (ha.symm.trans (literalValue?_of_rangeBounds? hb)) (by simp)
    | wildcard hb => exact absurd hb (ne_wild_of_literalValue? ha).1
    | namedWildcard hb => exact absurd hb (ne_wild_of_literalValue? ha).2
  | range ha =>
    cases hb with
    | literal hb => exact absurd (hb.symm.trans (literalValue?_of_rangeBounds? ha)) (by simp)
    | range hb =>
      obtain ⟨rfl, rfl⟩ := Prod.mk.inj (Option.some.inj (ha.symm.trans hb))
      rfl
    | wildcard hb => exact absurd hb (ne_wild_of_rangeBounds? ha).1
    | namedWildcard hb => exact absurd hb (ne_wild_of_rangeBounds? ha).2
  | wildcard ha =>
    cases hb with
    | literal hb => exact absurd ha (ne_wild_of_literalValue? hb).1
    | range hb => exact absurd ha (ne_wild_of_rangeBounds? hb).1
    | wildcard hb => rfl
    | namedWildcard hb => exact absurd (ha.symm.trans hb) (by decide)
  | namedWildcard ha =>
    cases hb with
    | literal hb => exact absurd ha (ne_wild_of_literalValue? hb).2
    | range hb => exact absurd ha (ne_wild_of_rangeBounds? hb).2
    | wildcard hb => exact absurd (ha.symm.trans hb) (by decide)
    | namedWildcard hb => rfl

/-! ## Reading a token finds what it spells

The three readers are described one after the other: of numbers, of ranges, and of any token, which
calls the first two. -/

/-- A number is read when it is one of the 64-bit values. -/
theorem ofNumber_eq_ok_iff {token : String} {n : Int} {field : Field} :
    ofNumber token n = .ok field ↔
      ∃ value : UInt64, n = (value.toNat : Int) ∧ field = ⟨.literal value, token⟩ := by
  unfold ofNumber
  constructor
  · intro h
    split at h
    · exact absurd h (by simp)
    · next hneg =>
      split at h
      -- the test for a negative number has failed, so the number is its own natural part
      · next hfits =>
        refine ⟨UInt64.ofNatLT n.toNat hfits, ?_, (Except.ok.inj h).symm⟩
        rw [UInt64.toNat_ofNatLT]
        omega
      · exact absurd h (by simp)
  · rintro ⟨value, rfl, rfl⟩
    have hfits : ((value.toNat : Int)).toNat < UInt64.size := by
      rw [Int.toNat_natCast]
      exact value.toNat_lt
    rw [if_neg (by omega), dif_pos hfits]
    rfl

/-- A range is read when its bounds are, and are the right way round. -/
theorem ofRange_eq_ok_iff {usage : Usage} {token : String} {field : Field} :
    ofRange usage token = .ok field ↔
      ∃ (low high : UInt64) (low_le_high : low ≤ high),
        rangeBounds? token.toList = some (low, high) ∧
        field = ⟨.range low high low_le_high, token⟩ := by
  unfold ofRange
  constructor
  · intro h
    split at h
    · exact absurd h (by simp)
    · next low high hbounds =>
      split at h
      · next hle => exact ⟨low, high, hle, hbounds, (Except.ok.inj h).symm⟩
      · exact absurd h (by simp)
  · rintro ⟨low, high, hle, hbounds, rfl⟩
    rw [hbounds]
    exact dif_pos hle

/-- A token that is no wildcard is tried as a number and then as a range. -/
theorem parse_of_ne_wild {usage : Usage} {token : String} (h : token ≠ "*" ∧ token ≠ "X") :
    parse usage token =
      match literalValue? token.toList with
      | some n => ofNumber token n
      | none =>
        if usage.allowsRange then ofRange usage token else .error (.notAllowed usage token) := by
  have hstar : (token == "*") = false := by simpa using h.1
  have hx : (token == "X") = false := by simpa using h.2
  rw [parse, hstar, hx, Bool.and_false, Bool.and_false]
  rfl

/-- What is read is spelled and allowed. The cases are the branches of the reader, one syntax each;
the usage is tested on the way into the branch, or for literals not at all. -/
theorem spells_of_parse {usage : Usage} {token : String} {field : Field}
    (h : parse usage token = .ok field) :
    Spells token field.kind ∧ field.kind.allowedBy usage = true := by
  unfold parse at h
  split at h
  · next hwild =>
    rw [Bool.and_eq_true, beq_iff_eq] at hwild
    rw [← Except.ok.inj h]
    exact ⟨.wildcard hwild.2, hwild.1⟩
  · split at h
    · next hnamed =>
      rw [Bool.and_eq_true, beq_iff_eq] at hnamed
      rw [← Except.ok.inj h]
      exact ⟨.namedWildcard hnamed.2, hnamed.1⟩
    · split at h
      · next n hn =>
        obtain ⟨value, rfl, rfl⟩ := ofNumber_eq_ok_iff.mp h
        exact ⟨.literal hn, rfl⟩
      · split at h
        · next hrange =>
          obtain ⟨low, high, hle, hbounds, rfl⟩ := ofRange_eq_ok_iff.mp h
          exact ⟨.range hbounds, hrange⟩
        · exact absurd h (by simp)

/-- What is spelled and allowed is read. The order in which the reader tries the syntaxes could get
in the way, but a token of one syntax is refused by those that are tried before. -/
theorem parse_of_spells {usage : Usage} {token : String} {kind : Kind} (h : Spells token kind)
    (hallowed : kind.allowedBy usage = true) : parse usage token = .ok ⟨kind, token⟩ := by
  cases h with
  | literal h =>
    rw [parse_of_ne_wild (ne_wild_of_literalValue? h), h]
    exact ofNumber_eq_ok_iff.mpr ⟨_, rfl, rfl⟩
  | range h =>
    have hrange : usage.allowsRange = true := hallowed
    rw [parse_of_ne_wild (ne_wild_of_rangeBounds? h), literalValue?_of_rangeBounds? h]
    simp only [hrange, if_true]
    exact ofRange_eq_ok_iff.mpr ⟨_, _, _, h, rfl⟩
  | wildcard h =>
    have hstar : usage.allowsWildcard = true := hallowed
    rw [parse, hstar, h]
    rfl
  | namedWildcard h =>
    have hx : usage.allowsNamedWildcard = true := hallowed
    -- the wildcard is tried first, but `X` is not `*`
    have hstar : ("X" == "*") = false := by decide
    rw [parse, h, hstar, hx, Bool.and_false]
    rfl

/-- **What a token is read as:** the meaning it spells, where the usage allows that meaning. -/
theorem parse_eq_ok_iff {usage : Usage} {token : String} {field : Field} :
    parse usage token = .ok field ↔
      field.token = token ∧ Spells token field.kind ∧ field.kind.allowedBy usage = true := by
  constructor
  · intro h
    exact ⟨token_of_parse h, spells_of_parse h⟩
  · rintro ⟨rfl, hspells, hallowed⟩
    exact parse_of_spells hspells hallowed

/-! ## What the usages allow

Each usage allows what the one before it does: a tag has literals only, a filter may also leave a
position open or give a range, and a group may name a position besides. -/

section Usages

variable {field : Field}

theorem allowedBy_tag_iff : field.kind.allowedBy .tag = true ↔ field.isLiteral = true := by
  obtain ⟨kind, token⟩ := field
  cases kind <;> exact Iff.rfl

/-- A filter may hold everything but named wildcards. -/
theorem allowedBy_filter_iff :
    field.kind.allowedBy .filter = true ↔ field.isNamedWildcard = false := by
  obtain ⟨kind, token⟩ := field
  cases kind with
  | literal value => exact iff_of_true rfl rfl
  | range low high hle => exact iff_of_true rfl rfl
  | wildcard => exact iff_of_true rfl rfl
  | namedWildcard => exact iff_of_false Bool.false_ne_true Bool.false_ne_true.symm

theorem allowedBy_group (field : Field) : field.kind.allowedBy .group = true := by
  obtain ⟨kind, token⟩ := field
  cases kind <;> rfl

/-- What a tag may hold, a filter may hold. -/
theorem allowedBy_filter_of_tag (h : field.kind.allowedBy .tag = true) :
    field.kind.allowedBy .filter = true := by
  obtain ⟨kind, token⟩ := field
  cases kind with
  | literal value => rfl
  | range low high hle => rfl
  | wildcard => rfl
  | namedWildcard => exact h

end Usages

/-! ## Readings under different usages

A token is read more than once: in a tag, and again in a name that the tag was filled in to. These
lemmas say that nothing changes on the way. -/

/-- **Two readings of a token agree,** whatever the usages. -/
theorem eq_of_parse_of_parse {usage usage' : Usage} {token : String} {a b : Field}
    (ha : parse usage token = .ok a) (hb : parse usage' token = .ok b) : a = b := by
  obtain ⟨hatoken, haspells, -⟩ := parse_eq_ok_iff.mp ha
  obtain ⟨hbtoken, hbspells, -⟩ := parse_eq_ok_iff.mp hb
  have hkind : a.kind = b.kind := haspells.unique hbspells
  have htoken : a.token = b.token := hatoken.trans hbtoken.symm
  obtain ⟨akind, atoken⟩ := a
  obtain ⟨bkind, btoken⟩ := b
  rw [Field.mk.injEq]
  exact ⟨hkind, htoken⟩

/-- **A token that can be read** means the same under every usage that allows the meaning. -/
theorem parse_iff_allowedBy {usage usage' : Usage} {token : String} {field other : Field}
    (h : parse usage token = .ok field) :
    parse usage' token = .ok other ↔ other = field ∧ field.kind.allowedBy usage' = true := by
  obtain ⟨htoken, hspells, -⟩ := parse_eq_ok_iff.mp h
  constructor
  · intro hother
    obtain rfl := eq_of_parse_of_parse h hother
    exact ⟨rfl, (parse_eq_ok_iff.mp hother).2.2⟩
  · rintro ⟨rfl, hallowed⟩
    exact parse_eq_ok_iff.mpr ⟨htoken, hspells, hallowed⟩

theorem kind_of_parse_tag {token : String} {field : Field} (h : parse .tag token = .ok field) :
    ∃ value, field.kind = .literal value := by
  obtain ⟨-, -, hallowed⟩ := parse_eq_ok_iff.mp h
  obtain ⟨value, hvalue⟩ := exists_value?_of_isLiteral (allowedBy_tag_iff.mp hallowed)
  exact ⟨value, value?_eq_some_iff.mp hvalue⟩

/-- What a tag may hold, every usage may hold. -/
theorem parse_of_parse_tag {token : String} {field : Field} (h : parse .tag token = .ok field)
    (usage : Usage) : parse usage token = .ok field := by
  obtain ⟨value, hkind⟩ := kind_of_parse_tag h
  refine (parse_iff_allowedBy h).mpr ⟨rfl, ?_⟩
  rw [hkind]
  rfl

/-! ## Fields that may stand in a pattern -/

/-- A field that may stand in a pattern of that usage: its token is not cut by a separator, and
reads as the field. -/
structure Readable (usage : Usage) (field : Field) : Prop where
  /-- The token is not cut by the separator of segments. -/
  colonFree : ':' ∉ field.token.toList
  /-- The token is not cut by the separator of fields. -/
  dotFree : '.' ∉ field.token.toList
  /-- The token has not been changed, and the usage allows the field. -/
  parse_token : parse usage field.token = .ok field

/-! ## A token for every value

To show that a pattern has a member one has to write a tag down, and so every value needs a token
that reads as it. -/

/-- The literal of a value, with the usual decimal digits as its token. -/
def ofValue (value : UInt64) : Field := ⟨.literal value, toString value.toNat⟩

@[simp] theorem value?_ofValue (value : UInt64) : (ofValue value).value? = some value := rfl

/-- Decimal digits are nothing but digits, so there is no separator among them. -/
theorem isDigit_of_mem_token_ofValue {value : UInt64} {c : Char}
    (h : c ∈ (ofValue value).token.toList) : c.isDigit = true := by
  rw [ofValue, toList_toString_nat] at h
  exact Nat.isDigit_of_mem_toDigits (by decide) (by decide) h

/-- **The token of a value is read as the value,** under every usage. -/
theorem parse_ofValue (usage : Usage) (value : UInt64) :
    parse usage (ofValue value).token = .ok (ofValue value) := by
  have hsigned : signedValue? (toString value.toNat).toList = some (value.toNat : Int) := by
    rw [toList_toString_nat]
    exact signedValue?_of_unsignedValue? (unsignedValue?_of_digitsValue? (digitsValue?_toDigits _))
  -- 64 bits are well within the window of 128-bit integers
  have hwindow : (value.toNat : Int) < numeralLimit := by
    have := value.toNat_lt
    rw [numeralLimit]
    omega
  refine parse_of_spells (.literal ?_) rfl
  show (signedValue? (toString value.toNat).toList).filter _ = _
  rw [hsigned, Option.filter_some, if_pos]
  rw [Bool.and_eq_true, decide_eq_true_eq, decide_eq_true_eq]
  refine ⟨?_, hwindow⟩
  rw [numeralLimit]
  omega

/-- The decimal field of a value may stand in every pattern. -/
theorem readable_ofValue (usage : Usage) (value : UInt64) : (ofValue value).Readable usage where
  colonFree h := absurd (isDigit_of_mem_token_ofValue h) (by decide)
  dotFree h := absurd (isDigit_of_mem_token_ofValue h) (by decide)
  parse_token := parse_ofValue usage value

end EventCycle.Field
