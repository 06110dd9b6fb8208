/-
Tags against patterns, and patterns against each other.

A tag belongs to a filter or group pattern when both have the same format and the value of each
of its data fields satisfies the field at that position. A text belongs to a pattern when it
reads as such a tag; `text ∈ pattern` is that relation, and `value_isMember` says that the test
decides it. Two patterns are disjoint when their formats differ or the fields of some position
have no common value. A group pattern also names the group of a tag: its own text with the tag's
tokens in place of the named wildcards.

Each question about a text has a twin about a tag that was read before, so that a read which is
tested against many patterns is read once. The operations on texts read their text themselves and
log one that is no tag, and both refuse some usages before they read anything. What they yield does
not depend on that order: it is what the twin yields for the tag, and nothing where the text is no
tag (`value_isMember_eq_any`, `value_groupName?_eq_bind`). What the twins look at is said once, in
`matchesTag_iff` and `groupNameFor?_eq_some_iff`.
-/
import EventCycle.Log.Logged

set_option autoImplicit false

namespace EventCycle.Pattern

/-! ## Membership

Three forms of one question: of lists of fields, of a tag that was read, of a text. Only the last
one can log anything. -/

/-- Whether the data fields of a tag satisfy the fields at their positions, none being left over.
Lists of different lengths do not match, so there is no need to compare the lengths first. -/
def fieldsMatch : List Field → List Field → Bool
  | [], [] => true
  | field :: fields, tagField :: tagFields =>
    field.matchesField tagField && fieldsMatch fields tagFields
  | _, _ => false

/-- Whether an already read tag belongs to the pattern: the operation `matches_tag`. Nothing belongs
to a pattern of usage tag. The usage of the operand is not looked at, nor are the domain and the id
space of either. -/
def matchesTag (pattern tag : Pattern) : Bool :=
  pattern.usage != .tag && tag.format == pattern.format && fieldsMatch pattern.fields tag.fields

/-- A text belongs to a pattern when it reads as a tag that does. -/
instance : Membership String Pattern where
  mem pattern text := ∃ tag, parse .tag text = .ok tag ∧ pattern.matchesTag tag = true

/-- Reads a tag identifier for a question about it. A text that is none is logged as the event that
`refused` makes of it, which says who asked: a single pattern or a whole cycle. -/
def readTag (refused : String → Error → Event) (text : String) : Logged (Option Pattern) :=
  match parse .tag text with
  | .ok tag => pure (some tag)
  | .error error => do
    Logged.record (refused text error)
    return none

/-- **Whether a text belongs to the pattern:** the operation `is_member`. A pattern of usage tag
refuses it unread, so that nothing is logged. -/
def isMember (pattern : Pattern) (text : String) : Logged Bool :=
  if pattern.usage = .tag then pure false
  else do
    let tag ← readTag .candidateRefused text
    return tag.any pattern.matchesTag

/-! ## Group names

A name is a pattern's text, so it is made by making a pattern. The tokens of a tag are taken over as
they are, with their leading zeros and signs. -/

/-- The fields with a tag's fields in place of the named wildcards. There are as many of them as
fields of the pattern: a tag with fewer fields leaves the rest as it is, and what a tag has beyond
is not taken. Neither happens for a tag that belongs to the pattern. -/
def fillFields : List Field → List Field → List Field
  | field :: fields, tagField :: tagFields =>
    (if field.isNamedWildcard then tagField else field) :: fillFields fields tagFields
  | fields, [] => fields
  | [], _ => []

/-- Filling in does not change how many fields there are, whatever the tag has. -/
theorem length_fillFields (fields tagFields : List Field) :
    (fillFields fields tagFields).length = fields.length := by
  induction fields generalizing tagFields with
  | nil => cases tagFields <;> rfl
  | cons field fields ih =>
    cases tagFields with
    | nil => rfl
    | cons tagField tagFields => simp [fillFields, ih]

/-- The pattern with a tag's fields in place of the named wildcards. Usage, id space and format stay
those of the pattern. -/
def filled (pattern tag : Pattern) : Pattern :=
  match pattern.body with
  | .epc format fields arity_eq =>
    { pattern with
      body := .epc format (fillFields fields tag.fields)
        ((length_fillFields fields tag.fields).trans arity_eq) }
  | .oid .. | .prop .. => pattern

/-- The group that an already read tag falls into under the pattern, if the pattern is one of usage
group and the tag belongs to it: the operation `group_name_for`. -/
def groupNameFor? (pattern tag : Pattern) : Option String :=
  if pattern.usage = .group ∧ pattern.matchesTag tag = true then some (pattern.filled tag).text
  else none

/-- **The group that a text falls into under the pattern:** the operation `group_name`. A pattern of
another usage than group leaves the text unread. -/
def groupName? (pattern : Pattern) (text : String) : Logged (Option String) :=
  if pattern.usage ≠ .group then pure none
  else do
    let tag ← readTag .candidateRefused text
    return tag.bind pattern.groupNameFor?

/-! ## Disjointness

The comparison is made on the patterns alone. Neither the usages nor the domains and id spaces of
the two count. -/

/-- Whether the fields of some position have no common value. Positions that only one of the lists
has are not looked at. -/
def fieldsDisjoint : List Field → List Field → Bool
  | a :: as, b :: bs => a.disjoint b || fieldsDisjoint as bs
  | _, _ => false

/-- **Whether no tag can belong to both patterns,** as far as formats and fields tell: the operation
`is_disjoint`. -/
def disjoint (a b : Pattern) : Bool := a.format != b.format || fieldsDisjoint a.fields b.fields

/-- Whether the pattern is disjoint from a group pattern given as text: the operation
`is_disjoint_str`. -/
def disjointFromText (pattern : Pattern) (text : String) : Except Error Bool :=
  (parse .group text).map pattern.disjoint

/-! ## Tags of a pattern

What the operations on tags that were read decide, taken apart once. The proofs about members and
names start here. -/

/-- Fields that match are as many on both sides. The induction is on the fields of the pattern, and
the fields of the tag end where these do. -/
theorem length_eq_of_fieldsMatch {fields tagFields : List Field}
    (h : fieldsMatch fields tagFields = true) : fields.length = tagFields.length := by
  induction fields generalizing tagFields with
  | nil => cases tagFields <;> simp_all [fieldsMatch]
  | cons field fields ih =>
    cases tagFields with
    | nil => simp [fieldsMatch] at h
    | cons tagField tagFields =>
      simp only [fieldsMatch, Bool.and_eq_true] at h
      simp [ih h.2]

/-- What the test on a tag looks at: the usage, the format, and the fields one by one. -/
theorem matchesTag_iff {pattern tag : Pattern} :
    pattern.matchesTag tag = true ↔
      pattern.usage ≠ .tag ∧ tag.format = pattern.format ∧
        fieldsMatch pattern.fields tag.fields = true := by
  rw [matchesTag, Bool.and_eq_true, Bool.and_eq_true, bne_iff_ne, beq_iff_eq, and_assoc]

/-- A tag falls into a group exactly when it belongs to a group pattern. -/
theorem groupNameFor?_eq_some_iff {pattern tag : Pattern} {name : String} :
    pattern.groupNameFor? tag = some name ↔
      pattern.usage = .group ∧ pattern.matchesTag tag = true ∧
        (pattern.filled tag).text = name := by
  unfold groupNameFor?
  split
  · next h => simp [h.1, h.2]
  · next h =>
    constructor
    · intro hname
      exact absurd hname (by simp)
    · rintro ⟨husage, hmatches, -⟩
      exact absurd ⟨husage, hmatches⟩ h

/-- A group pattern names every tag that belongs to it. -/
theorem groupNameFor?_eq_none_iff {pattern tag : Pattern} (husage : pattern.usage = .group) :
    pattern.groupNameFor? tag = none ↔ pattern.matchesTag tag = false := by
  rw [groupNameFor?, ite_eq_right_iff, ← Bool.not_eq_true]
  constructor
  · intro h hmatches
    exact absurd (h ⟨husage, hmatches⟩) (by simp)
  · intro h hboth
    exact absurd hboth.2 h

/-! ## Texts of a pattern

A question about a text is the question about the tag that it reads as, or has the answer for no
tag. After this section the log plays no part in what the operations yield. -/

/-- Reading a tag yields the tag, whatever is logged of the others. -/
@[simp] theorem value_readTag (refused : String → Error → Event) (text : String) :
    (readTag refused text).value = (parse .tag text).toOption := by
  unfold readTag
  cases parse .tag text <;> rfl

/-- Reading a tag logs nothing if the text is one, and else one event. -/
theorem events_readTag (refused : String → Error → Event) (text : String) :
    (readTag refused text).events =
      match parse .tag text with
      | .ok _ => []
      | .error error => [refused text error] := by
  unfold readTag
  cases parse .tag text <;> rfl

/-- **Membership of a text is that of the tag it reads as.** -/
theorem value_isMember_eq_any (pattern : Pattern) (text : String) :
    (pattern.isMember text).value = (parse .tag text).toOption.any pattern.matchesTag := by
  unfold isMember
  split
  -- a pattern of usage tag refuses the text unread, and matches no tag either
  · next husage =>
    have hnone : ∀ tag, pattern.matchesTag tag = false := by
      intro tag
      rw [matchesTag, husage]
      rfl
    rw [Logged.value_pure]
    cases parse .tag text with
    | error e => rfl
    | ok tag => exact (hnone tag).symm
  · rw [Logged.value_bind, value_readTag, Logged.value_pure]

/-- **The membership test decides membership.** -/
theorem value_isMember (pattern : Pattern) (text : String) :
    (pattern.isMember text).value = true ↔ text ∈ pattern := by
  rw [value_isMember_eq_any]
  exact toOption_any_eq_true_iff

theorem value_isMember_of_parse {text : String} {tag : Pattern} (h : parse .tag text = .ok tag)
    (pattern : Pattern) : (pattern.isMember text).value = pattern.matchesTag tag := by
  rw [value_isMember_eq_any, h]
  rfl

/-- **The group name of a text is that of the tag it reads as.** -/
theorem value_groupName?_eq_bind (pattern : Pattern) (text : String) :
    (pattern.groupName? text).value = (parse .tag text).toOption.bind pattern.groupNameFor? := by
  unfold groupName?
  split
  -- a pattern of another usage than group names no tag, read or unread
  · next husage =>
    have hnone : ∀ tag, pattern.groupNameFor? tag = none := by
      intro tag
      rw [groupNameFor?, if_neg (fun h => husage h.1)]
    rw [Logged.value_pure]
    cases parse .tag text with
    | error e => rfl
    | ok tag => exact (hnone tag).symm
  · rw [Logged.value_bind, value_readTag, Logged.value_pure]

/-- A text with a group name is a tag identifier, and it is the tag that has the name. -/
theorem value_groupName?_eq_some_iff {pattern : Pattern} {text name : String} :
    (pattern.groupName? text).value = some name ↔
      ∃ tag, parse .tag text = .ok tag ∧ pattern.groupNameFor? tag = some name := by
  rw [value_groupName?_eq_bind, toOption_bind_eq_some_iff]

/-! ## The order of two patterns -/

/-- Positions are compared in pairs, so the two lists may trade places. -/
theorem fieldsDisjoint_comm (as bs : List Field) : fieldsDisjoint as bs = fieldsDisjoint bs as := by
  induction as generalizing bs with
  | nil => cases bs <;> rfl
  | cons a as ih =>
    cases bs with
    | nil => rfl
    | cons b bs =>
      rw [fieldsDisjoint, fieldsDisjoint, ih bs, Field.disjoint_comm]

theorem disjoint_comm (a b : Pattern) : a.disjoint b = b.disjoint a := by
  unfold disjoint
  rw [fieldsDisjoint_comm, bne_comm]

end EventCycle.Pattern
