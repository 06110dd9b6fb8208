/-
Tag, filter and group patterns.

A pattern is written as five segments,

    urn : (epc | oid | prop) : id space : format : data

and only the domain `epc` has data fields, as many as its format says. In the domains `oid` and
`prop` the domain itself is the format, and the last two segments are carried as they stand. So is
the id space in all of them.

`text` writes a pattern back. It joins the segments, so that reading (`Pattern.parse`) and writing
meet in one place, the segments.

What a domain carries is a `Body`, one constructor for each, and the number of fields is part of the
body: a pattern with the wrong number of fields cannot be built. So whoever makes a pattern out of
another, by filling in fields or by changing the usage, has nothing to check
(`length_fields_of_epc`). The interface gives the parts of a pattern by name; here `domain`,
`format` and `fields` read them off the body.
-/
import EventCycle.Field.Basic
import EventCycle.Format
import EventCycle.Text.Segments
import EventCycle.Usage

set_option autoImplicit false

namespace EventCycle

open EventCycle.Text

/-! ## Domains -/

/-- The second segment of a pattern. It says what the last two segments are. -/
inductive Domain where
  | epc
  | oid
  | prop
deriving DecidableEq, Repr

namespace Domain

/-- The domains, in the order in which they are listed to the user. -/
def all : List Domain := [.epc, .oid, .prop]

/-- The segment that stands for the domain. -/
def token : Domain → String
  | .epc => "epc"
  | .oid => "oid"
  | .prop => "prop"

/-- The domain written with exactly that token: the operation `from_token`. Case counts. -/
def ofToken? (token : String) : Option Domain := all.find? (·.token == token)

theorem ofToken?_token (domain : Domain) : ofToken? domain.token = some domain := by
  cases domain <;> decide

theorem ofToken?_eq_some_iff {token : String} {domain : Domain} :
    ofToken? token = some domain ↔ domain.token = token :=
  ⟨fun h => by simpa using List.find?_some h, fun h => h ▸ ofToken?_token domain⟩

end Domain

/-! ## Patterns -/

/-- A domain with what a pattern of that domain carries. -/
inductive Pattern.Body where
  /-- A format and its data fields. -/
  | epc (format : Format) (fields : List Field) (arity_eq : fields.length = format.arity)
  /-- The format and data segments as they stand. -/
  | oid (format data : String)
  /-- The format and data segments as they stand. -/
  | prop (format data : String)
deriving DecidableEq

/-- A pattern, or a tag identifier, which is a pattern of usage tag. In the engine's interface this
is a `TagPattern`. -/
structure Pattern where
  usage : Usage
  idSpace : String
  body : Pattern.Body
deriving DecidableEq

namespace Pattern

/-- The first segment of every pattern. -/
def scheme : String := "urn"

/-- The id spaces that the users are told of. Reading a pattern does not look at them. -/
def idSpaces : List String := ["urn", "tag", "pat", "id", "idpat", "raw"]

/-- The domain, which is the one that the body belongs to. -/
def domain (pattern : Pattern) : Domain :=
  match pattern.body with
  | .epc .. => .epc
  | .oid .. => .oid
  | .prop .. => .prop

/-- The format of a pattern; the domains without data fields are formats of their own. -/
def format (pattern : Pattern) : Format :=
  match pattern.body with
  | .epc format _ _ => format
  | .oid .. => .oid
  | .prop .. => .prop

/-- The data fields, in order. There are none outside the domain `epc`. -/
def fields (pattern : Pattern) : List Field :=
  match pattern.body with
  | .epc _ fields _ => fields
  | .oid .. | .prop .. => []

/-- The last two segments, which hold the format and the data. -/
def Body.tail : Body → List String
  | .epc format fields _ => [format.token, joined '.' (fields.map Field.token)]
  | .oid format data | .prop format data => [format, data]

/-- The five segments that a pattern is written with. -/
def segments (pattern : Pattern) : List String :=
  scheme :: pattern.domain.token :: pattern.idSpace :: pattern.body.tail

/-- **The text of a pattern,** as it is printed and logged. -/
def text (pattern : Pattern) : String := joined ':' pattern.segments

/-! ## Fields by position

The common four-field layouts name their positions. A format with fewer fields has none past its
last. -/

/-- The first field: the operation `filter`. -/
def filterField? (pattern : Pattern) : Option Field := pattern.fields[0]?

/-- The second field: the operation `company`. -/
def companyField? (pattern : Pattern) : Option Field := pattern.fields[1]?

/-- The third field: the operation `item`. -/
def itemField? (pattern : Pattern) : Option Field := pattern.fields[2]?

/-- The fourth field: the operation `serial`. -/
def serialField? (pattern : Pattern) : Option Field := pattern.fields[3]?

/-! ## What the format says about the fields

In the domains `oid` and `prop` a pattern has a format that asks for a field, and has none. Whoever
counts fields has to tell the domains apart. -/

/-- In the domain `epc` there are as many fields as the format says. The body carries the proof. -/
theorem length_fields_of_epc {pattern : Pattern} (h : pattern.domain = .epc) :
    pattern.fields.length = pattern.format.arity := by
  unfold domain at h
  unfold fields format
  split at h
  · next arity_eq _ => exact arity_eq
  · exact absurd h (by decide)
  · exact absurd h (by decide)

/-- Outside the domain `epc` there are no fields, and inside there are some, since no format is
without. -/
theorem fields_eq_nil_iff {pattern : Pattern} : pattern.fields = [] ↔ pattern.domain ≠ .epc := by
  constructor
  · intro h hdomain
    have hlength := length_fields_of_epc hdomain
    rw [h] at hlength
    exact absurd hlength (Nat.ne_of_lt pattern.format.arity_pos)
  · unfold domain fields
    split <;> simp

end Pattern

end EventCycle
