/-
Records written as objects.

A record may be written in many ways: its fields may stand in any order, and a field whose value is
the default may be left out. `Holds` says that an object is one of these ways. Read as a record such
an object says of every field what the field was to say (`Holds.field?_eq`), so one who reads a
record field by field cannot tell the ways apart.

That is said by membership and not by a rearrangement followed by a deletion: every member is one of
the fields, and every field is a member or has its default value. No name may occur twice, or the
object would not be taken for a record at all.
-/
import EventCycle.Proofs.Json.RoundTrip
import Mathlib.Data.List.Nodup

set_option autoImplicit false

namespace EventCycle.Json

/-- A field that is to be written: its name and value, and whether the value is the default. -/
structure Entry where
  name : String
  value : Value
  isDefault : Prop

/-- The members are the fields, in any order and each at most once. Only defaults are left out. -/
structure Holds (entries : List Entry) (members : List (String × Value)) : Prop where
  nodup : (members.map Prod.fst).Nodup
  /-- No other field is there, though one with an unknown name would do no harm. -/
  mem_entries : ∀ member ∈ members, ∃ entry ∈ entries, (entry.name, entry.value) = member
  mem_members : ∀ entry ∈ entries, (entry.name, entry.value) ∈ members ∨ entry.isDefault

variable {entries : List Entry} {members : List (String × Value)}

/-- All fields, in their order. -/
theorem holds_all (hnames : (entries.map Entry.name).Nodup) :
    Holds entries (entries.map fun entry => (entry.name, entry.value)) where
  nodup := by
    rw [List.map_map]
    exact hnames
  mem_entries _ hmem := List.mem_map.mp hmem
  mem_members entry hmem := .inl (List.mem_map.mpr ⟨entry, hmem, rfl⟩)

/-! ## Reading

A record is taken from an object in two steps: the object is checked for names that occur twice, and
then every field is looked up by its name. -/

/-- Where each item is read as it was written, so is a list of them. -/
theorem mapM_map_of_read_write {α β : Type} (write : α → β) (read : β → Option α)
    (h : ∀ item, read (write item) = some item) (items : List α) :
    (items.map write).mapM read = some items := by
  induction items with
  | nil => rfl
  | cons item items ih =>
    rw [List.map_cons, List.mapM_cons, h, ih]
    rfl

theorem members?_ofMembers (members : List (String × Value)) :
    (Value.ofMembers members).members? = some members :=
  mapM_map_of_read_write (fun member : String × Value => (some member.1, member.2))
    (fun member => member.1.map fun name => (name, member.2)) (fun _ => rfl) members

/-- The object is understood as a record, and nothing of it is passed over. -/
theorem Holds.record?_eq {names : List String} (h : Holds entries members)
    (hnames : entries.map Entry.name = names) :
    dataFormat.record? names (.ofMembers members) = some members := by
  have hknown : members.filter (fun member => names.contains member.1) = members := by
    refine List.filter_eq_self.mpr fun member hmem => ?_
    obtain ⟨entry, hentry, rfl⟩ := h.mem_entries member hmem
    rw [List.contains_iff_mem, ← hnames]
    exact List.mem_map_of_mem hentry
  change (Value.ofMembers members).members?.bind _ = _
  rw [members?_ofMembers, Option.bind_some, Record.ofMembers?]
  simp only [hknown]
  rw [if_pos h.nodup]

/-- **A field says what was written,** whether it is there or was left out. -/
theorem Holds.field?_eq {α : Type} {default x : α} {decode : Value → Option α} {entry : Entry}
    (h : Holds entries members) (hnames : (entries.map Entry.name).Nodup) (hentry : entry ∈ entries)
    (hread : decode entry.value = some x) (hdefault : entry.isDefault → default = x) :
    Record.field? members entry.name default decode = some x := by
  rw [Record.field?]
  cases hlookup : members.lookup entry.name with
  -- the field was left out, so its value is the default that is taken for it
  | none =>
    have hmissing : (entry.name, entry.value) ∉ members := by
      intro hmem
      have hne := List.lookup_eq_none_iff.mp hlookup _ hmem
      exact absurd hne (by simp)
    have hleft := (h.mem_members entry hentry).resolve_left hmissing
    exact congrArg some (hdefault hleft)
  | some value =>
    obtain ⟨before, after, hmembers, -⟩ := List.lookup_eq_some_iff.mp hlookup
    have hmem : (entry.name, value) ∈ members := by simp [hmembers]
    obtain ⟨other, hother, hsame⟩ := h.mem_entries _ hmem
    obtain ⟨hname, rfl⟩ := Prod.mk.inj hsame
    -- the entry of that name is the only one
    rwa [List.inj_on_of_nodup_map hnames hother hentry hname]

theorem texts?_ofStrings (texts : List String) :
    dataFormat.texts? (.ofStrings texts) = some texts :=
  mapM_map_of_read_write Value.ofString Value.text? (fun _ => rfl) texts

/-! ## Writing

The text of a value is read back if there are only numbers where numbers should be, and what is
written here has none. -/

/-- An array of strings holds no number. -/
theorem Value.spellable_ofStrings (texts : List String) : (Value.ofStrings texts).Spellable := by
  refine .array fun item hmem => ?_
  obtain ⟨text, -, rfl⟩ := List.mem_map.mp hmem
  exact .string (some text)

/-- An object can be written when its fields can. -/
theorem Holds.spellable (h : Holds entries members)
    (hvalues : ∀ entry ∈ entries, entry.value.Spellable) : (Value.ofMembers members).Spellable := by
  refine .object fun member hmem => ?_
  obtain ⟨member, hmember, rfl⟩ := List.mem_map.mp hmem
  obtain ⟨entry, hentry, rfl⟩ := h.mem_entries member hmember
  exact hvalues entry hentry

end EventCycle.Json
