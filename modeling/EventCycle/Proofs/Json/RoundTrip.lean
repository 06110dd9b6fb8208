/-
Values are read as they were written.

The reader is bounded by a number of steps and hands back what it has not read, so the statement
that carries the induction is about both (`ReadBack`): a value is read from its characters within
twice as many steps as there are characters, and whatever end follows them is left. It is shown for
one constructor of values after the other, for arrays and objects by an induction on what they hold.

A number is kept as it is written, so a value could hold any text as a number. `Spellable` excludes
this and nothing else. The main statement is `read?_text`.

The bound is generous. A step is used up by a value, and another by the item or member that the
value stands in, while a value has a character at least and an item is followed by one. So the same
arithmetic carries the bound through both kinds of lists, and `read?` starts with more steps than it
asks for.
-/
import EventCycle.Proofs.Json.Numbers
import EventCycle.Proofs.Json.Strings

set_option autoImplicit false

namespace EventCycle.Json

variable {steps : Nat} {chars rest more : List Char}

/-- A value whose numbers, at any depth, are numbers. -/
inductive Value.Spellable : Value → Prop where
  | null : Spellable .null
  | bool (value : Bool) : Spellable (.bool value)
  | number {literal : String} (whole : number? literal.toList = some (literal.toList, [])) :
    Spellable (.number literal)
  | string (text : Option String) : Spellable (.string text)
  | array {items : List Value} (each : ∀ item ∈ items, Spellable item) : Spellable (.array items)
  | object {members : List (Option String × Value)}
    (each : ∀ member ∈ members, Spellable member.2) : Spellable (.object members)

/-- The value is read from its characters in front of any end, within two steps a character. -/
def ReadBack (value : Value) : Prop :=
  ∀ steps rest, 2 * (valueChars value).length ≤ steps → Ends rest →
    value? steps (valueChars value ++ rest) = some (value, rest)

/-! ## Steps of the reader

What the reader makes of the first character of a value, and of the character behind it. -/

theorem value?_quote (steps : Nat) (body : List Char) :
    value? (steps + 1) ('"' :: body) =
      (stringBody? body).map fun (text, rest) => (.string text, rest) := rfl

/-- A bracket starts an array, which is empty if the closing bracket comes next. -/
theorem value?_bracket (steps : Nat) (chars : List Char) :
    value? (steps + 1) ('[' :: chars) =
      match skipBlanks chars with
      | ']' :: rest => some (.array [], rest)
      | _ => (items? steps chars).map fun (items, rest) => (.array items, rest) := rfl

/-- A brace starts an object, which is empty if the closing brace comes next. -/
theorem value?_brace (steps : Nat) (chars : List Char) :
    value? (steps + 1) ('\x7b' :: chars) =
      match skipBlanks chars with
      | '\x7d' :: rest => some (.object [], rest)
      | _ => (members? steps chars).map fun (members, rest) => (.object members, rest) := rfl

/-- A quote starts the name of a member; a colon, its value, and a comma or the closing brace
follow. -/
theorem members?_quote (steps : Nat) (body : List Char) :
    members? (steps + 1) ('"' :: body) =
      (stringBody? body).bind fun (name, rest) =>
        match skipBlanks rest with
        | ':' :: rest =>
          (value? steps rest).bind fun (value, rest) =>
            match skipBlanks rest with
            | ',' :: rest =>
              (members? steps rest).map fun (members, rest) => ((name, value) :: members, rest)
            | '\x7d' :: rest => some ([(name, value)], rest)
            | _ => none
        | _ => none := rfl

/-- What starts like a number is read as one, since no other value does. -/
theorem value?_number {literal : List Char} (h : number? chars = some (literal, rest)) :
    value? (steps + 1) chars = some (.number (String.ofList literal), rest) := by
  obtain ⟨c, more, rfl, hhead⟩ := head_of_number? h
  -- neither a blank nor another value starts with a sign or a digit
  have hne (d : Char) (hd : d ≠ '-' ∧ d.isDigit = false) : c ≠ d := by
    rintro rfl
    rcases hhead with hminus | hdigit
    · exact hd.1 hminus
    · exact absurd hdigit (by simp [hd.2])
  have hblank : isBlank c = false := by
    simp [isBlank, hne ' ' (by decide), hne '\t' (by decide), hne '\n' (by decide),
      hne '\r' (by decide)]
  rw [value?, skipBlanks, List.dropWhile_cons_of_neg (by simp [hblank])]
  split
  iterate 6
    · next heq => exact absurd (List.cons.inj heq).1 (hne _ (by decide))
  · rw [h]
    rfl

/-! ### Items

Each lemma is one step: what stands behind the first item says whether it is the last. -/

theorem items?_last {item : Value} (h : value? steps chars = some (item, ']' :: rest)) :
    items? (steps + 1) chars = some ([item], rest) := by
  rw [items?, h]
  rfl

/-- An item in front of a comma is followed by the items behind the comma. -/
theorem items?_comma {item : Value} {items : List Value}
    (h : value? steps chars = some (item, ',' :: more))
    (hitems : items? steps more = some (items, rest)) :
    items? (steps + 1) chars = some (item :: items, rest) := by
  rw [items?, h, Option.bind_some]
  change (items? steps more).map _ = _
  rw [hitems]
  rfl

/-- No value starts with a closing bracket. So the two cases of `value?_bracket` exclude each other.
-/
theorem items?_of_closing (h : skipBlanks chars = ']' :: more) : items? steps chars = none := by
  match steps with
  | 0 => rw [items?]
  | 1 => rw [items?, value?, Option.bind_none]
  | steps + 2 =>
    rw [items?, value?, h]
    rfl

/-- Items in brackets are an array. -/
theorem value?_items {items : List Value} (h : items? steps chars = some (items, rest)) :
    value? (steps + 1) ('[' :: chars) = some (.array items, rest) := by
  rw [value?_bracket]
  split
  · next hclosing => exact absurd h (by rw [items?_of_closing hclosing]; simp)
  · rw [h]
    rfl

/-! ### Members

The same for members, with a name and a colon in front of each value. -/

/-- A member in front of the closing brace is the last. -/
theorem members?_last {body : List Char} {name : Option String} {value : Value}
    (hname : stringBody? body = some (name, ':' :: chars))
    (h : value? steps chars = some (value, '\x7d' :: rest)) :
    members? (steps + 1) ('"' :: body) = some ([(name, value)], rest) := by
  rw [members?_quote, hname, Option.bind_some]
  change (value? steps chars).bind _ = _
  rw [h]
  rfl

/-- A member in front of a comma is followed by the members behind the comma. -/
theorem members?_comma {body : List Char} {name : Option String} {value : Value}
    {members : List (Option String × Value)}
    (hname : stringBody? body = some (name, ':' :: chars))
    (h : value? steps chars = some (value, ',' :: more))
    (hmembers : members? steps more = some (members, rest)) :
    members? (steps + 1) ('"' :: body) = some ((name, value) :: members, rest) := by
  rw [members?_quote, hname, Option.bind_some]
  change (value? steps chars).bind _ = _
  rw [h, Option.bind_some]
  change (members? steps more).map _ = _
  rw [hmembers]
  rfl

/-- No member starts with a closing brace. -/
theorem members?_of_closing (h : skipBlanks chars = '\x7d' :: more) :
    members? steps chars = none := by
  cases steps with
  | zero => rw [members?]
  | succ steps =>
    rw [members?, h]
    rfl

/-- Members in braces are an object. -/
theorem value?_members {members : List (Option String × Value)}
    (h : members? steps chars = some (members, rest)) :
    value? (steps + 1) ('\x7b' :: chars) = some (.object members, rest) := by
  rw [value?_brace]
  split
  · next hclosing => exact absurd h (by rw [members?_of_closing hclosing]; simp)
  · rw [h]
    rfl

/-! ## Constructor by constructor

Arrays and objects take what is known of their items and values as a hypothesis. The induction on
values, which provides it, comes last. -/

/-- A value has a character, so there is a step to read it. -/
theorem readBack_of_succ {value : Value} (hne : valueChars value ≠ [])
    (h : ∀ steps rest, 2 * (valueChars value).length ≤ steps + 1 → Ends rest →
      value? (steps + 1) (valueChars value ++ rest) = some (value, rest)) :
    ReadBack value := by
  intro steps rest hsteps hends
  have hlength := List.length_pos_iff.mpr hne
  obtain ⟨steps, rfl⟩ : ∃ fewer, steps = fewer + 1 := ⟨steps - 1, by omega⟩
  exact h steps rest hsteps hends

/-- The reader knows null by its letters, whatever follows. -/
theorem readBack_null : ReadBack .null :=
  readBack_of_succ (by simp [valueChars]) fun _ _ _ _ => rfl

/-- The reader knows the truth values by their letters, whatever follows. -/
theorem readBack_bool (value : Bool) : ReadBack (.bool value) := by
  cases value with
  | true => exact readBack_of_succ (by simp [valueChars]) fun _ _ _ _ => rfl
  | false => exact readBack_of_succ (by simp [valueChars]) fun _ _ _ _ => rfl

/-- A number is the one value for which it matters what follows: an end does not belong to it. -/
theorem readBack_number {literal : String}
    (whole : number? literal.toList = some (literal.toList, [])) : ReadBack (.number literal) := by
  obtain ⟨c, more, hchars, -⟩ := head_of_number? whole
  refine readBack_of_succ (by simp [valueChars, hchars]) fun steps rest _ hends => ?_
  rw [valueChars, value?_number (number?_append hends whole), String.ofList_toList,
    List.nil_append]

/-- A string ends at its own quote. -/
theorem readBack_string (text : Option String) : ReadBack (.string text) := by
  obtain ⟨body, hchars, hread⟩ := exists_stringChars text
  refine readBack_of_succ (by simp [valueChars, hchars]) fun steps rest _ _ => ?_
  rw [valueChars, hchars, List.cons_append, value?_quote, hread]
  rfl

/-- **The items of an array are read back** if each of them is. The induction is on the items, and
goes along with the writer: the last item and one before others are written differently. In either
case the character behind the item is an end, which is what reading the item back asks for. -/
theorem items?_itemsChars {items : List Value} (hne : items ≠ [])
    (h : ∀ item ∈ items, ReadBack item) (hsteps : 2 * (itemsChars items).length ≤ steps) :
    items? steps (itemsChars items ++ rest) = some (items, rest) := by
  induction items generalizing steps with
  | nil => exact absurd rfl hne
  | cons item items ih =>
    have hitem := h item List.mem_cons_self
    cases items with
    | nil =>
      simp only [itemsChars, List.length_append, List.length_singleton] at hsteps
      -- one step goes to the item itself, and what is left is enough for its value
      obtain ⟨steps, rfl⟩ : ∃ fewer, steps = fewer + 1 := ⟨steps - 1, by omega⟩
      rw [itemsChars, List.append_assoc]
      exact items?_last (hitem steps _ (by omega) (ends_cons (by decide) _))
    | cons next items =>
      simp only [itemsChars, List.length_append, List.length_cons] at hsteps
      obtain ⟨steps, rfl⟩ : ∃ fewer, steps = fewer + 1 := ⟨steps - 1, by omega⟩
      have hitems := ih (by simp) (fun other hmem => h other (List.mem_cons_of_mem _ hmem))
        (show 2 * _ ≤ steps by omega)
      simp only [itemsChars, List.append_assoc, List.cons_append]
      exact items?_comma (hitem steps _ (by omega) (ends_cons (by decide) _)) hitems

/-- **The members of an object are read back** if their values are. This goes as for the items of an
array, with the name of each member in front of its value. -/
theorem members?_membersChars {members : List (Option String × Value)} (hne : members ≠ [])
    (h : ∀ member ∈ members, ReadBack member.2)
    (hsteps : 2 * (membersChars members).length ≤ steps) :
    members? steps (membersChars members ++ rest) = some (members, rest) := by
  induction members generalizing steps with
  | nil => exact absurd rfl hne
  | cons member members ih =>
    obtain ⟨name, value⟩ := member
    have hvalue : ReadBack value := h (name, value) List.mem_cons_self
    obtain ⟨body, hname, hread⟩ := exists_stringChars name
    cases members with
    | nil =>
      simp only [membersChars, List.length_append, List.length_cons] at hsteps
      obtain ⟨steps, rfl⟩ : ∃ fewer, steps = fewer + 1 := ⟨steps - 1, by omega⟩
      simp only [membersChars, hname, List.append_assoc, List.cons_append]
      exact members?_last (hread _) (hvalue steps _ (by omega) (ends_cons (by decide) _))
    | cons next members =>
      simp only [membersChars, List.length_append, List.length_cons] at hsteps
      obtain ⟨steps, rfl⟩ : ∃ fewer, steps = fewer + 1 := ⟨steps - 1, by omega⟩
      have hmembers := ih (by simp) (fun other hmem => h other (List.mem_cons_of_mem _ hmem))
        (show 2 * _ ≤ steps by omega)
      simp only [membersChars, hname, List.append_assoc, List.cons_append]
      exact members?_comma (hread _) (hvalue steps _ (by omega) (ends_cons (by decide) _)) hmembers

/-- An array is read back if its items are. Without items the closing bracket comes next. -/
theorem readBack_array {items : List Value} (h : ∀ item ∈ items, ReadBack item) :
    ReadBack (.array items) := by
  refine readBack_of_succ (by simp [valueChars]) fun steps rest hsteps _ => ?_
  rw [valueChars, List.cons_append]
  rw [valueChars, List.length_cons] at hsteps
  by_cases hne : items = []
  · rw [hne, itemsChars]
    rfl
  · exact value?_items (items?_itemsChars hne h (by omega))

/-- An object is read back if its values are. Without members the closing brace comes next. -/
theorem readBack_object {members : List (Option String × Value)}
    (h : ∀ member ∈ members, ReadBack member.2) : ReadBack (.object members) := by
  refine readBack_of_succ (by simp [valueChars]) fun steps rest hsteps _ => ?_
  rw [valueChars, List.cons_append]
  rw [valueChars, List.length_cons] at hsteps
  by_cases hne : members = []
  · rw [hne, membersChars]
    rfl
  · exact value?_members (members?_membersChars hne h (by omega))

/-! ## Values -/

/-- **A value is read back from its characters.** The induction is on what makes it spellable, which
follows the constructors of values. -/
theorem Value.Spellable.readBack {value : Value} (h : value.Spellable) : ReadBack value := by
  induction h with
  | null => exact readBack_null
  | bool value => exact readBack_bool value
  | number whole => exact readBack_number whole
  | string text => exact readBack_string text
  | array _ ih => exact readBack_array ih
  | object _ ih => exact readBack_object ih

/-- **A value is read as it was written.** Nothing follows the text of a value, and that is an end.
-/
theorem read?_text {value : Value} (h : value.Spellable) : read? value.text = some value := by
  have hread := h.readBack (2 * (valueChars value).length + 2) [] (by omega) ends_nil
  rw [List.append_nil] at hread
  rw [read?, Value.text, String.toList_ofList, hread]
  rfl

end EventCycle.Json
