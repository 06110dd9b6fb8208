/-
Reading a list item by item and stopping at the first item that cannot be read.

A reading yields a value or an error. Whoever asks something of the value alone, such as whether a
read belongs to a group, forgets the error; the answer then is about the value, or there is none
(`toOption_bind_eq_some_iff`, `toOption_any_eq_true_iff`).

The data fields of a pattern and the patterns of a declaration are lists that are read whole. The
two main statements say when the reading succeeds and what it reports otherwise: `readAll_eq_ok_iff`
pairs every item with what it reads as, `readAll_eq_error_iff` finds the leftmost item that is
refused. So the order of the items matters to the report only, and a success survives every
rearrangement (`readAll_perm`). Lists in a row are read one after the other
(`readAll_append_eq_ok_iff`, `readAll_append_eq_error_iff`).
-/

set_option autoImplicit false

namespace EventCycle

variable {α β ε : Type}

/-! ## Reading one item -/

section One

variable {result : Except ε α}

/-- What is left of a reading is the value, if there is one. -/
theorem toOption_eq_some_iff {value : α} : result.toOption = some value ↔ result = .ok value := by
  cases result <;> simp [Except.toOption]

/-- An answer is the answer for the value that was read. -/
theorem toOption_bind_eq_some_iff {ask : α → Option β} {answer : β} :
    result.toOption.bind ask = some answer ↔
      ∃ value, result = .ok value ∧ ask value = some answer := by
  simp only [Option.bind_eq_some_iff, toOption_eq_some_iff]

/-- A test that is passed is passed by a value that was read. -/
theorem toOption_any_eq_true_iff {test : α → Bool} :
    result.toOption.any test = true ↔ ∃ value, result = .ok value ∧ test value = true := by
  simp only [Option.any_eq_true, toOption_eq_some_iff]

end One

/-! ## Reading a list -/

/-- What every item reads as, in order, or the error of the leftmost item that cannot be read. -/
def readAll (read : α → Except ε β) : List α → Except ε (List β)
  | [] => .ok []
  | item :: items =>
    match read item with
    | .error e => .error e
    | .ok value =>
      match readAll read items with
      | .error e => .error e
      | .ok values => .ok (value :: values)

@[simp] theorem readAll_nil (read : α → Except ε β) : readAll read [] = .ok [] := rfl

/-- The first item is refused, and the others are not looked at. -/
theorem readAll_cons_of_error {read : α → Except ε β} {item : α} {e : ε} (items : List α)
    (h : read item = .error e) : readAll read (item :: items) = .error e := by
  rw [readAll, h]

/-- The first item is read, and what becomes of the list is up to the others. -/
theorem readAll_cons_of_ok {read : α → Except ε β} {item : α} {value : β} (items : List α)
    (h : read item = .ok value) :
    readAll read (item :: items) = (readAll read items).map (value :: ·) := by
  rw [readAll, h]
  cases readAll read items <;> rfl

/-- A list is read when its first item is and the rest is. The inductions below take a success apart
with it, and put one together again. -/
theorem readAll_cons_eq_ok_iff {read : α → Except ε β} {item : α} {items : List α}
    {values : List β} :
    readAll read (item :: items) = .ok values ↔
      ∃ value rest, read item = .ok value ∧ readAll read items = .ok rest ∧
        values = value :: rest := by
  cases hread : read item with
  | error e =>
    rw [readAll_cons_of_error items hread]
    simp
  | ok value =>
    rw [readAll_cons_of_ok items hread]
    cases readAll read items with
    | error e => simp [Except.map]
    | ok rest => simp [Except.map, eq_comm]

/-- Whether a list is read, whatever it is read as, is up to its first item and to the rest. -/
theorem exists_readAll_cons_iff {read : α → Except ε β} {item : α} {items : List α} :
    (∃ values, readAll read (item :: items) = .ok values) ↔
      (∃ value, read item = .ok value) ∧ ∃ values, readAll read items = .ok values := by
  simp only [readAll_cons_eq_ok_iff]
  constructor
  · rintro ⟨_, value, values, hitem, hitems, -⟩
    exact ⟨⟨value, hitem⟩, values, hitems⟩
  · rintro ⟨⟨value, hitem⟩, values, hitems⟩
    exact ⟨_, value, values, hitem, hitems, rfl⟩

/-- A list is refused on account of its first item, or that item is read and the rest is refused. -/
theorem readAll_cons_eq_error_iff {read : α → Except ε β} {item : α} {items : List α} {e : ε} :
    readAll read (item :: items) = .error e ↔
      read item = .error e ∨ (∃ value, read item = .ok value) ∧ readAll read items = .error e := by
  cases hread : read item with
  | error e' =>
    rw [readAll_cons_of_error items hread]
    simp
  | ok value =>
    rw [readAll_cons_of_ok items hread]
    cases readAll read items <;> simp [Except.map]

theorem readAll_singleton {read : α → Except ε β} {item : α} {value : β}
    (h : read item = .ok value) : readAll read [item] = .ok [value] :=
  readAll_cons_eq_ok_iff.mpr ⟨value, [], h, rfl, rfl⟩

/-- **Success:** each item reads as the value at its position. The two lists are compared after
reading and after wrapping, so that their lengths agree without saying so. -/
theorem readAll_eq_ok_iff {read : α → Except ε β} {items : List α} {values : List β} :
    readAll read items = .ok values ↔ items.map read = values.map .ok := by
  induction items generalizing values with
  | nil => cases values <;> simp
  | cons item items ih =>
    cases hread : read item with
    | error e =>
      rw [readAll_cons_of_error items hread, List.map_cons, hread]
      cases values <;> simp
    | ok v =>
      rw [readAll_cons_of_ok items hread, List.map_cons, hread]
      cases values with
      | nil => cases readAll read items <;> simp [Except.map]
      | cons w ws =>
        rw [List.map_cons, List.cons_eq_cons, ← ih]
        cases readAll read items <;> simp [Except.map]

theorem length_eq_of_readAll {read : α → Except ε β} {items : List α} {values : List β}
    (h : readAll read items = .ok values) : values.length = items.length := by
  simpa using (congrArg List.length (readAll_eq_ok_iff.mp h)).symm

/-- Every position has its own value, and the values are those of the positions in order. -/
theorem readAll_by_position {read : α → Except ε β} {items : List α} {values : List β}
    (h : readAll read items = .ok values) :
    ∃ valueAt : Fin items.length → β, (∀ i, read items[i] = .ok (valueAt i)) ∧
      values = (List.finRange items.length).map valueAt := by
  have hlength := length_eq_of_readAll h
  have hbound : ∀ i : Fin items.length, i.val < values.length := by
    intro i
    rw [hlength]
    exact i.isLt
  refine ⟨fun i => values.get ⟨i.val, hbound i⟩, ?_, ?_⟩
  · intro i
    have hmap := congrArg (·[i.val]?) (readAll_eq_ok_iff.mp h)
    simpa [hbound i] using hmap
  · refine List.ext_getElem (by simp [hlength]) ?_
    intro k hk hk'
    simp

/-- **Where writing undoes reading,** the values are written as the items, one for one. The
induction is on the items. -/
theorem map_write_of_readAll {read : α → Except ε β} {write : β → α} {items : List α}
    {values : List β} (hwrite : ∀ item value, read item = .ok value → write value = item)
    (h : readAll read items = .ok values) : values.map write = items := by
  induction items generalizing values with
  | nil =>
    obtain rfl := Except.ok.inj h
    rfl
  | cons item items ih =>
    obtain ⟨value, rest, hitem, hrest, rfl⟩ := readAll_cons_eq_ok_iff.mp h
    rw [List.map_cons, hwrite item value hitem, ih hrest]

/-- The values that are read are what the items read as. -/
theorem mem_iff_of_readAll {read : α → Except ε β} {items : List α} {values : List β}
    (h : readAll read items = .ok values) {value : β} :
    value ∈ values ↔ ∃ item ∈ items, read item = .ok value := by
  have hmap := readAll_eq_ok_iff.mp h
  rw [← List.mem_map, hmap, List.mem_map]
  constructor
  · intro hvalue
    exact ⟨value, hvalue, rfl⟩
  · rintro ⟨other, hother, heq⟩
    rwa [← Except.ok.inj heq]

/-- Where all items are read, none is refused. -/
theorem ne_error_of_readAll {read : α → Except ε β} {items : List α} {values : List β}
    (h : readAll read items = .ok values) {item : α} (hitem : item ∈ items) (e : ε) :
    read item ≠ .error e := by
  intro hrefused
  have hmem : read item ∈ values.map .ok := by
    rw [← readAll_eq_ok_iff.mp h]
    exact List.mem_map_of_mem hitem
  obtain ⟨value, -, hvalue⟩ := List.mem_map.mp hmem
  exact absurd (hvalue.trans hrefused) (by simp)

/-- Searching the items is searching the values that they read as. None of the items is refused, so
the search passes over nothing on account of an error. -/
theorem findSome?_readAll {read : α → Except ε β} {items : List α} {values : List β} {γ : Type}
    (h : readAll read items = .ok values) (search : β → Option γ) :
    (items.findSome? fun item => (read item).toOption.bind search) = values.findSome? search := by
  induction items generalizing values with
  | nil =>
    obtain rfl := Except.ok.inj h
    rfl
  | cons item items ih =>
    obtain ⟨value, rest, hitem, hrest, rfl⟩ := readAll_cons_eq_ok_iff.mp h
    rw [List.findSome?_cons, List.findSome?_cons, hitem, ih hrest]
    rfl

/-- **The order of the items** is that of the values, and does not decide whether they are read. The
induction is on the rearrangement: a swap of two neighbours reads the same two items, the other way
round. -/
theorem readAll_perm {read : α → Except ε β} {items items' : List α} {values : List β}
    (hperm : items.Perm items') (h : readAll read items = .ok values) :
    ∃ values', readAll read items' = .ok values' ∧ values.Perm values' := by
  induction hperm generalizing values with
  | nil => exact ⟨values, h, .refl values⟩
  | cons item _ ih =>
    obtain ⟨value, rest, hitem, hrest, rfl⟩ := readAll_cons_eq_ok_iff.mp h
    obtain ⟨rest', hrest', hvalues⟩ := ih hrest
    exact ⟨value :: rest', readAll_cons_eq_ok_iff.mpr ⟨value, rest', hitem, hrest', rfl⟩,
      hvalues.cons value⟩
  | swap a b items =>
    obtain ⟨vb, tail, hb, htail, rfl⟩ := readAll_cons_eq_ok_iff.mp h
    obtain ⟨va, rest, ha, hrest, rfl⟩ := readAll_cons_eq_ok_iff.mp htail
    have hswapped := readAll_cons_eq_ok_iff.mpr ⟨vb, rest, hb, hrest, rfl⟩
    exact ⟨va :: vb :: rest, readAll_cons_eq_ok_iff.mpr ⟨va, vb :: rest, ha, hswapped, rfl⟩,
      .swap va vb rest⟩
  | trans _ _ ih₁ ih₂ =>
    obtain ⟨middle, hmiddle, hvalues⟩ := ih₁ h
    obtain ⟨values', hvalues', hvalues''⟩ := ih₂ hmiddle
    exact ⟨values', hvalues', hvalues.trans hvalues''⟩

/-- Two lists in a row are read when both are. -/
theorem readAll_append_eq_ok_iff {read : α → Except ε β} {items items' : List α} {all : List β} :
    readAll read (items ++ items') = .ok all ↔
      ∃ values values', readAll read items = .ok values ∧ readAll read items' = .ok values' ∧
        all = values ++ values' := by
  simp only [readAll_eq_ok_iff, List.map_append]
  constructor
  · intro h
    obtain ⟨values, values', rfl, hvalues, hvalues'⟩ := List.append_eq_map_iff.mp h
    exact ⟨values, values', hvalues.symm, hvalues'.symm, rfl⟩
  · rintro ⟨values, values', hvalues, hvalues', rfl⟩
    rw [List.map_append, hvalues, hvalues']

/-- Two lists in a row are refused on account of the first, or the first is read and the second is
refused. An item that is refused in the first list keeps the second from being looked at. -/
theorem readAll_append_eq_error_iff {read : α → Except ε β} {items items' : List α} {e : ε} :
    readAll read (items ++ items') = .error e ↔
      readAll read items = .error e ∨
        (∃ values, readAll read items = .ok values) ∧ readAll read items' = .error e := by
  induction items with
  | nil => simp
  | cons item items ih =>
    rw [List.cons_append, readAll_cons_eq_error_iff, ih, readAll_cons_eq_error_iff,
      exists_readAll_cons_iff, and_or_left, or_assoc, and_assoc]

/-- What is done to the items before they are read belongs to the reading. -/
theorem readAll_map {γ : Type} (read : α → Except ε β) (f : γ → α) (items : List γ) :
    readAll read (items.map f) = readAll (fun item => read (f item)) items := by
  induction items with
  | nil => rfl
  | cons item items ih => rw [List.map_cons, readAll, readAll, ih]

/-- **Failure:** the error is that of the first item that is refused, all before it being read. -/
theorem readAll_eq_error_iff {read : α → Except ε β} {items : List α} {e : ε} :
    readAll read items = .error e ↔
      ∃ before item after, items = before ++ item :: after ∧
        (∀ x ∈ before, ∃ v, read x = .ok v) ∧ read item = .error e := by
  induction items with
  | nil => simp
  | cons head tail ih =>
    rw [readAll_cons_eq_error_iff, ih]
    -- a head that can be read moves between the items before the refused one and the list
    constructor
    · rintro (hhead | ⟨hhead, before, item, after, rfl, hbefore, hitem⟩)
      · exact ⟨[], head, tail, rfl, by simp, hhead⟩
      · exact ⟨head :: before, item, after, rfl, List.forall_mem_cons.mpr ⟨hhead, hbefore⟩, hitem⟩
    · rintro ⟨before, item, after, hsplit, hbefore, hitem⟩
      cases before with
      | nil =>
        obtain ⟨rfl, rfl⟩ := List.cons.inj hsplit
        exact .inl hitem
      | cons b bs =>
        obtain ⟨rfl, rfl⟩ := List.cons.inj hsplit
        obtain ⟨hhead, hrest⟩ := List.forall_mem_cons.mp hbefore
        exact .inr ⟨hhead, bs, item, after, rfl, hrest, hitem⟩

end EventCycle
