/-
The reads of a batch, sorted into buckets by what became of them.

Every group has a bucket with its reads in the order of the batch; the buckets are listed by the
bytes of the groups' names, and none is empty. Reads of the default group have a list of their
own, and of the rejected reads only the number is kept.

The order of names is that of their UTF-8 bytes. It is a strict total order: of two different texts
exactly one comes first (`precedes_trichotomy`), because texts with the same bytes are the same.
So the place of a bucket is found by comparing its name with the names that are there, one after
another, and wherever that stops the buckets before it and after it need not be looked at.

The buckets of a batch are made from its end: each read is put in front of those that came after it
(`put`), so that no list is ever extended at its end. What one `put` keeps (`sorted_putInto`) and
what it changes (`readsOf_putInto`) is said here, and what a batch comes to follows by induction on
the batch.
-/
import EventCycle.Cycle.Basic

set_option autoImplicit false

/-! ## The order of texts

The names of groups are compared by their bytes. What the buckets need of this order is that it is
transitive and that two different names are always in order, one way or the other. -/

namespace EventCycle.Text

/-- The UTF-8 bytes of a text, which is what texts are compared by. -/
def utf8 (text : String) : List UInt8 := text.toByteArray.data.toList

/-- Whether a text comes before another: its bytes come first in lexicographic order. -/
def precedes (a b : String) : Bool := utf8 a < utf8 b

theorem utf8_injective {a b : String} (h : utf8 a = utf8 b) : a = b := by
  rw [← String.toByteArray_inj]
  exact ByteArray.ext (Array.ext' h)

theorem precedes_irrefl (a : String) : precedes a a = false := by
  simp [precedes, List.lt_irrefl]

theorem ne_of_precedes {a b : String} (h : precedes a b = true) : a ≠ b := by
  rintro rfl
  rw [precedes_irrefl] at h
  exact absurd h (by decide)

/-- The order of texts is transitive, as the lexicographic order of their bytes is. -/
theorem precedes_trans {a b c : String} (hab : precedes a b = true) (hbc : precedes b c = true) :
    precedes a c = true := by
  simp only [precedes, decide_eq_true_eq] at *
  exact List.lt_trans hab hbc

/-- **Of two different texts one comes first.** If neither text has the smaller bytes, the bytes are
equal, and then so are the texts. -/
theorem precedes_trichotomy (a b : String) :
    precedes a b = true ∨ a = b ∨ precedes b a = true := by
  simp only [precedes, decide_eq_true_eq]
  rcases Decidable.em (utf8 a < utf8 b) with h | h
  · exact .inl h
  · rcases Decidable.em (utf8 b < utf8 a) with h' | h'
    · exact .inr (.inr h')
    · exact .inr (.inl (utf8_injective (List.le_antisymm h' h)))

end EventCycle.Text

/-! ## Buckets

The buckets of the groups are a map from names to reads, written as a list of pairs. Nothing about
the type keeps the list in order; whatever changes it does. -/

namespace EventCycle

open EventCycle.Text

/-- A read and what became of it. In the engine's interface this is a `ClassifiedTag`. -/
structure ClassifiedRead where
  read : String
  verdict : Verdict
deriving DecidableEq, Repr

/-- The reads of a batch in buckets. In the engine's interface these are `GroupedTags`. -/
structure Buckets where
  /-- The buckets of the groups, each with the name of its group, in the order of the names. -/
  groups : List (String × List String) := []
  /-- The reads of the default group. -/
  defaultGroup : List String := []
  /-- The number of rejected reads. -/
  rejected : Nat := 0
deriving DecidableEq, Repr

namespace Buckets

/-- Puts a read in front of the bucket of that name, opening the bucket in its place if need be. The
three cases are those of the order: the name is that of the next bucket, comes before it, or comes
after it. -/
def putInto (name read : String) : List (String × List String) → List (String × List String)
  | [] => [(name, [read])]
  | (other, reads) :: rest =>
    if name = other then (other, read :: reads) :: rest
    else if precedes name other then (name, [read]) :: (other, reads) :: rest
    else (other, reads) :: putInto name read rest

/-- Puts a classified read in front of the reads that shared its fate. -/
def put (classified : ClassifiedRead) (buckets : Buckets) : Buckets :=
  match classified.verdict with
  | .rejected => { buckets with rejected := buckets.rejected + 1 }
  | .accepted none => { buckets with defaultGroup := classified.read :: buckets.defaultGroup }
  | .accepted (some name) =>
    { buckets with groups := putInto name classified.read buckets.groups }

/-- **The buckets of a classified batch,** which is what `group_batch` returns. -/
def ofList (batch : List ClassifiedRead) : Buckets := batch.foldr put {}

/-- The number of accepted reads: the operation `accepted`. -/
def accepted (buckets : Buckets) : Nat :=
  buckets.defaultGroup.length + (buckets.groups.flatMap Prod.snd).length

/-- The reads in the bucket of a name; none if there is no such bucket. -/
def readsOf (name : String) (groups : List (String × List String)) : List String :=
  (groups.lookup name).getD []

/-! ## First facts

What putting one read into its bucket does to the names, to their order, and to the reads that are
found under each name. -/

@[simp] theorem ofList_nil : ofList [] = {} := rfl

@[simp] theorem ofList_cons (classified : ClassifiedRead) (batch : List ClassifiedRead) :
    ofList (classified :: batch) = put classified (ofList batch) := rfl

/-- The names after putting a read into a bucket: that of the bucket, and those before. -/
theorem mem_names_putInto {name read other : String} {groups : List (String × List String)} :
    other ∈ (putInto name read groups).map Prod.fst ↔
      other = name ∨ other ∈ groups.map Prod.fst := by
  induction groups with
  | nil => simp [putInto]
  | cons bucket rest ih =>
    obtain ⟨key, reads⟩ := bucket
    unfold putInto
    split
    · next h =>
      subst h
      simp
    · split
      · simp
      · rw [List.map_cons, List.mem_cons, ih, List.map_cons, List.mem_cons]
        exact or_left_comm

/-- Putting a read into a bucket keeps the buckets in order. A bucket that is opened comes before
the one where the search stopped, and after every one that the search went past; the latter is where
it matters that the order is total. -/
theorem sorted_putInto {name read : String} {groups : List (String × List String)}
    (h : (groups.map Prod.fst).Pairwise fun a b => precedes a b = true) :
    ((putInto name read groups).map Prod.fst).Pairwise fun a b => precedes a b = true := by
  induction groups with
  | nil => simp [putInto]
  | cons bucket rest ih =>
    obtain ⟨key, reads⟩ := bucket
    obtain ⟨hkey, hrest⟩ := List.pairwise_cons.mp h
    unfold putInto
    split
    · exact h
    · next hne =>
      split
      · next hbefore =>
        refine List.pairwise_cons.mpr ⟨fun other hother => ?_, h⟩
        rcases List.mem_cons.mp hother with rfl | hother
        · exact hbefore
        · exact precedes_trans hbefore (hkey other hother)
      · next hbefore =>
        refine List.pairwise_cons.mpr ⟨fun other hother => ?_, ih hrest⟩
        -- the name is neither that of this bucket nor before it, so it comes after
        rcases mem_names_putInto.mp hother with rfl | hother
        · rcases precedes_trichotomy key other with h' | h' | h'
          · exact h'
          · exact absurd h'.symm hne
          · exact absurd h' hbefore
        · exact hkey other hother

/-- The reads under a name are found bucket by bucket. -/
theorem readsOf_cons (name key : String) (reads : List String)
    (rest : List (String × List String)) :
    readsOf name ((key, reads) :: rest) = if name = key then reads else readsOf name rest := by
  rw [readsOf, List.lookup_cons]
  by_cases hname : name = key
  · rw [if_pos hname, beq_iff_eq.mpr hname]
    rfl
  · rw [if_neg hname, beq_eq_false_iff_ne.mpr hname]
    rfl

/-- There are no reads under a name that comes before all the names. -/
theorem readsOf_of_precedes {name : String} {groups : List (String × List String)}
    (h : ∀ key ∈ groups.map Prod.fst, precedes name key = true) : readsOf name groups = [] := by
  induction groups with
  | nil => rfl
  | cons bucket rest ih =>
    obtain ⟨key, reads⟩ := bucket
    obtain ⟨hkey, hrest⟩ := List.forall_mem_cons.mp h
    rw [readsOf_cons, if_neg (ne_of_precedes hkey), ih hrest]

/-- **Putting a read into a bucket adds it to that bucket, in front, and to no other.** The buckets
have to be in order: where the search stops at a later name, a bucket of the sought name further
back would be overlooked, and its reads with it. -/
theorem readsOf_putInto (name read other : String) (groups : List (String × List String))
    (h : (groups.map Prod.fst).Pairwise fun a b => precedes a b = true) :
    readsOf other (putInto name read groups) =
      if other = name then read :: readsOf other groups else readsOf other groups := by
  induction groups with
  | nil =>
    rw [putInto, readsOf_cons]
    rfl
  | cons bucket rest ih =>
    obtain ⟨key, reads⟩ := bucket
    obtain ⟨hkey, hrest⟩ := List.pairwise_cons.mp h
    rw [putInto]
    by_cases hname : name = key
    -- the next bucket is the one that is sought
    · rw [if_pos hname, readsOf_cons, readsOf_cons, hname]
      by_cases hother : other = key
      · rw [if_pos hother, if_pos hother, if_pos hother]
      · rw [if_neg hother, if_neg hother, if_neg hother]
    · rw [if_neg hname]
      by_cases hbefore : precedes name key = true
      -- the name comes before all the buckets, so none of them is its own
      · rw [if_pos hbefore, readsOf_cons]
        by_cases hother : other = name
        · have hnone : readsOf other ((key, reads) :: rest) = [] := by
            refine readsOf_of_precedes (List.forall_mem_cons.mpr ⟨?_, fun later hlater => ?_⟩)
            · rw [hother]
              exact hbefore
            · rw [hother]
              exact precedes_trans hbefore (hkey later hlater)
          rw [if_pos hother, if_pos hother, hnone]
        · rw [if_neg hother, if_neg hother]
      -- the next bucket is gone past, and stays what it was
      · rw [if_neg hbefore, readsOf_cons, readsOf_cons, ih hrest]
        by_cases hother : other = key
        · have hne : other ≠ name := fun heq => hname (heq.symm.trans hother)
          rw [if_pos hother, if_pos hother, if_neg hne]
        · rw [if_neg hother, if_neg hother]

end Buckets

end EventCycle
