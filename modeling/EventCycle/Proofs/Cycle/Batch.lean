/-
What the buckets of a batch hold.

The reads of a batch are put into buckets one after the other. Whatever the order in which the
names turn up, the bucket of a name holds the reads of that name as they stand in the batch
(`readsOf_ofList`), and the names stay in order, so that no name has two buckets
(`sorted_ofList`). Together these say what every single bucket is: `mem_groups_ofList`.

Nothing is lost on the way either. A read that is put away makes one bucket longer by one, or the
list of the default group, or the number of rejected reads (`accepted_add_rejected_ofList`). The
main statement, `Engine.groupBatch_holds_batch`, collects all this for a batch of reads and a cycle
that gives them their verdicts. It holds under all settings, and the buckets of two batches in a row
are those of the one followed by those of the other.

The inductions are on the batch, and the step is a lemma on `put`. A batch is put away from its end,
so that the first read comes last and goes to the front of its bucket; nothing has to be said of
buckets that are half full.
-/
import EventCycle.Engine

set_option autoImplicit false

namespace EventCycle

open EventCycle.Text

namespace Buckets

/-! ## Every bucket

The specification is a list for each verdict, `readsWith`, and what is proved is that the buckets
are these lists. -/

/-- The reads of a batch with a given verdict, in order. -/
def readsWith (verdict : Verdict) (batch : List ClassifiedRead) : List String :=
  (batch.filter fun classified => classified.verdict = verdict).map ClassifiedRead.read

/-- A read stands in the list of a verdict when it has the verdict. -/
theorem mem_readsWith {verdict : Verdict} {batch : List ClassifiedRead} {read : String} :
    read ∈ readsWith verdict batch ↔ ⟨read, verdict⟩ ∈ batch := by
  rw [readsWith, List.mem_map]
  constructor
  · rintro ⟨classified, hmem, rfl⟩
    obtain ⟨hbatch, hverdict⟩ := List.mem_filter.mp hmem
    rw [← of_decide_eq_true hverdict]
    exact hbatch
  · intro h
    exact ⟨⟨read, verdict⟩, List.mem_filter.mpr ⟨h, decide_eq_true rfl⟩, rfl⟩

/-- **The buckets are listed in the order of their names.** Only a read with a name changes the
list, and `putInto` keeps it in order. -/
theorem sorted_ofList (batch : List ClassifiedRead) :
    ((ofList batch).groups.map Prod.fst).Pairwise fun a b => precedes a b = true := by
  induction batch with
  | nil => exact List.Pairwise.nil
  | cons classified batch ih =>
    rw [ofList_cons, put]
    split
    · exact ih
    · exact ih
    · exact sorted_putInto ih

/-- **A bucket holds the reads of its name,** in the order of the batch. The induction is on the
batch. A read without that name leaves the bucket as it is and is not counted on the other side
either; for one with the name the buckets must be in order, or `putInto` might open a second bucket.
-/
theorem readsOf_ofList (name : String) (batch : List ClassifiedRead) :
    readsOf name (ofList batch).groups = readsWith (.accepted (some name)) batch := by
  induction batch with
  | nil => rfl
  | cons classified batch ih =>
    obtain ⟨read, verdict⟩ := classified
    rw [ofList_cons, readsWith, List.filter_cons]
    cases verdict with
    | rejected =>
      rw [if_neg (by simp)]
      exact ih
    | accepted group =>
      cases group with
      | none =>
        rw [if_neg (by simp)]
        exact ih
      | some other =>
        -- the one case in which a bucket changes, this one or another
        show readsOf name (putInto other read (ofList batch).groups) = _
        rw [readsOf_putInto other read name _ (sorted_ofList batch), ih]
        by_cases hname : name = other
        · rw [if_pos hname, if_pos (by simp [hname]), List.map_cons]
          rfl
        · have hother : ¬ other = name := fun h => hname h.symm
          rw [if_neg hname, if_neg (by simp [hother])]
          rfl

/-- In a list of buckets in order, each is the one found under its name. -/
theorem readsOf_of_mem {groups : List (String × List String)} {bucket : String × List String}
    (hsorted : (groups.map Prod.fst).Pairwise fun a b => precedes a b = true)
    (h : bucket ∈ groups) : readsOf bucket.1 groups = bucket.2 := by
  induction groups with
  | nil => exact absurd h (by simp)
  | cons head rest ih =>
    obtain ⟨key, reads⟩ := head
    obtain ⟨hkey, hrest⟩ := List.pairwise_cons.mp hsorted
    rw [readsOf_cons]
    rcases List.mem_cons.mp h with rfl | hmem
    · rw [if_pos rfl]
    -- the names are in order, so a later bucket has another name
    · have hne : key ≠ bucket.1 := ne_of_precedes (hkey bucket.1 (List.mem_map_of_mem hmem))
      rw [if_neg hne.symm, ih hrest hmem]

/-- **Every bucket of a batch** holds exactly the reads of its name. -/
theorem mem_groups_ofList {batch : List ClassifiedRead} {bucket : String × List String}
    (h : bucket ∈ (ofList batch).groups) :
    bucket.2 = readsWith (.accepted (some bucket.1)) batch := by
  rw [← readsOf_of_mem (sorted_ofList batch) h, readsOf_ofList]

/-! ## Nothing is lost

For each part of the buckets there is a lemma on what `put` does to it, and from that one on what a
whole batch leaves there. -/

/-- Only an accepted read with a name can open a bucket. -/
theorem mem_names_put {classified : ClassifiedRead} {buckets : Buckets} {name : String} :
    name ∈ (put classified buckets).groups.map Prod.fst ↔
      classified.verdict = .accepted (some name) ∨ name ∈ buckets.groups.map Prod.fst := by
  obtain ⟨read, verdict⟩ := classified
  cases verdict with
  | rejected => simp [put]
  | accepted group =>
    cases group with
    | none => simp [put]
    | some other =>
      rw [put, mem_names_putInto]
      simp [eq_comm]

/-- There is a bucket for every name that a read of the batch has, and for no other. -/
theorem mem_names_ofList {batch : List ClassifiedRead} {name : String} :
    name ∈ (ofList batch).groups.map Prod.fst ↔
      ∃ classified ∈ batch, classified.verdict = .accepted (some name) := by
  induction batch with
  | nil => simp
  | cons classified batch ih =>
    rw [ofList_cons, mem_names_put, ih]
    simp only [List.mem_cons, exists_eq_or_imp]

/-- The first read is in the list or not, by its verdict. -/
theorem readsWith_cons (verdict : Verdict) (classified : ClassifiedRead)
    (batch : List ClassifiedRead) :
    readsWith verdict (classified :: batch) =
      if classified.verdict = verdict then classified.read :: readsWith verdict batch
      else readsWith verdict batch := by
  rw [readsWith, List.filter_cons]
  by_cases h : classified.verdict = verdict
  · rw [if_pos h, if_pos (decide_eq_true h), List.map_cons]
    rfl
  · rw [if_neg h, if_neg (by simpa using h)]
    rfl

theorem defaultGroup_put (classified : ClassifiedRead) (buckets : Buckets) :
    (put classified buckets).defaultGroup =
      if classified.verdict = .accepted none then classified.read :: buckets.defaultGroup
      else buckets.defaultGroup := by
  unfold put
  split <;> simp [*]

theorem rejected_put (classified : ClassifiedRead) (buckets : Buckets) :
    (put classified buckets).rejected =
      if classified.verdict = .rejected then buckets.rejected + 1 else buckets.rejected := by
  unfold put
  split <;> simp [*]

/-- The default group holds the reads that are accepted without a name. -/
theorem defaultGroup_ofList (batch : List ClassifiedRead) :
    (ofList batch).defaultGroup = readsWith (.accepted none) batch := by
  induction batch with
  | nil => rfl
  | cons classified batch ih => rw [ofList_cons, defaultGroup_put, readsWith_cons, ih]

/-- As many reads are rejected as have that verdict. -/
theorem rejected_ofList (batch : List ClassifiedRead) :
    (ofList batch).rejected = (readsWith .rejected batch).length := by
  induction batch with
  | nil => rfl
  | cons classified batch ih =>
    rw [ofList_cons, rejected_put, readsWith_cons, ih]
    by_cases h : classified.verdict = .rejected
    · rw [if_pos h, if_pos h, List.length_cons]
    · rw [if_neg h, if_neg h]

/-- A read that is put into a bucket is one more read in all of them. -/
theorem length_flatMap_putInto (name read : String) (groups : List (String × List String)) :
    ((putInto name read groups).flatMap Prod.snd).length =
      (groups.flatMap Prod.snd).length + 1 := by
  induction groups with
  | nil => rfl
  | cons bucket rest ih =>
    obtain ⟨key, reads⟩ := bucket
    rw [putInto]
    by_cases hname : name = key
    · rw [if_pos hname]
      simp only [List.flatMap_cons, List.length_append, List.length_cons]
      omega
    · rw [if_neg hname]
      by_cases hbefore : precedes name key = true
      · rw [if_pos hbefore]
        simp only [List.flatMap_cons, List.length_append, List.length_cons, List.length_nil]
        omega
      · rw [if_neg hbefore]
        simp only [List.flatMap_cons, List.length_append, ih]
        omega

/-- A read that is put away is one more read, accepted or rejected. -/
theorem accepted_add_rejected_put (classified : ClassifiedRead) (buckets : Buckets) :
    (put classified buckets).accepted + (put classified buckets).rejected =
      buckets.accepted + buckets.rejected + 1 := by
  obtain ⟨read, verdict⟩ := classified
  cases verdict with
  | rejected =>
    simp only [put, accepted]
    omega
  | accepted group =>
    cases group with
    | none =>
      simp only [put, accepted, List.length_cons]
      omega
    | some name =>
      simp only [put, accepted, length_flatMap_putInto]
      omega

/-- **Every read of a batch is accepted or rejected,** and counted once. -/
theorem accepted_add_rejected_ofList (batch : List ClassifiedRead) :
    (ofList batch).accepted + (ofList batch).rejected = batch.length := by
  induction batch with
  | nil => rfl
  | cons classified batch ih =>
    rw [ofList_cons, accepted_add_rejected_put, ih, List.length_cons]

/-! ## One batch after another -/

/-- Buckets that hold what other buckets hold, and then what still others hold. -/
structure FollowedBy (first second whole : Buckets) : Prop where
  /-- There is a bucket for a name wherever there is one on either side. -/
  names : ∀ name, name ∈ whole.groups.map Prod.fst ↔
    name ∈ first.groups.map Prod.fst ∨ name ∈ second.groups.map Prod.fst
  /-- Each bucket is the one on the left and then the one on the right, as far as they are there. -/
  reads : ∀ name, readsOf name whole.groups =
    readsOf name first.groups ++ readsOf name second.groups
  /-- The default group is a bucket like any other. -/
  defaultGroup : whole.defaultGroup = first.defaultGroup ++ second.defaultGroup
  /-- Of the rejected reads there is only the number. -/
  rejected : whole.rejected = first.rejected + second.rejected

theorem readsWith_append (verdict : Verdict) (xs ys : List ClassifiedRead) :
    readsWith verdict (xs ++ ys) = readsWith verdict xs ++ readsWith verdict ys := by
  rw [readsWith, List.filter_append, List.map_append]
  rfl

/-- **Two batches in a row** fill the buckets one after the other. Nothing is proved by induction
here: what each part of the buckets holds has been said in terms of lists of reads, and those are
appended. -/
theorem followedBy_ofList (xs ys : List ClassifiedRead) :
    FollowedBy (ofList xs) (ofList ys) (ofList (xs ++ ys)) where
  names name := by
    rw [mem_names_ofList, mem_names_ofList, mem_names_ofList]
    simp only [List.mem_append, or_and_right, exists_or]
  reads name := by
    rw [readsOf_ofList, readsOf_ofList, readsOf_ofList, readsWith_append]
  defaultGroup := by
    rw [defaultGroup_ofList, defaultGroup_ofList, defaultGroup_ofList, readsWith_append]
  rejected := by
    rw [rejected_ofList, rejected_ofList, rejected_ofList, readsWith_append, List.length_append]

end Buckets

/-! ## Batches of reads

Up to here the verdicts were given. Now a cycle gives them, and the engine may give them in any
order of work: the values of a batch do not depend on the settings (`Engine.value_classifyBatch`).
-/

/-- The buckets of a batch of reads are those of the reads with their verdicts. -/
theorem Engine.value_groupBatch (engine : Engine) (cycle : Cycle) (reads : List String) :
    (engine.groupBatch cycle reads).value =
      Buckets.ofList (reads.map fun read => ⟨read, (cycle.classify read).value⟩) := by
  rw [groupBatch, Logged.value_bind, Logged.value_pure, value_classifyBatch]

/-- The reads of a batch that a cycle gives a verdict, in order and as often as they occur. -/
def Cycle.readsWith (cycle : Cycle) (verdict : Verdict) (reads : List String) : List String :=
  reads.filter fun read => (cycle.classify read).value = verdict

theorem Cycle.mem_readsWith {cycle : Cycle} {verdict : Verdict} {reads : List String}
    {read : String} :
    read ∈ cycle.readsWith verdict reads ↔
      read ∈ reads ∧ (cycle.classify read).value = verdict := by
  rw [readsWith, List.mem_filter, decide_eq_true_eq]

/-- Reads with their verdicts are told apart as the verdicts are. -/
theorem Buckets.readsWith_classified (cycle : Cycle) (verdict : Verdict) (reads : List String) :
    readsWith verdict (reads.map fun read => ⟨read, (cycle.classify read).value⟩) =
      cycle.readsWith verdict reads := by
  rw [readsWith, List.filter_map, List.map_map]
  exact List.map_id _

/-- Buckets that hold a batch of reads as a cycle judges them: every read once, where it belongs,
and in the order of the batch. -/
structure Buckets.Holds (buckets : Buckets) (cycle : Cycle) (reads : List String) : Prop where
  /-- A name has a bucket exactly when some read is accepted under that name. -/
  names : ∀ name, name ∈ buckets.groups.map Prod.fst ↔
    ∃ read ∈ reads, (cycle.classify read).value = .accepted (some name)
  /-- A bucket holds the reads of its name, in order and as often as they occur. -/
  bucket : ∀ bucket ∈ buckets.groups,
    bucket.2 = cycle.readsWith (.accepted (some bucket.1)) reads
  /-- So does the default group with the reads that have no name. -/
  defaultGroup : buckets.defaultGroup = cycle.readsWith (.accepted none) reads
  /-- The others are counted. -/
  rejected : buckets.rejected = (cycle.readsWith .rejected reads).length
  /-- No bucket is opened in vain. -/
  nonempty : ∀ bucket ∈ buckets.groups, bucket.2 ≠ []
  /-- The names are in order, so none has two buckets. -/
  sorted : (buckets.groups.map Prod.fst).Pairwise fun a b => precedes a b = true
  distinct : (buckets.groups.map Prod.fst).Nodup
  total : buckets.accepted + buckets.rejected = reads.length

/-- The buckets of reads with their verdicts hold these reads. -/
theorem Buckets.holds_ofList {cycle : Cycle} {reads : List String} {batch : List ClassifiedRead}
    (hbatch : batch = reads.map fun read => ⟨read, (cycle.classify read).value⟩) :
    (ofList batch).Holds cycle reads := by
  have hreads : ∀ verdict, readsWith verdict batch = cycle.readsWith verdict reads := by
    intro verdict
    rw [hbatch, readsWith_classified]
  have hnames : ∀ name, name ∈ (ofList batch).groups.map Prod.fst ↔
      ∃ read ∈ reads, (cycle.classify read).value = .accepted (some name) := by
    intro name
    rw [mem_names_ofList, hbatch]
    constructor
    · rintro ⟨classified, hmem, hverdict⟩
      obtain ⟨read, hread, rfl⟩ := List.mem_map.mp hmem
      exact ⟨read, hread, hverdict⟩
    · rintro ⟨read, hread, hverdict⟩
      exact ⟨_, List.mem_map_of_mem hread, hverdict⟩
  have hbucket : ∀ bucket ∈ (ofList batch).groups,
      bucket.2 = cycle.readsWith (.accepted (some bucket.1)) reads := by
    intro bucket hmem
    rw [mem_groups_ofList hmem, hreads]
  have hsorted := sorted_ofList batch
  refine ⟨hnames, hbucket, ?_, ?_, ?_, hsorted, hsorted.imp ne_of_precedes, ?_⟩
  · rw [defaultGroup_ofList, hreads]
  · rw [rejected_ofList, hreads]
  -- a bucket has a name, the name has a read, and the bucket holds it
  · intro bucket hmem
    obtain ⟨read, hread, hverdict⟩ := (hnames bucket.1).mp (List.mem_map_of_mem hmem)
    rw [hbucket bucket hmem]
    exact List.ne_nil_of_mem (Cycle.mem_readsWith.mpr ⟨hread, hverdict⟩)
  · rw [accepted_add_rejected_ofList, hbatch, List.length_map]

/-- **Sorting a batch into buckets loses, doubles and rearranges nothing,** whatever the settings.
The buckets hold the batch as the cycle judges it, those of two batches in a row are the buckets of
the first followed by those of the second, and a batch that is only judged keeps every read at its
place. -/
theorem Engine.groupBatch_holds_batch (engine : Engine) (cycle : Cycle) (reads : List String) :
    (engine.groupBatch cycle reads).value.Holds cycle reads ∧
      (∀ later, Buckets.FollowedBy (engine.groupBatch cycle reads).value
        (engine.groupBatch cycle later).value (engine.groupBatch cycle (reads ++ later)).value) ∧
      (engine.classifyBatch cycle reads).value =
        reads.map fun read => ⟨read, (cycle.classify read).value⟩ := by
  refine ⟨?_, ?_, value_classifyBatch engine cycle reads⟩
  · rw [value_groupBatch]
    exact Buckets.holds_ofList rfl
  · intro later
    rw [value_groupBatch, value_groupBatch, value_groupBatch, List.map_append]
    exact Buckets.followedBy_ofList _ _

end EventCycle
