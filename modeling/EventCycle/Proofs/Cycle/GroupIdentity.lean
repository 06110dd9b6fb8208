/-
Group names identify groups.

A grouping may hold patterns that overlap, and even the same pattern twice; the first pattern
that a read belongs to claims it and gives it its name. Two patterns can give the same name, so
a name does not say which pattern it comes from. It need not: of two patterns that could give
the name, the earlier one claims every read with that name. That is the main statement,
`groupName?_eq_groupName?_iff`. Reads get the same name exactly when one pattern claims both of
them and they carry the same tokens at its named wildcards.

The argument is symmetric. If a pattern gives a name to one read, then it matches every other
read with that name (`Pattern.matchesTag_of_groupNameFor?_eq`), so the other read is claimed
there or earlier. This holds both ways, and so the two reads are claimed at one position.
-/
import EventCycle.Proofs.Cycle.Batch
import EventCycle.Proofs.Cycle.Compilation
import EventCycle.Proofs.Pattern.GroupName

set_option autoImplicit false

namespace EventCycle

/-! ## The pattern that claims a read

`Grouping.groupNameFor?` is a search for the first pattern with a name. `ClaimedBy` says where it
stops, in terms of membership, so that two reads can be compared by positions. -/

/-- The pattern at a position claims a read: the read belongs to it, and to no pattern before it. -/
structure Grouping.ClaimedBy (grouping : Grouping) (read : String) (position : Nat)
    (pattern : Pattern) : Prop where
  atPosition : grouping.patterns[position]? = some pattern
  isMember : (pattern.isMember read).value = true
  /-- The position counts, and not the pattern, which may stand at an earlier one as well. -/
  first : ∀ earlier < position, ∀ other, grouping.patterns[earlier]? = some other →
    (other.isMember read).value = false

/-- Two reads are tags with the same tokens at the named wildcards of a pattern. -/
def Pattern.SameNames (pattern : Pattern) (a b : String) : Prop :=
  ∃ s t, parse .tag a = .ok s ∧ parse .tag b = .ok t ∧ pattern.AgreeAtNames s t

namespace Grouping

variable {grouping : Grouping} {a b read name : String} {p q s t : Pattern} {i j : Nat}

/-- A read is claimed at the first position of a pattern that it belongs to. -/
theorem ClaimedBy.le_of_isMember (h : grouping.ClaimedBy read i p)
    (hq : grouping.patterns[j]? = some q) (hmember : (q.isMember read).value = true) : i ≤ j := by
  rcases Nat.lt_or_ge j i with hlt | hge
  · have hfalse := h.first j hlt q hq
    rw [hmember] at hfalse
    exact absurd hfalse (by decide)
  · exact hge

/-- At one position there is one pattern. -/
theorem ClaimedBy.eq_of_position_eq (hp : grouping.ClaimedBy a i p)
    (hq : grouping.ClaimedBy b j q) (hij : i = j) : p = q := by
  have hpattern := hq.atPosition
  rw [← hij, hp.atPosition] at hpattern
  exact Option.some.inj hpattern

theorem ClaimedBy.unique (hp : grouping.ClaimedBy read i p) (hq : grouping.ClaimedBy read j q) :
    p = q := by
  have hij : i ≤ j := hp.le_of_isMember hq.atPosition hq.isMember
  have hji : j ≤ i := hq.le_of_isMember hp.atPosition hp.isMember
  exact hp.eq_of_position_eq hq (Nat.le_antisymm hij hji)

theorem ClaimedBy.matchesTag (h : grouping.ClaimedBy read i p)
    (ht : Pattern.parse .tag read = .ok t) : p.matchesTag t = true := by
  rw [← Pattern.value_isMember_of_parse ht]
  exact h.isMember

/-- Where the search for a name stops, the read is claimed. -/
theorem claimedBy_of_groupNameFor? (hgroup : ∀ pattern ∈ grouping.patterns, pattern.usage = .group)
    (ht : Pattern.parse .tag read = .ok t) (h : grouping.groupNameFor? t = some name) :
    ∃ position pattern, grouping.ClaimedBy read position pattern ∧
      pattern.groupNameFor? t = some name := by
  obtain ⟨before, pattern, after, hpatterns, hname, hbefore⟩ := List.findSome?_eq_some_iff.mp h
  obtain ⟨-, hmatches, -⟩ := Pattern.groupNameFor?_eq_some_iff.mp hname
  refine ⟨before.length, pattern, ⟨?_, ?_, ?_⟩, hname⟩
  · rw [hpatterns, List.getElem?_append_right (Nat.le_refl _), Nat.sub_self,
      List.getElem?_cons_zero]
  · rw [Pattern.value_isMember_of_parse ht, hmatches]
  -- the patterns before gave no name, and a group pattern that gives none does not match
  · intro earlier hearlier other hother
    have husage : other.usage = .group := hgroup other (List.mem_of_getElem? hother)
    rw [hpatterns, List.getElem?_append_left hearlier] at hother
    have hnone := hbefore other (List.mem_of_getElem? hother)
    rw [Pattern.value_isMember_of_parse ht]
    exact (Pattern.groupNameFor?_eq_none_iff husage).mp hnone

/-- **The name of a read comes from the pattern that claims it.** A grouping asks its patterns for a
name, and `ClaimedBy` asks them for membership; for patterns of usage group these are the same
question. -/
theorem groupNameFor?_eq_some_iff (hgroup : ∀ pattern ∈ grouping.patterns, pattern.usage = .group)
    (ht : Pattern.parse .tag read = .ok t) :
    grouping.groupNameFor? t = some name ↔
      ∃ position pattern, grouping.ClaimedBy read position pattern ∧
        pattern.groupNameFor? t = some name := by
  constructor
  · exact claimedBy_of_groupNameFor? hgroup ht
  · rintro ⟨position, pattern, hclaim, hname⟩
    have hmem : pattern ∈ grouping.patterns := List.mem_of_getElem? hclaim.atPosition
    have hsome : (grouping.groupNameFor? t).isSome = true := by
      rw [groupNameFor?, List.findSome?_isSome_iff]
      exact ⟨pattern, hmem, by rw [hname]; rfl⟩
    obtain ⟨found, hfound⟩ := Option.isSome_iff_exists.mp hsome
    obtain ⟨position', pattern', hclaim', hname'⟩ := claimedBy_of_groupNameFor? hgroup ht hfound
    -- the search stopped at some claiming pattern, and there is only one
    obtain rfl := hclaim.unique hclaim'
    rw [hfound, ← hname', hname]

/-- The name of a claimed read is the pattern that claims it, filled in from the read. -/
theorem ClaimedBy.value_groupName? (hgroup : ∀ pattern ∈ grouping.patterns, pattern.usage = .group)
    (h : grouping.ClaimedBy read i p) (ht : Pattern.parse .tag read = .ok t) :
    (grouping.groupName? read).value = some (p.filled t).text := by
  have husage := hgroup p (List.mem_of_getElem? h.atPosition)
  refine value_groupName?_eq_some_iff.mpr ⟨t, ht, ?_⟩
  refine (groupNameFor?_eq_some_iff hgroup ht).mpr ⟨i, p, h, ?_⟩
  exact Pattern.groupNameFor?_eq_some_iff.mpr ⟨husage, h.matchesTag ht, rfl⟩

/-- A read that no pattern claims is in the default group. -/
theorem value_groupName?_of_unclaimed
    (hgroup : ∀ pattern ∈ grouping.patterns, pattern.usage = .group)
    (h : ∀ position pattern, ¬ grouping.ClaimedBy read position pattern) :
    (grouping.groupName? read).value = none := by
  refine Option.eq_none_iff_forall_ne_some.mpr ?_
  intro name hname
  obtain ⟨tag, htag, hnameFor⟩ := value_groupName?_eq_some_iff.mp hname
  obtain ⟨position, pattern, hclaimed, -⟩ := claimedBy_of_groupNameFor? hgroup htag hnameFor
  exact h position pattern hclaimed

/-! ## Reads with one name

The patterns of a compiled grouping have been read, and therefore their names say something about
them. This is the only section that needs it. -/

/-- A read is claimed no later than any pattern that gave its name to another read. -/
theorem ClaimedBy.le_of_groupNameFor?_eq
    (hreadable : ∀ pattern ∈ grouping.patterns, pattern.Readable)
    (hs : Pattern.parse .tag a = .ok s) (ht : Pattern.parse .tag b = .ok t)
    (hp : grouping.ClaimedBy a i p) (hq : grouping.ClaimedBy b j q)
    (hps : p.groupNameFor? s = some name) (hqt : q.groupNameFor? t = some name) : j ≤ i := by
  have hpreadable := hreadable p (List.mem_of_getElem? hp.atPosition)
  have hqreadable := hreadable q (List.mem_of_getElem? hq.atPosition)
  have hmatches : p.matchesTag t = true :=
    Pattern.matchesTag_of_groupNameFor?_eq hpreadable hqreadable hs ht hps hqt
  refine hq.le_of_isMember hp.atPosition ?_
  rw [Pattern.value_isMember_of_parse ht, hmatches]

/-- **Reads with one name are claimed at one position.** Each of them is claimed no later than the
other, by the same lemma with the reads exchanged. -/
theorem ClaimedBy.eq_of_groupNameFor?_eq
    (hreadable : ∀ pattern ∈ grouping.patterns, pattern.Readable)
    (hs : Pattern.parse .tag a = .ok s) (ht : Pattern.parse .tag b = .ok t)
    (hp : grouping.ClaimedBy a i p) (hq : grouping.ClaimedBy b j q)
    (hps : p.groupNameFor? s = some name) (hqt : q.groupNameFor? t = some name) :
    i = j ∧ p = q := by
  have hji : j ≤ i := hp.le_of_groupNameFor?_eq hreadable hs ht hq hps hqt
  have hij : i ≤ j := hq.le_of_groupNameFor?_eq hreadable ht hs hp hqt hps
  have heq : i = j := Nat.le_antisymm hij hji
  exact ⟨heq, hp.eq_of_position_eq hq heq⟩

/-- A readable pattern of usage group names two tags alike exactly when they agree at its named
wildcards. -/
theorem groupNameFor?_eq_iff_agreeAtNames (hp : p.Readable) (hs : Pattern.parse .tag a = .ok s)
    (ht : Pattern.parse .tag b = .ok t) (hps : p.matchesTag s = true)
    (hpt : p.matchesTag t = true) :
    (p.filled s).text = (p.filled t).text ↔ p.AgreeAtNames s t := by
  rw [← Pattern.filled_eq_filled_iff hs ht hps hpt]
  constructor
  · intro h
    refine (Pattern.readable_filled hp hs).eq_of_text_eq (Pattern.readable_filled hp ht) ?_ h
    rw [Pattern.usage_filled, Pattern.usage_filled]
  · intro h
    rw [h]

/-- Reads have a common name exactly when one pattern claims both and they agree at its names. -/
theorem exists_groupName?_iff
    (hpatterns : ∀ pattern ∈ grouping.patterns, pattern.Readable ∧ pattern.usage = .group)
    (a b : String) :
    (∃ name, (grouping.groupName? a).value = some name ∧
        (grouping.groupName? b).value = some name) ↔
      ∃ position pattern, grouping.ClaimedBy a position pattern ∧
        grouping.ClaimedBy b position pattern ∧ pattern.SameNames a b := by
  have hreadable := fun pattern hmem => (hpatterns pattern hmem).1
  have hgroup := fun pattern hmem => (hpatterns pattern hmem).2
  constructor
  · rintro ⟨name, ha, hb⟩
    obtain ⟨s, hs, has⟩ := value_groupName?_eq_some_iff.mp ha
    obtain ⟨t, ht, hbt⟩ := value_groupName?_eq_some_iff.mp hb
    -- each read has a claiming pattern, and the common name makes them one
    obtain ⟨i, p, hp, hps⟩ := claimedBy_of_groupNameFor? hgroup hs has
    obtain ⟨j, q, hq, hqt⟩ := claimedBy_of_groupNameFor? hgroup ht hbt
    obtain ⟨rfl, rfl⟩ := hp.eq_of_groupNameFor?_eq hreadable hs ht hq hps hqt
    obtain ⟨-, hsmatches, hstext⟩ := Pattern.groupNameFor?_eq_some_iff.mp hps
    obtain ⟨-, htmatches, httext⟩ := Pattern.groupNameFor?_eq_some_iff.mp hqt
    have hpreadable := hreadable p (List.mem_of_getElem? hp.atPosition)
    refine ⟨i, p, hp, hq, s, t, hs, ht, ?_⟩
    rw [← groupNameFor?_eq_iff_agreeAtNames hpreadable hs ht hsmatches htmatches, hstext, httext]
  · rintro ⟨position, p, hp, hq, s, t, hs, ht, hagree⟩
    have hpreadable := hreadable p (List.mem_of_getElem? hp.atPosition)
    have htext := (groupNameFor?_eq_iff_agreeAtNames hpreadable hs ht (hp.matchesTag hs)
      (hq.matchesTag ht)).mpr hagree
    refine ⟨(p.filled s).text, hp.value_groupName? hgroup hs, ?_⟩
    rw [hq.value_groupName? hgroup ht, htext]

end Grouping

/-! ## Reads in one bucket

A bucket is opened for a name, so reads in one bucket are a case of reads with one name. -/

/-- The reads of a bucket have the name of the bucket. A bucket is filled by verdicts, and a verdict
with a name is what the grouping says of the read. -/
theorem Engine.groupName?_of_mem_bucket {engine : Engine} {cycle : Cycle} {reads : List String}
    {bucket : String × List String} {read : String}
    (hbucket : bucket ∈ (engine.groupBatch cycle reads).value.groups) (hread : read ∈ bucket.2) :
    (cycle.grouping.groupName? read).value = some bucket.1 := by
  rw [value_groupBatch] at hbucket
  rw [Buckets.mem_groups_ofList hbucket, Buckets.mem_readsWith, List.mem_map] at hread
  obtain ⟨read', -, hclassified⟩ := hread
  obtain ⟨rfl, hverdict⟩ := ClassifiedRead.mk.inj hclassified
  rw [Cycle.value_classify, Cycle.verdict] at hverdict
  split at hverdict
  · rw [Grouping.value_groupName?]
    exact Verdict.accepted.inj hverdict
  · exact absurd hverdict (by simp)

/-- **Group names identify groups,** whatever the patterns of a compiled grouping. The patterns are
what the declared texts read as, so a position in the one list is a position in the other. Two reads
have the same name exactly when the same pattern claims both and they carry the same tokens at
its named wildcards; and the reads that a batch puts into one bucket are always claimed by one
pattern. -/
theorem Grouping.groupName?_eq_groupName?_iff {texts : List String} {requireDisjoint : Bool}
    {grouping : Grouping} (h : (compile texts requireDisjoint).value = .ok grouping) :
    grouping.ReadFrom texts ∧
    (∀ a b, (∃ name, (grouping.groupName? a).value = some name ∧
        (grouping.groupName? b).value = some name) ↔
      ∃ position pattern, grouping.ClaimedBy a position pattern ∧
        grouping.ClaimedBy b position pattern ∧ pattern.SameNames a b) ∧
    ∀ (engine : Engine) (name : String) (filter : Filter) (reads : List String),
      ∀ bucket ∈ (engine.groupBatch { name, filter, grouping } reads).value.groups,
        ∀ a ∈ bucket.2, ∀ b ∈ bucket.2,
          ∃ position pattern, grouping.ClaimedBy a position pattern ∧
            grouping.ClaimedBy b position pattern ∧ pattern.SameNames a b := by
  have hpatterns := readable_of_compile h
  refine ⟨readFrom_of_compile h, exists_groupName?_iff hpatterns, ?_⟩
  intro engine name filter reads bucket hbucket a ha b hb
  have haname := Engine.groupName?_of_mem_bucket hbucket ha
  have hbname := Engine.groupName?_of_mem_bucket hbucket hb
  exact (exists_groupName?_iff hpatterns a b).mp ⟨bucket.1, haname, hbname⟩

/-- Both patterns can give the name of the two reads, and the first one claims them. -/
theorem Grouping.claimed_together_of_overlapping_patterns :
    ∃ grouping, (compile ["urn:epc:pat:gid-96:X.5.*", "urn:epc:pat:gid-96:5.X.*"] false).value =
        .ok grouping ∧
      ∃ position pattern, grouping.ClaimedBy "urn:epc:tag:gid-96:5.5.1" position pattern ∧
        grouping.ClaimedBy "urn:epc:id:gid-96:5.05.2" position pattern ∧
        pattern.SameNames "urn:epc:tag:gid-96:5.5.1" "urn:epc:id:gid-96:5.05.2" := by
  have h : (compile ["urn:epc:pat:gid-96:X.5.*", "urn:epc:pat:gid-96:5.X.*"] false).value =
    .ok _ := rfl
  refine ⟨_, h, ?_⟩
  exact ((groupName?_eq_groupName?_iff h).2.1 "urn:epc:tag:gid-96:5.5.1"
    "urn:epc:id:gid-96:5.05.2").mp ⟨"urn:epc:pat:gid-96:5.5.*", rfl, rfl⟩

end EventCycle
