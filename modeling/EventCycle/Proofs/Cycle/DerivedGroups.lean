/-
Under strict settings the derived groups do not overlap.

Strict settings look at the declared patterns only. The groups that reads fall into are named by
other patterns, those with the reads' fields filled in, and there may be any number of them. The
main statement is `Grouping.derived_groups_overlap_iff`. The patterns of two names overlap exactly
when one declared pattern claims both reads and they have the same values at its named wildcards,
however the values are spelled. Any two other names belong to groups without a common tag.

There are two cases. Two declared patterns are disjoint at some position. A named wildcard is
disjoint from nothing, so that position is not filled in on either side, and the names are disjoint
there (`fieldsDisjoint_fillFields`). Within one declared pattern every position that is not filled
in overlaps itself, and a position that is filled in holds a literal on both sides
(`fieldsDisjoint_fillFields_self_iff`).
-/
import EventCycle.Proofs.Cycle.GroupIdentity
import EventCycle.Proofs.Cycle.Reordering
import EventCycle.Proofs.Pattern.GroupPattern

set_option autoImplicit false

namespace EventCycle

namespace Pattern

/-! ## Filled fields

The two cases, two patterns and one pattern twice, as statements about lists of fields. What is said
there of a single field stands with the filling of single fields. -/

/-- The first of the filled fields is the first field, unless that is a named wildcard. The tag may
have no field there, or none at all. -/
theorem exists_fillFields_cons (field : Field) (fields tagFields : List Field) :
    ∃ first, fillFields (field :: fields) tagFields = first :: fillFields fields tagFields.tail ∧
      (field.isNamedWildcard = false → first = field) := by
  cases tagFields with
  | nil =>
    refine ⟨field, ?_, fun _ => rfl⟩
    cases fields <;> rfl
  | cons tagField tagFields =>
    refine ⟨filledField field tagField, rfl, fun hnamed => ?_⟩
    rw [filledField, hnamed]
    rfl

/-- **Disjoint fields stay disjoint when they are filled in.** The induction is on the fields of one
side. At a disjoint position neither field is a named wildcard, so both are still there. -/
theorem fieldsDisjoint_fillFields {ps qs : List Field} (h : fieldsDisjoint ps qs = true)
    (ss ts : List Field) : fieldsDisjoint (fillFields ps ss) (fillFields qs ts) = true := by
  induction ps generalizing qs ss ts with
  | nil => exact absurd h (by simp [fieldsDisjoint])
  | cons p ps ih =>
    cases qs with
    | nil => exact absurd h (by simp [fieldsDisjoint])
    | cons q qs =>
      obtain ⟨p', hp', hpkeep⟩ := exists_fillFields_cons p ps ss
      obtain ⟨q', hq', hqkeep⟩ := exists_fillFields_cons q qs ts
      rw [fieldsDisjoint, Bool.or_eq_true] at h
      rw [hp', hq', fieldsDisjoint, Bool.or_eq_true]
      rcases h with h | h
      · obtain ⟨hp, hq⟩ := Field.not_isNamedWildcard_of_disjoint h
        rw [hpkeep hp, hqkeep hq]
        exact .inl h
      · exact .inr (ih h ss.tail ts.tail)

/-- **Fields filled in from two matches overlap** exactly when the matches have the same values at
the named wildcards. The induction follows `fieldsMatch` on the first match, and the second has as
many fields; positions are shifted by one on the way. -/
theorem fieldsDisjoint_fillFields_self_iff {fields ss ts : List Field}
    (hs : fieldsMatch fields ss = true) (ht : fieldsMatch fields ts = true) :
    fieldsDisjoint (fillFields fields ss) (fillFields fields ts) = false ↔
      ∀ (position : Nat) (field : Field), fields[position]? = some field →
        field.isNamedWildcard = true →
          ss[position]?.bind Field.value? = ts[position]?.bind Field.value? := by
  induction fields, ss using fieldsMatch.induct generalizing ts with
  | case1 =>
    rw [fillFields_nil, fillFields_nil]
    simp [fieldsDisjoint]
  | case2 field fields s ss ih =>
    cases ts with
    | nil => exact absurd ht (by simp [fieldsMatch])
    | cons t ts =>
      rw [fieldsMatch, Bool.and_eq_true] at hs ht
      rw [fillFields_cons_cons, fillFields_cons_cons, fieldsDisjoint, Bool.or_eq_false_iff,
        disjoint_filledField_eq_false_iff hs.1 ht.1, ih hs.2 ht.2]
      -- position zero is the first field, and the positions behind it are those of the rest
      constructor
      · rintro ⟨hfirst, hrest⟩ position other hother hnamed
        cases position with
        | zero =>
          obtain rfl : field = other := by simpa using hother
          exact hfirst hnamed
        | succ position => exact hrest position other (by simpa using hother) hnamed
      · intro h
        refine ⟨fun hnamed => h 0 field rfl hnamed, ?_⟩
        intro position other hother hnamed
        exact h (position + 1) other hother hnamed
  | case3 => exact absurd hs (by simp [fieldsMatch])

/-! ## Filled patterns -/

/-- Two tags have the same values at the named wildcards of a pattern. -/
def AgreeAtValues (pattern s t : Pattern) : Prop :=
  ∀ (position : Nat) (field : Field), pattern.fields[position]? = some field →
    field.isNamedWildcard = true →
      s.fields[position]?.bind Field.value? = t.fields[position]?.bind Field.value?

/-- Two reads are tags with the same values at the named wildcards of a pattern. -/
def SameValues (pattern : Pattern) (a b : String) : Prop :=
  ∃ s t, parse .tag a = .ok s ∧ parse .tag b = .ok t ∧ pattern.AgreeAtValues s t

/-- Disjoint patterns stay disjoint when they are filled in, whatever they are filled in from. -/
theorem disjoint_filled {p q : Pattern} (h : p.disjoint q = true) (s t : Pattern) :
    (p.filled s).disjoint (q.filled t) = true := by
  rw [disjoint, Bool.or_eq_true] at h
  rw [disjoint, Bool.or_eq_true, format_filled, format_filled, fields_filled, fields_filled]
  rcases h with hformat | hfields
  · exact .inl hformat
  · exact .inr (fieldsDisjoint_fillFields hfields s.fields t.fields)

/-- A pattern filled in from two tags overlaps itself exactly when they have the same values. -/
theorem disjoint_filled_self_iff {p s t : Pattern} (hs : p.matchesTag s = true)
    (ht : p.matchesTag t = true) :
    (p.filled s).disjoint (p.filled t) = false ↔ p.AgreeAtValues s t := by
  rw [disjoint_eq_false_iff, format_filled, format_filled, fields_filled, fields_filled,
    fieldsDisjoint_fillFields_self_iff (matchesTag_iff.mp hs).2.2 (matchesTag_iff.mp ht).2.2]
  exact and_iff_right rfl

end Pattern

/-! ## Groups of a strict grouping

A name reads as its claiming pattern, filled in. From here on the texts of names are not needed any
more; what is left to do is to tell the positions of the two claiming patterns apart. -/

namespace Grouping

variable {grouping : Grouping} {a b read name : String} {p q : Pattern} {i j : Nat}

/-- One declared pattern claims both reads, and they have the same values at its named
wildcards. -/
def ClaimedAlike (grouping : Grouping) (a b : String) : Prop :=
  ∃ position pattern, grouping.ClaimedBy a position pattern ∧
    grouping.ClaimedBy b position pattern ∧ pattern.SameValues a b

/-- The patterns at two positions of a strict grouping are disjoint. -/
theorem Strict.disjoint_of_ne (h : grouping.Strict) (hp : grouping.patterns[i]? = some p)
    (hq : grouping.patterns[j]? = some q) (hij : i ≠ j) : p.disjoint q = true := by
  obtain ⟨hi, rfl⟩ := List.getElem?_eq_some_iff.mp hp
  obtain ⟨hj, rfl⟩ := List.getElem?_eq_some_iff.mp hq
  rcases Nat.lt_or_gt_of_ne hij with hlt | hgt
  · exact List.pairwise_iff_getElem.mp h i j hi hj hlt
  · rw [Pattern.disjoint_comm]
    exact List.pairwise_iff_getElem.mp h j i hj hi hgt

/-- A name reads as the pattern that claims the read, filled in from the read. -/
theorem exists_filled_of_groupName?
    (hpatterns : ∀ pattern ∈ grouping.patterns, pattern.Readable ∧ pattern.usage = .group)
    (h : (grouping.groupName? read).value = some name) :
    ∃ position pattern tag, grouping.ClaimedBy read position pattern ∧
      Pattern.parse .tag read = .ok tag ∧ pattern.matchesTag tag = true ∧
      Pattern.parse .group name = .ok (pattern.filled tag) := by
  obtain ⟨tag, htag, hname⟩ := value_groupName?_eq_some_iff.mp h
  obtain ⟨position, pattern, hclaimed, hpattern⟩ :=
    claimedBy_of_groupNameFor? (fun pattern hmem => (hpatterns pattern hmem).2) htag hname
  obtain ⟨hreadable, -⟩ := hpatterns pattern (List.mem_of_getElem? hclaimed.atPosition)
  obtain ⟨-, hmatches, -⟩ := Pattern.groupNameFor?_eq_some_iff.mp hpattern
  exact ⟨position, pattern, tag, hclaimed, htag, hmatches,
    Pattern.parse_group_of_groupNameFor? hreadable htag hpattern⟩

/-- The filled patterns of two claimed reads overlap exactly when the reads are claimed alike. -/
theorem Strict.disjoint_filled_iff (h : grouping.Strict) (hp : grouping.ClaimedBy a i p)
    (hq : grouping.ClaimedBy b j q) {s t : Pattern} (hs : Pattern.parse .tag a = .ok s)
    (ht : Pattern.parse .tag b = .ok t) (hps : p.matchesTag s = true)
    (hqt : q.matchesTag t = true) :
    (p.filled s).disjoint (q.filled t) = false ↔ grouping.ClaimedAlike a b := by
  constructor
  · intro hoverlap
    by_cases hij : i = j
    · obtain rfl := hp.eq_of_position_eq hq hij
      subst hij
      exact ⟨i, p, hp, hq, s, t, hs, ht, (Pattern.disjoint_filled_self_iff hps hqt).mp hoverlap⟩
    -- the patterns at two positions are disjoint, and so are their fillings
    · have hdisjoint := h.disjoint_of_ne hp.atPosition hq.atPosition hij
      rw [Pattern.disjoint_filled hdisjoint s t] at hoverlap
      exact absurd hoverlap (by decide)
  · rintro ⟨position, pattern, hpattern, hpattern', s', t', hs', ht', hagree⟩
    -- a read is claimed once and is one tag, so these are the patterns and tags at hand
    obtain rfl := hp.unique hpattern
    obtain rfl := hq.unique hpattern'
    obtain rfl := Except.ok.inj (hs.symm.trans hs')
    obtain rfl := Except.ok.inj (ht.symm.trans ht')
    exact (Pattern.disjoint_filled_self_iff hps hqt).mpr hagree

/-- **Under strict settings derived groups do not overlap.** The patterns of the grouping are what
the declared texts read as. The names of two reads read as patterns, and these overlap exactly when
one declared pattern claims both reads and they have the same values at its named wildcards.
Otherwise no tag belongs to both groups. -/
theorem derived_groups_overlap_iff {texts : List String} {grouping : Grouping}
    (h : (compile texts true).value = .ok grouping) {a b m n : String}
    (ha : (grouping.groupName? a).value = some m) (hb : (grouping.groupName? b).value = some n) :
    grouping.ReadFrom texts ∧
    ∃ p q, Pattern.parse .group m = .ok p ∧ Pattern.parse .group n = .ok q ∧
      (p.disjoint q = false ↔ grouping.ClaimedAlike a b) ∧
      (¬ grouping.ClaimedAlike a b → ∀ read,
        ¬ ((p.isMember read).value = true ∧ (q.isMember read).value = true)) := by
  have hpatterns := readable_of_compile h
  have hstrict : grouping.Strict := (value_compile_eq_ok_iff.mp h).2 rfl
  obtain ⟨i, p, s, hp, hs, hps, hm⟩ := exists_filled_of_groupName? hpatterns ha
  obtain ⟨j, q, t, hq, ht, hqt, hn⟩ := exists_filled_of_groupName? hpatterns hb
  have hoverlap := hstrict.disjoint_filled_iff hp hq hs ht hps hqt
  refine ⟨readFrom_of_compile h, p.filled s, q.filled t, hm, hn, hoverlap, fun hapart => ?_⟩
  rw [← hoverlap, Bool.not_eq_false] at hapart
  exact Pattern.no_common_member_of_disjoint hapart

/-- Two spellings of one value make two names, and the groups of these overlap. -/
theorem claimedAlike_of_two_spellings :
    ∃ grouping,
      (compile ["urn:epc:pat:gid-96:1.X.*", "urn:epc:pat:gid-96:[2-9].*.X"] true).value =
        .ok grouping ∧
      (grouping.groupName? "urn:epc:tag:gid-96:1.7.3").value = some "urn:epc:pat:gid-96:1.7.*" ∧
      (grouping.groupName? "urn:epc:tag:gid-96:01.007.4").value =
        some "urn:epc:pat:gid-96:1.007.*" ∧
      grouping.ClaimedAlike "urn:epc:tag:gid-96:1.7.3" "urn:epc:tag:gid-96:01.007.4" := by
  have hcompiled : ∃ grouping,
      (compile ["urn:epc:pat:gid-96:1.X.*", "urn:epc:pat:gid-96:[2-9].*.X"] true).value =
        .ok grouping ∧
      (grouping.groupName? "urn:epc:tag:gid-96:1.7.3").value = some "urn:epc:pat:gid-96:1.7.*" ∧
      (grouping.groupName? "urn:epc:tag:gid-96:01.007.4").value =
        some "urn:epc:pat:gid-96:1.007.*" := ⟨_, rfl, rfl, rfl⟩
  have hoverlap : ∃ p q, Pattern.parse .group "urn:epc:pat:gid-96:1.7.*" = .ok p ∧
      Pattern.parse .group "urn:epc:pat:gid-96:1.007.*" = .ok q ∧ p.disjoint q = false :=
    ⟨_, _, rfl, rfl, by decide⟩
  obtain ⟨grouping, hgrouping, ha, hb⟩ := hcompiled
  obtain ⟨p, q, hp, hq, hpq⟩ := hoverlap
  obtain ⟨-, p', q', hp', hq', hiff, -⟩ := derived_groups_overlap_iff hgrouping ha hb
  obtain rfl := Except.ok.inj (hp.symm.trans hp')
  obtain rfl := Except.ok.inj (hq.symm.trans hq')
  exact ⟨grouping, hgrouping, ha, hb, hiff.mp hpq⟩

end Grouping

end EventCycle
