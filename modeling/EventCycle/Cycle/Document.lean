/-
What becomes of reads, as JSON.

A verdict is an object with its status, and with its group where there is one to tell; the members
of a verdict stand next to the read in the object of a classified read, not in an object of their
own.

What is written tells everything. `Verdict.toJson_inj`, `ClassifiedRead.toJson_inj` and
`Buckets.toJson_inj` say of each of the three that different results are written differently, so
that whoever reads the JSON can make the same distinctions. In particular the default group is not
taken for a group without a name, because its group is null and that of the others a string.
-/
import EventCycle.Cycle.Buckets
import EventCycle.Json.Value

set_option autoImplicit false

namespace EventCycle

open EventCycle.Json

/-! ## Verdicts

The members are a definition of their own, because they are also part of a larger object. -/

/-- The members that tell what became of a read. -/
def Verdict.members : Verdict → List (String × Json.Value)
  | .rejected => [("status", .ofString "rejected")]
  | .accepted group => [("status", .ofString "accepted"), ("group", .ofString? group)]

/-- A verdict as an object. -/
def Verdict.toJson (verdict : Verdict) : Json.Value := .ofMembers verdict.members

/-- The members of a verdict tell the verdict. The number of members tells a rejection from the
rest, and the group is the value of the second member. -/
theorem Verdict.members_inj {a b : Verdict} : a.members = b.members ↔ a = b := by
  refine ⟨fun h => ?_, fun h => h ▸ rfl⟩
  cases a with
  | rejected =>
    cases b with
    | rejected => rfl
    | accepted group => exact absurd h (by simp [members])
  | accepted group =>
    cases b with
    | rejected => exact absurd h (by simp [members])
    | accepted group' =>
      simp only [members, List.cons.injEq, Prod.mk.injEq, Value.ofString?_inj, true_and,
        and_true] at h
      rw [h]

/-- **Different verdicts are written differently.** -/
theorem Verdict.toJson_inj {a b : Verdict} : a.toJson = b.toJson ↔ a = b :=
  Value.ofMembers_inj.trans members_inj

/-! ## Classified reads -/

/-- A classified read as one object: the read, and then the members of its verdict. -/
def ClassifiedRead.toJson (classified : ClassifiedRead) : Json.Value :=
  .ofMembers (("tag", .ofString classified.read) :: classified.verdict.members)

/-- **Different classified reads are written differently.** -/
theorem ClassifiedRead.toJson_inj {a b : ClassifiedRead} : a.toJson = b.toJson ↔ a = b := by
  refine ⟨fun h => ?_, fun h => h ▸ rfl⟩
  obtain ⟨hread, hmembers⟩ := List.cons.inj (Value.ofMembers_inj.mp h)
  have hreads : a.read = b.read := Value.ofString_inj.mp (Prod.mk.inj hread).2
  have hverdicts : a.verdict = b.verdict := Verdict.members_inj.mp hmembers
  obtain ⟨read, verdict⟩ := a
  obtain rfl := hreads
  obtain rfl := hverdicts
  rfl

/-! ## Buckets

The groups become an object with their names as the names of its members, in the order of the
names. -/

/-- Buckets as an object: an object of the groups, a list, and a number. -/
def Buckets.toJson (buckets : Buckets) : Json.Value :=
  .ofMembers
    [("groups", .ofMembers (buckets.groups.map fun bucket => (bucket.1, .ofStrings bucket.2))),
      ("default_group", .ofStrings buckets.defaultGroup),
      ("rejected", .ofNat buckets.rejected)]

/-- **Different buckets are written differently.** -/
theorem Buckets.toJson_inj {a b : Buckets} : a.toJson = b.toJson ↔ a = b := by
  refine ⟨fun h => ?_, fun h => h ▸ rfl⟩
  have hmembers := Value.ofMembers_inj.mp h
  simp only [List.cons.injEq, Prod.mk.injEq, true_and, and_true] at hmembers
  obtain ⟨hgroups, hdefault, hrejected⟩ := hmembers
  have hwritten : ∀ p q : String × List String,
      (p.1, Value.ofStrings p.2) = (q.1, Value.ofStrings q.2) → p = q := by
    intro p q hpq
    exact Prod.ext (Prod.mk.inj hpq).1 (Value.ofStrings_inj.mp (Prod.mk.inj hpq).2)
  have h₁ : a.groups = b.groups :=
    List.map_inj_right hwritten |>.mp (Value.ofMembers_inj.mp hgroups)
  have h₂ : a.defaultGroup = b.defaultGroup := Value.ofStrings_inj.mp hdefault
  have h₃ : a.rejected = b.rejected := Value.ofNat_inj.mp hrejected
  obtain ⟨groups, defaultGroup, rejected⟩ := a
  obtain rfl := h₁
  obtain rfl := h₂
  obtain rfl := h₃
  rfl

end EventCycle
