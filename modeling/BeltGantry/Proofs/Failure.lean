import Mathlib.Data.List.Forall2
import BeltGantry.Slot
namespace BeltGantry

/-!
# Computations that fail

A computation in steps ends with the first step that fails.  A rule that is carried out for
the members of a list therefore yields a value for each member, in their order, or else the
fault of the first member for which it fails; the members behind that one do not matter.

Axes that are turned into slots, axes that are turned into rails, the pieces of a target and
the slots of an assembly are all worked through in this way, and are told apart by their rule
alone.
-/

variable {ε β γ : Type}

theorem exists_of_bind_eq_ok {first : Except ε β} {next : β → Except ε γ} {result : γ}
    (succeeded : (first >>= next) = .ok result) :
    ∃ middle, first = .ok middle ∧ next middle = .ok result := by
  cases first with
  | error fault => cases succeeded
  | ok middle => exact ⟨middle, rfl, succeeded⟩

theorem eq_error_of_bind {first : Except ε β} {next : β → Except ε γ} {fault : ε}
    (refused : (first >>= next) = .error fault) :
    first = .error fault ∨ ∃ middle, first = .ok middle ∧ next middle = .error fault := by
  cases first with
  | error other => exact .inl (congrArg Except.error (Except.error.inj refused))
  | ok middle => exact .inr ⟨middle, rfl, refused⟩

theorem eq_ok_of_toOption {result : Except ε β} {value : β}
    (present : result.toOption = some value) : result = .ok value := by
  cases result with
  | error fault => cases present
  | ok other => exact congrArg Except.ok (Option.some.inj present)

/-! ## Member after member -/

section

variable {rule : γ → Except ε β} {members : List γ} {fault : ε}

theorem mapM_cons_of_error {member : γ} (failed : rule member = .error fault)
    (rest : List γ) : (member :: rest).mapM rule = .error fault := by
  rw [List.mapM_cons, failed]
  rfl

theorem mapM_cons_of_ok {member : γ} {value : β} (passed : rule member = .ok value)
    (rest : List γ) : (member :: rest).mapM rule = (rest.mapM rule).map (value :: ·) := by
  rw [List.mapM_cons, passed]
  cases rest.mapM rule <;> rfl

theorem mapM_eq_ok_iff {values : List β} : members.mapM rule = .ok values ↔
    List.Forall₂ (fun member value => rule member = .ok value) members values := by
  induction members generalizing values with
  | nil => cases values <;> simp [pure, Except.pure]
  | cons member rest inductionHypothesis =>
    cases outcome : rule member with
    | error other =>
      rw [mapM_cons_of_error outcome]
      cases values <;> simp [outcome]
    | ok value =>
      rw [mapM_cons_of_ok outcome]
      cases values with
      | nil => cases rest.mapM rule <;> simp [Except.map]
      | cons first later =>
        rw [List.forall₂_cons, outcome, ← inductionHypothesis]
        cases rest.mapM rule <;> simp [Except.map]

/-- The rule is carried out for the whole list if it can be for each member. -/
theorem exists_mapM_iff : (∃ values, members.mapM rule = .ok values) ↔
    ∀ member ∈ members, ∃ value, rule member = .ok value := by
  induction members with
  | nil => exact iff_of_true ⟨[], rfl⟩ nofun
  | cons member rest inductionHypothesis =>
    rw [List.forall_mem_cons, ← inductionHypothesis]
    cases outcome : rule member with
    | error other =>
      rw [mapM_cons_of_error outcome]
      exact iff_of_false nofun nofun
    | ok value =>
      rw [mapM_cons_of_ok outcome]
      cases rest.mapM rule <;> simp [Except.map]

theorem not_isOk_iff {result : Except ε β} :
    (!result.isOk) = true ↔ ∃ fault, result = .error fault := by
  cases result <;> simp [Except.isOk, Except.toBool]

/-- The first member for which the rule fails. -/
def firstFailing? (rule : γ → Except ε β) (members : List γ) : Option γ :=
  members.find? fun member => !(rule member).isOk

theorem firstFailing?_cons_of_error {member : γ} (failed : rule member = .error fault)
    (rest : List γ) : firstFailing? rule (member :: rest) = some member := by
  simp [firstFailing?, failed, Except.isOk, Except.toBool]

theorem firstFailing?_cons_of_ok {member : γ} {value : β} (passed : rule member = .ok value)
    (rest : List γ) : firstFailing? rule (member :: rest) = firstFailing? rule rest := by
  simp [firstFailing?, passed, Except.isOk, Except.toBool]

/-- Otherwise the first member for which it cannot be carried out decides the fault. -/
theorem mapM_eq_error_iff : members.mapM rule = .error fault ↔
    ∃ member, firstFailing? rule members = some member ∧ rule member = .error fault := by
  induction members with
  | nil => exact iff_of_false nofun nofun
  | cons member rest inductionHypothesis =>
    cases outcome : rule member with
    | error other =>
      rw [mapM_cons_of_error outcome, firstFailing?_cons_of_error outcome]
      simp [outcome]
    | ok value =>
      rw [mapM_cons_of_ok outcome, firstFailing?_cons_of_ok outcome, ← inductionHypothesis]
      cases rest.mapM rule <;> simp [Except.map]

theorem exists_of_mapM_eq_error (refused : members.mapM rule = .error fault) :
    ∃ member ∈ members, rule member = .error fault := by
  rcases mapM_eq_error_iff.mp refused with ⟨member, first, failed⟩
  exact ⟨member, List.mem_of_find?_eq_some first, failed⟩

/-- The first member that fails is found by any test that tells for which members the rule
fails. -/
theorem firstFailing?_eq_find? {test : γ → Bool}
    (fails : ∀ member, (∃ fault, rule member = .error fault) ↔ test member = true)
    (members : List γ) : firstFailing? rule members = members.find? test := by
  have same : (fun member => !(rule member).isOk) = test :=
    funext fun member => Bool.eq_iff_iff.mpr (not_isOk_iff.trans (fails member))
  rw [firstFailing?, same]

/-- A rule that fails where a test succeeds, and with a fault that tells where. -/
theorem mapM_eq_report_iff {test : γ → Bool} {report : γ → ε}
    (refuses : ∀ member fault, rule member = .error fault ↔
      test member = true ∧ fault = report member) :
    members.mapM rule = .error fault ↔
      ∃ member, members.find? test = some member ∧ fault = report member := by
  have fails : ∀ member, (∃ fault, rule member = .error fault) ↔ test member = true := by
    simp [refuses]
  rw [mapM_eq_error_iff, firstFailing?_eq_find? fails]
  refine exists_congr fun member => and_congr_right fun first => ?_
  rw [refuses]
  exact and_iff_right (List.find?_some first)

theorem firstFailing?_eq_some_iff {member : γ} : firstFailing? rule members = some member ↔
    (∃ fault, rule member = .error fault) ∧ ∃ earlier later,
      members = earlier ++ member :: later ∧
        ∀ other ∈ earlier, ∃ value, rule other = .ok value := by
  have passes : ∀ other, (!!(rule other).isOk) = true ↔ ∃ value, rule other = .ok value := by
    intro other
    cases rule other <;> simp [Except.isOk, Except.toBool]
  simp only [firstFailing?, List.find?_eq_some_iff_append, not_isOk_iff, passes]

end

end BeltGantry
