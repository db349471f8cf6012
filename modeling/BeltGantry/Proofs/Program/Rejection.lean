import BeltGantry.Proofs.Program.Containment
namespace BeltGantry.Program

/-!
# Rejected targets

A target that is rejected leaves no trace.  No check changes the gantry, and the next
target is tried from the position that the rejected one was tried from.  So targets
that a run rejects may be deleted from its list: the entries of all others stay what
they were, and so does the status.
-/

variable {α : Type}

/-- What remains of a list when its members at some places are deleted. -/
def remaining {β : Type} : (deleted : Nat → Bool) → List β → List β
  | _, [] => []
  | deleted, first :: rest =>
    let later := remaining (fun place => deleted (place + 1)) rest
    if deleted 0 then later else first :: later

/-- No entry at a deleted place is one of an accepted target. -/
def OnlyRejected (deleted : Nat → Bool) (entries : List (TargetReport α)) : Prop :=
  ∀ place entry, entries[place]? = some entry → deleted place = true → entry.accepted = false

theorem OnlyRejected.tail {deleted : Nat → Bool} {first : TargetReport α}
    {rest : List (TargetReport α)} (rejected : OnlyRejected deleted (first :: rest)) :
    OnlyRejected (fun place => deleted (place + 1)) rest :=
  fun place => rejected (place + 1)

variable [Scalar α] [SquareRoot α]

/-- A rejected target leaves the position where it was. -/
theorem stays_of_rejected (gantry : Gantry α) (printer : PrinterSection α)
    {current target : Point α}
    (rejected : (tryTarget gantry printer current target).value.1.accepted = false) :
    (tryTarget gantry printer current target).value.2 = current := by
  rcases tryTarget_cases gantry printer current target with ⟨-, accepted, -⟩ | ⟨-, -, stayed⟩
  · rw [rejected] at accepted
    cases accepted
  · exact stayed

/-- Deleting rejected targets deletes their entries and changes no other. -/
theorem tryTargets_remaining (gantry : Gantry α) (printer : PrinterSection α)
    {deleted : Nat → Bool} {targets : List (Point α)} {current : Point α}
    (rejected : OnlyRejected deleted (tryTargets gantry printer targets current).value) :
    (tryTargets gantry printer (remaining deleted targets) current).value =
      remaining deleted (tryTargets gantry printer targets current).value := by
  induction targets generalizing deleted current with
  | nil => rfl
  | cons target rest inductionHypothesis =>
    rw [value_tryTargets_cons] at rejected ⊢
    have later := inductionHypothesis rejected.tail
    unfold remaining
    cases gone : deleted 0 with
    | false =>
      simp only [Bool.false_eq_true, if_false]
      rw [value_tryTargets_cons, later]
    | true =>
      have stayed := stays_of_rejected gantry printer (rejected 0 _ rfl gone)
      rw [stayed] at later
      simp only [if_true, stayed, later]

/-- The outcome of a run without targets that it rejects is its outcome without their
entries, whether it homes or not. -/
theorem run_remaining (machine : Machine α) (configName : String) (home : Bool)
    (targets : List (Point α)) (deleted : Nat → Bool)
    (rejected : ∀ report, (run machine configName home targets).value = .ok report →
      OnlyRejected deleted report.moves) :
    (run machine configName home (remaining deleted targets)).value =
      (run machine configName home targets).value.map fun report =>
        { report with moves := remaining deleted report.moves } := by
  rw [value_run] at rejected ⊢
  rw [value_run]
  cases begun : prepared machine home with
  | error fault => rfl
  | ok outcome =>
    rcases outcome with ⟨ready, start⟩
    rw [begun] at rejected
    have moves := tryTargets_remaining ready machine.printer (rejected _ rfl)
    exact congrArg (fun moves => Except.ok (Report.mk (ready.status 0.0).value moves)) moves

/-- The middle target lies beyond the second rail, so the last one is tried from the
first whether the middle one is tried or not. -/
theorem run_remaining_benchtop :
    let targets : List (Point Float) := [⟨10.0, 20.0, 5.0⟩, ⟨10.0, 300.0, 5.0⟩, ⟨0.0, 0.0, 0.0⟩]
    let middle : Nat → Bool := fun place => place == 1
    ((run .benchtop "machine.toml" true targets).value.toOption.map fun report =>
        report.moves.map TargetReport.accepted) = some [true, false, true] ∧
      (run .benchtop "machine.toml" true [⟨10.0, 20.0, 5.0⟩, ⟨0.0, 0.0, 0.0⟩]).value =
        (run .benchtop "machine.toml" true targets).value.map fun report =>
          { report with moves := remaining middle report.moves } := by
  intro targets middle
  have verdicts : ((run .benchtop "machine.toml" true targets).value.toOption.map fun report =>
      report.moves.map TargetReport.accepted) = some [true, false, true] := by
    decide +kernel
  refine ⟨verdicts, run_remaining .benchtop "machine.toml" true targets middle ?_⟩
  intro report reported place entry listed gone
  have middlePlace : place = 1 := beq_iff_eq.mp gone
  subst middlePlace
  rw [reported] at verdicts
  have verdict := congrArg (·[1]?) (Option.some.inj verdicts)
  rw [List.getElem?_map, listed] at verdict
  exact Option.some.inj verdict

end BeltGantry.Program
