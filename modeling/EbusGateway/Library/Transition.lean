import Mathlib.Data.List.Basic

/-! Transition systems given by a partial step function over labels, and the rules that carry a
property along their runs, which a condition on state and label may restrict.
-/
namespace EbusGateway.Library

theorem clash {b : Bool} {conclusion : Prop} (yes : b = true) (no : b = false) : conclusion := by cases yes.symm.trans no

section
variable {State Label : Type}

inductive Run (step : State → Label → Option State) (allowed : State → Label → Prop) (start : State) :
    List Label → State → Prop
  | refl : Run step allowed start [] start
  | snoc {labels : List Label} {middle final : State} (before : Run step allowed start labels middle)
      (label : Label) (permitted : allowed middle label) (stepped : step middle label = some final) :
      Run step allowed start (labels ++ [label]) final

def anyStep (_ : State) (_ : Label) : Prop := True

def execute (step : State → Label → Option State) : State → List Label → Option State
  | state, [] => some state
  | state, label :: rest => (step state label).bind (execute step · rest)

def executeWhere (step : State → Label → Option State) (allowed : State → Label → Prop)
    [∀ state label, Decidable (allowed state label)] : State → List Label → Option State
  | state, [] => some state
  | state, label :: rest =>
    if allowed state label then (step state label).bind (executeWhere step allowed · rest) else none

variable {step : State → Label → Option State} {allowed : State → Label → Prop}

namespace Run

variable {start final : State} {labels : List Label}

theorem trans {middle : State} {first second : List Label}
    (before : Run step allowed start first middle) (after : Run step allowed middle second final) :
    Run step allowed start (first ++ second) final := by
  induction after with
  | refl => simpa using before
  | snoc _ label legal ran ih =>
    rw [← List.append_assoc]
    exact ih.snoc label legal ran

theorem single (label : Label) (legal : allowed start label) (ran : step start label = some final) :
    Run step allowed start [label] final :=
  (Run.refl : Run step allowed start [] start).snoc label legal ran

/-- The invariant rule: what holds at the start and is kept by every permitted step holds at the end. -/
theorem invariant (property : State → Prop) (preserved : ∀ state label next, property state → allowed state label →
      step state label = some next → property next) (run :
    Run step allowed start labels final) (initially : property start) : property final := by
  induction run with
  | refl => exact initially
  | snoc _ label legal ran ih => exact preserved _ label _ ih legal ran

theorem weaken {weaker : State → Label → Prop} (implied : ∀ state label, allowed state label → weaker state label)
    (run : Run step allowed start labels final) : Run step weaker start labels final := by
  induction run with
  | refl => exact .refl
  | snoc _ label legal ran ih => exact ih.snoc label (implied _ _ legal) ran

theorem of_executeWhere [∀ state label, Decidable (allowed state label)]
    (executed : executeWhere step allowed start labels = some final) : Run step allowed start labels final := by
  induction labels generalizing start with
  | nil =>
    cases executed
    exact .refl
  | cons label rest ih =>
    simp only [executeWhere] at executed
    split at executed
    next legal =>
      obtain ⟨middle,ran,onward⟩ := Option.bind_eq_some_iff.mp executed
      exact (single label legal ran).trans (ih onward)
    next => cases executed

theorem of_execute (executed : execute step start labels = some final) : Run step anyStep start labels final := by
  induction labels generalizing start with
  | nil =>
    cases executed
    exact .refl
  | cons label rest ih =>
    obtain ⟨middle,ran,onward⟩ := Option.bind_eq_some_iff.mp executed
    exact (single label trivial ran).trans (ih onward)

/-- A run with a given outcome, found by execution. -/
theorem exists_of_execute (outcome : State → Prop) [DecidablePred outcome]
    (reached : (execute step start labels).any (outcome ·) = true) :
    ∃ final, Run step anyStep start labels final ∧ outcome final := by
  cases executed : execute step start labels with
  | none =>
    rw [executed] at reached
    cases reached
  | some final =>
    rw [executed] at reached
    exact ⟨final,of_execute executed,of_decide_eq_true reached⟩

theorem exists_of_executeWhere [∀ state label, Decidable (allowed state label)] (outcome : State → Prop) [DecidablePred outcome]
    (reached : (executeWhere step allowed start labels).any (outcome ·) = true) :
    ∃ final, Run step allowed start labels final ∧ outcome final := by
  cases executed : executeWhere step allowed start labels with
  | none =>
    rw [executed] at reached
    cases reached
  | some final =>
    rw [executed] at reached
    exact ⟨final,of_executeWhere executed,of_decide_eq_true reached⟩

end Run
end
end EbusGateway.Library
