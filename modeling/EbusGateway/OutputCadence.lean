import Mathlib.Data.List.Chain

/-! The output cadence of the pacer: a slot follows the emit before it by the cadence in force, or comes at once. -/

namespace EbusGateway.OutputCadence
open List

structure Output where
  tau : Int := 4167000
  positive : 0 < tau := by decide
  lastScheduledEmit : Option Int := none

inductive Call
  | setTau (tau : Int)
  | schedule (now : Int)
  | resumeOutput (now : Int)

/-- A resumption, or a slot with the clock reading and the cadence it was scheduled with. -/
structure Emit where
  emitAt : Int
  slot : Option (Int × Int)

def Emit.Precedes (before emit : Emit) : Prop :=
  ∀ now tau, emit.slot = some (now,tau) → 0 < tau ∧ emit.emitAt = max now (before.emitAt + tau)

namespace Output
variable (o : Output) (now : Int)

def setTau (tau : Int) : Output := if positive : 0 < tau then {o with tau := tau, positive := positive} else o

def schedule : Int × Output :=
  let emitAt := match o.lastScheduledEmit with
    | none => now
    | some last => if now < last + o.tau then last + o.tau else now
  (emitAt,{o with lastScheduledEmit := some emitAt})

def nextOutput : Int :=
  match o.lastScheduledEmit with
  | some last => if now < last + o.tau then last + o.tau else now
  | none => now

def resumeOutput : Output := {o with lastScheduledEmit := some now}

def emits (o : Output) : List Call → List Emit
  | [] => []
  | .setTau tau :: calls => (o.setTau tau).emits calls
  | .schedule now :: calls => ⟨(o.schedule now).1,some (now,o.tau)⟩ :: (o.schedule now).2.emits calls
  | .resumeOutput now :: calls => ⟨now,none⟩ :: (o.resumeOutput now).emits calls

theorem last_setTau (tau : Int) : (o.setTau tau).lastScheduledEmit = o.lastScheduledEmit := by
  unfold setTau
  split <;> rfl

theorem schedule_follows (o : Output) {last : Int} (after : o.lastScheduledEmit = some last) (now : Int) :
    (o.schedule now).1 = max now (last + o.tau) := by
  simp only [schedule,after]
  split <;> omega

/-- Whatever the clock says, each slot is the first instant that is neither before the clock nor less than the cadence in
force after the slot or resumption before it, and who has waited for the preview does not wait again. -/
theorem slots_at_cadence (o : Output) (calls : List Call) (now later : Int) :
    (o.lastScheduledEmit.toList.map (Emit.mk · none) ++ o.emits calls).IsChain Emit.Precedes ∧
    (o.schedule (max later (o.nextOutput now))).1 = max later (o.nextOutput now) := by
  constructor
  · induction calls generalizing o with
    | nil => cases o.lastScheduledEmit <;> simp [emits]
    | cons call calls ih =>
      cases call with
      | setTau tau => exact last_setTau o tau ▸ ih (o.setTau tau)
      | resumeOutput now =>
        have rest := ih (o.resumeOutput now)
        cases o.lastScheduledEmit with
        | none => exact rest
        | some last => exact .cons_cons (fun _ _ slot => by cases slot) rest
      | schedule now =>
        have first : IsChain Emit.Precedes (⟨(o.schedule now).1,none⟩ :: (o.schedule now).2.emits calls) := ih (o.schedule now).2
        have rest : IsChain Emit.Precedes (o.emits (.schedule now :: calls)) := by
          refine .cons_of_imp ?_ first
          exact fun _ follows => follows
        cases after : o.lastScheduledEmit with
        | none => exact rest
        | some last =>
          refine .cons_cons (fun _ _ slot => ?_) rest
          cases slot
          exact ⟨o.positive,schedule_follows o after now⟩
  · unfold schedule nextOutput
    cases o.lastScheduledEmit with
    | none => rfl
    | some last =>
      dsimp only
      split <;> split <;> omega

end Output

end EbusGateway.OutputCadence
