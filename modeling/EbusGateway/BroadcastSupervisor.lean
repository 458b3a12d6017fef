import EbusGateway.Library.Mutex
import EbusGateway.Library.Transition

/-! The broadcast listener's supervisor: faults degrade it, and a recovery goroutine makes it healthy
after a window without faults. `markDegraded` counts the generation up before it takes `stateMu`; the
goroutine reads it, acts on it and clears `recoveryLoopActive` in three sections. Calls come at any time.
The `uint64` generations are natural numbers: a run is taken to count none of them up to 2^64.
-/
namespace EbusGateway.BroadcastSupervisor
open Library List

structure Listener where
  degraded : Bool := false
  recoveryGeneration : Nat := 0
  recoveryTerminal : Bool := false
  recoveryLoopActive : Bool := false
  cancelled : Bool := false

inductive Reason
  | routerOverflow
  | resubscribeFailed
deriving DecidableEq

inductive Act
  | degrade (reason : Reason)
  | recoverAfterFaultFreeWindow
  | window (generation : Nat)
  | heal (generation : Nat)
  | clear
deriving DecidableEq

inductive Event
  | markDegraded (reason : Reason)
  | markHealthy
  | cancel

abbrev Step := Effect Unit Act Listener

def Listener.markHealthyIfGeneration (listener : Listener) (generation : Nat) : Listener :=
  if !listener.degraded then listener
  else if generation ≠ 0 && listener.recoveryGeneration ≠ generation then listener
  else {listener with degraded := false, recoveryGeneration := listener.recoveryGeneration + 1}

def launch (event : Event) (listener : Listener) : Option (Step × Unit) :=
  match event with
  | .markDegraded reason =>
    some ({shared := {listener with recoveryGeneration := listener.recoveryGeneration + 1}, code := [.degrade reason]},())
  | .markHealthy => some ({shared := listener.markHealthyIfGeneration 0},())
  | .cancel => some ({shared := {listener with cancelled := true}},())

def markDegraded (listener : Listener) (reason : Reason) : Step :=
  if reason = .resubscribeFailed then {shared := {listener with degraded := true, recoveryTerminal := true}}
  else if listener.recoveryLoopActive then {shared := {listener with degraded := true}}
  else {shared := {listener with degraded := true, recoveryLoopActive := true}, forked := [⟨(),[.recoverAfterFaultFreeWindow]⟩]}

def reread (listener : Listener) (generation : Nat) : Act :=
  if listener.recoveryTerminal then .clear
  else if listener.recoveryGeneration = generation then .heal generation
  else .window listener.recoveryGeneration

def perform (done : Bool) (act : Act) (listener : Listener) : Option Step :=
  match act with
  | .degrade reason => some (markDegraded listener reason)
  | .recoverAfterFaultFreeWindow => some {shared := listener, code := [.window listener.recoveryGeneration]}
  | .window generation =>
    if !done then some {shared := listener, code := [reread listener generation]}
    else if listener.cancelled then some {shared := listener, code := [.clear]}
    else none
  | .heal generation => some {shared := listener.markHealthyIfGeneration generation, code := [.clear]}
  | .clear => some {shared := {listener with recoveryLoopActive := false}}

def program : Program Unit Act Listener Event Bool := {sequential := fun _ => false, launch := launch, perform := perform}

abbrev System := Machine Unit Act Listener

abbrev step : System → Move Event Bool → Option System := Machine.step program

def initially : System := ⟨{},[]⟩

namespace Act

def awaits : Act → Bool
  | .recoverAfterFaultFreeWindow | .window _ => true
  | _ => false

def decided : Act → Bool
  | .heal _ | .clear => true
  | _ => false

def degrades : Act → Bool
  | .degrade _ => true
  | _ => false

def recovers (act : Act) : Bool := act.awaits || act.decided

end Act

def Recoverable (listener : Listener) (acts : List Act) : Prop :=
  listener.degraded = true ∧ listener.recoveryTerminal = false ∧ listener.cancelled = false ∧
      (∀ act ∈ acts, act.decided = false ∧ act.degrades = false) →
    listener.recoveryLoopActive = true ∧ ∃ act ∈ acts, act.awaits = true

instance (listener : Listener) (acts : List Act) : Decidable (Recoverable listener acts) := by
  unfold Recoverable
  infer_instance

/-- No fault is recorded between the recovery goroutine's last decision and its end. -/
def faultsApart (system : System) (move : Move Event Bool) : Prop :=
  (system.performs move).all (fun act => act ≠ .degrade .routerOverflow || system.acts.all (!·.decided)) = true

instance (system : System) (move : Move Event Bool) : Decidable (faultsApart system move) := inferInstanceAs (Decidable (_ = true))

structure Attended (listener : Listener) (acts : List Act) : Prop where
  loop : Guards Act.recovers listener.recoveryLoopActive acts
  owner : listener.degraded = true → listener.recoveryTerminal = false → listener.cancelled = false →
    (∃ act ∈ acts, act.awaits = true ∨ act.degrades = true) ∨ .heal listener.recoveryGeneration ∈ acts

namespace Attended
variable {listener : Listener} {acts others : List Act}

theorem perm (same : acts.Perm others) (met : Attended listener acts) : Attended listener others := by
  refine ⟨met.loop.perm same,fun degraded live running => ?_⟩
  exact (met.owner degraded live running).imp (fun ⟨act,mem,sees⟩ => ⟨act,same.mem_iff.mp mem,sees⟩) same.mem_iff.mp

theorem recoverable (met : Attended listener acts) : Recoverable listener acts := by
  rintro ⟨degraded,live,running,quiet⟩
  obtain ⟨act,mem,sees⟩ | heals := met.owner degraded live running
  · have awaits := sees.resolve_right (by simp [(quiet act mem).2])
    refine ⟨?_,act,mem,awaits⟩
    have won : 0 < acts.countP Act.recovers := countP_pos_iff.mpr ⟨act,mem,by simp [Act.recovers,awaits]⟩
    rw [met.loop] at won
    cases active : listener.recoveryLoopActive with
    | true => rfl
    | false => simp [active] at won
  · cases (quiet _ heals).1

theorem markHealthy (gen : Nat) (loop : Guards Act.recovers listener.recoveryLoopActive acts)
    (stays : gen ≠ 0 → listener.recoveryGeneration ≠ gen → Attended listener acts) :
    Attended (listener.markHealthyIfGeneration gen) acts := by
  unfold Listener.markHealthyIfGeneration
  split
  · rename_i healthy
    exact ⟨loop,fun degraded => by simp [degraded] at healthy⟩
  split
  · rename_i stale
    simp only [Bool.and_eq_true,decide_eq_true_eq] at stale
    exact stays stale.1 stale.2
  · exact ⟨loop,nofun⟩

end Attended

variable {listener : Listener} {act : Act} {acts others : List Act} {effect : Step}

theorem launch_attended {event : Event} {name : Unit} (launched : launch event listener = some (effect,name))
    (met : Attended listener acts) : Attended effect.shared (effect.acts ++ acts) := by
  cases event with
  | markDegraded reason =>
    cases launched
    exact ⟨met.loop,fun _ _ _ => .inl ⟨_,.head _,.inr rfl⟩⟩
  | markHealthy =>
    cases launched
    exact .markHealthy 0 met.loop fun positive => absurd rfl positive
  | cancel =>
    cases launched
    exact ⟨met.loop,nofun⟩

theorem perform_attended {done : Bool} (ran : perform done act listener = some effect)
    (apart : act = .degrade .routerOverflow → ∀ other ∈ others, other.decided = false) (met : Attended listener (act :: others)) :
    Attended effect.shared (effect.acts ++ others) := by
  have replaced (code : List Act) {active : Bool} : _ → Guards Act.recovers active (code ++ others) := met.loop.replace code
  cases act with
  | degrade reason =>
    cases ran
    unfold markDegraded
    split
    · exact ⟨replaced [] rfl,nofun⟩
    rename_i fault
    split
    · rename_i active
      refine ⟨replaced [] rfl,fun _ _ _ => .inl ?_⟩
      have won : 0 < others.countP Act.recovers := by
        have loop : Guards Act.recovers true others := replaced [] (by simp [active]; rfl)
        rw [loop]
        exact Nat.one_pos
      obtain ⟨other,mem,recovers⟩ := countP_pos_iff.mp won
      have undecided := apart (by cases reason <;> [rfl; exact absurd rfl fault]) other mem
      exact ⟨other,mem,.inl (by simpa [Act.recovers,undecided] using recovers)⟩
    · rename_i idle
      rw [Bool.not_eq_true] at idle
      exact ⟨replaced [.recoverAfterFaultFreeWindow] (by simp [idle]; rfl),fun _ _ _ => .inl ⟨_,.head _,.inl rfl⟩⟩
  | recoverAfterFaultFreeWindow =>
    cases ran
    exact ⟨replaced [_] rfl,fun _ _ _ => .inl ⟨_,.head _,.inl rfl⟩⟩
  | window gen =>
    simp only [perform] at ran
    split at ran
    · cases ran
      change Attended listener (reread listener gen :: others)
      unfold reread
      split
      · rename_i terminal
        exact ⟨replaced [_] rfl,fun _ live => by simp [terminal] at live⟩
      split
      · rename_i same
        exact ⟨replaced [_] rfl,fun _ _ _ => .inr (same ▸ mem_cons_self)⟩
      · exact ⟨replaced [_] rfl,fun _ _ _ => .inl ⟨_,.head _,.inl rfl⟩⟩
    split at ran
    · rename_i cancelled
      cases ran
      exact ⟨replaced [_] rfl,fun _ _ running => by simp [cancelled] at running⟩
    · cases ran
  | heal gen =>
    cases ran
    refine .markHealthy gen (replaced [.clear] rfl) fun _ stale => ⟨replaced [.clear] rfl,fun degraded live running => .inl ?_⟩
    have single := (met.loop.alone rfl).2
    obtain ⟨other,mem,sees⟩ | heals := met.owner degraded live running
    · rcases mem_cons.mp mem with rfl | due
      · cases sees <;> contradiction
      · exact ⟨other,mem_cons_of_mem _ due,sees⟩
    · rcases mem_cons.mp heals with same | due
      · exact absurd (Act.heal.inj same) stale
      · cases single _ due
  | clear =>
    cases ran
    refine ⟨replaced [] (by simp [(met.loop.alone rfl).1]; rfl),fun degraded live running => .inl ?_⟩
    have single := (met.loop.alone rfl).2
    obtain ⟨other,mem,sees⟩ | heals := met.owner degraded live running
    · rcases mem_cons.mp mem with rfl | due
      · cases sees <;> contradiction
      · exact ⟨other,due,sees⟩
    · rcases mem_cons.mp heals with same | due
      · cases same
      · cases single _ due

theorem step_attended {system next : System} {move : Move Event Bool} (met : Attended system.shared system.acts)
    (permitted : faultsApart system move) (stepped : step system move = some next) : Attended next.shared next.acts := by
  refine Machine.acts_step Attended (fun _ _ _ => Attended.perm) ?_ ?_ met stepped
  · exact fun _ _ _ _ launched => launch_attended launched met
  · intro done act others effect _ head same met ran
    refine perform_attended ran (fun fault other mem => ?_) met
    have all := (Option.all_eq_true _ _).mp permitted act head
    simp only [fault,ne_eq,not_true_eq_false,decide_false,Bool.false_or,all_eq_true] at all
    simpa using all other (same.mem_iff.mpr (.tail _ mem))

/-- A degraded listener has a recovery owner in every run that records no fault while the recovery
goroutine is past its last decision. -/
theorem degraded_is_recoverable {labels : List (Move Event Bool)} {final : System}
    (run : Run step faultsApart initially labels final) : Recoverable final.shared final.acts := by
  refine Attended.recoverable (run.invariant (fun system => Attended system.shared system.acts)
    (fun _ _ _ attended permitted stepped => step_attended attended permitted stepped) ?_)
  exact ⟨rfl,nofun⟩

def recovery (between : List (Move Event Bool)) : List (Move Event Bool) :=
  [.start (.markDegraded .routerOverflow),.run 0 false,.run 1 false,.run 1 false] ++ between ++ [.run 1 false,.run 1 false]

theorem recovery_is_recoverable :
    ∃ final, (Run step faultsApart initially (recovery [] ++ [.start (.markDegraded .routerOverflow),.run 2 false]) final ∧
      final.shared.degraded = true ∧ final.shared.recoveryLoopActive = true) ∧ Recoverable final.shared final.acts := by
  refine Exists.imp (fun _ found => ⟨found,?_⟩) (Run.exists_of_executeWhere _ (by decide +kernel))
  exact degraded_is_recoverable found.1

/-- A fault between the decision to mark the listener healthy and the end of the goroutine is recovered
by nobody. -/
theorem fault_in_gap_is_not_recovered :
    ∃ final, Run step anyStep initially (recovery [.start (.markDegraded .routerOverflow),.run 2 false]) final ∧
      ¬ Recoverable final.shared final.acts :=
  Run.exists_of_execute (fun final : System => ¬ Recoverable final.shared final.acts) (by decide +kernel)

end EbusGateway.BroadcastSupervisor
