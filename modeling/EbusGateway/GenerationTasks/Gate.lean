import EbusGateway.GenerationTasks.Runner
import EbusGateway.Library.Mutex

/-! The gate. The effects of all runs hold it shared, and the end of a fence holds it alone.
-/
namespace EbusGateway.GenerationTasks
open Library List

namespace Act

def gate : Act → Option Nat
  | .enter run _ | .effect run _ | .effectEnd run _ | .leave run _ true | .release run |
    .goEnter run _ _ | .goRelease run _ _ | .reported run _ => some run
  | _ => none

def shares (act : Act) : Bool := act.gate.isSome

def excludes : Act → Bool
  | .serialize _ | .unlockGate _ => true
  | _ => false

end Act

structure Gate (r : Runner) (acts : List Act) : Prop where
  readers : r.readers = acts.countP Act.shares
  writer : Guards Act.excludes r.writer acts
  apart : r.writer = true → r.readers = 0

section
variable {r next : Runner} {act : Act} {others : List Act}

namespace Gate

theorem perm {acts : List Act} (same : acts.Perm others) (gate : Gate r acts) : Gate r others :=
  ⟨gate.readers.trans (same.countP_eq _),gate.writer.perm same,gate.apart⟩

section
variable (gate : Gate r (act :: others))
include gate

theorem go (code : List Act) (readers : next.readers = r.readers) (writer : next.writer = r.writer)
    (shares : code.countP Act.shares = act.shares.toNat)
    (excludes : code.countP Act.excludes = act.excludes.toNat) : Gate next (code ++ others) := by
  have before := gate.readers
  rw [countP_cons] at before
  refine ⟨?_,gate.writer.replace code (by rw [excludes,writer]),fun held => ?_⟩
  · rw [readers,before,countP_append,shares]
    cases act.shares
    · simp
    · simp [Nat.add_comm]
  · rw [readers]
    exact gate.apart (writer ▸ held)

theorem share (new : Act) (free : r.writer = false) (readers : next.readers = r.readers + 1)
    (writer : next.writer = false) (before : act.shares = false) (shares : new.shares = true) (quiet : act.excludes = false)
    (excludes : new.excludes = false) : Gate next (new :: others) := by
  have count := gate.readers
  rw [countP_cons_of_neg (by simp [before])] at count
  refine ⟨?_,?_,fun held => (nomatch writer.symm.trans held)⟩
  · rw [readers,count,countP_cons_of_pos shares]
  · rw [writer]
    have guards := gate.writer
    rw [free] at guards
    exact guards.replace [new] (by simp [quiet,excludes])

theorem unshare (code : List Act) (readers : next.readers = r.readers - 1) (writer : next.writer = r.writer)
    (before : act.shares = true) (shares : code.countP Act.shares = 0)
    (quiet : act.excludes = false) (excludes : code.countP Act.excludes = 0) :
    Gate next (code ++ others) := by
  have count := gate.readers
  rw [countP_cons_of_pos before] at count
  refine ⟨?_,gate.writer.replace code (by rw [excludes,quiet,writer]; rfl),fun held => ?_⟩
  · rw [readers,count,countP_append,shares]
    omega
  · have none := gate.apart (writer ▸ held)
    omega

end

end Gate

theorem executions_quiet (run : Nat) (launched : List Nat) :
    ((executions run launched).flatMap (·.code)).countP Act.shares = 0 ∧
    ((executions run launched).flatMap (·.code)).countP Act.excludes = 0 := by
  have mem {act : Act} (mem : act ∈ (executions run launched).flatMap (·.code)) : ∃ task, act = .execute run task := by
    simp only [executions,flatMap_map,mem_flatMap,mem_singleton] at mem
    obtain ⟨task,_,rfl⟩ := mem
    exact ⟨task,rfl⟩
  constructor
  all_goals
    refine countP_eq_zero.mpr fun act inside => ?_
    obtain ⟨task,rfl⟩ := mem inside
    nofun

variable {choice : Choice} {effect : Outcome}

theorem perform_gate (ran : perform choice act r = some effect) (gate : Gate r (act :: others)) :
    Gate effect.shared (effect.acts ++ others) := by
  cases act
  all_goals simp only [perform] at ran
  case admitKey key =>
    obtain ⟨shares,excludes⟩ := executions_quiet r.count (Run.roots r.tasks)
    split at ran
    all_goals cases ran
    · exact gate.go _ rfl rfl rfl rfl
    · exact gate.go _ rfl rfl shares excludes
  case lockGate run =>
    split at ran
    · cases ran
    rename_i free
    simp only [Bool.or_eq_true,not_or,Bool.not_eq_true,decide_eq_true_eq,ne_eq,not_not] at free
    cases ran
    refine ⟨?_,gate.writer.replace [.serialize run] (by simp [free.1,Act.excludes]),fun _ => free.2⟩
    simpa [countP_cons,Act.shares,Act.gate,Effect.acts_code] using gate.readers
  case unlockGate run =>
    cases ran
    have held := (gate.writer.alone rfl).1
    refine ⟨?_,gate.writer.replace [.closeLocked run] (by simp [held,Act.excludes]),nofun⟩
    simpa [countP_cons,Act.shares,Act.gate,Effect.acts_code] using gate.readers
  case report | commit | go =>
    split at ran
    · cases ran
    rename_i free
    have free : r.writer = false := by simpa using free
    split at ran
    all_goals cases ran
    · exact gate.share _ free rfl free rfl rfl rfl rfl
    · exact gate.go _ rfl rfl rfl rfl
  case reported | release | goRelease =>
    cases ran
    exact gate.unshare _ rfl rfl rfl rfl rfl rfl
  case finish run task state =>
    cases ran
    obtain ⟨shares,excludes⟩ :=
      executions_quiet run (r.finish run task state fun i =>
        (r.runs run).fenced || choice.seenFrom.any (· ≤ i)).2
    exact gate.go _ rfl rfl shares excludes
  case leave run unit gated =>
    cases ran
    rw [Effect.acts_code]
    cases gated
    all_goals exact gate.go _ rfl rfl rfl rfl
  -- the others neither take the gate nor give it up
  all_goals
    repeat' split at ran
    all_goals cases ran
    all_goals exact gate.go _ rfl rfl rfl rfl

end

end EbusGateway.GenerationTasks
