import EbusGateway.Library.Transition
import Mathlib.Data.Nat.ModEq

/-! The echo watchdog of the pacer. Stopping a timer does not wait for a callback that has started, so a callback that
takes the mutex compares the generation it was armed with; every arm and every cancel moves the generation on. A timer
may fire at any time: its delay is left out.
-/
namespace EbusGateway.EchoWatchdog
open Library Function List

inductive Deadline
  | soft
  | hard
deriving DecidableEq

/-- A timer, by the number of the arm that set it. -/
structure Timer where
  deadline : Deadline
  arm : Nat
deriving DecidableEq

/-- Where a timer's callback stands; `gen` is the generation it captured. -/
inductive Callback
  | unarmed
  | running (gen : Nat)
  | started (gen : Nat)
  | emitting
  | settled

/-- `turns` counts the arms and cancels, `inGrace` has the arms made in grace; `counted` and `emitted` are the timers that
raised a counter and those that called the emitter. -/
structure Pacer where
  graceRemaining : Nat := 0
  lastEchoAt : Int := 0
  emits : Bool
  timers : Deadline → Option Timer := fun _ => none
  armGeneration : Nat := 0
  softTimeoutTotal : Nat := 0
  hardTimeoutTotal : Nat := 0
  callbacks : Timer → Callback := fun _ => .unarmed
  turns : Nat := 0
  inGrace : Nat → Bool := fun _ => false
  counted : List Timer := []
  emitted : List Timer := []

def graceIdleThreshold : Int := 30000000000
def graceBootstrapSamples : Nat := 3

namespace Pacer
variable (p : Pacer)

def beforeActiveWrite (now : Int) : Pacer :=
  if p.lastEchoAt = 0 ∨ now - p.lastEchoAt < graceIdleThreshold then p
  else {p with graceRemaining := max p.graceRemaining graceBootstrapSamples}

def recordEcho (rtt now : Int) : Pacer :=
  if rtt ≤ 0 then p else {p with lastEchoAt := now, graceRemaining := p.graceRemaining - 1}

def resetLrtt : Pacer := {p with lastEchoAt := 0, graceRemaining := 0}

/-- `Stop` keeps a timer from firing that has not fired. -/
def stop (t : Timer) : Callback → Callback
  | .running gen => if p.timers t.deadline = some t then .settled else .running gen
  | other => other

def cancelTimers : Pacer :=
  {p with
    timers := fun _ => none, armGeneration := (p.armGeneration + 1) % 2 ^ 64
    callbacks := fun t => p.stop t (p.callbacks t), turns := p.turns + 1}

def armEchoWatchdog : Pacer :=
  let p := p.cancelTimers
  let hardEnabled := p.graceRemaining = 0
  let set := fun deadline => if deadline = .soft ∨ hardEnabled then some ⟨deadline,p.turns⟩ else none
  {p with
    timers := set, callbacks := fun t => if set t.deadline = some t then .running p.armGeneration else p.callbacks t
    inGrace := update p.inGrace p.turns (0 < p.graceRemaining)}

/-- The critical section of `onSoftTimeout` and of `onHardTimeout`. -/
def onTimeout (t : Timer) (gen : Nat) : Pacer :=
  if p.armGeneration ≠ gen then {p with callbacks := update p.callbacks t .settled}
  else
    {p with
      softTimeoutTotal := p.softTimeoutTotal + if t.deadline = .soft then 1 else 0
      hardTimeoutTotal := p.hardTimeoutTotal + if t.deadline = .hard then 1 else 0
      timers := update p.timers t.deadline none
      callbacks := update p.callbacks t (if p.emits then .emitting else .settled), counted := t :: p.counted}

/-- The timer fires; its callback takes the mutex; it calls the emitter with the mutex given back. -/
def callback (t : Timer) : Option Pacer :=
  match p.callbacks t with
  | .running gen => some {p with callbacks := update p.callbacks t (.started gen)}
  | .started gen => some (p.onTimeout t gen)
  | .emitting => some {p with callbacks := update p.callbacks t .settled, emitted := t :: p.emitted}
  | _ => none

end Pacer

inductive Label
  | arm
  | cancel
  | recordEcho (rtt now : Int)
  | beforeActiveWrite (now : Int)
  | resetLrtt
  | callback (t : Timer)

def step (p : Pacer) : Label → Option Pacer
  | .arm => some p.armEchoWatchdog
  | .cancel => some p.cancelTimers
  | .recordEcho rtt now => some (p.recordEcho rtt now)
  | .beforeActiveWrite now => some (p.beforeActiveWrite now)
  | .resetLrtt => some p.resetLrtt
  | .callback t => p.callback t

/-- What is known of a timer from where its callback stands. -/
def Fits (p : Pacer) (t : Timer) : Callback → Prop
  | .unarmed => t ∉ p.counted ∧ t ∉ p.emitted
  | .running gen => gen = t.arm % 2 ^ 64 ∧ t.arm = p.turns ∧ (t.deadline = .hard → p.inGrace t.arm = false) ∧ t ∉ p.counted ∧
      t ∉ p.emitted ∧ p.timers t.deadline = some t
  | .started gen => gen = t.arm % 2 ^ 64 ∧ t.arm ≤ p.turns ∧
  (t.deadline = .hard → p.inGrace t.arm = false) ∧ t ∉ p.counted ∧ t ∉ p.emitted
  | .emitting => t.arm ≤ p.turns ∧ (t.deadline = .hard → p.inGrace t.arm = false) ∧ t ∈ p.counted ∧ t ∉ p.emitted
  | .settled => t.arm ≤ p.turns ∧ (t ∈ p.counted → t.deadline = .hard → p.inGrace t.arm = false) ∧ (t ∈ p.emitted → t ∈ p.counted)

structure Sound (p : Pacer) : Prop where
  generation : p.armGeneration = p.turns % 2 ^ 64
  fits : ∀ t, Fits p t (p.callbacks t)
  soft : p.softTimeoutTotal = p.counted.countP (·.deadline = .soft)
  hard : p.hardTimeoutTotal = p.counted.countP (·.deadline = .hard)
  once : p.counted.Nodup ∧ p.emitted.Nodup

variable {p q : Pacer} {t : Timer} {stands : Callback}

theorem Fits.counted (fits : Fits p t stands) :
    (t ∈ p.counted → t.deadline = .hard → p.inGrace t.arm = false) ∧
    (t ∈ p.emitted → t ∈ p.counted) := by
  cases stands <;> grind [Fits]

theorem Fits.onward (fits : Fits p t stands) (turns : p.turns ≤ q.turns) (counted : t ∈ q.counted ↔ t ∈ p.counted)
    (emitted : t ∈ q.emitted ↔ t ∈ p.emitted) (grace : t.arm ≤ p.turns → q.inGrace t.arm = p.inGrace t.arm)
    (running : ∀ gen, stands = .running gen → t.arm = q.turns ∧ q.timers t.deadline = some t) : Fits q t stands := by
  have later (arm : t.arm ≤ p.turns) : t.arm ≤ q.turns := Nat.le_trans arm turns
  cases stands
  all_goals
    simp only [Fits,counted,emitted] at fits ⊢
    grind

/-- A timer that has not fired is stopped, since the pacer still holds it, and no timer of the next arm was armed before. -/
theorem Sound.stopped (sound : Sound p) (t : Timer) : Fits p t (p.stop t (p.callbacks t)) ∧
    (∀ gen, p.stop t (p.callbacks t) ≠ .running gen) ∧ (p.turns < t.arm → p.stop t (p.callbacks t) = .unarmed) := by
  have fits := sound.fits t
  cases stands : p.callbacks t
  all_goals
    rw [stands] at fits
    grind [Fits,Pacer.stop]

theorem Sound.cancelTimers (sound : Sound p) : Sound p.cancelTimers := by
  refine {sound with generation := by simp [Pacer.cancelTimers,sound.generation], fits := fun t => ?_}
  obtain ⟨fits,quiet,_⟩ := sound.stopped t
  exact fits.onward (Nat.le_succ _) .rfl .rfl (fun _ => rfl) fun gen stands => absurd stands (quiet gen)

theorem Sound.armEchoWatchdog (sound : Sound p) : Sound p.armEchoWatchdog := by
  refine {sound.cancelTimers with fits := fun t => ?_}
  obtain ⟨fits,quiet,fresh⟩ := sound.stopped t
  by_cases set : p.armEchoWatchdog.timers t.deadline = some t
  · obtain ⟨arm,normal⟩ : t.arm = p.turns + 1 ∧ (t.deadline = .hard → p.graceRemaining = 0) := by
      simp only [Pacer.armEchoWatchdog,Pacer.cancelTimers] at set
      grind
    rw [fresh (arm ▸ Nat.lt_succ_self _)] at fits
    rw [show p.armEchoWatchdog.callbacks t = .running p.cancelTimers.armGeneration from if_pos set,sound.cancelTimers.generation]
    refine ⟨congrArg (· % 2 ^ 64) arm.symm,arm,fun hard => ?_,fits.1,fits.2,set⟩
    rw [arm]
    exact (update_self _ _ _).trans (decide_eq_false (by simp [normal hard,Pacer.cancelTimers]))
  · rw [show p.armEchoWatchdog.callbacks t = p.stop t (p.callbacks t) from if_neg set]
    refine fits.onward (Nat.le_succ _) .rfl .rfl (fun arm => ?_) fun gen stands => absurd stands (quiet gen)
    exact update_of_ne (Nat.ne_of_lt (Nat.lt_succ_of_le arm)) _ _

theorem Sound.latest (sound : Sound p) (bound : p.turns < 2 ^ 64) {gen : Nat} (fits : Fits p t (.started gen))
    (same : p.armGeneration = gen) : t.arm = p.turns := by
  obtain ⟨armed,arm,_⟩ := fits
  rw [← same,sound.generation,Nat.mod_eq_of_lt bound,Nat.mod_eq_of_lt (Nat.lt_of_le_of_lt arm bound)] at armed
  exact armed.symm

theorem Sound.callback (sound : Sound p) (bound : p.turns < 2 ^ 64) (ran : p.callback t = some q) : Sound q := by
  have fits := sound.fits t
  have held (other : Timer) (gen : Nat) (stands : p.callbacks other = .running gen) :
    other.arm = p.turns ∧ p.timers other.deadline = some other := by
    have running := sound.fits other
    rw [stands] at running
    exact ⟨running.2.1,running.2.2.2.2.2⟩
  unfold Pacer.callback at ran
  cases stands : p.callbacks t
  all_goals
    rw [stands] at fits ran
    cases ran
  case running gen =>
    obtain ⟨armed,arm,grace,uncounted,unemitted,_⟩ := fits
    refine {sound with fits := (forall_update_iff _ _).mpr ⟨?_,fun other _ => sound.fits other⟩}
    exact ⟨armed,Nat.le_of_eq arm,grace,uncounted,unemitted⟩
  case started gen =>
    have latest := sound.latest bound fits
    obtain ⟨_,arm,grace,uncounted,unemitted⟩ := fits
    unfold Pacer.onTimeout
    split
    · refine {sound with fits := (forall_update_iff _ _).mpr ⟨?_,fun other _ => sound.fits other⟩}
      exact ⟨arm,fun _ => grace,fun mem => absurd mem unemitted⟩
    rename_i same
    refine ⟨sound.generation,(forall_update_iff _ _).mpr ⟨?_,fun other ne => ?_⟩,?_,?_,?_⟩
    · cases p.emits
      · exact ⟨arm,fun _ => grace,fun _ => mem_cons_self⟩
      · exact ⟨arm,grace,mem_cons_self,unemitted⟩
    · refine (sound.fits other).onward (Nat.le_refl _) (by simp [ne]) .rfl (fun _ => rfl) fun gen stands => ?_
      obtain ⟨current,mine⟩ := held other gen stands
      -- the timer cleared is the callback's own: another of its deadline is of another arm
      have apart : other.deadline ≠ t.deadline := fun deadline => ne (by
        cases t
        cases other
        simp_all)
      exact ⟨current,(update_of_ne apart _ _).trans mine⟩
    · simp [sound.soft,countP_cons]
    · simp [sound.hard,countP_cons]
    · exact ⟨nodup_cons.mpr ⟨uncounted,sound.once.1⟩,sound.once.2⟩
  case emitting =>
    obtain ⟨arm,grace,counted,unemitted⟩ := fits
    refine ⟨sound.generation,(forall_update_iff _ _).mpr ⟨?_,fun other ne => ?_⟩,sound.soft,sound.hard,?_⟩
    · exact ⟨arm,fun _ => grace,fun _ => counted⟩
    · exact (sound.fits other).onward (Nat.le_refl _) .rfl (by simp [ne]) (fun _ => rfl) (held other)
    · exact ⟨sound.once.1,nodup_cons.mpr ⟨unemitted,sound.once.2⟩⟩

theorem step_sound {label : Label} (ran : step p label = some q) : p.turns ≤ q.turns ∧ (p.turns < 2 ^ 64 → Sound p → Sound q) := by
  cases label with
  | arm =>
    cases ran
    exact ⟨Nat.le_succ _,fun _ => Sound.armEchoWatchdog⟩
  | cancel =>
    cases ran
    exact ⟨Nat.le_succ _,fun _ => Sound.cancelTimers⟩
  | recordEcho rtt now =>
    cases ran
    unfold Pacer.recordEcho
    split <;> exact ⟨Nat.le_refl _,fun _ sound => {sound with}⟩
  | beforeActiveWrite now =>
    cases ran
    unfold Pacer.beforeActiveWrite
    split <;> exact ⟨Nat.le_refl _,fun _ sound => {sound with}⟩
  | resetLrtt =>
    cases ran
    exact ⟨Nat.le_refl _,fun _ sound => {sound with}⟩
  | callback t =>
    refine ⟨?_,fun bound sound => sound.callback bound ran⟩
    simp only [step,Pacer.callback,Pacer.onTimeout] at ran
    grind

theorem timeouts_of_their_arm {emits : Bool} {labels : List Label}
    (run : Run step anyStep {emits} labels p) (bound : p.turns < 2 ^ 64) :
    p.counted.Nodup ∧ p.softTimeoutTotal = p.counted.countP (·.deadline = .soft) ∧
    p.hardTimeoutTotal = p.counted.countP (·.deadline = .hard) ∧
    (∀ t ∈ p.counted, t.deadline = .hard → p.inGrace t.arm = false) ∧ p.emitted.Nodup ∧ p.emitted ⊆ p.counted ∧
    (∀ t gen, p.cancelTimers.callbacks t ≠ .running gen) ∧
    ∀ t gen, p.callbacks t = .started gen →
      p.onTimeout t gen = {p with callbacks := update p.callbacks t .settled} ∨
        t.arm = p.turns ∧ (p.onTimeout t gen).counted = t :: p.counted := by
  have sound : Sound p := by
    refine run.invariant (fun p => p.turns < 2 ^ 64 → Sound p) (fun p label q sound _ ran bound => ?_) (fun _ => ?_) bound
    · have before := Nat.lt_of_le_of_lt (step_sound ran).1 bound
      exact (step_sound ran).2 before (sound before)
    · exact ⟨rfl,fun t => ⟨not_mem_nil,not_mem_nil⟩,rfl,rfl,nodup_nil,nodup_nil⟩
  refine ⟨sound.once.1,sound.soft,sound.hard,fun t => (sound.fits t).counted.1,sound.once.2,fun t =>
    (sound.fits t).counted.2,fun t => ?_,
    fun t gen stands => ?_⟩
  · exact (sound.stopped t).2.1
  · have fits := sound.fits t
    rw [stands] at fits
    unfold Pacer.onTimeout
    split
    · exact .inl rfl
    · rename_i same
      exact .inr ⟨sound.latest bound fits (not_not.mp same),rfl⟩

theorem stale_callback_not_counted : ∃ p, Run step anyStep {emits := true}
    [.arm,.callback ⟨.soft,1⟩,.arm,.callback ⟨.soft,1⟩,.callback ⟨.soft,2⟩,.callback ⟨.soft,2⟩,.callback ⟨.soft,2⟩] p ∧
    (p.turns < 2 ^ 64 ∧ p.counted = [⟨.soft,2⟩]) ∧ p.softTimeoutTotal = p.counted.countP (·.deadline = .soft) := by
  refine Exists.imp (fun p ⟨run,reached⟩ => ⟨run,reached,?_⟩) (Run.exists_of_execute _ (by decide +kernel))
  exact (timeouts_of_their_arm run reached.1).2.1

end EbusGateway.EchoWatchdog
