import EbusGateway.Shadow.Reads

/-! The circuit breaker of one key over every interleaving of calls.
-/
namespace EbusGateway.Shadow.Reads
open Library

def Mark.Safe (breaker : Breaker) (mark : Mark) : Prop :=
  match mark.turn with
  | .start | .fetch => mark.before.breakerState = .opened → breaker.openCooldown ≤ mark.now - mark.opening
  | .fail =>
    (mark.before.breakerState = .closed → mark.failures + 1 ≤ breaker.failureBudget) ∧
      (mark.before.breakerState = .halfOpen → mark.failures + 1 ≤ breaker.halfOpenProbeLimit)
  | .supersede =>
    mark.after.breakerState = mark.before.breakerState ∧ mark.after.consecutiveFailures = mark.before.consecutiveFailures
  | .suppress => mark.before.breakerState = .opened
  | .succeed => True

structure Circuit where
  running : Bool
  state : CircuitState
  consecutiveFailures : Int
  openedAt : Time
  probes : Int
  now : Time
  opening : Time
  failures : Nat
  journal : List Mark

def Shared.circuit (s : Shared) : Circuit :=
  ⟨s.entry.running,s.entry.breakerState,s.entry.consecutiveFailures,s.entry.openedAt,s.entry.halfOpenProbesRemaining,
    s.now,s.opening,s.failures,s.journal⟩

structure Guarded (breaker : Breaker) (s : Circuit) : Prop where
  safe : ∀ mark ∈ s.journal, mark.Safe breaker
  clock : s.opening ≤ s.now
  opened : s.state = .opened → s.running = false ∧ s.openedAt = s.opening
  closed : s.state = .closed → s.consecutiveFailures = s.failures ∧ s.failures < breaker.failureBudget
  halfOpen : s.state = .halfOpen →
    s.failures + s.probes + s.running.toNat = breaker.halfOpenProbeLimit ∧ 0 ≤ s.probes ∧ (s.running = false → 0 < s.probes)

structure Breaker.Set (breaker : Breaker) : Prop where
  enabled : breaker.enabled = true
  budget : 0 < breaker.failureBudget
  cooldown : 0 ≤ breaker.openCooldown
  limit : 0 < breaker.halfOpenProbeLimit

theorem normalized_set {options : Options} (enabled : 0 < options.failureBudget) :
    Breaker.Set (normalizeSemanticReadCircuitBreakerOptions options) := by
  refine ⟨decide_eq_true enabled,enabled,?_,?_⟩
  · dsimp only [normalizeSemanticReadCircuitBreakerOptions]
    generalize (if options.openCooldown = 0 then _ else options.openCooldown) = openCooldown
    split
    · exact Int.le_refl 0
    · exact Int.not_lt.mp ‹_›
  · dsimp only [normalizeSemanticReadCircuitBreakerOptions]
    split <;> omega

section
variable {breaker : Breaker} {choice : Choice} {s : Shared}

/-- A mark is made: it is safe, and the state after it is as the invariant says. -/
theorem Guarded.mark (guarded : Guarded breaker s.circuit) {turn : Turn} {entry : ReadEntry}
    (safe : (⟨turn,s.entry,entry,s.now,s.opening,s.failures⟩ : Mark).Safe breaker)
    (opened : entry.breakerState = .opened → entry.running = false ∧ entry.openedAt = (s.mark turn entry).opening)
    (closed : entry.breakerState = .closed →
      entry.consecutiveFailures = (s.mark turn entry).failures ∧ (s.mark turn entry).failures < breaker.failureBudget)
    (halfOpen : entry.breakerState = .halfOpen →
      (s.mark turn entry).failures + entry.halfOpenProbesRemaining + entry.running.toNat = breaker.halfOpenProbeLimit ∧
        0 ≤ entry.halfOpenProbesRemaining ∧ (entry.running = false → 0 < entry.halfOpenProbesRemaining)) :
    Guarded breaker (s.mark turn entry).circuit := by
  refine ⟨List.forall_mem_cons.mpr ⟨safe,guarded.safe⟩,?_,opened,closed,halfOpen⟩
  dsimp only [Shared.circuit,Shared.mark]
  split
  · exact Int.le_refl _
  · exact guarded.clock

section
variable (set : Breaker.Set breaker)
include set

theorem startFetch_guarded (call : Call) (safe : Guarded breaker s.circuit) (idle : s.entry.running = false) :
    Guarded breaker (startFetch breaker s call).shared.circuit := by
  unfold startFetch ReadEntry.guardBreaker
  simp only [set.enabled,Bool.not_true,Bool.false_eq_true,if_false]
  cases state : s.entry.breakerState with
  | opened =>
    have moment : s.entry.openedAt = s.opening := (safe.opened state).2
    have clock : s.opening ≤ s.now := safe.clock
    by_cases passed : breaker.openCooldown ≤ 0 ∨ breaker.openCooldown ≤ s.now - s.entry.openedAt
    · simp only [Bool.or_eq_true,decide_eq_true_eq,passed,if_true]
      refine safe.mark (fun _ => ?_) ?_ ?_ ?_
      all_goals simp [ReadEntry.transitionBreaker,ReadEntry.startFetch,Shared.mark,state,set.enabled]
      · rw [moment] at passed
        exact passed.elim (·.trans (Int.sub_nonneg_of_le clock)) id
      · exact set.limit
    · simp only [Bool.or_eq_true,decide_eq_true_eq,passed,if_false]
      refine safe.mark state ?_ ?_ ?_
      all_goals simp [Shared.mark,state]
      exact ⟨idle,moment⟩
  | halfOpen =>
    -- no fetch is running, so a probe is left and the guard lets it through
    obtain ⟨balance,_,left⟩ := safe.halfOpen state
    have probes : 0 < s.entry.halfOpenProbesRemaining := left idle
    simp only [probes,if_true]
    refine safe.mark (fun opened => absurd (state.symm.trans opened) (by decide)) ?_ ?_ ?_
    all_goals simp [ReadEntry.startFetch,Shared.mark,state]
    simp only [Shared.circuit,idle,Bool.toNat_false] at balance
    omega
  | closed =>
    refine safe.mark (fun opened => absurd (state.symm.trans opened) (by decide)) ?_ ?_ ?_
    all_goals simp [ReadEntry.startFetch,Shared.mark,state]
    exact safe.closed state

theorem superseded_guarded (call : Call) (safe : Guarded breaker s.circuit) (flying : s.entry.running = true) :
    Guarded breaker (superseded breaker s call).shared.circuit := by
  have marked : Guarded breaker (s.mark .supersede (s.entry.recordSuperseded breaker)).circuit := by
    refine safe.mark ⟨rfl,rfl⟩ (fun state => ?_) (fun state => ?_) (fun state => ?_)
    · exact absurd ((safe.opened state).1.symm.trans flying) (by decide)
    · simp [Shared.mark,ReadEntry.recordSuperseded,ReadEntry.clearSemanticReadCache]
      exact safe.closed state
    · have state : s.entry.breakerState = .halfOpen := state
      obtain ⟨balance,positive,_⟩ := safe.halfOpen state
      simp only [Shared.circuit,flying,Bool.toNat_true] at balance positive
      have given : s.entry.halfOpenProbesRemaining < breaker.halfOpenProbeLimit := by omega
      simp [Shared.mark,ReadEntry.recordSuperseded,ReadEntry.clearSemanticReadCache,state,set.enabled,given]
      omega
  unfold superseded
  split
  · exact marked
  · exact marked

theorem failure_guarded (guarded : Guarded breaker s.circuit) (flying : s.entry.running = true) :
    Guarded breaker (s.mark .fail ({s.entry with running := false}.recordFailure breaker s.now)).circuit := by
  unfold ReadEntry.recordFailure
  simp only [set.enabled,Bool.not_true,Bool.false_eq_true,if_false]
  cases state : s.entry.breakerState with
  | opened => exact absurd ((guarded.opened state).1.symm.trans flying) (by decide)
  | halfOpen =>
    obtain ⟨balance,positive,_⟩ := guarded.halfOpen state
    simp only [Shared.circuit,flying,Bool.toNat_true] at balance positive
    have bound : s.failures + 1 ≤ breaker.halfOpenProbeLimit := by omega
    have safe (entry : ReadEntry) : Mark.Safe breaker ⟨.fail,s.entry,entry,s.now,s.opening,s.failures⟩ :=
      ⟨fun closed => absurd (state.symm.trans closed) (by decide),fun _ => bound⟩
    by_cases left : 0 < s.entry.halfOpenProbesRemaining
    · simp only [left,if_true]
      refine guarded.mark (safe _) ?_ ?_ ?_
      all_goals simp [Shared.mark,state]
      omega
    · simp only [left,if_false]
      refine guarded.mark (safe _) ?_ ?_ ?_
      all_goals simp [ReadEntry.transitionBreaker,Shared.mark,state,set.enabled]
  | closed =>
    obtain ⟨count,few⟩ := guarded.closed state
    simp only [Shared.circuit] at count few
    have safe (entry : ReadEntry) : Mark.Safe breaker ⟨.fail,s.entry,entry,s.now,s.opening,s.failures⟩ :=
      ⟨fun _ => few,fun halfOpen => absurd (state.symm.trans halfOpen) (by decide)⟩
    by_cases spent : breaker.failureBudget ≤ s.entry.consecutiveFailures + 1
    · simp only [spent,if_true]
      refine guarded.mark (safe _) ?_ ?_ ?_
      all_goals simp [ReadEntry.transitionBreaker,Shared.mark,state,set.enabled]
    · simp only [spent,if_false]
      refine guarded.mark (safe _) ?_ ?_ ?_
      all_goals simp [Shared.mark,state]
      omega

theorem success_guarded (call : Call) (value : Reading) (gen : Nat) (safe : Guarded breaker s.circuit) :
    Guarded breaker (s.mark .succeed (recordSuccess breaker s call value gen)).circuit := by
  have state : (recordSuccess breaker s call value gen).breakerState = .closed ∧
      (recordSuccess breaker s call value gen).consecutiveFailures = 0 := by
    unfold recordSuccess ReadEntry.recordSuccess ReadEntry.transitionBreaker
    cases closed : s.entry.breakerState <;> cases call.watched <;> simp [ReadEntry.cacheFetched,closed,set.enabled]
  refine safe.mark trivial ?_ ?_ ?_
  all_goals simp [state,Shared.mark]
  exact set.budget

end

theorem Guarded.tick (safe : Guarded breaker s.circuit) (elapsed : Nat) : Guarded breaker {s with now := s.now + elapsed}.circuit :=
  {safe with clock := safe.clock.trans (Int.le_add_of_nonneg_right (Int.natCast_nonneg _))}

theorem Performs.guarded {act : Act} {others : List Act} {effect : Step} (performs : Performs breaker s act effect)
    (set : Breaker.Set breaker) (flight : Library.Guards Act.flies s.entry.running (act :: others))
    (safe : Guarded breaker s.circuit) :
    Guarded breaker effect.shared.circuit := by
  have flying : act.flies = true → s.entry.running = true := fun flies => (flight.alone flies).1
  cases performs with
  | go | finish | serve | fetched => exact safe
  | start _ before _ idle dropped => rcases dropped with rfl | rfl <;> exact startFetch_guarded set _ safe idle
  | fetch =>
    have opening : (s.mark .fetch s.entry).opening = s.opening := by simp [Shared.mark]
    have failures : (s.mark .fetch s.entry).failures = s.failures := by simp [Shared.mark]
    refine safe.mark (fun opened => ?_) (opening ▸ safe.opened) (failures ▸ safe.closed) (failures ▸ safe.halfOpen)
    exact absurd ((safe.opened opened).1.symm.trans (flying rfl)) (by decide)
  | fail => exact failure_guarded set safe (flying rfl)
  | supersede call => exact superseded_guarded set call safe (flying rfl)
  | succeed call _ gen value => exact success_guarded set call value gen safe

end

theorem step_guarded {breaker : Breaker} {system next : System} {move : Move Event Choice} (set : Breaker.Set breaker)
    (holds : Library.Guards Act.flies system.shared.entry.running system.acts ∧ Guarded breaker system.shared.circuit)
    (ran : step breaker system move = some next) :
    Library.Guards Act.flies next.shared.entry.running next.acts ∧ Guarded breaker next.shared.circuit := by
  refine Machine.acts_step (fun s acts => Library.Guards Act.flies s.entry.running acts ∧ Guarded breaker s.circuit)
    (fun _ _ _ same => And.imp_left (·.perm same)) ?_ ?_ holds ran
  · rintro ⟨maxAge,watched⟩ effect _ _ launched
    cases launched
    exact ⟨holds.1,holds.2⟩
  · intro choice act others effect _ _ _ ⟨flight,safe⟩ found
    have performs := perform_performs found
    exact ⟨performs.flight flight,performs.guarded set flight (safe.tick choice.elapsed)⟩

/-- Under fixed settings that enable the breaker, whatever the calls do in whatever order: no fetch starts
while the breaker has been open for less than its cooldown, no more fetches fail in a row while it is
closed than the budget and no more probes in a half-open period than the limit, a superseded fetch changes
neither the count nor the state, and no call is rejected in the half-open state. -/
theorem breaker_is_safe {options : Options} (enabled : 0 < options.failureBudget) {now : Time} {labels : List (Move Event Choice)}
    {final : System} (run : Run (step (normalizeSemanticReadCircuitBreakerOptions options)) anyStep (initially now) labels final) :
    ∀ mark ∈ final.shared.journal, mark.Safe (normalizeSemanticReadCircuitBreakerOptions options) := by
  have set := normalized_set enabled
  refine (run.invariant _ (fun _ _ _ holds _ stepped => step_guarded set holds stepped) ⟨rfl,?_⟩).2.safe
  exact ⟨List.forall_mem_nil _,Int.le_refl now,nofun,fun _ => ⟨rfl,enabled⟩,nofun⟩

def fetchOnce (index elapsed : Nat) (fetched : Except ReadError (List UInt8)) : List (Move Event Choice) :=
  [.start (.getWithWatchKey 1 false),.run index {elapsed := elapsed},.run index {},.run index {},
    .run index {fetched := fetched},.run index {}]

def trial : List (Move Event Choice) :=
  fetchOnce 0 0 (.error .fetch) ++ [.start (.getWithWatchKey 1 false),.run 1 {elapsed := 4},.run 1 {}] ++
    fetchOnce 2 1 (.error .supersededInFlight) ++ fetchOnce 3 0 (.error .fetch)

theorem trial_is_safe :
    ∃ final, (Run (step (normalizeSemanticReadCircuitBreakerOptions ⟨1,5,0⟩)) anyStep (initially 0) trial final ∧
      final.shared.journal.map (·.turn) = [.fail,.fetch,.start,.supersede,.fetch,.start,.suppress,.fail,.fetch,.start]) ∧
    ∀ mark ∈ final.shared.journal, mark.Safe (normalizeSemanticReadCircuitBreakerOptions ⟨1,5,0⟩) := by
  refine Exists.imp (fun _ found => ⟨found,?_⟩) (Run.exists_of_execute _ (by decide +kernel))
  exact breaker_is_safe (by decide) found.1

end EbusGateway.Shadow.Reads
