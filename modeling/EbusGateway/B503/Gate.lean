import EbusGateway.B503.Emission

/-! The ownership gate. The mutex `mu` is kept beside the manager, which only remembers by a flag whether it holds it.
-/
namespace EbusGateway.B503
open Library List

abbrev Gated := Manager × Bool

/-- A call that waits for ever or panics has no result. -/
def lockMu (mu : Bool) : Option Bool := if mu then none else some true

def unlockMu (mu : Bool) : Option Bool := if mu then some false else none

/-- The calls on `mu` of one action. An enable that passes its guards locks it, whatever the flag says; every other
call is an unlock that the flag guards and that clears the flag. -/
def callMu (choice : Choice) (act : Act) (m next : Manager) (mu : Bool) : Option Bool :=
  match act with
  | .start (.enable target) =>
    if m.restartFences.contains target || m.cleanup.isSome || m.state ≠ .idle then some mu
    else (lockMu mu).bind fun mu => if choice.entropy then some mu else unlockMu mu
  | _ => if m.mutexHeld && !next.mutexHeld then unlockMu mu else some mu

def gatedPerform (choice : Choice) (act : Act) (gated : Gated) : Option (Effect Unit Act Gated) :=
  (perform choice act gated.1).bind fun effect =>
    (callMu choice act gated.1 effect.shared gated.2).map fun mu => ⟨(effect.shared,mu),effect.code,effect.forked⟩

def gatedProgram : Program Unit Act Gated Event Choice where
  sequential _ := false
  launch event gated := (launch event gated.1).map fun (effect,name) => (⟨(effect.shared,gated.2),effect.code,effect.forked⟩,name)
  perform := gatedPerform

def gatedCreated (transport : TransportKey) (idles refreshes cleans : Bool) : Machine Unit Act Gated :=
  ⟨(Manager.create transport idles refreshes cleans,false),[]⟩

def gatedStep : Machine Unit Act Gated → Move Event Choice → Option (Machine Unit Act Gated) := Machine.step gatedProgram

def State.owned : State → Bool
  | .enabling | .active | .refreshing => true
  | _ => false

/-- The gate of a manager that takes no ownership which was not there before. -/
structure Gate (before : Bool) (m : Manager) : Prop where
  held : m.mutexHeld = m.state.owned
  token : m.activeToken.isSome = m.mutexHeld
  cleanup : m.cleanup.isSome = true → m.state ≠ .idle ∧ m.state ≠ .enabling
  before : m.mutexHeld = true → before = true

namespace Gate
variable {m next : Manager} {before : Bool}

theorem of_view (gate : Gate before m) (same : (next.state,next.mutexHeld,next.activeToken,next.cleanup.isSome) =
    (m.state,m.mutexHeld,m.activeToken,m.cleanup.isSome)) : Gate before next := by
  obtain ⟨state,held,token,cleanup⟩ := (by simpa using same : _ ∧ _ ∧ _ ∧ _)
  constructor
  · rw [state,held,gate.held]
  · rw [token,held,gate.token]
  · rw [cleanup,state]
    exact gate.cleanup
  · rw [held]
    exact gate.before

theorem unowned (gate : Gate before m) (free : m.mutexHeld = false) : m.activeToken = none := by simpa [free] using gate.token

theorem disabled (state : m.state = .disabled) (held : m.mutexHeld = false) (token : m.activeToken = none) : Gate before m := by
  refine ⟨?_,?_,fun _ => ?_,?_⟩
  · rw [held,state]
    rfl
  · rw [held,token]
    rfl
  · rw [state]
    exact ⟨nofun,nofun⟩
  · rw [held]
    nofun

theorem marked (gate : Gate before m) (f : Cleanup → Cleanup) : Gate before {m with cleanup := m.cleanup.map f} :=
  gate.of_view (by simp)

theorem createCleanup {target : UInt8} {epoch : Nat} {source : Option Nat} (gate : Gate before m) (state : m.state = .disabled) :
    Gate before (m.createCleanup target epoch source) := by
  unfold Manager.createCleanup
  have held := gate.held.trans (congrArg State.owned state)
  split
  · exact gate
  · exact disabled rfl held (gate.unowned held)

theorem closed (m : Manager) (target : UInt8) (epoch : Nat) (source : Option Nat) :
    Gate before (m.toDisabled.createCleanup target epoch source) :=
  createCleanup (disabled rfl rfl rfl) rfl

theorem armIdleTimer (gate : Gate before m) : Gate before m.armIdleTimer := by
  unfold Manager.armIdleTimer
  split
  · exact gate.of_view rfl
  · exact gate

theorem idle (held : m.mutexHeld = false) (token : m.activeToken = none) (free : m.cleanup = none) :
    Gate before {m with state := .idle} := by
  refine ⟨held,?_,fun retained => ?_,fun owned => (nomatch held.symm.trans owned)⟩
  · simp [token,held]
  · simp [free] at retained

end Gate

namespace Manager
variable {m : Manager} {op epoch : Nat} {target : UInt8} {outcome : DispatchOutcome}
    {attempted : Nat} {answer : Except Failure TransportKey}
  {transport : TransportKey} {before : Bool} (gate : Gate before m)
include gate

theorem consumeIdleExpiryAfterRead_gate : Gate before (m.consumeIdleExpiryAfterRead target op).1 := by
  unfold consumeIdleExpiryAfterRead
  split
  · exact gate
  simp only
  split
  · exact gate.of_view rfl
  · exact .closed _ _ _ _

theorem readEnd_gate : Gate before (m.readEnd op target outcome).1 := by
  unfold readEnd
  split
  · exact gate
  simp only
  split
  · exact (Gate.closed {m with pendingOperation := none} _ _ _).of_view rfl
  have ended : Gate before {m with pendingOperation := none} := gate.of_view rfl
  split
  · exact consumeIdleExpiryAfterRead_gate ended
  · exact Gate.armIdleTimer (gate.of_view rfl)

theorem disableEnd_gate : Gate before (m.disableEnd op target outcome).1 := by
  unfold disableEnd
  split
  · exact gate
  simp only
  split
  · exact Gate.armIdleTimer (gate.of_view rfl)
  refine Gate.marked (Gate.createCleanup ?_ rfl) _
  split
  · exact .disabled rfl rfl rfl
  · rename_i free
    have free : m.mutexHeld = false := by simpa using free
    exact .disabled rfl free (gate.unowned free)

theorem expiryEnd_gate : Gate before (m.expiryEnd op target transport outcome) := by
  unfold expiryEnd
  split
  · exact gate
  simp only
  split
  · exact (Gate.closed _ _ _ _).marked _
  · exact Gate.marked (Gate.createCleanup (.disabled rfl rfl rfl) rfl) _

theorem refreshedOwner_gate : Gate before (m.refreshedOwner op attempted target answer).1 := by
  unfold refreshedOwner
  simp only
  split
  · exact gate
  split
  · exact gate
  rename_i guard
  have held : m.mutexHeld = true := by simp_all
  split
  · exact .closed _ _ _ _
  split
  · refine Gate.armIdleTimer ⟨held,gate.token,fun _ => ⟨nofun,nofun⟩,gate.before⟩
  · exact (Gate.closed _ _ _ _).of_view rfl

theorem expiryRefreshed_gate : Gate before (m.expiryRefreshed op attempted target answer).1 := by
  unfold expiryRefreshed
  split
  · exact gate
  split
  · exact gate
  rename_i guard
  have held : m.mutexHeld = true := by simp_all
  split
  · exact .closed _ _ _ _
  · exact ⟨held,gate.token,fun _ => ⟨nofun,nofun⟩,gate.before⟩

theorem beginOwnerOperation_gate {key : Option SessionKey} {kind : OperationKind} :
    Gate before (m.beginOwnerOperation target key kind).1 := by
  unfold beginOwnerOperation
  iterate 5
    split
    · exact gate
  rename_i guard _ _ _
  have held : m.mutexHeld = true := by simp_all
  simp only
  split
  · exact gate.of_view rfl
  · exact ⟨held,gate.token,fun _ => ⟨nofun,nofun⟩,gate.before⟩

theorem idleTimerFired_gate {gen : Nat} : Gate before (m.idleTimerFired gen).1 := by
  unfold idleTimerFired
  split
  · exact gate
  rename_i current
  have active : m.state = .active := by simp_all
  have held := gate.held.trans (congrArg State.owned active)
  split
  · dsimp only
    split
    · exact gate.of_view rfl
    · exact gate
  simp only
  split
  · exact ⟨held,gate.token,fun _ => ⟨nofun,nofun⟩,gate.before⟩
  · exact .closed _ _ _ _

theorem attemptCleanup_gate : Gate before (m.attemptCleanup epoch).1 := by
  unfold attemptCleanup
  split
  · exact gate
  rename_i obligation found
  split
  · exact gate
  · exact gate.of_view (by simp [found])

theorem expiryDropped_gate : Gate before (m.expiryDropped op target transport) := by
  unfold expiryDropped
  split
  · exact .closed _ _ _ _
  · exact gate

theorem enable_gate {entropy : Bool} : Gate true (m.enable target entropy).1 := by
  have kept : Gate true m := {gate with before := fun _ => rfl}
  unfold enable
  split
  · exact kept
  rename_i free
  simp only [Bool.or_eq_true,not_or,Option.not_isSome_iff_eq_none] at free
  split
  · exact kept
  split
  · exact Gate.idle rfl rfl free.2
  · refine ⟨rfl,rfl,fun retained => ?_,fun _ => rfl⟩
    simp [free.2] at retained

theorem onTransportDisconnect_gate (standing : Standing m) : Gate before m.onTransportDisconnect := by
  unfold onTransportDisconnect
  split
  · exact gate
  rename_i held
  have held : m.mutexHeld = true := by simpa using held
  simp only
  split
  · rename_i due found
    obtain ⟨kept,enable⟩ := Option.filter_eq_some_iff.mp found
    obtain ⟨was,before,rfl⟩ := Option.map_eq_some_iff.mp kept
    simp only [Bool.and_eq_true,decide_eq_true_eq] at enable
    have enabling := standing.owner held was before enable.1
    refine Gate.idle rfl rfl ?_
    simp [clearCleanupForOperation,releaseOwner,invalidatePending,(standing.enabling enabling).1]
  · exact .closed _ _ _ _

theorem onEpochAdvance_gate (standing : Standing m) : Gate before (m.onEpochAdvance epoch) := by
  unfold onEpochAdvance
  split
  · exact gate
  simp only
  split
  · rename_i due found
    obtain ⟨_,enabling⟩ := Option.filter_eq_some_iff.mp found
    have enabling : m.state = .enabling := of_decide_eq_true enabling
    refine Gate.idle rfl rfl ?_
    simp [clearCleanupForOperation,releaseOwner,invalidatePending,(standing.enabling enabling).1]
  · split <;> exact gate.of_view rfl

theorem enabled_gate {token : Nat} (standing : Standing m)
    (kind : ∀ due, m.pendingOperation = some due → due.id = op → due.kind = .enable) :
    Gate before (m.enabled op token target outcome).1 := by
  unfold enabled
  simp only
  obtain none | ⟨due,found,held,mine⟩ := m.pending_cases op
  · rw [none]
    exact gate
  rw [found]
  simp only
  generalize (if due.transport.epoch < m.pendingEpoch then {m.transport with epoch := m.pendingEpoch} else m.transport) = transport
  split
  · rename_i other
    have free : m.mutexHeld = false := by
      refine Bool.eq_false_iff.mpr fun owned => ?_
      exact other (standing.owner owned due held (kind due held mine))
    split
    · dsimp only
      split
      · rename_i cleared
        exact Gate.idle free (gate.unowned free) (Option.isNone_iff_eq_none.mp cleared)
      · refine ⟨gate.held,gate.token,fun retained => gate.cleanup ?_,gate.before⟩
        obtain ⟨obligation,kept⟩ := Option.isSome_iff_exists.mp retained
        exact Option.isSome_of_mem (Option.filter_eq_some_iff.mp kept).1
    · exact (gate.of_view rfl : Gate before {m with pendingOperation := none, transport := transport}).marked _
  · rename_i enabling
    have enabling : m.state = .enabling := by simpa using enabling
    obtain ⟨free,_⟩ := standing.enabling enabling
    split
    · exact Gate.idle rfl rfl free
    split
    · have owned := gate.held.trans (congrArg State.owned enabling)
      have retains : State.active ≠ .idle ∧ State.active ≠ .enabling := by decide
      simp only [createCleanup,free,Option.isSome_none,Bool.false_eq_true,if_false]
      exact Gate.armIdleTimer ⟨owned,gate.token,fun _ => retains,gate.before⟩
    · exact .disabled rfl rfl rfl

end Manager

section
variable {m : Manager} {act : Act} {others : List Act} {choice : Choice} {effect : Outcome}

theorem startOwner_shared (m : Manager) (target : UInt8) (key : Option SessionKey) (caller : Caller) :
    (startOwner m target key caller).shared = (m.beginOwnerOperation target key caller.kind).1 := by
  unfold startOwner
  split
  all_goals
    rename_i same
    rw [same]

def answered (choice : Choice) (m : Manager) : Act → Option Manager
  | .start (.enable target) => some (m.enable target choice.entropy).1
  | .refresh operation attempted => some (m.refreshedOwner operation.id attempted operation.target (m.refreshAnswer choice.refresh)).1
  | .attemptCleanup epoch => some (m.attemptCleanup epoch).1
  | .idleTimerFired gen => some (m.idleTimerFired gen).1
  | .expiryRefresh id attempted target => some (m.expiryRefreshed id attempted target (m.refreshAnswer choice.refresh)).1
  | _ => none

section
variable (ran : perform choice act m = some effect)
include ran

theorem perform_shared {next : Manager} (found : answered choice m act = some next) : effect.shared = next := by
  unfold answered at found
  split at found
  all_goals
    cases found
    try
      simp only [perform] at ran
      split at ran
      all_goals
        rename_i same
        cases ran
        rw [same]

theorem perform_gate {before : Bool} (safe : Guarded m (act :: others)) (gate : Gate before m)
    (enable : ∀ target, act = .start (.enable target) → before = true) : Gate before effect.shared := by
  cases act with
  | qualify target request =>
    cases ran
    exact gate.of_view rfl
  | start request =>
    cases request with
    | enable target =>
      rw [perform_shared ran rfl,enable target rfl]
      exact Manager.enable_gate gate
    | read target | disable key target =>
      cases ran
      rw [startOwner_shared]
      exact Manager.beginOwnerOperation_gate gate
  | refresh op attempted =>
    rw [perform_shared ran rfl]
    exact Manager.refreshedOwner_gate gate
  | stopIdleTimer op =>
    cases ran
    unfold Manager.stopIdleTimer
    split
    · exact gate.of_view rfl
    · exact gate
  | dispatch op =>
    cases ran
    exact gate
  | admission op =>
    simp only [perform] at ran
    split at ran
    · cases ran
    split at ran
    · cases ran
      exact gate
    rename_i admitted
    cases ran
    obtain ⟨_,_,_,_,_,rfl⟩ := Manager.admitPendingEmission_cases admitted
    exact gate.of_view rfl
  | send op =>
    cases ran
    dsimp only
    split
    · exact gate.of_view rfl
    · exact gate
  | release op emitted =>
    cases ran
    exact gate.of_view rfl
  | finish op emitted =>
    cases ran
    have kind := safe.kinds _ mem_cons_self _ _ rfl
    obtain ⟨id,target,caller⟩ := op
    cases caller with
    | enable token => exact Manager.enabled_gate gate safe.standing kind
    | read => exact Manager.readEnd_gate gate
    | disable => exact Manager.disableEnd_gate gate
    | cleanup => exact gate.of_view rfl
    | expiry => exact Manager.expiryEnd_gate gate
  | attemptCleanup epoch =>
    rw [perform_shared ran rfl]
    exact Manager.attemptCleanup_gate gate
  | record attempt epoch outcome =>
    cases ran
    exact gate.marked _
  | idleTimerFired gen =>
    rw [perform_shared ran rfl]
    exact Manager.idleTimerFired_gate gate
  | expiryRefresh id attempted target =>
    rw [perform_shared ran rfl]
    exact Manager.expiryRefreshed_gate gate
  | expiryDropped id target transport =>
    cases ran
    exact Manager.expiryDropped_gate gate
  | transportDisconnect =>
    cases ran
    exact Manager.onTransportDisconnect_gate gate safe.standing
  | epochAdvance epoch =>
    simp only [perform] at ran
    split at ran
    · cases ran
    · cases ran
      exact Manager.onEpochAdvance_gate gate safe.standing
  | restart targets =>
    cases ran
    exact .disabled rfl rfl rfl

theorem callMu_gate (safe : Guarded m (act :: others)) (gate : Gate true m) :
    callMu choice act m effect.shared m.mutexHeld = some effect.shared.mutexHeld := by
  unfold callMu
  split
  · rename_i target
    rw [perform_shared ran rfl]
    unfold Manager.enable
    cases fenced : m.restartFences.contains target || m.cleanup.isSome with
    | true => rfl
    | false =>
      by_cases idle : m.state = .idle
      · have free : m.mutexHeld = false := gate.held.trans (congrArg State.owned idle)
        rw [idle,free]
        cases choice.entropy <;> rfl
      · simp [idle]
  · rename_i other
    have next := perform_gate ran safe {gate with before := id} fun target same => absurd same (other target)
    cases held : m.mutexHeld with
    | false =>
      cases later : effect.shared.mutexHeld with
      | false => rfl
      | true => cases held.symm.trans (next.before later)
    | true => cases effect.shared.mutexHeld <;> rfl

end

def Tied (gated : Gated) (acts : List Act) : Prop := Guarded gated.1 acts ∧ Gate true gated.1 ∧ gated.2 = gated.1.mutexHeld

theorem step_tied {system later : Machine Unit Act Gated} {move : Move Event Choice} (tied : Tied system.shared system.acts)
    (stepped : gatedStep system move = some later) : Tied later.shared later.acts := by
  refine Machine.acts_step Tied (fun _ _ _ same tied => ⟨tied.1.perm same,tied.2⟩) ?_ ?_ tied stepped
  · intro event effect name _ launched
    cases launched
    refine ⟨?_,tied.2⟩
    cases event
    all_goals exact tied.1.add rfl
  · rintro choice act others effect _ _ _ ⟨safe,gate,same⟩ ran
    obtain ⟨plain,performed,ran⟩ := Option.bind_eq_some_iff.mp ran
    rw [same,callMu_gate performed safe gate] at ran
    cases ran
    exact ⟨perform_guarded performed safe,perform_gate performed safe gate fun _ _ => rfl,rfl⟩

end

/-- In every reachable state `mu` is locked exactly when the flag says so, the flag and the token stand exactly in
the owned states, a retained cleanup excludes idle and enabling, and no pending action waits for `mu` or unlocks it
while it is free. -/
theorem ownership_gate {transport : TransportKey} {idles refreshes cleans : Bool}
    {labels : List (Move Event Choice)} {m : Manager} {mu : Bool}
    {threads : List (Thread Unit Act)}
    (run : Run gatedStep anyStep
      (gatedCreated transport idles refreshes cleans) labels ⟨(m,mu),threads⟩) :
    (mu = true ↔ m.mutexHeld = true) ∧ (m.mutexHeld = true ↔ m.state = .enabling ∨ m.state = .active ∨ m.state = .refreshing) ∧
    (m.activeToken ≠ none ↔ m.state = .enabling ∨ m.state = .active ∨ m.state = .refreshing) ∧
    (m.cleanup ≠ none → m.state = .active ∨ m.state = .refreshing ∨ m.state = .disabled) ∧
    ∀ thread ∈ threads, ∀ act ∈ thread.code, ∀ choice effect, perform choice act m = some effect →
      ∃ later, callMu choice act m effect.shared mu = some later := by
  obtain ⟨guarded,gate,same⟩ :=
    run.invariant (fun system => Tied system.shared system.acts) (fun _ _ _ tied _ stepped =>
      step_tied tied stepped)
    ⟨.create transport idles refreshes cleans,⟨rfl,rfl,nofun,nofun⟩,rfl⟩
  dsimp only at gate same
  subst same
  have owned : m.mutexHeld = true ↔ m.state = .enabling ∨ m.state = .active ∨ m.state = .refreshing := by
    rw [gate.held]
    cases m.state <;> decide
  refine ⟨Iff.rfl,owned,?_,fun retained => ?_,fun thread inside act mem choice effect ran => ?_⟩
  · rw [← owned,← gate.token]
    exact Option.isSome_iff_ne_none.symm
  · obtain ⟨idle,enabling⟩ := gate.cleanup (Option.isSome_iff_ne_none.mpr retained)
    cases state : m.state <;> simp_all
  · have pending := perm_cons_erase (mem_flatMap.mpr ⟨thread,inside,mem⟩)
    exact ⟨_,callMu_gate ran (guarded.perm pending) gate⟩

theorem opened_session_owns : ∃ m mu threads, Run gatedStep anyStep (gatedCreated {} true true true)
    (.start (.request (.enable 8)) :: List.replicate 7 (.run 0 {})) ⟨(m,mu),threads⟩ ∧
      m.state = .active ∧ mu = true ∧ m.mutexHeld = true := by
  obtain ⟨⟨⟨m,mu⟩,threads⟩,run,active,locked⟩ : ∃ system, Run gatedStep anyStep (gatedCreated {} true true true)
      (.start (.request (.enable 8)) :: List.replicate 7 (.run 0 {})) system ∧
        (system.shared.1.state = .active ∧ system.shared.2 = true) :=
    Run.exists_of_execute _ (by decide +kernel)
  exact ⟨m,mu,threads,run,active,locked,(ownership_gate run).1.mp locked⟩

end EbusGateway.B503
