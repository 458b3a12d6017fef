import EbusGateway.EbusControl.Bridge
import EbusGateway.Library.Mutex

/-! The locks of the bridge: who holds the succession lock and the dispatch lock, and that one hold runs.
-/
namespace EbusGateway.EbusControl
open Library

namespace Act

def holds : Act → Bool
  | .hold _ | .holdGate _ | .holdSource _ | .holdFence _ | .holdActivate _ | .holdActivated _ _ | .holdRecord _ => true
  | _ => false

def binds : Act → Bool
  | .admitSource | .admitSuccessor _ _ | .succeed _ _ _ | .unlockOp => true
  | .retire _ next | .retireWait _ next | .retireCall _ _ next | .retireEnd _ _ next => next ≠ .done
  | _ => false

def dispatches : Act → Bool
  | .check _ _ | .startAsync _ => true
  | _ => false

end Act

structure Locks (b : Bridge) (acts : List Act) : Prop where
  binds : Guards Act.binds b.opMu acts
  dispatches : Guards Act.dispatches b.dispatchMu acts
  holds : Guards Act.holds b.holding acts

theorem Locks.perm {b : Bridge} {acts others : List Act} (same : acts.Perm others) (locks : Locks b acts) : Locks b others :=
  ⟨locks.binds.perm same,locks.dispatches.perm same,locks.holds.perm same⟩

def Bridge.locks (b : Bridge) : Bool × Bool × Bool := (b.opMu,b.dispatchMu,b.holding)

section
variable {b next : Bridge} {act : Act} {others : List Act} {i : Nat} {held : Held} {info : Option SourceInfo}

theorem Locks.replace (locks : Locks b (act :: others)) (code : List Act)
    (binds : code.countP Act.binds + b.opMu.toNat = act.binds.toNat + next.opMu.toNat)
    (dispatches : code.countP Act.dispatches + b.dispatchMu.toNat = act.dispatches.toNat + next.dispatchMu.toNat)
    (holds : code.countP Act.holds + b.holding.toNat = act.holds.toNat + next.holding.toNat) : Locks next (code ++ others) :=
  ⟨locks.binds.replace code binds,locks.dispatches.replace code dispatches,locks.holds.replace code holds⟩

theorem Locks.go (locks : Locks b (act :: others)) (code : List Act) (same : next.locks = b.locks)
    (binds : code.countP Act.binds = act.binds.toNat)
    (dispatches : code.countP Act.dispatches = act.dispatches.toNat) (holds : code.countP Act.holds = act.holds.toNat) :
    Locks next (code ++ others) := by
  simp only [Bridge.locks,Prod.mk.injEq] at same
  obtain ⟨op,dispatch,holding⟩ := same
  refine locks.replace code ?_ ?_ ?_
  · rw [binds,op]
  · rw [dispatches,dispatch]
  · rw [holds,holding]

namespace Bridge

theorem bind_locks (b : Bridge) (key : Key) : (b.bind key).1.locks = b.locks := by
  unfold bind
  split
  · rfl
  split
  · rfl
  split
  · rfl
  split
  · rfl
  split <;> rfl

theorem succeed_locks (b : Bridge) (key : Key) (pred : Nat) (handle : Handle) : (b.succeed key pred handle).1.locks = b.locks := by
  unfold succeed
  simp only
  split <;> rfl

theorem recoveryHandover_locks (b : Bridge) (i : Nat) (snap : Snapshot) : (b.recoveryHandover i snap).1.locks = b.locks := by
  unfold recoveryHandover
  simp only
  split
  · rfl
  split
  · rfl
  split <;> rfl

theorem checkDispatch_locks (b : Bridge) (i revision : Nat) : (b.checkDispatch i revision).1.locks = b.locks := by
  unfold checkDispatch
  split <;> rfl

theorem stop_locks (b : Bridge) (key : Key) : (b.stop key).1.locks = b.locks := by
  unfold stop
  split <;> rfl

theorem ensureNativeStop_locks (b : Bridge) (i : Nat) : (b.ensureNativeStop i).1.locks = b.locks := by
  unfold ensureNativeStop
  split <;> rfl

theorem holdActivated_locks (b : Bridge) (held : Held) (activated : Handle) : (b.holdActivated held activated).locks = b.locks := by
  unfold holdActivated
  simp only
  split <;> split <;> rfl

theorem holdRecord_locks (b : Bridge) (held : Held) : (b.holdRecord held).locks = b.locks := by
  unfold holdRecord
  split <;> rfl

end Bridge

theorem resume_binds (next : Next) (success : Bool) : (resume next success).countP Act.binds = (decide (next ≠ .done)).toNat := by
  cases next <;> cases success <;> rfl

theorem resume_quiet (next : Next) (success : Bool) :
    (resume next success).countP Act.dispatches = 0 ∧ (resume next success).countP Act.holds = 0 := by
  cases next <;> cases success <;> exact ⟨rfl,rfl⟩

theorem Locks.resume {next' : Next} {success : Bool} (locks : Locks b (act :: others)) (same : next.locks = b.locks)
    (binds : act.binds = decide (next' ≠ .done)) (dispatches : act.dispatches = false) (holds : act.holds = false) :
    Locks next (resume next' success ++ others) := by
  obtain ⟨quiet,still⟩ := resume_quiet next' success
  refine locks.go _ same ?_ ?_ ?_
  · rw [resume_binds,binds]
  · rw [quiet,dispatches]
    rfl
  · rw [still,holds]
    rfl

theorem Locks.holdOn {new : Option Act} (locks : Locks b (act :: others)) (same : next.locks = b.locks) (holds : act.holds = true)
    (goes : ∀ act, new = some act → act.holds = true) : Locks (holdOn next new).shared ((holdOn next new).acts ++ others) := by
  have only {act : Act} (holds : act.holds = true) : act.binds = false ∧ act.dispatches = false := by
    cases act <;> first | exact ⟨rfl,rfl⟩ | cases holds
  obtain ⟨unbound,quiet⟩ := only holds
  have holding := (locks.holds.alone holds).1
  cases new with
  | none =>
    simp only [Bridge.locks,Prod.mk.injEq] at same
    refine locks.replace [] ?_ ?_ ?_
    · simp [EbusControl.holdOn,unbound,same.1]
    · simp [EbusControl.holdOn,quiet,same.2.1]
    · simp [EbusControl.holdOn,holds,holding]
  | some new =>
    have goes := goes new rfl
    obtain ⟨unbound',quiet'⟩ := only goes
    refine locks.go [new] same ?_ ?_ ?_
    · simp [unbound,unbound']
    · simp [quiet,quiet']
    · simp [holds,goes]

theorem watched_cases (epoch native : Nat) (snap : Snapshot) (cancelled : Bool) :
    watched epoch native snap cancelled = .failStart epoch ∨ watched epoch native snap cancelled = .watch epoch ∨
    watched epoch native snap cancelled = .started epoch := by
  have wait : (if cancelled then Act.failStart epoch else .watch epoch) = .failStart epoch ∨
    (if cancelled then Act.failStart epoch else .watch epoch) = .watch epoch := by
    cases cancelled
    · exact .inr rfl
    · exact .inl rfl
  unfold watched
  simp only
  generalize (if cancelled then Act.failStart epoch else .watch epoch) = act at wait
  rcases wait with rfl | rfl <;> cases snap.observed <;> grind

theorem live_cases (goes : held.live info = some act) : held.replacement = true ∧ (act = .holdFence held ∨ act = .holdActivate held) ∨
    held.replacement = false ∧ act = .holdRecord held ∧ held.handle.generation = held.generation := by
  obtain ⟨found,_,goes⟩ := Option.bind_eq_some_iff.mp goes
  split at goes
  · rename_i replacement
    obtain ⟨_,same⟩ := Option.ite_none_left_eq_some.mp goes
    cases same
    refine .inl ⟨replacement,?_⟩
    split
    · exact .inl rfl
    · exact .inr rfl
  · rename_i first
    obtain ⟨live,same⟩ := Option.ite_none_left_eq_some.mp goes
    cases same
    simp only [Bool.or_eq_true,not_or,decide_eq_true_eq,ne_eq,not_not] at live
    exact .inr ⟨by simpa using first,rfl,live.2⟩

theorem live_holds (goes : held.live info = some act) : act.holds = true := by
  obtain ⟨_,rfl | rfl⟩ | ⟨_,rfl,_⟩ := live_cases goes
  all_goals rfl

variable {choice : Choice} {effect : Outcome}

theorem perform_locks (ran : perform choice act b = some effect) (locks : Locks b (act :: others)) :
    Locks effect.shared (effect.acts ++ others) := by
  cases act
  all_goals simp only [perform] at ran
  case prepare =>
    split at ran
    · cases ran
    rename_i free
    split at ran
    all_goals cases ran
    · exact locks.go _ rfl rfl rfl rfl
    · exact locks.replace [.admitSource] (by simp [free,Act.binds]) rfl rfl
  case admitSource | unlockOp =>
    have held := (locks.binds.alone rfl).1
    try split at ran
    all_goals
      cases ran
      exact locks.replace [] (by simp [held,Act.binds]) rfl rfl
  -- none of these touches a mutex or ends a section
  case start | started | failStart | stopWithReport | observeClose | awaitDispatchIdle | admitSuccessor | nativeObservation =>
    repeat' split at ran
    all_goals cases ran
    all_goals
      try split
      all_goals first
        | exact locks.go _ rfl rfl rfl rfl
        | exact locks.go _ (b.recoveryHandover_locks ..) rfl rfl rfl
  case bind key =>
    split at ran
    · cases ran
    rename_i free
    have same := b.bind_locks key
    split at ran
    all_goals
      rename_i found
      rw [found] at same
      cases ran
    all_goals try exact locks.go _ same rfl rfl rfl
    · simp only [Bridge.locks,Prod.mk.injEq] at same
      exact locks.replace [.retire _ (.succeed _ _)] (by simp [free,Act.binds]) (by simp [Act.dispatches,same.2.1])
        (by simp [Act.holds,same.2.2])
  case retire | retireWait | retireCall | retireEnd =>
    repeat' split at ran
    all_goals cases ran
    all_goals first
      | exact locks.go [_] rfl (by simp [Act.binds,List.countP_cons]; split <;> simp_all) rfl rfl
      | exact Effect.acts_code .. ▸ locks.resume rfl rfl rfl rfl
  case succeed key pred handle =>
    have held := (locks.binds.alone rfl).1
    have same := b.succeed_locks key pred handle
    split at ran
    all_goals
      rename_i found
      rw [found] at same
      cases ran
    · exact locks.go _ same rfl rfl rfl
    · simp only [Bridge.locks,Prod.mk.injEq] at same
      exact locks.replace [.dispatch b.count] (by simp [held,Act.binds]) (by
        simp [Act.dispatches,same.2.1]) (by simp [Act.holds,same.2.2])
  case dispatch epoch =>
    split at ran
    · cases ran
    · rename_i free
      cases ran
      exact locks.replace [.check _ _] rfl (by simp [free,Act.dispatches]) rfl
  case check epoch revision =>
    have held := (locks.dispatches.alone rfl).1
    have same := b.checkDispatch_locks epoch revision
    split at ran
    all_goals
      rename_i found
      rw [found] at same
      cases ran
    · exact locks.go _ same rfl rfl rfl
    · simp only [Bridge.locks,Prod.mk.injEq] at same
      exact locks.replace [.failStart epoch] (by simp [Act.binds,same.1]) (by
        simp [held,Act.dispatches]) (by simp [Act.holds,same.2.2])
  case startAsync epoch =>
    have held := (locks.dispatches.alone rfl).1
    cases ran
    rw [Effect.acts_code]
    split
    · exact locks.replace _ rfl (by simp [held,Act.dispatches]) rfl
    split
    all_goals exact locks.replace _ rfl (by simp [held,Act.dispatches]) rfl
  case watch epoch =>
    split at ran
    · cases ran
      exact locks.go _ rfl rfl rfl rfl
    split at ran
    · cases ran
      exact locks.go _ (b.recoveryHandover_locks epoch choice.snapshot) rfl rfl rfl
    cases ran
    have plain : ∀ new : Act, new = .failStart epoch ∨ new = .watch epoch ∨ new = .started epoch → Locks b ([new] ++ others) := by
      rintro new (rfl | rfl | rfl)
      all_goals exact locks.go _ rfl rfl rfl rfl
    exact plain _ (watched_cases _ _ _ _)
  case ensureNativeStop epoch retire =>
    have same := b.ensureNativeStop_locks epoch
    generalize b.ensureNativeStop epoch = result at same ran
    obtain ⟨next,runs⟩ := result
    cases ran
    cases runs <;> cases retire
    all_goals exact locks.go _ same rfl rfl rfl
  case stop corr =>
    split at ran
    · cases ran
      exact locks.go _ rfl rfl rfl rfl
    rename_i key _
    have same := b.stop_locks key
    split at ran
    all_goals
      rename_i found
      rw [found] at same
      cases ran
      exact locks.go _ same rfl rfl rfl
  case hold hold =>
    cases ran
    refine locks.holdOn rfl rfl fun act goes => ?_
    obtain ⟨held,_,rfl⟩ := Option.map_eq_some_iff.mp goes
    rfl
  case holdGate held =>
    cases ran
    refine locks.holdOn rfl rfl fun act goes => ?_
    obtain ⟨_,same⟩ := Option.ite_none_left_eq_some.mp goes
    cases same
    rfl
  case holdSource held =>
    cases ran
    exact locks.holdOn rfl rfl fun act goes => live_holds goes
  case holdFence | holdActivate =>
    cases ran
    refine locks.holdOn rfl rfl fun act goes => ?_
    obtain ⟨_,same⟩ := Option.ite_none_right_eq_some.mp goes
    cases same
    rfl
  case holdActivated held activated =>
    cases ran
    exact locks.holdOn (b.holdActivated_locks held activated) rfl fun _ goes => nomatch goes
  case holdRecord held =>
    cases ran
    exact locks.holdOn (b.holdRecord_locks held) rfl fun _ goes => nomatch goes

end

end EbusGateway.EbusControl
