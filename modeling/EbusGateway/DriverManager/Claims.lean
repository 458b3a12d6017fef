import EbusGateway.DriverManager.Operations

/-! Who speaks for a driver. The operation lock has one holder, an operation is claimed by at most one
goroutine, and at most one carries out a construction.
-/
namespace EbusGateway.DriverManager
open Library List

namespace Act

/-- Actions performed under the operation lock. -/
def inLock : Act → Bool
  | .cancelRetryLocked _ | .run _ | .cancelAttempt .. | .runtimeStop .. | .stopped .. | .unlock _ => true
  | _ => false

def stopping : Act → Bool
  | .cancelAttempt _ none _ _ | .runtimeStop .. | .stopped .. => true
  | _ => false

theorem inLock_of_stopping {act : Act} (stopping : act.stopping = true) : act.inLock = true := by
  unfold Act.stopping at stopping
  split at stopping
  · rfl
  · rfl
  · rfl
  · cases stopping

/-- A stop that has not reached the driver's state yet. -/
def stopAhead : Act → Bool
  | .cancelRetry .stop _ | .cancelActive | .lock .stop | .cancelRetryLocked .stop | .run .stop => true
  | _ => false

/-- The operation for which an action will install an attempt. -/
def claim : Act → Option Nat
  | .beginTask operation _ | .startAttempt operation _ _ => some operation
  | _ => none

/-- The attempt that an action is constructing or finishing. -/
def holds : Act → Option Attempt
  | .construct attempt | .constructed attempt | .judge attempt _ _ | .hold attempt _ | .rejudge attempt _ _ => some attempt
  | .retireSuperseded attempt _ | .supersededStopped attempt _ => some attempt
  | .retireHeld attempt _ _ | .heldStopped attempt _ _ | .finishAttempt attempt _ _ _ _ => some attempt
  | _ => none

def beyond : Act → Bool
  | .closeManager | .cancelRetry .. | .cancelActive | .lock _ => false
  | act => !act.inLock

/-- The attempt that an action has finished. -/
def leaves : Act → Option Attempt
  | .observe _ attempt | .publish _ (some attempt) | .release attempt => some attempt
  | _ => none

end Act

/-- One action at most is under the lock, and a stop under way has set what is desired. -/
structure Locked (opMu closed : Bool) (desired : DesiredState) (acts : List Act) : Prop where
  mutex : acts.countP Act.inLock = opMu.toNat
  intent : ∀ act ∈ acts, act.stopping = true → desired = .stopped
  ahead : closed = true → desired = .stopped ∨ ∃ act ∈ acts, act.stopAhead = true

namespace Locked
variable {opMu closed : Bool} {desired next : DesiredState} {act new : Act} {acts others : List Act}

theorem perm (same : acts.Perm others) (locked : Locked opMu closed desired acts) : Locked opMu closed desired others := by
  refine ⟨same.countP_eq _ ▸ locked.mutex,fun act mem => locked.intent act (same.mem_iff.mpr mem),fun shut => ?_⟩
  refine (locked.ahead shut).imp_right fun ⟨act,mem,ahead⟩ => ⟨act,same.mem_iff.mp mem,ahead⟩

theorem add (locked : Locked opMu closed desired acts) (outside : new.inLock = false) : Locked opMu closed desired (new :: acts) := by
  refine ⟨by rw [countP_cons_of_neg (by simp [outside]),locked.mutex],?_,fun shut => ?_⟩
  · rintro act (_ | ⟨_,mem⟩) stopping
    · cases outside.symm.trans (Act.inLock_of_stopping stopping)
    · exact locked.intent act mem stopping
  · exact (locked.ahead shut).imp_right fun ⟨act,mem,ahead⟩ => ⟨act,mem_cons_of_mem _ mem,ahead⟩

theorem adds {news : List Act} (locked : Locked opMu closed desired acts) (outside : ∀ new ∈ news, new.inLock = false) :
    Locked opMu closed desired (news ++ acts) := by
  induction news with
  | nil => exact locked
  | cons new news ih =>
    obtain ⟨first,rest⟩ := forall_mem_cons.mp outside
    exact (ih rest).add first

section
variable (locked : Locked opMu closed desired (act :: others))
include locked

theorem drop (outside : act.inLock = false) (before : act.stopAhead = false) : Locked opMu closed desired others := by
  refine ⟨by rw [← locked.mutex,countP_cons_of_neg (by simp [outside])],fun act mem => locked.intent act (by simp [mem]),
    fun shut => (locked.ahead shut).imp_right ?_⟩
  rintro ⟨found,_ | ⟨_,mem⟩,ahead⟩
  · cases before.symm.trans ahead
  · exact ⟨found,mem,ahead⟩

theorem replace (same : new.inLock = act.inLock)
    (stopping : new.stopping = true → act.stopping = true) (ahead : act.stopAhead = true → new.stopAhead = true) :
    Locked opMu closed desired (new :: others) := by
  refine ⟨by rw [← locked.mutex,countP_cons,countP_cons,same],?_,fun shut => (locked.ahead shut).imp_right ?_⟩
  · rintro found (_ | ⟨_,mem⟩) stops
    · exact locked.intent act mem_cons_self (stopping stops)
    · exact locked.intent found (.tail _ mem) stops
  · rintro ⟨found,_ | ⟨_,mem⟩,before⟩
    · exact ⟨new,.head _,ahead before⟩
    · exact ⟨found,mem_cons_of_mem _ mem,before⟩

theorem others_outside (inside : act.inLock = true) : opMu = true ∧ ∀ other ∈ others, other.inLock = false := by
  have mutex := locked.mutex
  rw [countP_cons_of_pos inside] at mutex
  cases opMu with
  | false => cases mutex
  | true => exact ⟨rfl,fun other mem => by simpa using countP_eq_zero.mp (Nat.succ.inj mutex) other mem⟩

theorem intend (inside : act.inLock = true)
    (allowed : closed = true → next = .stopped ∨ next = desired ∧ act.stopAhead = false) : Locked false closed next others := by
  obtain ⟨_,outside⟩ := locked.others_outside inside
  refine ⟨?_,?_,fun shut => ?_⟩
  · exact countP_eq_zero.mpr fun other mem => by simp [outside other mem]
  · intro other mem stopping
    cases (outside other mem).symm.trans (Act.inLock_of_stopping stopping)
  · obtain rfl | ⟨rfl,before⟩ := allowed shut
    · exact .inl rfl
    · refine (locked.ahead shut).imp_right ?_
      rintro ⟨found,_ | ⟨_,mem⟩,ahead⟩
      · cases before.symm.trans ahead
      · exact ⟨found,mem,ahead⟩

end

theorem acquire (locked : Locked false closed desired (act :: others)) (outside : act.inLock = false) (inside : new.inLock = true)
    (early : new.stopping = false) (ahead : act.stopAhead = true → new.stopAhead = true) :
    Locked true closed desired (new :: others) := by
  have mutex := locked.mutex
  rw [countP_cons_of_neg (by simp [outside])] at mutex
  refine ⟨by rw [countP_cons_of_pos inside,mutex]; rfl,?_,fun shut => (locked.ahead shut).imp_right ?_⟩
  · rintro found (_ | ⟨_,mem⟩) stops
    · cases early.symm.trans stops
    · exact locked.intent found (.tail _ mem) stops
  · rintro ⟨found,_ | ⟨_,mem⟩,before⟩
    · exact ⟨new,.head _,ahead before⟩
    · exact ⟨found,mem_cons_of_mem _ mem,before⟩

theorem enter (locked : Locked false closed desired acts) (inside : new.inLock = true)
    (stopping : new.stopping = true → desired = .stopped) : Locked true closed desired (new :: acts) := by
  refine ⟨by rw [countP_cons_of_pos inside,locked.mutex]; rfl,?_,fun shut => ?_⟩
  · rintro found (_ | ⟨_,mem⟩) stops
    · exact stopping stops
    · exact locked.intent found mem stops
  · exact (locked.ahead shut).imp_right fun ⟨act,mem,ahead⟩ => ⟨act,mem_cons_of_mem _ mem,ahead⟩

end Locked

/-- One attempt at most is held, and an operation is claimed once. -/
structure Claimed (s : Slot) (acts : List Act) : Prop where
  one : acts.countP (fun act => act.holds.isSome) ≤ 1
  held : ∀ act ∈ acts, ∀ attempt, act.holds = some attempt →
    s.activeAttempt = some attempt.id ∧ 0 < attempt.operation ∧ attempt.id < s.attempts
  left : ∀ act ∈ acts, ∀ attempt, act.leaves = some attempt → attempt.id < s.attempts
  apart : ∀ act ∈ acts, ∀ attempt, act.holds = some attempt →
    ∀ other ∈ acts, ∀ gone, other.leaves = some gone → attempt.id ≠ gone.id
  claims : ∀ act ∈ acts, ∀ operation, act.claim = some operation →
    0 < operation ∧ operation ≤ s.operationSeq ∧ (s.activeOperation = operation → s.activeAttempt = none)
  single : acts.countP (fun act => act.claim == some s.activeOperation) ≤ 1
  issued : s.activeOperation ≤ s.operationSeq
  settled : s.observed = .running ∨ s.observed = .degraded → s.activeOperation = 0 ∧ s.activeAttempt = none
  backoff : s.observed = .backoff →
    0 < s.activeOperation ∧ s.activeAttempt = none ∧ ∀ act ∈ acts, act.claim ≠ some s.activeOperation
  active : 0 < s.activeOperation → s.desired = .running →
    (s.observed = .starting ∨ s.observed = .stopping ∨ s.observed = .backoff) ∧ s.quarantined = false

namespace Claimed
variable {s next : Slot} {act new : Act} {acts others : List Act}

theorem fewer (claimed : Claimed s acts) (some_of : others.Subperm acts) : Claimed s others := {claimed with
  one := (some_of.countP_le _).trans claimed.one
  held act mem := claimed.held act (some_of.subset mem)
  left act mem := claimed.left act (some_of.subset mem)
  apart act mem attempt holds other inside := claimed.apart act (some_of.subset mem) attempt holds other (some_of.subset inside)
  claims act mem := claimed.claims act (some_of.subset mem)
  single := (some_of.countP_le _).trans claimed.single
  backoff waits := ⟨(claimed.backoff waits).1,(claimed.backoff waits).2.1,fun act mem =>
    (claimed.backoff waits).2.2 act (some_of.subset mem)⟩}

theorem perm (same : acts.Perm others) (claimed : Claimed s acts) : Claimed s others := claimed.fewer same.symm.subperm

theorem drop (claimed : Claimed s (act :: others)) : Claimed s others := claimed.fewer (sublist_cons_self act others).subperm

theorem fresh (claimed : Claimed s acts) : ∀ act ∈ acts, act.claim ≠ some (s.operationSeq + 1) :=
  fun act mem claims => Nat.not_succ_le_self _ (claimed.claims act mem _ claims).2.1

variable {attempt : Attempt}

theorem others_hold_none (claimed : Claimed s (act :: others)) (holds : act.holds = some attempt) :
    ∀ other ∈ others, other.holds = none := by
  have one := claimed.one
  rw [countP_cons_of_pos (by simp [holds])] at one
  intro other mem
  simpa using countP_eq_zero.mp (Nat.le_zero.mp (Nat.le_of_succ_le_succ one)) other mem

theorem none_holds (claimed : Claimed s acts) (idle : s.activeAttempt = none) : ∀ act ∈ acts, act.holds = none := by
  intro act mem
  cases holds : act.holds with
  | none => rfl
  | some attempt => cases idle.symm.trans (claimed.held act mem attempt holds).1

theorem unclaimed (claimed : Claimed s acts) (busy : s.activeAttempt ≠ none) : ∀ act ∈ acts, act.claim ≠ some s.activeOperation :=
  fun act mem claims => busy ((claimed.claims act mem _ claims).2.2 rfl)

theorem not_idle (claimed : Claimed s acts) (positive : 0 < s.activeOperation) (running : s.desired = .running) :
    ¬(s.quarantined = true ∨ s.observed = .stopped ∨ s.observed = .disabled) := by
  obtain ⟨shown,safe⟩ := claimed.active positive running
  rintro (unsafeClose | now | now)
  · cases safe.symm.trans unsafeClose
  all_goals
    rw [now] at shown
    rcases shown with shown | shown | shown <;> cases shown

theorem same (claimed : Claimed s (act :: others)) (claim : new.claim = act.claim) (holds : new.holds = act.holds)
    (leaves : new.leaves = act.leaves) : Claimed s (new :: others) := by
  obtain ⟨one,held,left,apart,claims,single,issued,settled,backoff,active⟩ := claimed
  simp only [countP_cons,forall_mem_cons,← holds,← leaves,← claim] at one held left apart claims single backoff
  refine ⟨?_,?_,?_,?_,?_,?_,issued,settled,?_,active⟩
  all_goals
    simp only [countP_cons,forall_mem_cons]
    assumption

theorem join (claimed : Claimed s acts) (claim : new.claim = none) (holds : new.holds = none) (leaves : new.leaves = none) :
    Claimed s (new :: acts) := by
  obtain ⟨one,held,left,apart,claims,single,issued,settled,backoff,active⟩ := claimed
  refine ⟨?_,?_,?_,?_,?_,?_,issued,settled,?_,active⟩
  all_goals
    simp only [countP_cons,forall_mem_cons,claim,holds,leaves]
    simp
    assumption

theorem leave (claimed : Claimed s (act :: others)) (was : act.holds = some attempt) (claim : new.claim = none)
    (holds : new.holds = none) (leaves : new.leaves = some attempt) : Claimed s (new :: others) := by
  have alone := claimed.others_hold_none was
  have fresh := (claimed.held act mem_cons_self attempt was).2.2
  obtain ⟨one,held,left,apart,claims,single,issued,settled,backoff,active⟩ := claimed.drop
  refine ⟨?_,?_,?_,?_,?_,?_,issued,settled,?_,active⟩
  all_goals simp only [countP_cons,forall_mem_cons,claim,holds,leaves]
  all_goals simp
  all_goals try assumption
  · exact ⟨fresh,left⟩
  · intro other mem attempt holds
    rw [alone other mem] at holds
    cases holds

/-- The slot moves on while the actions stay. -/
theorem move (claimed : Claimed s acts) (attempts : s.attempts ≤ next.attempts) (seq : s.operationSeq ≤ next.operationSeq)
    (attempt : next.activeAttempt = s.activeAttempt ∨ next.activeAttempt = none ∧ ∀ act ∈ acts, act.holds = none)
    (op : next.activeOperation = s.activeOperation ∨ next.activeOperation = 0 ∨
      s.operationSeq < next.activeOperation ∧ next.activeOperation ≤ next.operationSeq)
    (settled : next.observed = .running ∨ next.observed = .degraded → next.activeOperation = 0 ∧ next.activeAttempt = none)
    (backoff : next.observed = .backoff → 0 < next.activeOperation ∧ next.activeAttempt = none ∧
      ∀ act ∈ acts, act.claim ≠ some next.activeOperation)
    (active : 0 < next.activeOperation → next.desired = .running →
      (next.observed = .starting ∨ next.observed = .stopping ∨ next.observed = .backoff) ∧ next.quarantined = false) :
    Claimed next acts := {claimed with
  held act mem found holds := by
    obtain ⟨current,positive,old⟩ := claimed.held act mem found holds
    rcases attempt with kept | ⟨_,alone⟩
    · exact ⟨kept.trans current,positive,old.trans_le attempts⟩
    · cases (alone act mem).symm.trans holds
  left act mem found leaves := (claimed.left act mem found leaves).trans_le attempts
  claims act mem found claims := by
    obtain ⟨positive,old,idle⟩ := claimed.claims act mem found claims
    refine ⟨positive,old.trans seq,?_⟩
    rintro rfl
    rcases attempt with kept | ⟨none,_⟩
    · rcases op with stays | ended | ⟨new,_⟩
      · rw [kept,idle stays.symm]
      · omega
      · omega
    · exact none
  single := by
    rcases op with stays | ended | ⟨new,_⟩
    · rw [stays]
      exact claimed.single
    all_goals
      refine (countP_eq_zero.mpr fun act mem => ?_).le.trans (Nat.zero_le 1)
      intro claims
      obtain ⟨positive,old,_⟩ := claimed.claims act mem _ (by simpa using claims)
      omega
  issued := by
    have := claimed.issued
    omega
  settled := settled
  backoff := backoff
  active := active}

theorem claimOf (claimed : Claimed s acts) (idle : s.activeAttempt = none) (positive : 0 < s.activeOperation)
    (waits : s.observed ≠ .backoff) (fresh : ∀ act ∈ acts, act.claim ≠ some s.activeOperation)
    (claim : new.claim = some s.activeOperation) (holds : new.holds = none)
    (leaves : new.leaves = none) : Claimed s (new :: acts) := by
  have alone := claimed.none_holds idle
  obtain ⟨one,held,left,apart,claims,single,issued,settled,backoff,active⟩ := claimed
  refine ⟨?_,?_,?_,?_,?_,?_,issued,settled,?_,active⟩
  all_goals simp only [countP_cons,forall_mem_cons,claim,holds,leaves]
  all_goals simp
  all_goals try assumption
  exact ⟨⟨positive,issued,idle⟩,claims⟩

/-- The action that has the claim installs its attempt. -/
theorem install (claimed : Claimed s (act :: others)) (claims : act.claim = some s.activeOperation)
    (id : attempt.id = s.attempts) (op : attempt.operation = s.activeOperation) (claim : new.claim = none)
    (holds : new.holds = some attempt) (leaves : new.leaves = none) :
    Claimed {s with activeAttempt := some s.attempts, attempts := s.attempts + 1} (new :: others) := by
  obtain ⟨positive,_,idle⟩ := claimed.claims act mem_cons_self _ claims
  have alone := claimed.none_holds (idle rfl)
  have single := claimed.single
  rw [countP_cons_of_pos (by simp [claims])] at single
  have unclaimed := countP_eq_zero.mp (Nat.le_zero.mp (Nat.le_of_succ_le_succ single))
  have waits : s.observed ≠ .backoff := fun now => (claimed.backoff now).2.2 act mem_cons_self claims
  have unsettled : ¬(s.observed = .running ∨ s.observed = .degraded) := fun now => by
    have := (claimed.settled now).1
    omega
  have none : others.countP (fun act => act.holds.isSome) = 0 := by
    rw [countP_eq_zero]
    intro act mem
    rw [alone act (.tail _ mem)]
    exact Bool.false_ne_true
  obtain ⟨one,held,left,apart,claims,single,issued,settled,backoff,active⟩ := claimed.drop
  refine ⟨?_,?_,?_,?_,?_,?_,issued,fun now => absurd now unsettled,fun now => absurd now waits,active⟩
  all_goals simp only [countP_cons,forall_mem_cons,claim,holds,leaves]
  · simp [none]
  · refine ⟨?_,fun other mem attempt holds => ?_⟩
    · rintro _ ⟨⟩
      exact ⟨by rw [id],op ▸ positive,by rw [id]; exact Nat.lt_succ_self _⟩
    · rw [alone other (.tail _ mem)] at holds
      cases holds
  · exact ⟨nofun,fun other mem attempt leaves => (left other mem attempt leaves).trans (Nat.lt_succ_self _)⟩
  · refine ⟨?_,fun other mem attempt holds => ?_⟩
    · rintro _ ⟨⟩
      refine ⟨nofun,fun other mem gone leaves => ?_⟩
      have := left other mem gone leaves
      omega
    · rw [alone other (.tail _ mem)] at holds
      cases holds
  · refine ⟨nofun,fun other mem found claims' => ?_⟩
    obtain ⟨above,below,_⟩ := claims other mem found claims'
    refine ⟨above,below,?_⟩
    rintro rfl
    exact absurd (by simpa using claims') (unclaimed other mem)
  · simpa using single

theorem clear (claimed : Claimed s acts) {id : Nat} (nobody : s.activeAttempt = some id → ∀ act ∈ acts, act.holds = none) :
    Claimed {s with activeAttempt := if s.activeAttempt = some id then none else s.activeAttempt} acts := by
  by_cases mine : s.activeAttempt = some id
  · rw [if_pos mine]
    refine claimed.move le_rfl le_rfl (.inr ⟨rfl,nobody mine⟩) (.inl rfl) ?_ ?_ claimed.active
    · exact fun now => ⟨(claimed.settled now).1,rfl⟩
    · exact fun now => ⟨(claimed.backoff now).1,rfl,(claimed.backoff now).2.2⟩
  · rw [if_neg mine]
    exact claimed

end Claimed

theorem Claimed.fails {s next : Slot} {acts : List Act} (claimed : Claimed s acts)
    (fails : s.Fails next) (safe : s.quarantined = false)
    (current : 0 < s.activeOperation) (idle : s.activeAttempt = none) (unclaimed : ∀ act ∈ acts, act.claim ≠ some s.activeOperation) :
    Claimed next acts := by
  cases fails with
  | ends quarantined unsafeClose => exact claimed.move le_rfl le_rfl (.inl rfl) (.inr (.inl rfl)) nofun nofun nofun
  | retries =>
    exact claimed.move le_rfl le_rfl (.inl rfl) (.inl rfl) nofun (fun _ => ⟨current,idle,unclaimed⟩) fun _ _ => ⟨.inr (.inr rfl),safe⟩

section
variable {config : DriverConfig} {choice : Choice} {act : Act} {d : Driver} {effect : Outcome}
    {others : List Act} {op : Operation} {attempt : Attempt}

theorem ran_locked (ran : Ran config d op effect) (locked : Locked d.opMu d.closed d.desired (.run op :: others)) :
    Locked effect.shared.opMu effect.shared.closed effect.shared.desired (effect.acts ++ others) := by
  have outside (other : op ≠ .stop) : (Act.run op).stopAhead = false := by
    cases op <;> first | rfl | exact absurd rfl other
  cases ran with
  | refused other => exact locked.intend rfl fun _ => .inr ⟨rfl,outside other⟩
  | reserved other running safe idle begins claims =>
    have entered : Locked false d.closed .running others := locked.intend rfl fun shut => by cases running.symm.trans shut
    obtain ⟨replacing,rfl | rfl⟩ := claims
    · exact entered.add rfl
    · exact entered.add rfl
  | retried other running safe current backoff => exact (locked.intend rfl fun _ => .inr ⟨rfl,outside other⟩).add rfl
  | @unneeded observed next report slot frame shown idle =>
    obtain ⟨opMu,closed,_⟩ := frame_fields frame
    have desired : next.desired = .stopped := congrArg Slot.desired slot
    have held := (locked.others_outside rfl).1
    have intended : Locked false d.closed .stopped others := locked.intend rfl fun _ => .inl rfl
    rw [opMu,closed,desired,held]
    exact intended.enter rfl nofun
  | stops =>
    have held := (locked.others_outside rfl).1
    have intended : Locked false d.closed .stopped others := locked.intend rfl fun _ => .inl rfl
    change Locked d.opMu d.closed .stopped _
    rw [held]
    exact intended.enter rfl fun _ => rfl

theorem perform_beyond (ran : perform config choice act d = some effect) (beyond : act.beyond = true) :
    effect.shared.opMu = d.opMu ∧ effect.shared.closed = d.closed ∧
      effect.shared.desired = d.desired ∧ ∀ new ∈ effect.acts, new.inLock = false := by
  have task {forked : List (Thread Unit Act)} (task : RetryTask forked) : ∀ new ∈ forked.flatMap (·.code), new.inLock = false := by
    rcases task with rfl | ⟨op,token,rfl⟩ <;> simp [Act.inLock]
  cases act with
  | publish report after =>
    cases ran
    cases after <;> simp [Effect.acts,Act.inLock]
  | finishAttempt attempt gen err replacing held =>
    have first : (held.elim (Act.release attempt) (.observe · attempt)).inLock = false := by cases held <;> rfl
    obtain ⟨_,same⟩ | ⟨_,_,next,forked,same,tasks,published | failed⟩ :=
      d.finishAttempt_cases config attempt gen err replacing (config.runtime && choice.quarantined)
    all_goals
      simp only [perform,same] at ran
      cases ran
    · refine ⟨rfl,rfl,rfl,?_⟩
      simpa [Effect.acts] using first
    · obtain ⟨_,slot,frame⟩ := published
      simp only [Driver.frame,Prod.mk.injEq] at frame
      refine ⟨frame.1,frame.2.1,congrArg Slot.desired slot,?_⟩
      simp only [Effect.acts,singleton_append,forall_mem_cons]
      exact ⟨first,task tasks⟩
    · obtain ⟨_,fails,frame⟩ := failed
      obtain ⟨opMu,closed,_⟩ := frame_fields frame
      refine ⟨opMu,closed,fails.desired,?_⟩
      simp only [Effect.acts,singleton_append,forall_mem_cons]
      exact ⟨first,task tasks⟩
  | reportFailure correlation failure =>
    obtain same | ⟨_,_,_,fails,frame,tasks⟩ := d.reportFailure_cases config correlation failure
    · simp only [perform,same] at ran
      cases ran
      exact ⟨rfl,rfl,rfl,by simp [Effect.acts]⟩
    · cases ran
      obtain ⟨opMu,closed,_⟩ := frame_fields frame
      exact ⟨opMu,closed,fails.desired,task tasks⟩
  | reportDegraded correlation effective reason =>
    cases ran
    obtain same | ⟨_,slot,frame⟩ := d.reportDegraded_cases config correlation effective reason
    · exact ⟨by rw [same],by rw [same],by rw [same],by simp [Effect.acts]⟩
    · obtain ⟨opMu,closed,_⟩ := frame_fields frame
      exact ⟨opMu,closed,congrArg Slot.desired slot,by simp [Effect.acts]⟩
  | run | closeManager | cancelActive | cancelRetry | cancelRetryLocked | lock | cancelAttempt |
    runtimeStop | stopped | unlock => cases beyond
  | _ =>
    simp only [perform] at ran
    repeat' split at ran
    all_goals cases ran
    all_goals
      try unfold Option.elim
      repeat' split
      all_goals simp [Effect.acts,Act.inLock,Driver.quarantine,Driver.transition,Driver.clearAttempt,Driver.logged]

/-- Every action keeps the lock's account. -/
theorem perform_locked (ran : perform config choice act d = some effect) (locked : Locked d.opMu d.closed d.desired (act :: others)) :
    Locked effect.shared.opMu effect.shared.closed effect.shared.desired (effect.acts ++ others) := by
  cases act with
  | closeManager =>
    cases ran
    have rest := locked.drop rfl rfl
    have joined : Locked d.opMu d.closed d.desired (.cancelRetry .stop true :: others) := rest.add rfl
    exact ⟨joined.mutex,joined.intent,fun _ => .inr ⟨_,.head _,rfl⟩⟩
  | cancelRetry op shutdown =>
    cases ran
    cases shutdown
    · refine locked.replace rfl nofun fun ahead => ?_
      cases op <;> first | rfl | cases ahead
    · exact locked.replace rfl nofun fun _ => rfl
  | cancelActive =>
    cases ran
    exact locked.replace rfl nofun fun _ => rfl
  | lock op =>
    simp only [perform] at ran
    split at ran
    · cases ran
    rename_i free
    cases ran
    rw [Bool.not_eq_true] at free
    rw [free] at locked
    cases op with
    | stop => exact locked.acquire rfl rfl rfl fun _ => rfl
    | _ => exact locked.acquire rfl rfl rfl nofun
  | cancelRetryLocked op =>
    cases ran
    refine locked.replace rfl nofun fun ahead => ?_
    cases op <;> first | rfl | cases ahead
  | run op =>
    cases ran
    exact ran_locked (runOperation_ran config choice op d) locked
  | cancelAttempt attempt found gen operation =>
    cases ran
    cases found
    · exact locked.replace rfl (fun _ => rfl) nofun
    · exact locked.replace rfl nofun nofun
  | runtimeStop gen operation =>
    cases ran
    cases config.runtime
    · exact locked.replace rfl (fun _ => rfl) nofun
    · exact locked.replace rfl (fun _ => rfl) nofun
  | stopped gen operation =>
    cases ran
    obtain ⟨observed,quarantined,_,_,slot,frame⟩ :=
      d.stopped_effect (if config.runtime then choice.err else none) (config.runtime && choice.again)
    obtain ⟨opMu,closed,_⟩ := frame_fields frame
    have desired := congrArg Slot.desired slot
    change (d.stopped _ _).desired = d.desired at desired
    dsimp only
    rw [opMu,closed,desired]
    exact locked.replace rfl nofun nofun
  | unlock report =>
    cases ran
    exact (locked.intend rfl fun _ => .inr ⟨rfl,rfl⟩).add rfl
  | _ =>
    obtain ⟨opMu,closed,desired,outside⟩ := perform_beyond ran rfl
    rw [opMu,closed,desired]
    exact (locked.drop rfl rfl).adds outside

theorem Claimed.fork {s : Slot} {acts : List Act} {forked : List (Thread Unit Act)}
    (task : RetryTask forked) (claimed : Claimed s acts) :
    Claimed s (forked.flatMap (·.code) ++ acts) := by
  rcases task with rfl | ⟨op,token,rfl⟩
  · exact claimed
  · exact claimed.join rfl rfl rfl

theorem ran_claimed (ran : Ran config d op effect) (claimed : Claimed d.slot (.run op :: others)) :
    Claimed effect.shared.slot (effect.acts ++ others) := by
  have rest := claimed.drop
  cases ran with
  | refused other => exact rest
  | @reserved op observed reason new other running safe idle begins claims =>
    have moved : Claimed (d.reserve config observed reason).slot others := by
      refine rest.move le_rfl (Nat.le_succ _) (.inl rfl) (.inr (.inr ⟨Nat.lt_succ_self _,le_rfl⟩)) ?_ ?_ fun _ _ => ⟨?_,safe⟩
      · rintro (now | now) <;> rcases begins with rfl | rfl <;> cases now
      · intro now
        rcases begins with rfl | rfl <;> cases now
      · exact begins.imp_right .inl
    have waits : (d.reserve config observed reason).slot.observed ≠ .backoff := by
      intro now
      rcases begins with rfl | rfl <;> cases now
    obtain ⟨replacing,rfl | rfl⟩ := claims
    all_goals exact moved.claimOf idle (Nat.succ_pos _) waits rest.fresh rfl rfl rfl
  | @retried op operation other running safe current backoff =>
    obtain ⟨positive,idle,unclaimed⟩ := rest.backoff backoff
    have moved : Claimed {d.slot with observed := .starting} others :=
      rest.move le_rfl le_rfl (.inl rfl) (.inl rfl) nofun nofun fun _ _ => ⟨.inl rfl,safe⟩
    obtain ⟨rfl,_⟩ := not_superseded current
    exact moved.claimOf idle positive nofun unclaimed rfl rfl rfl
  | @unneeded observed next report slot frame shown idle =>
    rw [slot]
    refine Claimed.join (rest.move le_rfl le_rfl (.inl rfl) (.inl rfl) ?_ ?_ nofun) rfl rfl rfl
    · intro now
      rcases shown with rfl | rfl
      · rcases now with now | now <;> cases now
      · exact rest.settled now
    · intro now
      rcases shown with rfl | rfl
      · cases now
      · exact rest.backoff now
  | stops =>
    refine Claimed.join (rest.move le_rfl (Nat.le_succ _) (.inl rfl)
      (.inr (.inr ⟨Nat.lt_succ_self _,le_rfl⟩)) ?_ ?_ nofun) rfl rfl rfl
    · rintro (now | now) <;> cases now
    · nofun

private theorem Claimed.end {s : Slot} {new : Act} (claimed : Claimed s (act :: others)) (was : act.holds = some attempt)
    (claim : new.claim = none) (holds : new.holds = none) (leaves : new.leaves = some attempt) :
    Claimed {s with activeAttempt := if s.activeAttempt = some attempt.id then none else s.activeAttempt} (new :: others) := by
  refine (claimed.leave was claim holds leaves).clear fun _ => ?_
  exact forall_mem_cons.mpr ⟨holds,claimed.others_hold_none was⟩

private theorem finish_claimed {gen : Nat} {err : Option RuntimeError} {replacing : Bool} {new : Act}
    (claimed : Claimed d.slot (act :: others)) (holds : act.holds = some attempt) (flag : Bool) (claim : new.claim = none)
    (gone : new.holds = none) (leaves : new.leaves = some attempt) :
    Claimed (d.finishAttempt config attempt gen err replacing flag).1.slot
      (new :: ((d.finishAttempt config attempt gen err replacing flag).2.flatMap (·.code) ++ others)) := by
  have left : Claimed (d.clearAttempt attempt).slot (new :: others) := claimed.end holds claim gone leaves
  obtain ⟨mine,positive,_⟩ := claimed.held act mem_cons_self attempt holds
  have idle : (d.clearAttempt attempt).slot.activeAttempt = none := if_pos mine
  have unclaimed := claimed.unclaimed (by rw [mine]; nofun)
  have unclaimed : ∀ act ∈ new :: others, act.claim ≠ some d.activeOperation :=
    forall_mem_cons.mpr ⟨by rw [claim]; nofun,fun act mem => unclaimed act (.tail _ mem)⟩
  obtain ⟨_,same⟩ | ⟨_,current,next,forked,same,tasks,⟨_,slot,_⟩ | ⟨_,fails,_⟩⟩ :=
    d.finishAttempt_cases config attempt gen err replacing flag
  all_goals rw [same]
  · exact left
  · have moved : Claimed next.slot (new :: others) := by
      rw [slot]
      exact left.move le_rfl le_rfl (.inl rfl) (.inr (.inl rfl)) (fun _ => ⟨rfl,idle⟩) nofun nofun
    exact (moved.fork tasks).perm perm_middle
  · obtain ⟨same,running⟩ := not_superseded current
    have positive : 0 < d.activeOperation := same ▸ positive
    exact ((left.fails fails (claimed.active positive running).2 positive idle unclaimed).fork tasks).perm perm_middle

/-- Every action keeps the account of attempts and claims. -/
theorem perform_claimed (ran : perform config choice act d = some effect)
    (locked : Locked d.opMu d.closed d.desired (act :: others)) (claimed : Claimed d.slot (act :: others)) :
    Claimed effect.shared.slot (effect.acts ++ others) := by
  cases act with
  | run op =>
    cases ran
    exact ran_claimed (runOperation_ran config choice op d) claimed
  | stopped gen operation =>
    cases ran
    obtain ⟨observed,quarantined,shown,_,slot,_⟩ :=
      d.stopped_effect (if config.runtime then choice.err else none) (config.runtime && choice.again)
    dsimp only
    rw [slot]
    refine Claimed.join (claimed.drop.move le_rfl le_rfl (.inl rfl) (.inr (.inl rfl)) ?_ ?_ nofun) rfl rfl rfl
    · rintro (now | now) <;> rcases shown with rfl | rfl <;> cases now
    · intro now
      rcases shown with rfl | rfl <;> cases now
  | publish report after =>
    cases ran
    cases after with
    | none => exact claimed.drop
    | some attempt => exact claimed.same rfl rfl rfl
  | startAttempt operation replacing retry =>
    simp only [perform] at ran
    split at ran
    · cases ran
      exact claimed.drop
    rename_i current
    cases ran
    obtain ⟨current,_⟩ := Bool.or_eq_false_iff.mp (Bool.eq_false_iff.mpr current)
    obtain ⟨rfl,_⟩ := not_superseded current
    exact claimed.install rfl rfl rfl rfl rfl rfl
  | supersededStopped attempt gen =>
    cases ran
    cases choice.err.isSome || choice.quarantined
    · exact claimed.leave rfl rfl rfl rfl
    · exact Claimed.move (s := d.slot) (claimed.leave rfl rfl rfl rfl) le_rfl le_rfl (.inl rfl) (.inr (.inl rfl)) nofun nofun nofun
  | heldStopped attempt gen holdErr =>
    simp only [perform] at ran
    split at ran
    · cases ran
      exact claimed.same rfl rfl rfl
    · cases ran
      exact Claimed.move (s := (d.clearAttempt attempt).slot) (claimed.end rfl rfl rfl rfl) le_rfl le_rfl (.inl rfl) (.inr (.inl rfl))
        nofun nofun nofun
  | finishAttempt attempt gen err replacing held =>
    cases ran
    cases held <;> exact finish_claimed claimed rfl _ rfl rfl rfl
  | release attempt =>
    cases ran
    refine claimed.drop.clear fun mine act mem => ?_
    cases holds : act.holds with
    | none => rfl
    | some other =>
      have inside := mem_cons_of_mem (.release attempt) mem
      obtain ⟨active,_⟩ := claimed.held act inside other holds
      cases claimed.apart act inside other holds _ mem_cons_self attempt rfl (Option.some.inj (active.symm.trans mine))
  | reportFailure correlation failure =>
    obtain same | ⟨_,settled,safe,fails,_,tasks⟩ := d.reportFailure_cases config correlation failure
    · simp only [perform,same] at ran
      cases ran
      exact claimed.drop
    cases ran
    have rest := claimed.drop
    have idle := (rest.settled (settled_cases settled)).2
    change Claimed (d.reportFailure config correlation failure).1.slot
      ((d.reportFailure config correlation failure).2.flatMap (·.code) ++ others)
    refine Claimed.fork tasks ?_
    generalize (d.reportFailure config correlation failure).1.slot = next at fails
    cases fails with
    | ends quarantined unsafeClose => exact rest.move le_rfl (Nat.le_succ _) (.inl rfl) (.inr (.inl rfl)) nofun nofun nofun
    | retries =>
      exact rest.move le_rfl (Nat.le_succ _) (.inl rfl) (.inr (.inr ⟨Nat.lt_succ_self _,le_rfl⟩)) nofun
        (fun _ => ⟨Nat.succ_pos _,idle,rest.fresh⟩) fun _ _ => ⟨.inr (.inr rfl),safe⟩
  | reportDegraded correlation effective reason =>
    cases ran
    obtain same | ⟨settled,slot,_⟩ := d.reportDegraded_cases config correlation effective reason
    · dsimp only
      rw [same]
      exact claimed.drop
    have rest := claimed.drop
    obtain ⟨idle,free⟩ := rest.settled (settled_cases settled)
    dsimp only
    rw [slot]
    refine rest.move le_rfl le_rfl (.inl rfl) (.inl rfl) (fun _ => ⟨idle,free⟩) nofun fun current => ?_
    exact absurd idle (Nat.pos_iff_ne_zero.mp current)
  -- the others pass on what they hold and claim, or had nothing
  | _ =>
    simp only [perform] at ran
    repeat' split at ran
    all_goals cases ran
    all_goals
      try unfold Option.elim
      repeat' split
      all_goals first
        | exact claimed.same rfl rfl rfl
        | exact claimed.drop

end

end EbusGateway.DriverManager
