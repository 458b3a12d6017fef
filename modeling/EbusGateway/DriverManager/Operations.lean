import EbusGateway.DriverManager.Lifecycle

/-! What the critical sections of a driver can do, each as a case analysis of its outcome.
-/
namespace EbusGateway.DriverManager
open Library

structure Slot where
  desired : DesiredState
  observed : ObservedState
  quarantined : Bool
  operationSeq : Nat
  activeOperation : Nat
  activeAttempt : Option Nat
  attempts : Nat

def Slot.current (s : Slot) (operation : Nat) : Prop := s.activeOperation = operation ∧ s.desired = .running

def Driver.slot (d : Driver) : Slot :=
  ⟨d.desired,d.observed,d.quarantined,d.operationSeq,d.activeOperation,d.activeAttempt,d.attempts⟩

def RetryTask (forked : List (Thread Unit Act)) : Prop :=
  forked = [] ∨ ∃ operation token, forked = [⟨(),[.retryWait operation token]⟩]

namespace Driver

def frame (d : Driver) : Bool × Bool × List Call × List Nat × List CloseReport × List Nat :=
  (d.opMu,d.closed,d.calls,d.inFlight,d.reports,d.cancelled)

theorem start_cases (config : DriverConfig) (d : Driver) :
    (∃ answer, d.start config = (d,answer) ∧ ∀ found, answer ≠ .ok (some found)) ∨
    d.closed = false ∧ d.quarantined = false ∧ d.activeAttempt = none ∧
      d.start config = (d.reserve config .starting ⟨.startRequested,false⟩,.ok (some (d.operationSeq + 1,d.needsReplace))) := by
  unfold start
  split
  · exact .inl ⟨_,rfl,nofun⟩
  split
  · exact .inl ⟨_,rfl,nofun⟩
  split
  · exact .inl ⟨_,rfl,nofun⟩
  split
  · exact .inl ⟨_,rfl,nofun⟩
  · simp_all

theorem replace_cases (config : DriverConfig) (d : Driver) : (∃ refusal, d.replace config = (d,.error refusal)) ∨
    d.closed = false ∧ d.quarantined = false ∧ d.activeAttempt = none ∧
      d.replace config = (d.reserve config .stopping ⟨.stopRequested,false⟩,.ok (d.operationSeq + 1)) := by
  unfold replace
  split
  · exact .inl ⟨_,rfl⟩
  split
  · exact .inl ⟨_,rfl⟩
  split
  · exact .inl ⟨_,rfl⟩
  · simp_all

theorem stop_cases (d : Driver) (flag : Bool) :
    (∃ observed next report, d.stop flag = (next,some report) ∧ next.slot = {d.slot with desired := .stopped, observed := observed} ∧
      next.frame = d.frame ∧ (observed = .failed ∨ observed = d.observed) ∧
        (d.quarantined = true ∨ d.observed = .stopped ∨ d.observed = .disabled)) ∨
    d.stop flag = ({d with desired := .stopped}.nextOperation.transition .stopping ⟨.stopRequested,false⟩ [],none) := by
  unfold stop
  split
  · rename_i quarantined
    refine .inl ⟨if d.desired ≠ .stopped then .failed else d.observed,_,_,rfl,?_,?_,?_,.inl quarantined⟩
    · split
      · rfl
      · rename_i stopped
        simp [slot,not_not.mp stopped]
    · split <;> rfl
    · split
      · exact .inl rfl
      · exact .inr rfl
  · simp only
    split
    · rename_i idle
      exact .inl ⟨d.observed,_,_,rfl,rfl,rfl,.inr rfl,.inr (by simpa using idle)⟩
    · exact .inr rfl

theorem stopped_effect (d : Driver) (err : Option RuntimeError) (again : Bool) :
    ∃ observed quarantined, (observed = .stopped ∨ observed = .failed) ∧ (d.quarantined = true → quarantined = true) ∧
      (d.stopped err again).slot = {d.slot with activeOperation := 0, observed := observed, quarantined := quarantined} ∧
      (d.stopped err again).frame = d.frame := by
  unfold stopped
  simp only
  split
  · exact ⟨.stopped,d.quarantined,.inl rfl,id,rfl,rfl⟩
  split
  · exact ⟨.stopped,d.quarantined,.inl rfl,id,rfl,rfl⟩
  split
  · exact ⟨.failed,true,.inr rfl,fun _ => rfl,rfl,rfl⟩
  · exact ⟨.failed,d.quarantined,.inr rfl,id,rfl,rfl⟩

end Driver

inductive Slot.Fails (s : Slot) : Slot → Prop
  | ends (quarantined : Bool) (unsafeClose : s.quarantined = true → quarantined = true) :
    Fails s {s with quarantined := quarantined, activeOperation := 0, observed := .failed}
  | retries : Fails s {s with observed := .backoff}

theorem Slot.Fails.desired {s next : Slot} (fails : s.Fails next) : next.desired = s.desired := by
  cases fails <;> rfl

namespace Driver

variable (config : DriverConfig) (d : Driver)

theorem scheduleRetry_task (op : Nat) (replacing : Bool) : RetryTask (d.scheduleRetry op replacing).2 := by
  unfold scheduleRetry
  simp only
  split
  · exact .inl rfl
  · exact .inr ⟨_,_,rfl⟩

theorem retryOrFail_effect (op : Nat) (replacing : Bool) (reason : Reason) :
    d.slot.Fails (d.retryOrFail config op replacing reason).1.slot ∧
    (d.retryOrFail config op replacing reason).1.frame = d.frame ∧ RetryTask (d.retryOrFail config op replacing reason).2 := by
  unfold retryOrFail
  split
  · exact ⟨.retries,rfl,scheduleRetry_task _ _ _⟩
  · exact ⟨.ends d.quarantined id,rfl,.inl rfl⟩

theorem failAttempt_effect (op : Nat) (e : RuntimeError) (replacing flag : Bool) :
    d.slot.Fails (d.failAttempt config op e replacing flag).1.slot ∧
    (d.failAttempt config op e replacing flag).1.frame = d.frame ∧ RetryTask (d.failAttempt config op e replacing flag).2 := by
  unfold failAttempt
  split
  · exact ⟨.ends true fun _ => rfl,rfl,.inl rfl⟩
  · exact retryOrFail_effect config {d with needsReplace := d.needsReplace || replacing} op replacing _

theorem finishAttempt_cases (attempt : Attempt) (gen : Nat) (err : Option RuntimeError) (replacing flag : Bool) :
    (d.closed = true ∨ d.superseded attempt.operation = true) ∧
      d.finishAttempt config attempt gen err replacing flag = (d.clearAttempt attempt,[]) ∨
    d.closed = false ∧ d.superseded attempt.operation = false ∧ ∃ next forked,
      d.finishAttempt config attempt gen err replacing flag = (next,forked) ∧ RetryTask forked ∧
      (err = none ∧ next.slot = {(d.clearAttempt attempt).slot with activeOperation := 0, observed := .running, quarantined := false} ∧
        next.frame = (d.opMu,d.closed,d.calls ++ [.published attempt.id],d.inFlight,d.reports,d.cancelled) ∨
      (∃ e, err = some e) ∧ (d.clearAttempt attempt).slot.Fails next.slot ∧ next.frame = d.frame) := by
  unfold finishAttempt
  simp only
  split
  · rename_i gone
    exact .inl ⟨(Bool.or_eq_true _ _).mp gone,rfl⟩
  rename_i current
  obtain ⟨live,current⟩ := Bool.or_eq_false_iff.mp (Bool.eq_false_iff.mpr current)
  refine .inr ⟨live,current,?_⟩
  cases err with
  | none => exact ⟨_,_,rfl,.inl rfl,.inl ⟨rfl,rfl,rfl⟩⟩
  | some e =>
    obtain ⟨fails,frame,task⟩ := failAttempt_effect config (d.clearAttempt attempt) attempt.operation e replacing flag
    exact ⟨_,_,rfl,task,.inr ⟨⟨e,rfl⟩,fails,frame⟩⟩

theorem finishAttempt_task (attempt : Attempt) (gen : Nat) (err : Option RuntimeError)
    (replacing flag : Bool) : RetryTask (d.finishAttempt config attempt gen err replacing flag).2 := by
  obtain ⟨_,same⟩ | ⟨_,_,next,forked,same,task,_⟩ := d.finishAttempt_cases config attempt gen err replacing flag
  all_goals rw [same]
  · exact .inl rfl
  · exact task

theorem safe_of_acceptsCallback {d : Driver} {correlation : Correlation} (accepts : d.acceptsCallback correlation = true) :
    d.quarantined = false := by
  simp only [acceptsCallback,Bool.and_eq_true,Bool.not_eq_true'] at accepts
  exact accepts.1.1.1

theorem reportFailure_cases (correlation : Correlation) (failure : Reason) : d.reportFailure config correlation failure = (d,[]) ∨
    d.closed = false ∧ d.settled = true ∧ d.quarantined = false ∧ d.nextOperation.slot.Fails
    (d.reportFailure config correlation failure).1.slot ∧
      (d.reportFailure config correlation failure).1.frame = d.frame ∧ RetryTask (d.reportFailure config correlation failure).2 := by
  unfold reportFailure
  split
  · exact .inl rfl
  rename_i taken
  simp only [Bool.or_eq_true,not_or,Bool.not_eq_true,Bool.not_eq_false'] at taken
  obtain ⟨⟨live,accepts⟩,settled⟩ := taken
  exact .inr ⟨live,settled,safe_of_acceptsCallback accepts,
    retryOrFail_effect config ({d.nextOperation with needsReplace := true}.resetRetry config) _ _ _⟩

theorem reportFailure_task (correlation : Correlation) (failure : Reason) :
    RetryTask (d.reportFailure config correlation failure).2 := by
  obtain same | ⟨_,_,_,_,_,task⟩ := d.reportFailure_cases config correlation failure
  · rw [same]
    exact .inl rfl
  · exact task

theorem reportDegraded_cases (correlation : Correlation) (effective : List Capability) (reason : Reason) :
    d.reportDegraded config correlation effective reason = d ∨
    d.settled = true ∧ (d.reportDegraded config correlation effective reason).slot = {d.slot with observed := .degraded} ∧
      (d.reportDegraded config correlation effective reason).frame = d.frame := by
  unfold reportDegraded
  simp only
  split
  · exact .inl rfl
  rename_i taken
  refine .inr ⟨?_,rfl,rfl⟩
  simp only [Bool.or_eq_true,not_or,Bool.not_eq_true,Bool.not_eq_false'] at taken
  exact taken.1.1.1.2

end Driver

inductive Ran (config : DriverConfig) (d : Driver) : Operation → Outcome → Prop
  | refused {op : Operation} (other : op ≠ .stop) : Ran config d op {shared := {d with opMu := false}}
  | reserved {op : Operation} {observed : ObservedState} {reason : Reason} {new : Act}
    (other : op ≠ .stop) (running : d.closed = false)
    (safe : d.quarantined = false) (idle : d.activeAttempt = none) (begins : observed = .starting ∨ observed = .stopping)
    (claims : ∃ replacing, new = .beginTask (d.operationSeq + 1) replacing ∨
      new = .startAttempt (d.operationSeq + 1) replacing false) :
    Ran config d op {shared := {d.reserve config observed reason with opMu := false}, code := [new]}
  | retried {op : Operation} {operation : Nat} (other : op ≠ .stop) (running : d.closed = false) (safe : d.quarantined = false)
    (current : d.superseded operation = false) (backoff : d.observed = .backoff) :
    Ran config d op {
      shared := {d.transition .starting ⟨.startRequested,false⟩ [] with attempt := d.attempt + 1, opMu := false}
      code := [.startAttempt operation d.retryNeedsReplace true]}
  | unneeded {observed : ObservedState} {next : Driver} {report : CloseReport}
    (slot : next.slot = {d.slot with desired := .stopped, observed := observed}) (frame : next.frame = d.frame)
    (shown : observed = .failed ∨ observed = d.observed) (idle : d.quarantined = true ∨
      d.observed = .stopped ∨ d.observed = .disabled) :
    Ran config d .stop {shared := next, code := [.cancelAttempt d.activeAttempt (some report) d.generation next.activeOperation]}
  | stops :
    Ran config d .stop {
      shared := {d with desired := .stopped}.nextOperation.transition .stopping ⟨.stopRequested,false⟩ []
      code := [.cancelAttempt d.activeAttempt none d.generation (d.operationSeq + 1)]}

theorem runOperation_ran (config : DriverConfig) (choice : Choice) (op : Operation) (d : Driver) :
    Ran config d op (runOperation config choice op d) := by
  cases op with
  | start async =>
    obtain ⟨answer,same,refused⟩ | ⟨live,safe,idle,same⟩ := d.start_cases config
    · have effect : runOperation config choice (.start async) d = {shared := {d with opMu := false}} := by
        simp only [runOperation,same]
        split
        · rename_i found
          cases found
          cases refused _ rfl
        · rename_i found
          cases found
          rfl
      rw [effect]
      exact .refused nofun
    · simp only [runOperation,same]
      refine .reserved nofun live safe idle (.inl rfl) ⟨d.needsReplace,?_⟩
      cases async
      · exact .inr rfl
      · exact .inl rfl
  | replace =>
    obtain ⟨refusal,same⟩ | ⟨live,safe,idle,same⟩ := d.replace_cases config
    · simp only [runOperation,same]
      exact .refused nofun
    · simp only [runOperation,same]
      exact .reserved nofun live safe idle (.inr rfl) ⟨true,.inr rfl⟩
  | stop =>
    obtain ⟨observed,next,report,same,slot,frame,shown,idle⟩ | same := d.stop_cases (config.runtime && choice.quarantined)
    · simp only [runOperation,same]
      exact .unneeded slot frame shown idle
    · simp only [runOperation,same]
      exact .stops
  | retry operation token =>
    unfold runOperation
    simp only
    split
    · exact .refused nofun
    rename_i taken
    simp only [Bool.or_eq_true,not_or,Bool.not_eq_true,decide_eq_true_eq,ne_eq,not_not] at taken
    obtain ⟨⟨⟨⟨live,_⟩,current⟩,backoff⟩,safe⟩ := taken
    exact .retried nofun live safe current backoff

variable {d : Driver}

theorem frame_fields {next : Driver} (same : next.frame = d.frame) :
    next.opMu = d.opMu ∧ next.closed = d.closed ∧ next.calls = d.calls ∧ next.inFlight = d.inFlight ∧ next.reports = d.reports ∧
      next.cancelled = d.cancelled := by
  simpa [Driver.frame] using same

theorem not_superseded {op : Nat} (current : d.superseded op = false) : d.activeOperation = op ∧ d.desired = .running := by
  simpa [Driver.superseded] using current

theorem settled_cases (settled : d.settled = true) : d.observed = .running ∨ d.observed = .degraded := by
  simpa [Driver.settled] using settled

end EbusGateway.DriverManager
