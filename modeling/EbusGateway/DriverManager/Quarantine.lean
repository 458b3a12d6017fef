import EbusGateway.DriverManager.Ownership

/-! Quarantine. An unconfirmed close quarantines the driver, except where the stop reads as proven all the same.
-/
namespace EbusGateway.DriverManager
open Library List

def Evidence.binds : Evidence → Bool
  | .quarantined | .withdrawal => true
  | .nothingAdmitted => false
  | .stop err again => err.any fun e => !e.stopTimeout && (e.safetyQuarantined || again)

def CloseReport.binds (report : CloseReport) : Bool := report.closeClass = .unconfirmed && report.evidence.binds

def Act.report : Act → Option CloseReport
  | .cancelAttempt _ found _ _ => found
  | .unlock report | .publish report _ | .observe report _ => some report
  | .finishAttempt _ _ _ _ held => held
  | _ => none

structure Sealed (quarantined : Bool) (effective : List Capability) (reports : List CloseReport) (acts : List Act) : Prop where
  withheld : quarantined = true → effective = []
  published : ∀ report ∈ reports, report.binds = true → quarantined = true
  pending : ∀ act ∈ acts, ∀ report, act.report = some report → report.binds = true → quarantined = true

namespace Sealed
variable {quarantined : Bool} {effective : List Capability} {reports : List CloseReport} {act new : Act} {acts others : List Act}

section
variable (held : Sealed quarantined effective reports acts)
include held

theorem fewer (fewer : others ⊆ acts) : Sealed quarantined effective reports others :=
  {held with pending := fun act mem => held.pending act (fewer mem)}

theorem perm (same : acts.Perm others) : Sealed quarantined effective reports others := held.fewer same.symm.subset

theorem put (bound : ∀ report, new.report = some report → report.binds = true → quarantined = true) :
    Sealed quarantined effective reports (new :: acts) :=
  ⟨held.withheld,held.published,forall_mem_cons.mpr ⟨bound,held.pending⟩⟩

theorem add (none : new.report = none) : Sealed quarantined effective reports (new :: acts) :=
  held.put fun report found => by cases none.symm.trans found

theorem withdraw : Sealed quarantined [] reports acts := ⟨fun _ => rfl,held.published,held.pending⟩

theorem grant (safe : quarantined = false) (granted : List Capability) : Sealed false granted reports acts := by
  subst safe
  exact ⟨nofun,held.published,held.pending⟩

theorem fork {forked : List (Thread Unit Act)} (task : RetryTask forked) :
    Sealed quarantined effective reports (forked.flatMap (·.code) ++ acts) := by
  rcases task with rfl | ⟨operation,token,rfl⟩
  · exact held
  · exact held.add rfl

end

section
variable (held : Sealed quarantined effective reports (act :: others))
include held

theorem drop : Sealed quarantined effective reports others :=
  held.fewer (subset_cons_self act others)

theorem same (same : new.report = act.report) : Sealed quarantined effective reports (new :: others) :=
  held.drop.put fun report found => held.pending act mem_cons_self report (same.symm.trans found)

end

theorem quarantine : Sealed true [] reports acts :=
  ⟨fun _ => rfl,fun _ _ _ => rfl,fun _ _ _ _ _ => rfl⟩

end Sealed

def Driver.sealed (d : Driver) (acts : List Act) : Prop := Sealed d.quarantined d.effective d.reports acts

namespace Driver
variable {config : DriverConfig} {d : Driver} {acts : List Act}

section
variable (held : d.sealed acts) {replacing : Bool} {reason : Reason} {correlation : Correlation}
include held

theorem stop_sealed (flag : Bool) :
    (d.stop flag).1.sealed acts ∧ ∀ report, (d.stop flag).2 = some report → report.binds = true →
    (d.stop flag).1.quarantined = true := by
  unfold stop
  split
  · rename_i quarantined
    refine ⟨?_,fun _ _ _ => ?_⟩
    · split
      · exact held.withdraw
      · exact held
    · split <;> exact quarantined
  · simp only
    split
    · refine ⟨held,fun report found binds => ?_⟩
      cases found
      simp [report,CloseReport.binds,Evidence.binds] at binds
    · refine ⟨held.withdraw,fun report found => ?_⟩
      cases found

theorem stopped_sealed (err : Option RuntimeError) (again : Bool) :
    (d.stopped err again).sealed acts ∧ ((Evidence.stop err again).binds = true → (d.stopped err again).quarantined = true) := by
  unfold stopped
  simp only
  cases err with
  | none => exact ⟨held.withdraw,nofun⟩
  | some e =>
    simp only [Evidence.binds,Option.any_some]
    split
    · rename_i timeout
      refine ⟨held.withdraw,?_⟩
      rw [timeout]
      nofun
    split
    · exact ⟨Sealed.quarantine,fun _ => rfl⟩
    · rename_i open'
      refine ⟨held.withdraw,fun binds => ?_⟩
      exact absurd ((Bool.and_eq_true _ _).mp binds).2 open'

theorem retryOrFail_sealed {operation : Nat} : (d.retryOrFail config operation replacing reason).1.sealed acts := by
  unfold retryOrFail
  split <;> exact held.withdraw

theorem finishAttempt_sealed {attempt : Attempt} {gen : Nat} {err : Option RuntimeError} {flag : Bool}
    (safe : d.superseded attempt.operation = false → d.quarantined = false) :
    (d.finishAttempt config attempt gen err replacing flag).1.sealed acts := by
  unfold finishAttempt
  simp only
  split
  · exact held
  rename_i current
  cases err with
  | none => exact held.grant (safe (Bool.or_eq_false_iff.mp (Bool.eq_false_iff.mpr current)).2) _
  | some e =>
    simp only [failAttempt]
    split
    · exact Sealed.quarantine
    · apply retryOrFail_sealed
      exact held

theorem reportFailure_sealed {failure : Reason} : (d.reportFailure config correlation failure).1.sealed acts := by
  unfold reportFailure
  split
  · exact held
  · apply retryOrFail_sealed
    exact held

theorem reportDegraded_sealed {effective : List Capability} : (d.reportDegraded config correlation effective reason).sealed acts := by
  unfold reportDegraded
  simp only
  split
  · exact held
  rename_i accepted
  simp only [Bool.or_eq_true,not_or,Bool.not_eq_true,Bool.not_eq_false'] at accepted
  have safe := safe_of_acceptsCallback accepted.1.1.1.1.2
  refine ⟨fun quarantined => ?_,held.published,held.pending⟩
  cases safe.symm.trans quarantined

end

end Driver

def Cancelling (s : Slot) (cancelled : List Nat) (acts : List Act) : Prop :=
  ∀ attempt, .construct attempt ∈ acts → s.current attempt.operation ∨ attempt.id ∈ cancelled ∨
    s.quarantined = false ∧ ∃ found generation operation, .cancelAttempt (some attempt.id) found generation operation ∈ acts

namespace Act

def constructs : Act → Bool
  | .construct _ => true
  | _ => false

theorem construct_tail {new : Act} {others : List Act} {attempt : Attempt} (mem : .construct attempt ∈ new :: others)
    (none : new.constructs = false) : .construct attempt ∈ others := by
  rcases mem_cons.mp mem with rfl | inside
  · cases none
  · exact inside

def cancels : Act → Bool
  | .cancelAttempt .. => true
  | _ => false

end Act

namespace Cancelling
variable {s next : Slot} {cancelled : List Nat} {act new : Act} {acts others news : List Act}

theorem perm (same : acts.Perm others) (cancelling : Cancelling s cancelled acts) : Cancelling s cancelled others := by
  intro attempt mem
  refine (cancelling attempt (same.mem_iff.mpr mem)).imp_right fun rest => rest.imp_right fun ⟨safe,found,gen,operation,inside⟩ => ?_
  exact ⟨safe,found,gen,operation,same.mem_iff.mp inside⟩

theorem nobody (free : ∀ act ∈ acts, act.constructs = false) : Cancelling s cancelled acts :=
  fun attempt mem => by cases free _ mem

section
variable (cancelling : Cancelling s cancelled (act :: others)) (quiet : act.cancels = false)
  (stays : ∀ operation, s.current operation → next.current operation) (safe : s.quarantined = false → next.quarantined = false)
include cancelling quiet stays safe

theorem pass (none : ∀ new ∈ news, new.constructs = false) : Cancelling next cancelled (news ++ others) := by
  intro attempt mem
  rcases mem_append.mp mem with inside | inside
  · cases none _ inside
  · refine (cancelling attempt (.tail _ inside)).imp (stays _) fun rest => rest.imp_right ?_
    rintro ⟨before,found,gen,operation,due⟩
    rcases mem_cons.mp due with rfl | due
    · cases quiet
    · exact ⟨safe before,found,gen,operation,mem_append_right _ due⟩

theorem one (none : new.constructs = false) : Cancelling next cancelled (new :: others) :=
  cancelling.pass quiet stays safe (forall_mem_singleton.mpr none)

theorem drop : Cancelling next cancelled others := cancelling.pass quiet stays safe (forall_mem_nil _)

end

theorem more (cancelling : Cancelling s cancelled acts) (further : List Nat) : Cancelling s (further ++ cancelled) acts :=
  fun attempt mem => (cancelling attempt mem).imp_right fun rest => rest.imp_left (mem_append_right _)

end Cancelling

theorem RetryTask.constructs_false {forked : List (Thread Unit Act)} (task : RetryTask forked) :
    ∀ act ∈ forked.flatMap (·.code), act.constructs = false := by
  rcases task with rfl | ⟨operation,token,rfl⟩
  · exact forall_mem_nil _
  · exact forall_mem_singleton.mpr rfl

theorem Act.constructs_false {act : Act} (plain : act.holds = none) : act.constructs = false := by
  cases act <;> first | rfl | cases plain

section
variable {config : DriverConfig} {choice : Choice} {act : Act} {d : Driver} {effect : Outcome} {others : List Act} {next : Driver}

theorem safe_of_holds (claimed : Claimed d.slot (act :: others)) {attempt : Attempt} (holds : act.holds = some attempt)
    (current : d.superseded attempt.operation = false) : d.quarantined = false := by
  obtain ⟨same,live⟩ := not_superseded current
  have positive : 0 < d.activeOperation := same ▸ (claimed.held _ mem_cons_self attempt holds).2.1
  exact (claimed.active positive live).2

theorem perform_sealed (performed : perform config choice act d = some effect) (claimed : Claimed d.slot (act :: others))
    (held : d.sealed (act :: others)) : effect.shared.sealed (effect.acts ++ others) := by
  cases act with
  | run op =>
    cases performed
    by_cases stop : op = .stop
    · subst stop
      obtain ⟨stopped,bound⟩ := Driver.stop_sealed (Sealed.drop held) (config.runtime && choice.quarantined)
      exact Sealed.put stopped bound
    have ran := runOperation_ran config choice op d
    generalize runOperation config choice op d = effect at ran
    cases ran with
    | refused => exact Sealed.drop held
    | reserved _ _ _ _ _ claims =>
      obtain ⟨replacing,rfl | rfl⟩ := claims
      all_goals exact (Sealed.drop held).withdraw.add rfl
    | retried => exact (Sealed.drop held).withdraw.add rfl
    | unneeded => exact absurd rfl stop
    | stops => exact absurd rfl stop
  | stopped gen operation =>
    cases performed
    obtain ⟨stopped,bound⟩ :=
      Driver.stopped_sealed (Sealed.drop held) (if config.runtime then choice.err else none) (config.runtime && choice.again)
    refine Sealed.put stopped fun report found binds => bound ?_
    cases found
    exact ((Bool.and_eq_true _ _).mp binds).2
  | publish report after =>
    cases performed
    have published : Sealed d.quarantined d.effective (report :: d.reports) others :=
      ⟨held.withheld,forall_mem_cons.mpr ⟨held.pending _ mem_cons_self report rfl,held.published⟩,(Sealed.drop held).pending⟩
    cases after with
    | none => exact published
    | some attempt => exact published.add rfl
  | supersededStopped attempt gen =>
    cases performed
    cases choice.err.isSome || choice.quarantined
    · refine Sealed.put (Sealed.drop held) fun report found binds => ?_
      cases found
      cases binds
    · exact Sealed.quarantine
  | heldStopped attempt gen holdErr =>
    simp only [perform] at performed
    split at performed
    · rename_i proven
      cases performed
      refine Sealed.put (Sealed.drop held) fun report found binds => ?_
      cases found
      have unconfirmed := of_decide_eq_true ((Bool.and_eq_true _ _).mp binds).1
      dsimp only at unconfirmed
      rw [unconfirmed] at proven
      cases proven
    · cases performed
      exact Sealed.quarantine
  | finishAttempt attempt gen err replacing report =>
    cases performed
    have bound : d.sealed (report.elim (Act.release attempt) (.observe · attempt) :: others) := by
      cases report <;> exact Sealed.same held rfl
    have task := d.finishAttempt_task config attempt gen err replacing (config.runtime && choice.quarantined)
    exact (Sealed.fork (Driver.finishAttempt_sealed bound (safe_of_holds claimed rfl)) task).perm perm_middle
  | observe report attempt =>
    cases performed
    exact Sealed.put (Sealed.drop held) fun found same => by cases same; exact held.pending _ mem_cons_self report rfl
  | reportFailure correlation failure =>
    cases performed
    exact Sealed.fork (Driver.reportFailure_sealed (Sealed.drop held)) (d.reportFailure_task config correlation failure)
  | reportDegraded correlation effective reason =>
    cases performed
    exact Driver.reportDegraded_sealed (Sealed.drop held)
  -- the others pass their report on, or have none
  | _ =>
    simp only [perform] at performed
    repeat' split at performed
    all_goals cases performed
    all_goals
      try unfold Option.elim
      repeat' split
      all_goals first
        | exact Sealed.same held rfl
        | exact Sealed.drop held

theorem ran_cancelling {op : Operation} (ran : Ran config d op effect) (claimed : Claimed d.slot (.run op :: others))
    (cancelling : Cancelling d.slot d.cancelled (.run op :: others)) :
    Cancelling effect.shared.slot effect.shared.cancelled (effect.acts ++ others) := by
  cases ran with
  | refused other => exact cancelling.drop rfl (fun _ current => current) id
  | @reserved op observed reason new other live safe idle begins claims =>
    have none := claimed.drop.none_holds idle
    have free : ∀ act ∈ others, act.constructs = false := fun act mem => Act.constructs_false (none act mem)
    obtain ⟨replacing,rfl | rfl⟩ := claims
    all_goals exact .nobody (forall_mem_cons.mpr ⟨rfl,free⟩)
  | @retried op operation other live safe current backoff => exact cancelling.one rfl (fun _ current => current) id rfl
  | @unneeded observed next report slot frame shown idle =>
    obtain ⟨_,_,_,_,_,cancelled⟩ := frame_fields frame
    rw [slot,cancelled]
    intro attempt mem
    have inside := Act.construct_tail mem rfl
    have mem := mem_cons_of_mem (.run .stop) inside
    rcases cancelling attempt mem with ⟨same,live⟩ | cancelled | ⟨safe,found,gen,operation,due⟩
    · have positive : 0 < d.slot.activeOperation := same ▸ (claimed.held _ mem attempt rfl).2.1
      exact absurd idle (claimed.not_idle positive live)
    · exact .inr (.inl cancelled)
    · refine .inr (.inr ⟨safe,found,gen,operation,mem_cons_of_mem _ ?_⟩)
      rcases mem_cons.mp due with same | due
      · cases same
      · exact due
  | stops =>
    intro attempt mem
    have inside := Act.construct_tail mem rfl
    have mem := mem_cons_of_mem (.run .stop) inside
    obtain ⟨mine,positive,_⟩ := claimed.held _ mem attempt rfl
    rcases cancelling attempt mem with ⟨same,live⟩ | cancelled | ⟨safe,found,gen,operation,due⟩
    · refine .inr (.inr ⟨(claimed.active (same ▸ positive) live).2,none,d.generation,d.operationSeq + 1,?_⟩)
      rw [← mine]
      exact mem_cons_self
    · exact .inr (.inl cancelled)
    · refine .inr (.inr ⟨safe,found,gen,operation,mem_cons_of_mem _ ?_⟩)
      rcases mem_cons.mp due with same | due
      · cases same
      · exact due

theorem perform_cancelling (ran : perform config choice act d = some effect)
    (locked : Locked d.opMu d.closed d.desired (act :: others)) (claimed : Claimed d.slot (act :: others))
    (cancelling : Cancelling d.slot d.cancelled (act :: others)) :
    Cancelling effect.shared.slot effect.shared.cancelled (effect.acts ++ others) := by
  have same (operation : Nat) (current : d.slot.current operation) : d.slot.current operation := current
  have free {attempt : Attempt} (holds : act.holds = some attempt) : ∀ act ∈ others, act.constructs = false :=
    fun other mem => Act.constructs_false (claimed.others_hold_none holds other mem)
  cases act with
  | run op =>
    cases ran
    exact ran_cancelling (runOperation_ran config choice op d) claimed cancelling
  | cancelActive =>
    cases ran
    exact Cancelling.more (s := d.slot) (cancelling.one rfl same id rfl) d.activeAttempt.toList
  | cancelAttempt attempt found gen operation =>
    cases ran
    intro other mem
    have inside := Act.construct_tail mem (by cases found <;> rfl)
    rcases cancelling other (.tail _ inside) with current | cancelled | ⟨safe,report,gen,operation,due⟩
    · exact .inl current
    · exact .inr (.inl (mem_append_right _ cancelled))
    · rcases mem_cons.mp due with same | due
      · cases same
        exact .inr (.inl (mem_append_left _ (mem_singleton.mpr rfl)))
      · exact .inr (.inr ⟨safe,report,gen,operation,mem_cons_of_mem _ due⟩)
  | stopped gen operation =>
    cases ran
    intro other mem
    have inside := Act.construct_tail mem rfl
    have intent : d.desired = .stopped := locked.intent _ mem_cons_self rfl
    rcases cancelling other (.tail _ inside) with ⟨_,live⟩ | cancelled | ⟨_,report,gen,operation,due⟩
    · cases intent.symm.trans live
    · obtain ⟨_,_,_,_,_,frame⟩ := d.stopped_effect (if config.runtime then choice.err else none) (config.runtime && choice.again)
      refine .inr (.inl ?_)
      dsimp only
      rw [(frame_fields frame).2.2.2.2.2]
      exact cancelled
    · rcases mem_cons.mp due with same | due
      · cases same
      · cases (locked.others_outside rfl).2 _ due
  | publish report after =>
    cases ran
    cases after with
    | none => exact cancelling.drop rfl same id
    | some attempt => exact cancelling.one rfl same id rfl
  | startAttempt operation replacing retry =>
    simp only [perform] at ran
    split at ran
    · cases ran
      exact cancelling.drop rfl same id
    rename_i accepted
    cases ran
    obtain ⟨current,_⟩ := Bool.or_eq_false_iff.mp (Bool.eq_false_iff.mpr accepted)
    obtain ⟨rfl,live⟩ := not_superseded current
    have none := claimed.none_holds ((claimed.claims _ mem_cons_self _ rfl).2.2 rfl)
    intro attempt mem
    rcases mem_cons.mp mem with same | inside
    · cases same
      exact .inl ⟨rfl,live⟩
    · cases none _ (.tail _ inside)
  | finishAttempt attempt gen err replacing report =>
    cases ran
    have task := d.finishAttempt_task config attempt gen err replacing (config.runtime && choice.quarantined)
    have first : (report.elim (Act.release attempt) (.observe · attempt)).constructs = false := by cases report <;> rfl
    exact .nobody (forall_mem_append.mpr ⟨forall_mem_cons.mpr ⟨first,task.constructs_false⟩,free rfl⟩)
  | reportFailure correlation failure =>
    obtain unchanged | ⟨_,settled,_,_,_,task⟩ := d.reportFailure_cases config correlation failure
    · simp only [perform,unchanged] at ran
      cases ran
      exact cancelling.drop rfl same id
    · cases ran
      have none := claimed.drop.none_holds (claimed.settled (settled_cases settled)).2
      exact .nobody (forall_mem_append.mpr ⟨task.constructs_false,fun act mem => Act.constructs_false (none act mem)⟩)
  | reportDegraded correlation effective reason =>
    cases ran
    obtain unchanged | ⟨_,slot,frame⟩ := d.reportDegraded_cases config correlation effective reason
    · dsimp only
      rw [unchanged]
      exact cancelling.drop rfl same id
    · dsimp only
      rw [slot,(frame_fields frame).2.2.2.2.2]
      exact cancelling.drop rfl same id
  -- the others construct nothing: an attempt's own goroutine has no construction beside it
  | _ =>
    simp only [perform] at ran
    repeat' split at ran
    all_goals cases ran
    all_goals
      try unfold Option.elim
      repeat' split
      all_goals first
        | exact cancelling.one rfl same id rfl
        | exact cancelling.drop rfl same id
        | exact .nobody (forall_mem_cons.mpr ⟨rfl,free rfl⟩)

structure Quarantines (d next : Driver) : Prop where
  quarantined : next.quarantined = true
  attempts : next.attempts = d.attempts
  calls : ∃ more, next.calls = d.calls ++ more ∧ ∀ attempt cancelled,
    .began attempt cancelled ∈ more → attempt < d.attempts ∧ cancelled = true

theorem Quarantines.of_calls (quarantined : next.quarantined = true) (attempts : next.attempts = d.attempts)
    (calls : next.calls = d.calls) : Quarantines d next :=
  ⟨quarantined,attempts,[],by rw [calls,append_nil],nofun⟩

theorem Quarantines.of_call {call : Call} (quarantined : next.quarantined = true) (attempts : next.attempts = d.attempts)
    (calls : next.calls = d.calls ++ [call])
    (cancelled : ∀ attempt flag, call = .began attempt flag → attempt < d.attempts ∧ flag = true) : Quarantines d next :=
  ⟨quarantined,attempts,[call],calls,fun attempt flag mem => cancelled attempt flag (mem_singleton.mp mem).symm⟩

theorem perform_quarantined (performed : perform config choice act d = some effect) (claimed : Claimed d.slot (act :: others))
    (cancelling : Cancelling d.slot d.cancelled (act :: others))
    (quarantined : d.quarantined = true) : Quarantines d effect.shared := by
  cases act with
  | run op =>
    cases performed
    have ran := runOperation_ran config choice op d
    generalize runOperation config choice op d = effect at ran
    cases ran with
    | refused | stops => exact .of_calls quarantined rfl rfl
    | reserved _ _ safe => cases safe.symm.trans quarantined
    | retried _ _ safe => cases safe.symm.trans quarantined
    | unneeded slot frame =>
      exact .of_calls ((congrArg Slot.quarantined slot).trans quarantined) (congrArg Slot.attempts slot) (frame_fields frame).2.2.1
  | stopped gen operation =>
    cases performed
    obtain ⟨_,_,_,stays,slot,frame⟩ := d.stopped_effect (if config.runtime then choice.err else none) (config.runtime && choice.again)
    exact .of_calls ((congrArg Slot.quarantined slot).trans (stays quarantined))
      (congrArg Slot.attempts slot) (frame_fields frame).2.2.1
  | startAttempt operation replacing retry =>
    simp only [perform,quarantined,Bool.or_true,if_true] at performed
    cases performed
    exact .of_calls quarantined rfl rfl
  | construct attempt =>
    have cancelled : attempt.id ∈ d.cancelled := by
      obtain ⟨_,positive,_⟩ := claimed.held _ mem_cons_self attempt rfl
      rcases cancelling attempt mem_cons_self with ⟨same,live⟩ | cancelled | ⟨safe,_⟩
      · exact absurd (.inl quarantined) (claimed.not_idle (same ▸ positive) live)
      · exact cancelled
      · cases safe.symm.trans quarantined
    simp only [perform] at performed
    split at performed
    · cases performed
      refine .of_call quarantined rfl rfl fun other flag same => ?_
      cases same
      exact ⟨(claimed.held _ mem_cons_self attempt rfl).2.2,by simpa using cancelled⟩
    · cases performed
      exact .of_calls quarantined rfl rfl
  | finishAttempt attempt gen err replacing report =>
    obtain ⟨_,same⟩ | ⟨_,current,_⟩ :=
      d.finishAttempt_cases config attempt gen err replacing (config.runtime && choice.quarantined)
    · simp only [perform,same] at performed
      cases performed
      exact .of_calls quarantined rfl rfl
    · cases (safe_of_holds claimed rfl current).symm.trans quarantined
  | reportFailure correlation failure =>
    obtain unchanged | ⟨_,_,safe,_⟩ := d.reportFailure_cases config correlation failure
    · simp only [perform,unchanged] at performed
      cases performed
      exact .of_calls quarantined rfl rfl
    · cases safe.symm.trans quarantined
  | reportDegraded correlation effective reason =>
    cases performed
    obtain unchanged | ⟨_,slot,frame⟩ := d.reportDegraded_cases config correlation effective reason
    · dsimp only
      rw [unchanged]
      exact .of_calls quarantined rfl rfl
    · exact .of_calls ((congrArg Slot.quarantined slot).trans quarantined) (congrArg Slot.attempts slot) (frame_fields frame).2.2.1
  | _ =>
    simp only [perform] at performed
    repeat' split at performed
    all_goals cases performed
    all_goals first
      | exact .of_calls quarantined rfl rfl
      | exact .of_calls rfl rfl rfl
      | exact .of_call quarantined rfl rfl fun _ _ same => by cases same

theorem Quarantines.trans {first second third : Driver} (before : Quarantines first second) (after : Quarantines second third) :
    Quarantines first third := by
  obtain ⟨_,attempts,more,calls,cancelled⟩ := before
  obtain ⟨quarantined,same,further,later,also⟩ := after
  refine ⟨quarantined,same.trans attempts,more ++ further,by rw [later,calls,append_assoc],fun attempt flag mem => ?_⟩
  rcases mem_append.mp mem with early | late
  · exact cancelled attempt flag early
  · obtain ⟨old,cancelled⟩ := also attempt flag late
    exact ⟨attempts ▸ old,cancelled⟩

end

structure Guarding (config : DriverConfig) (d : Driver) (acts : List Act) : Prop where
  orderly : Orderly config d acts
  withheld : d.sealed acts
  cancelling : Cancelling d.slot d.cancelled acts

section
variable {config : DriverConfig} {manager next : Manager} {move : Move Event Choice} {first : Driver} {acts : List Act}

theorem Guarding.perm {d : Driver} {others : List Act} (same : acts.Perm others)
    (guarding : Guarding config d acts) : Guarding config d others :=
  ⟨guarding.orderly.perm same,guarding.withheld.perm same,guarding.cancelling.perm same⟩

theorem Guarding.launch {d : Driver} {new : Act} (guarding : Guarding config d acts)
    (orderly : Orderly config d (new :: acts)) (report : new.report = none) (constructs : new.constructs = false) :
    Guarding config d (new :: acts) := by
  refine ⟨orderly,Sealed.add guarding.withheld report,fun attempt mem => ?_⟩
  refine (guarding.cancelling attempt (Act.construct_tail mem constructs)).imp_right fun rest => rest.imp_right ?_
  exact fun ⟨safe,found,gen,operation,inside⟩ => ⟨safe,found,gen,operation,mem_cons_of_mem _ inside⟩

section
variable (guarding : Guarding config manager.shared manager.acts)
include guarding

theorem step_guarding (since : first.quarantined = true → Quarantines first manager.shared)
    (stepped : step config manager move = some next) :
    Guarding config next.shared next.acts ∧ (first.quarantined = true → Quarantines first next.shared) := by
  apply Machine.acts_step (fun d acts => Guarding config d acts ∧ (first.quarantined = true → Quarantines first d))
    (fun _ _ _ same held => ⟨held.1.perm same,held.2⟩) ?_ ?_ ⟨guarding,since⟩ stepped
  · intro event effect name _ launched
    cases launched
    refine ⟨?_,since⟩
    obtain ⟨locked,claimed,met⟩ := guarding.orderly
    cases event
    all_goals exact guarding.launch ⟨locked.add rfl,claimed.join rfl rfl rfl,Attended.add met rfl rfl⟩ rfl rfl
  · intro choice act others effect _ _ _ held ran
    obtain ⟨⟨⟨locked,claimed,met⟩,withheld,cancelling⟩,since⟩ := held
    refine ⟨⟨⟨perform_locked ran locked,perform_claimed ran locked claimed,perform_attended ran locked claimed met⟩,
      perform_sealed ran claimed withheld,perform_cancelling ran locked claimed cancelling⟩,fun quarantined => ?_⟩
    have now := since quarantined
    exact now.trans (perform_quarantined ran claimed cancelling now.quarantined)

theorem run_guarding {labels : List (Move Event Choice)} {later : Manager} (run : Run (step config) anyStep manager labels later) :
    Guarding config later.shared later.acts ∧ (manager.shared.quarantined = true → Quarantines manager.shared later.shared) := by
  refine run.invariant (fun later => Guarding config later.shared later.acts ∧
    (manager.shared.quarantined = true → Quarantines manager.shared later.shared)) ?_
    ⟨guarding,fun quarantined => .of_calls quarantined rfl rfl⟩
  intro state move next ⟨guarding,since⟩ _ stepped
  exact step_guarding guarding since stepped

end

theorem created_guarding (config : DriverConfig) : Guarding config (created config).shared (created config).acts := by
  refine ⟨Orderly.create config,?_,.nobody (forall_mem_nil _)⟩
  change (Driver.create config).sealed []
  unfold Driver.create
  split <;> exact ⟨fun _ => rfl,forall_mem_nil _,forall_mem_nil _⟩

end

/-- A close that binds quarantines the driver, and from then on it stays quarantined, withholds its capabilities,
installs no attempt, and begins at most a construction whose attempt was cancelled. -/
theorem quarantine_absorbs {config : DriverConfig} {labels : List (Move Event Choice)} {manager : Manager}
    (run : Run (step config) anyStep (created config) labels manager) :
    (∀ report ∈ manager.shared.reports, report.binds = true → manager.shared.quarantined = true) ∧
    ∀ onward later, Run (step config) anyStep manager onward later → manager.shared.quarantined = true →
      later.shared.quarantined = true ∧ later.shared.effective = [] ∧ (∀ capability, later.shared.invoke capability = false) ∧
      later.shared.attempts = manager.shared.attempts ∧
      ∃ more, later.shared.calls = manager.shared.calls ++ more ∧
        ∀ attempt cancelled, .began attempt cancelled ∈ more → attempt < manager.shared.attempts ∧ cancelled = true := by
  have guarding := (run_guarding (created_guarding config) run).1
  refine ⟨guarding.withheld.published,fun onward later further quarantined => ?_⟩
  obtain ⟨after,since⟩ := run_guarding guarding further
  obtain ⟨still,attempts,calls⟩ := since quarantined
  refine ⟨still,after.withheld.withheld still,fun capability => ?_,attempts,calls⟩
  rw [Driver.invoke,still,Bool.not_true,Bool.and_false]

def overtakenBefore : List (Move Event Choice) :=
  .start (.start false) :: List.replicate 5 (.run 0 {}) ++ .start .stop :: List.replicate 6 (.run 1 {}) ++
    List.replicate 3 (.run 1 {err := some {safetyQuarantined := true}})

theorem unconfirmed_stop_quarantines : ∃ manager, Run (step {}) anyStep (created {}) overtakenBefore manager ∧
    manager.shared.reports.length = 1 ∧ manager.shared.quarantined = true ∧
    ∃ later, Run (step {}) anyStep manager [.run 0 {}] later ∧ later.shared.effective = [] ∧
      later.shared.attempts = manager.shared.attempts := by
  obtain ⟨manager,run,⟨reports,quarantined⟩,stepped⟩ : ∃ manager, Run (step {}) anyStep (created {}) overtakenBefore manager ∧
      ((manager.shared.reports.length = 1 ∧ manager.shared.quarantined = true) ∧ (step {} manager (.run 0 {})).isSome = true) :=
    Run.exists_of_execute _ (by decide +kernel)
  obtain ⟨later,stepped⟩ := Option.isSome_iff_exists.mp stepped
  have onward : Run (step {}) anyStep manager [.run 0 {}] later := .single _ trivial stepped
  obtain ⟨_,effective,_,attempts,_⟩ := (quarantine_absorbs run).2 _ _ onward quarantined
  exact ⟨manager,run,reports,quarantined,later,onward,effective,attempts⟩

def stoppedWith (choice : Choice) : List (Move Event Choice) :=
  .start (.start false) :: List.replicate 11 (.run 0 {generation := 1}) ++ .start .stop :: List.replicate 6 (.run 1 {}) ++
    List.replicate 3 (.run 1 choice)

/-- An unconfirmed close need not quarantine: the stop returned nil or a timeout, the runtime took its flag back, or the
driver was stopped before. And a construction may begin after a quarantine. -/
theorem unconfirmed_close_not_quarantined :
    (∀ stops ∈ [stoppedWith {quarantined := true},stoppedWith {quarantined := true, err := some {stopTimeout := true}},
        stoppedWith {quarantined := true, err := some {}},
        stoppedWith {} ++ .start .stop :: List.replicate 7 (.run 2 {quarantined := true})],
      ∃ manager, Run (step {}) anyStep (created {}) stops manager ∧
        (manager.shared.reports.any (·.closeClass = .unconfirmed) = true ∧ manager.shared.quarantined = false)) ∧
    (∃ manager, Run (step {}) anyStep (created {})
      (stoppedWith {quarantined := true} ++ .start (.start false) :: List.replicate 6 (.run 2 {})) manager ∧
      manager.shared.calls = [.began 0 false,.returned 0 true,.published 0,.stopBegan,.began 1 false]) ∧
    ∃ manager, Run (step {}) anyStep (created {}) overtakenBefore manager ∧ manager.shared.quarantined = true ∧
      (step {} manager (.run 0 {})).any (fun later => later.shared.calls = manager.shared.calls ++ [.began 0 true]) = true := by
  refine ⟨fun stops listed => Run.exists_of_execute _ ?_,
    Run.exists_of_execute _ (by decide +kernel),Run.exists_of_execute _ (by decide +kernel)⟩
  revert stops
  decide +kernel

end EbusGateway.DriverManager
