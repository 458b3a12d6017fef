import EbusGateway.EscapePair.Steps

/-! What holds of every escape pair the gateway writes. A lifecycle fence does not wait for a commit; every
ownership transition does.
-/
namespace EbusGateway.EscapePair
open Library List

def Checked (token : Arbitrator.OwnershipToken) (checked arb : Arbitrator) : Prop :=
  commitError checked token = none ∧ arb = {checked with lifecycleEpoch := arb.lifecycleEpoch}

def Timely (sent : Transmission) : Prop :=
  ∀ w, sent.wait = some w → w.retired = true ∨ Lead w w.seen ∨
    ∃ base symbol, Lead w base ∧ w.seen = base ++ [symbol] ∧ sent.reader.wait = sent.call.wait

def Echoed (w : LeadWait) : Prop :=
  (∃ syns syn, (∀ symbol ∈ syns, symbol.2 = true) ∧ w.seen = syns ++ [(w.lead,false),(w.suffix,syn)]) ∧
    w.transmitted = true ∧ w.decidedAfter = true

def Settled (answer : Return) : Prop :=
  ∀ w, answer.wait = some w → w.taken = 1 ∧ w.sends ≤ 1 ∧ (answer.err = none → Echoed w)

structure Unblocked (s : State) : Prop where
  reader : ∀ wait out, s.reader = .sending wait out → (s.waits wait).result = none
  boundary : ∀ entry ∈ s.retiring, (s.waits entry.1).result = none
  commit : ∀ call wait, s.writer = .receiving call → call.wait = some wait → (s.waits wait).result ≠ none
  outcomes : ∀ wait, (s.waits wait).taken ≤ 1 ∧ (s.waits wait).sends ≤ 1

namespace Writer

def locks : Writer → Bool
  | .leadWrite _ _ | .claiming _ _ | .receiving _ | .suffixWrite _ _ => true
  | _ => false

def commit : Writer → Option (Call × Arbitrator)
  | .leadWrite call checked | .claiming call checked | .suffixWrite call checked => some (call,checked)
  | _ => none

def unsent : Writer → Option Nat
  | .arming id _ _ _ _ => some id
  | .leadCheck call | .leadWrite call _ | .pacing call | .polling call | .suffixCheck call | .claiming call _
  | .suffixWrite call _ => some call.id
  | _ => none

end Writer

structure Records (s : State) : Prop where
  locked : s.writer.locks = true → s.arbHeld = true
  checked : ∀ call checked, s.writer.commit = some (call,checked) → Checked call.token checked s.arb
  known : ∀ sent ∈ s.transmissions, sent.call.id < s.calls
  unsent : ∀ id, s.writer.unsent = some id → id < s.calls ∧ ∀ sent ∈ s.transmissions, sent.suffix = true → sent.call.id ≠ id
  once : ((s.transmissions.filter (·.suffix)).map (·.call.id)).Nodup
  sent : ∀ sent ∈ s.transmissions, Checked sent.call.token sent.checked sent.arb ∧ (sent.suffix = true → Timely sent)
  returned : ∀ answer ∈ s.returns, Settled answer

theorem Goods.unblocked {s : State} (goods : Goods s) : Unblocked s := by
  refine ⟨?_,?_,?_,?_⟩
  · intro wait out sending
    have here : (s.view wait).reader = .sending wait out := by
      rw [← sending]
      exact Reader.on_self (by rw [sending]; rfl)
    exact ((goods wait).sender (by rw [here]; exact Nat.add_pos_left Nat.one_pos _)).2.2.1
  · intro entry mem
    have busy : 0 < (s.view entry.1).retiring := countP_pos_iff.mpr ⟨entry,mem,decide_eq_true rfl⟩
    exact ((goods entry.1).sender (Nat.add_pos_right _ busy)).2.2.1
  · intro call wait receiving about
    refine (goods wait).phase.receiving call ?_
    rw [← receiving]
    exact State.view_writer about (by rw [receiving]; rfl)
  · intro wait
    have outcomes := (goods wait).core.outcomes
    have taken := (goods wait).taken_le
    exact ⟨taken,Nat.le_trans (Nat.le_trans (Nat.le_trans (Nat.le_add_right _ _) (Nat.le_add_right _ _)) outcomes) taken⟩

theorem Good.settled {v : View} (good : Good v) (armed : v.armed = true)
    (shown : v.published = false) : v.wait.taken = 1 ∧ v.wait.sends ≤ 1 := by
  have taken := good.core.taken armed shown
  have outcomes := good.core.outcomes
  exact ⟨taken,by omega⟩

theorem Good.echoed {v : View} (good : Good v) {out : LeadOutcome} (result : v.wait.result = some out)
    (transmitted : v.wait.transmitted = true) (succeeded : pairFailure v.wait.lead v.wait.suffix out = none) : Echoed v.wait := by
  have undecided := (good.delivered result).2.1
  unfold pairFailure at succeeded
  split at succeeded
  · cases succeeded
  rename_i clear
  obtain ⟨_,⟨leadSeen,base,syn,⟨syns,structural,rfl⟩,seen⟩,after⟩ :=
    good.word.decided out ((View.outcome_result undecided).trans result) clear
  split at succeeded
  · rename_i suffixStep
    split at succeeded
    · rename_i matched
      have observed : out.observed = v.wait.suffix := of_decide_eq_true (Bool.and_eq_true_iff.mp matched).2
      refine ⟨⟨syns,syn,structural,?_⟩,transmitted,after transmitted⟩
      rw [seen,leadSeen,suffixStep,observed]
      simp
    · cases succeeded
  · cases succeeded

theorem Writer.locks_of_commit {writer : Writer} {commit : Call × Arbitrator}
    (known : writer.commit = some commit) : writer.locks = true := by
  cases writer
  all_goals first | rfl | cases known

namespace Records
variable {s t : State} {call : Call}

section
variable (records : Records s) (calls : t.calls = s.calls)
    (transmissions : t.transmissions = s.transmissions) (returns : t.returns = s.returns)
include records calls transmissions returns

theorem move (locked : t.writer.locks = true → t.arbHeld = true)
    (checked : ∀ call checked, t.writer.commit = some (call,checked) → Checked call.token checked t.arb)
    (unsent : ∀ id, t.writer.unsent = some id → s.writer.unsent = some id) : Records t := by
  refine ⟨locked,checked,?_,?_,?_,?_,?_⟩
  · rw [transmissions,calls]
    exact records.known
  · rw [transmissions,calls]
    exact fun id due => records.unsent id (unsent id due)
  · rw [transmissions]
    exact records.once
  · rw [transmissions]
    exact records.sent
  · rw [returns]
    exact records.returned

theorem still (free : t.writer.locks = false) (unsent : t.writer.unsent = none ∨ t.writer.unsent = s.writer.unsent) : Records t := by
  refine records.move calls transmissions returns (clash · free) (fun _ _ known =>
    clash (Writer.locks_of_commit known) free) fun id due => ?_
  rcases unsent with none | same
  · cases none.symm.trans due
  · exact same ▸ due

theorem other (writer : t.writer = s.writer) (held : t.arbHeld = s.arbHeld)
    (arb : s.arbHeld = true → t.arb = {s.arb with lifecycleEpoch := t.arb.lifecycleEpoch}) :
    Records t := by
  refine records.move calls transmissions returns ?_ ?_ ?_
  · rw [writer,held]
    exact records.locked
  · rw [writer]
    intro call checked known
    obtain ⟨current,same⟩ := records.checked call checked known
    refine ⟨current,?_⟩
    rw [arb (records.locked (Writer.locks_of_commit known)),same]
  · rw [writer]
    exact fun _ same => same

end

variable {err : Option WriteError} {wait : Nat} {checked : Arbitrator}

theorem finish (records : Records s) {wait : Option LeadWait} {called : Option Call}
    (settled : Settled ⟨called,err,wait⟩) (calls : t.calls = s.calls) (transmissions : t.transmissions = s.transmissions)
    (returns : t.returns = ⟨called,err,wait⟩ :: s.returns) (idle : t.writer = .idle) : Records t := by
  refine ⟨?_,?_,?_,?_,?_,?_,?_⟩
  · rw [idle]
    exact nofun
  · rw [idle]
    exact nofun
  · rw [transmissions,calls]
    exact records.known
  · rw [idle]
    exact nofun
  · rw [transmissions]
    exact records.once
  · rw [transmissions]
    exact records.sent
  · rw [returns]
    intro answer mem
    rcases mem_cons.mp mem with rfl | old
    · exact settled
    · exact records.returned answer old

theorem consumed_settled {out : LeadOutcome} (goods : Goods s)
    (result : (s.waits wait).result = some out) (echoed : err = none → Echoed (s.waits wait)) (held : Bool) :
    Settled ⟨some call,err,some {s.waits wait with result := none, held := held}⟩ := by
  have good := goods wait
  have armed : (s.view wait).armed = true := by
    by_contra unarmed
    rw [show s.waits wait = {} from (good.core.unarmed ((Bool.not_eq_true _).mp unarmed)).1] at result
    cases result
  obtain ⟨taken,sends⟩ := good.settled armed (good.delivered result).1
  rintro _ ⟨⟩
  exact ⟨taken,sends,echoed⟩

theorem receive_waitOf (about : call.wait = some wait) : (s.receive wait).waitOf call = some {s.waits wait with result := none} := by
  rw [State.waitOf,about]
  exact congrArg some (Function.update_self _ _ _)

section
variable (records : Records s)
include records

theorem settle {out : LeadOutcome} {onward : Writer} (goods : Goods s)
    (about : call.wait = some wait) (known : s.writer.call = some call) (early : s.writer.early = true)
    (result : (s.waits wait).result = some out) : Records (s.settle call wait out onward) := by
  obtain ⟨err,failed⟩ := State.early_fails goods about known early result
  unfold State.settle
  rw [failed]
  refine records.finish ?_ rfl rfl rfl rfl
  rw [receive_waitOf about]
  refine consumed_settled goods result ?_ _
  intro succeeded
  cases succeeded

theorem pace {arm : Arm} (goods : Goods s) (known : s.writer = .pacing call) (ran : s.pace call arm = some t) : Records t := by
  have polled : Records {s with writer := .polling call} :=
    records.still rfl rfl rfl rfl (.inr (known ▸ rfl))
  unfold State.pace at ran
  split at ran
  · split at ran
    · cases ran
      exact polled
    · cases ran
  · cases ran
  · cases ran
    exact polled
  · rename_i wait about
    obtain ⟨out,result,rfl⟩ := Option.map_eq_some_iff.mp ran
    exact records.settle goods about (known ▸ rfl) (by rw [known]; rfl) result
  · cases ran
  · cases ran
    exact records.still rfl rfl rfl rfl (.inl rfl)

theorem poll (goods : Goods s) (known : s.writer = .polling call) : Records (s.poll call) := by
  have passed : Records {s with writer := .suffixCheck call} :=
    records.still rfl rfl rfl rfl (.inr (known ▸ rfl))
  unfold State.poll
  split
  · exact passed
  rename_i wait about
  split
  · exact passed
  · rename_i out result
    exact records.settle goods about (known ▸ rfl) (by rw [known]; rfl) result

theorem lock {next : Writer} (current : commitError s.arb call.token = none)
    (commit : next.commit = some (call,s.arb)) (unsent : ∀ id, next.unsent = some id → s.writer.unsent = some id) :
    Records {s with arbHeld := true, writer := next} := by
  refine records.move rfl rfl rfl (fun _ => rfl) ?_ unsent
  intro other checked known
  cases commit.symm.trans known
  exact ⟨current,rfl⟩

theorem transmit {suffix : Bool} (commit : s.writer.commit = some (call,checked))
    (unsent : s.writer.unsent = some call.id)
    (timely : suffix = true → Timely ⟨call,suffix,checked,s.arb,s.waitOf call,s.reader,s.stream⟩) :
    (∀ sent ∈ (s.transmit call suffix checked).transmissions, sent.call.id < s.calls) ∧
    (((s.transmit call suffix checked).transmissions.filter (·.suffix)).map (·.call.id)).Nodup ∧
    ∀ sent ∈ (s.transmit call suffix checked).transmissions,
      Checked sent.call.token sent.checked sent.arb ∧ (sent.suffix = true → Timely sent) := by
  obtain ⟨started,fresh⟩ := records.unsent call.id unsent
  refine ⟨?_,?_,?_⟩
  · intro sent mem
    rcases mem_cons.mp mem with rfl | old
    · exact started
    · exact records.known sent old
  · cases suffix with
    | false => exact records.once
    | true =>
      refine nodup_cons.mpr ⟨?_,records.once⟩
      intro mem
      obtain ⟨sent,old,same⟩ := mem_map.mp mem
      obtain ⟨old,suffix⟩ := mem_filter.mp old
      exact fresh sent old suffix same
  · intro sent mem
    rcases mem_cons.mp mem with rfl | old
    · exact ⟨records.checked call checked commit,timely⟩
    · exact records.sent sent old

theorem writeLead {written : Bool} (known : s.writer = .leadWrite call checked) : Records (s.writeLead call checked written) := by
  unfold State.writeLead
  split
  · obtain ⟨ids,once,sent⟩ := @transmit s call checked records false (by rw [known]; rfl) (known ▸ rfl) nofun
    refine ⟨nofun,nofun,ids,?_,once,sent,records.returned⟩
    rintro _ ⟨⟩
    refine ⟨(records.unsent call.id (known ▸ rfl)).1,?_⟩
    intro sent mem suffix
    rcases mem_cons.mp mem with rfl | old
    · cases suffix
    · exact (records.unsent call.id (known ▸ rfl)).2 sent old suffix
  · exact records.still rfl rfl rfl rfl (.inl rfl)

end

theorem suffix_timely (goods : Goods s) (known : s.writer = .suffixWrite call checked) :
    Timely ⟨call,true,checked,s.arb,s.waitOf call,s.reader,s.stream⟩ := by
  intro w found
  obtain ⟨wait,about,rfl⟩ := Option.map_eq_some_iff.mp found
  have good := goods wait
  have writing : (s.view wait).writer = .suffixWrite call checked := (State.view_writer about (by rw [known]; rfl)).trans known
  obtain ⟨_,shown | retired,_⟩ := good.phase.claimed call checked writing
  · refine .inr ?_
    have reads := good.seen.reading shown
    by_cases here : s.reader.wait = some wait
    · have reader : (s.view wait).reader = s.reader := Reader.on_self here
      simp only [Reads,reader] at reads
      cases reading : s.reader with
      | idle => rw [reading] at here; cases here
      | advancing old symbol =>
        rw [reading] at reads
        obtain ⟨base,lead,seen⟩ := reads
        exact .inr ⟨base,symbol,lead,seen,(reading ▸ here).trans about.symm⟩
      | locking old symbol suffixStep =>
        rw [reading] at reads
        obtain ⟨_,base,syn,lead,seen⟩ := reads
        exact .inr ⟨base,(symbol,syn),lead,seen,(reading ▸ here).trans about.symm⟩
      | unpublishing old symbol suffixStep =>
        rw [reading] at reads
        obtain ⟨_,base,syn,lead,seen⟩ := reads
        exact .inr ⟨base,(symbol,syn),lead,seen,(reading ▸ here).trans about.symm⟩
      | refuting | sending =>
        rw [reading] at reads
        exact .inl reads
    · have away : (s.view wait).reader = .idle := if_neg here
      simp only [Reads,away] at reads
      exact .inl reads
  · exact .inl retired

section
variable (records : Records s)
include records

section
variable (goods : Goods s)
include goods

theorem writeSuffix {written : Bool} (known : s.writer = .suffixWrite call checked) :
    Records (s.writeSuffix call checked written) := by
  obtain ⟨ids,once,sent⟩ := @transmit s call checked records true (by
    rw [known]; rfl) (known ▸ rfl) fun _ => suffix_timely goods known
  unfold State.writeSuffix
  cases about : call.wait with
  | none =>
    cases written with
    | false => exact records.still rfl rfl rfl rfl (.inl rfl)
    | true =>
      refine ⟨nofun,nofun,ids,nofun,once,sent,?_⟩
      intro answer mem
      rcases mem_cons.mp mem with rfl | old
      · intro w found
        simp only [State.waitOf,about] at found
        cases found
      · exact records.returned answer old
  | some wait =>
    cases written with
    | false => exact records.still rfl rfl rfl rfl (.inl rfl)
    | true => exact ⟨nofun,nofun,ids,nofun,once,sent,records.returned⟩

theorem receiveRefuted (ran : s.receiveRefuted call = some t) : Records t := by
  obtain ⟨wait,about,received⟩ := Option.bind_eq_some_iff.mp ran
  obtain ⟨out,result,rfl⟩ := Option.map_eq_some_iff.mp received
  refine records.finish ?_ rfl rfl rfl rfl
  rw [State.waitOf,about,Option.map_some,show (State.update s wait _).waits wait = _ from Function.update_self _ _ _]
  refine consumed_settled goods result ?_ false
  intro succeeded
  cases succeeded

theorem awaitEcho {arm : Arm} (known : s.writer = .awaiting call) (ran : s.awaitEcho call arm = some t) : Records t := by
  unfold State.awaitEcho at ran
  split at ran
  · obtain ⟨wait,about,received⟩ := Option.bind_eq_some_iff.mp ran
    obtain ⟨out,result,rfl⟩ := Option.map_eq_some_iff.mp received
    refine records.finish ?_ rfl rfl rfl rfl
    rw [receive_waitOf about]
    refine consumed_settled goods result ?_ _
    have transmitted := (goods wait).phase.awaiting call ((State.view_writer about (known ▸ rfl)).trans known)
    exact (goods wait).echoed result transmitted
  · cases ran
    exact records.still rfl rfl rfl rfl (.inl rfl)
  · cases ran
    exact records.still rfl rfl rfl rfl (.inl rfl)
  · cases ran

theorem drop {cause : Drop} {err : WriteError} (known : s.writer = .dropping call cause) :
    Records ((s.dropGatewayLeadWait call).finish call (some err)) := by
  have after : Goods ((s.dropGatewayLeadWait call).finish call (some err)) := State.drop_goods goods known
  have fields : (s.dropGatewayLeadWait call).calls = s.calls ∧ (s.dropGatewayLeadWait call).transmissions = s.transmissions ∧
      (s.dropGatewayLeadWait call).returns = s.returns := by
    unfold State.dropGatewayLeadWait
    split
    · split <;> exact ⟨rfl,rfl,rfl⟩
    · exact ⟨rfl,rfl,rfl⟩
  have settled : Settled ⟨some call,some err,(s.dropGatewayLeadWait call).waitOf call⟩ := by
    intro w found
    obtain ⟨wait,about,rfl⟩ := Option.map_eq_some_iff.mp found
    have good := after wait
    have armed : ((s.dropGatewayLeadWait call).view wait).armed = true := by
      have before := (goods wait).armed_of_writer (by rw [State.view_writer about (by rw [known]; rfl),known]; simp)
      unfold State.dropGatewayLeadWait
      rw [about]
      simp only
      split <;> exact before
    have shown : (((s.dropGatewayLeadWait call).finish call (some err)).view wait).published = false := by
      by_contra still
      exact ((good.core.owner ((Bool.not_eq_false _).mp still)).1) (Writer.on_idle wait)
    obtain ⟨taken,sends⟩ := good.settled armed shown
    refine ⟨taken,sends,?_⟩
    intro succeeded
    cases succeeded
  refine records.finish settled fields.1 fields.2.1 ?_ rfl
  rw [← fields.2.2]
  rfl

theorem sendLoop {choice : Choice} (ran : s.sendLoop choice = some t) : Records t := by
  unfold State.sendLoop at ran
  split at ran
  · cases ran
  · cases ran
    unfold State.enter
    split
    · refine records.finish ?_ rfl rfl rfl rfl
      intro w found
      cases found
    refine ⟨nofun,nofun,fun sent mem => Nat.lt_succ_of_lt (records.known sent mem),?_,records.once,records.sent,
      records.returned⟩
    rintro _ ⟨⟩
    exact ⟨Nat.lt_succ_self _,fun sent mem _ => Nat.ne_of_lt (records.known sent mem)⟩
  · rename_i id token lead suffix raw known
    cases ran
    unfold State.armGatewayLeadWait
    split
    all_goals exact records.still rfl rfl rfl rfl (.inr (by rw [known]; rfl))
  · rename_i call known
    cases ran
    unfold State.checkLead
    split
    · exact records.still rfl rfl rfl rfl (.inl rfl)
    · exact records.lock ‹_› rfl fun _ same => by rw [known]; exact same
  · cases ran
    exact records.writeLead ‹_›
  · exact records.pace goods ‹_› ran
  · cases ran
    exact records.poll goods ‹_›
  · rename_i call known
    cases ran
    unfold State.checkSuffix
    split
    · exact records.still rfl rfl rfl rfl (.inl rfl)
    split
    all_goals exact records.lock ‹_› rfl fun _ same => by rw [known]; exact same
  · rename_i call checked known
    obtain ⟨wait,about,locked⟩ := Option.bind_eq_some_iff.mp ran
    split at locked
    · cases locked
    have held := records.locked (by rw [known]; rfl)
    split at locked
    · cases locked
      refine records.move rfl rfl rfl (fun _ => held) ?_ fun _ same => by rw [known]; exact same
      rintro _ _ ⟨⟩
      exact records.checked call checked (by rw [known]; rfl)
    · cases locked
      exact records.move rfl rfl rfl (fun _ => held) nofun nofun
  · exact records.receiveRefuted goods ran
  · cases ran
    exact records.writeSuffix goods ‹_›
  · exact records.awaitEcho goods ‹_› ran
  · cases ran
    exact records.drop goods ‹_›

end

theorem readLoop (ran : s.readLoop = some t) : Records t := by
  unfold State.readLoop at ran
  split at ran
  · cases ran
  -- the reader's own moves send and return nothing
  on_goal 5 =>
    obtain ⟨sent,delivered,rfl⟩ := Option.map_eq_some_iff.mp ran
    unfold State.sendOutcome at delivered
    split at delivered
    all_goals cases delivered
    exact records.other rfl rfl rfl rfl rfl fun _ => rfl
  all_goals
    try unfold State.lockWait at ran
    try split at ran
    all_goals cases ran
    all_goals
      try unfold State.advance
      try unfold State.swapWait
      repeat' split
      all_goals exact records.other rfl rfl rfl rfl rfl fun _ => rfl

theorem step {label : Label} (goods : Goods s) (ran : step s label = some t) : Records t := by
  cases label with
  | writeSymbols lead suffix raw =>
    simp only [EscapePair.step] at ran
    split at ran
    · cases ran
      exact records.move rfl rfl rfl (absurd · Bool.false_ne_true) (fun _ _ found => absurd found.symm (Option.some_ne_none _))
        fun _ found => absurd found.symm (Option.some_ne_none _)
    · cases ran
  | sendLoop choice => exact records.sendLoop goods ran
  | observe symbol =>
    simp only [EscapePair.step] at ran
    split at ran
    · cases ran
      unfold State.observe
      split <;> exact records.other rfl rfl rfl rfl rfl fun _ => rfl
    · cases ran
  | readLoop => exact records.readLoop ran
  | confirmOwnership | releaseOwnership | forceRelease =>
    simp only [EscapePair.step] at ran
    split at ran
    · cases ran
    · rename_i free
      cases ran
      exact records.other rfl rfl rfl rfl rfl fun held => (free held).elim
  | fence boundary =>
    cases ran
    exact records.other rfl rfl rfl rfl rfl fun _ => rfl
  | swap index =>
    obtain ⟨boundary,found,rfl⟩ := Option.map_eq_some_iff.mp ran
    split <;> exact records.other rfl rfl rfl rfl rfl fun _ => rfl
  | send index =>
    obtain ⟨⟨wait,boundary⟩,found,delivering⟩ := Option.bind_eq_some_iff.mp ran
    obtain ⟨sent,delivered,rfl⟩ := Option.map_eq_some_iff.mp delivering
    unfold State.sendOutcome at delivered
    split at delivered
    · cases delivered
    · cases delivered
      exact records.other rfl rfl rfl rfl rfl fun _ => rfl

end

end Records

theorem initially_records (arb : Arbitrator) : Records (initially arb) := by
  refine ⟨nofun,nofun,?_,nofun,nodup_nil,?_,?_⟩
  all_goals exact forall_mem_nil _

theorem run_safe {arb : Arbitrator} {labels : List Label} {final : State}
    (run : Run step anyStep (initially arb) labels final) : Goods final ∧ Records final := by
  refine run.invariant (fun s => Goods s ∧ Records s) ?_ ⟨initially_goods arb,initially_records arb⟩
  rintro s label t ⟨goods,records⟩ _ ran
  exact ⟨step_goods goods ran,records.step goods ran⟩

/-- In every run: each symbol of a pair goes out under the ownership its token was checked against, with at
most lifecycle fences since; no suffix goes out twice, nor after a symbol that decided its wait; a call
succeeds with the raw view only if both echoes came in a row; and each wait is taken once, with no send
or receive of a commit blocked. -/
theorem escape_pair_write_safety {arb : Arbitrator} {labels : List Label} {final : State}
    (run : Run step anyStep (initially arb) labels final) :
    (∀ sent ∈ final.transmissions, Checked sent.call.token sent.checked sent.arb ∧ (sent.suffix = true → Timely sent)) ∧
    ((final.transmissions.filter (·.suffix)).map (·.call.id)).Nodup ∧ (∀ answer ∈ final.returns, Settled answer) ∧
    Unblocked final :=
  have ⟨goods,records⟩ := run_safe run
  ⟨records.sent,records.once,records.returned,goods.unblocked⟩

def sampleGateway : Arbitrator := {hasOwner := true, ownershipGen := 1}

def samplePair : List Label :=
  .writeSymbols 0xA9 0x01 true :: List.replicate 4 (.sendLoop {}) ++
    [.observe (0xA9,false),.readLoop,.sendLoop {arm := .leadEchoed}] ++ List.replicate 4 (.sendLoop {}) ++
    .observe (0x01,false) :: List.replicate 5 .readLoop ++ [.sendLoop {}]

theorem echoed_pair_is_safe : ∃ final, Run step anyStep (initially sampleGateway) samplePair final ∧
    (final.returns.map (·.err) = [none] ∧ final.transmissions.map (·.suffix) = [true,false]) ∧
    (∀ sent ∈ final.transmissions, Checked sent.call.token sent.checked sent.arb ∧ (sent.suffix = true → Timely sent)) ∧
    ((final.transmissions.filter (·.suffix)).map (·.call.id)).Nodup ∧ (∀ answer ∈ final.returns, Settled answer) ∧
    Unblocked final := by
  refine Exists.imp (fun _ found => and_assoc.mp ⟨found,?_⟩) (Run.exists_of_execute _ (by decide +kernel))
  exact escape_pair_write_safety found.1

def sampleFenced : List Label :=
  .writeSymbols 0xA9 0x01 true :: List.replicate 4 (.sendLoop {}) ++
    [.observe (0xA9,false),.readLoop,.sendLoop {arm := .leadEchoed},.sendLoop {},.sendLoop {},.fence .adapterReset,.swap 0,
      .observe (0x10,false),.sendLoop {},.sendLoop {}]

def sampleInHand : List Label :=
  .writeSymbols 0xA9 0x01 true :: List.replicate 4 (.sendLoop {}) ++
    [.observe (0xA9,false),.readLoop,.sendLoop {arm := .leadEchoed},.sendLoop {},.sendLoop {},.observe (0x01,false),.readLoop,
      .sendLoop {},.sendLoop {}] ++ List.replicate 4 .readLoop ++ [.sendLoop {}]

theorem suffix_sent_after_fence_or_symbol :
    (∃ final, Run step anyStep (initially sampleGateway) sampleFenced final ∧
      ∃ sent ∈ final.transmissions, sent.suffix = true ∧ commitError sent.arb sent.call.token = some .lifecycleFenced ∧
        sent.stream = [(0xA9,false),(0x10,false)]) ∧
    ∃ final, Run step anyStep (initially sampleGateway) sampleInHand final ∧ final.returns.map (·.err) = [none] ∧
      ∃ sent ∈ final.transmissions, sent.suffix = true ∧ sent.stream = [(0xA9,false),(0x01,false)] :=
  ⟨Run.exists_of_execute _ (by decide +kernel),Run.exists_of_execute _ (by decide +kernel)⟩

end EbusGateway.EscapePair
