import EbusGateway.EscapePair.Waits
import Mathlib.Data.List.Perm.Basic

/-! Every step keeps the invariant of every wait: the waits a step is not about have the same view
before and after, and the one it is about changes as the protocol allows.
-/
namespace EbusGateway.EscapePair
open Library List

/-- The invariant of every wait, armed or not. -/
def Goods (s : State) : Prop := ∀ wait, Good (s.view wait)

variable {wait : Nat} {writer : Writer}

theorem Reader.on_self {reader : Reader} (about : reader.wait = some wait) : reader.on wait = reader := if_pos about

theorem Reader.on_other {reader : Reader} {other : Nat} (about : reader.wait = some wait) (apart : other ≠ wait) :
    reader.on other = .idle := if_neg fun same => apart (Option.some.inj (same.symm.trans about))

theorem Reader.on_idle (wait : Nat) : Reader.idle.on wait = .idle := if_neg nofun

theorem Writer.on_self (about : writer.wait = some wait) : writer.on wait = writer := if_pos about

theorem Writer.on_other (about : writer.wait ≠ some wait) : writer.on wait = .idle := if_neg about

theorem Writer.on_idle (wait : Nat) : Writer.idle.on wait = .idle := if_neg nofun

theorem Writer.on_blind {call : Call} (known : writer.call = some call) (blind : call.wait = none) : writer.on wait = .idle := by
  refine Writer.on_other ?_
  rw [Writer.wait,known,Option.bind_some,blind]
  exact nofun

section
variable {s t : State} {wait : Nat} {writer : Writer} {call : Call} {other : Nat} {reader : Reader}

/-- A wait is seen as before when nothing of what it sees has changed. -/
theorem view_other (waits : t.waits wait = s.waits wait) (published : t.published = some wait ↔ s.published = some wait)
    (armed : wait < t.armed ↔ wait < s.armed) (reader : t.reader.on wait = s.reader.on wait)
    (writer : t.writer.on wait = s.writer.on wait)
    (retiring : t.retiring.countP (·.1 = wait) = s.retiring.countP (·.1 = wait)) : t.view wait = s.view wait := by
  unfold State.view
  rw [waits,decide_eq_decide.mpr published,decide_eq_decide.mpr armed,reader,writer,retiring]

/-- A step of the writer that leaves waits, publication and the other goroutines alone. -/
structure SameWaits (s t : State) : Prop where
  waits : t.waits = s.waits
  published : t.published = s.published
  armed : t.armed = s.armed
  reader : t.reader = s.reader
  retiring : t.retiring = s.retiring

section
variable (same : SameWaits s t)
include same

theorem SameWaits.view (wait : Nat) : t.view wait = {s.view wait with writer := t.writer.on wait} := by
  unfold State.view
  rw [same.waits,same.published,same.armed,same.reader,same.retiring]

theorem SameWaits.goods (writer : ∀ wait, t.writer.on wait = s.writer.on wait) (goods : Goods s) : Goods t := by
  intro wait
  rw [same.view wait,writer wait]
  exact goods wait

theorem SameWaits.away (before : ∀ wait, s.writer.on wait = .idle) (after : ∀ wait, t.writer.on wait = .idle)
    (goods : Goods s) : Goods t := same.goods (fun wait => (after wait).trans (before wait).symm) goods

theorem SameWaits.move (goods : Goods s) {call : Call} (old : s.writer.call = some call)
    (new : t.writer.call = some call) (holds : t.writer.holds = s.writer.holds)
    (early : t.writer.early = true → s.writer.early = true) (late : call.wait.isSome = true → t.writer.holds = false)
    (awaiting : call.wait.isSome = true → ∀ call, t.writer ≠ .awaiting call) : Goods t := by
  intro wait
  rw [same.view wait]
  by_cases about : call.wait = some wait
  · have before : s.writer.wait = some wait := by rw [Writer.wait,old]; exact about
    have after : t.writer.wait = some wait := by rw [Writer.wait,new]; exact about
    have good := goods wait
    have writer : (s.view wait).writer = s.writer := Writer.on_self before
    have raw : call.wait.isSome = true := by rw [about]; rfl
    have free := late raw
    rw [Writer.on_self after]
    refine good.move ?_ ?_ ?_ ?_ ?_ ?_ (awaiting raw)
    · intro idle
      rw [idle] at new
      cases new
    · refine good.armed_of_writer fun idle => ?_
      rw [writer] at idle
      rw [idle] at old
      cases old
    · rw [writer]
      exact holds
    · rw [writer]
      exact early
    · intro _ _ known
      rw [known] at free
      cases free
    · intro _ known
      rw [known] at free
      cases free
  · rw [@Writer.on_other wait t.writer (by rw [Writer.wait,new]; exact about)]
    have idle : (s.view wait).writer = .idle := Writer.on_other (by rw [Writer.wait,old]; exact about)
    rw [← idle]
    exact goods wait

end

/-- A step about one wait. -/
theorem goods_at (wait : Nat) (goods : Goods s) (others : ∀ other, other ≠ wait → t.view other = s.view other)
    (own : Good (t.view wait)) : Goods t := by
  intro other
  by_cases same : other = wait
  · rw [same]
    exact own
  · rw [others other same]
    exact goods other

theorem Writer.on_call (about : call.wait = some wait)
    (known : writer.call = some call ∨ writer = .idle) (apart : other ≠ wait) : writer.on other = .idle := by
  rcases known with busy | rfl
  · refine Writer.on_other fun same => ?_
    rw [Writer.wait,busy] at same
    exact apart (Option.some.inj (same.symm.trans about))
  · exact Writer.on_other nofun

theorem Writer.on_own (about : call.wait = some wait)
    (known : writer.call = some call ∨ writer = .idle) : writer.on wait = writer := by
  rcases known with busy | rfl
  · refine Writer.on_self ?_
    rw [Writer.wait,busy]
    exact about
  · exact Writer.on_idle wait

theorem Reader.on_wait (known : reader.wait = some wait ∨ reader = .idle) (apart : other ≠ wait) : reader.on other = .idle := by
  rcases known with busy | rfl
  · exact Reader.on_other busy apart
  · exact if_neg nofun

theorem Reader.on_own (known : reader.wait = some wait ∨ reader = .idle) : reader.on wait = reader := by
  rcases known with busy | rfl
  · exact Reader.on_self busy
  · exact Reader.on_idle wait

section
variable (change : LeadWait → LeadWait) {wait : Nat} (goods : Goods s) (waits : t.waits = (s.update wait change).waits)
  (published : t.published = s.published ∨ s.published = some wait ∧ t.published = none) (armed : t.armed = s.armed)
include goods waits published armed

theorem goods_update (retiring : t.retiring = s.retiring) (readers : ∀ other, other ≠ wait → t.reader.on other = s.reader.on other)
    (writers : ∀ other, other ≠ wait → t.writer.on other = s.writer.on other) (own : Good {s.view wait with
      wait := change (s.waits wait), published := t.published = some wait, reader :=
        t.reader.on wait, writer := t.writer.on wait}) : Goods t := by
  refine goods_at wait goods ?_ ?_
  · intro other apart
    refine view_other ?_ ?_ (by rw [armed]) (readers other apart) (writers other apart) (by rw [retiring])
    · rw [waits]
      exact Function.update_of_ne apart _ _
    · rcases published with same | ⟨before,after⟩
      · rw [same]
      · rw [before,after]
        simp [Ne.symm apart]
  · have same : t.waits wait = change (s.waits wait) := by
      rw [waits]
      exact Function.update_self _ _ _
    unfold State.view
    rw [same,armed,retiring]
    exact own

/-- A step of the writer about its own wait. -/
theorem goods_writer {call : Call} (about : call.wait = some wait) (old : s.writer.call = some call)
    (new : t.writer.call = some call ∨ t.writer = .idle) (reader : t.reader = s.reader) (retiring : t.retiring = s.retiring)
    (own : Good {s.view wait with
      wait := change (s.waits wait), published := t.published = some wait, writer := t.writer}) : Goods t := by
  refine goods_update change goods waits published armed retiring (fun _ _ => by rw [reader]) ?_
    (by rw [reader,Writer.on_own about new]; exact own)
  intro other apart
  rw [Writer.on_call about new apart,Writer.on_call about (.inl old) apart]

/-- A step of the reader about the wait it holds. -/
theorem goods_reader (old : s.reader.wait = some wait ∨ s.reader = .idle) (new : t.reader.wait = some wait ∨ t.reader = .idle)
    (writer : t.writer = s.writer) (retiring : t.retiring = s.retiring)
    (own : Good {s.view wait with wait := change (s.waits wait), published := t.published = some wait, reader := t.reader}) : Goods t := by
  refine goods_update change goods waits published armed retiring ?_ (fun _ _ => by rw [writer])
    (by rw [writer,Reader.on_own new]; exact own)
  intro other apart
  rw [Reader.on_wait new apart,Reader.on_wait old apart]

end

end

namespace State
variable {s t : State} {lead suffix : UInt8}

theorem enter_goods {raw : Bool} (goods : Goods s)
    (entering : s.writer = .entering lead suffix raw) : Goods (s.enter lead suffix raw) := by
  have away (wait : Nat) : s.writer.on wait = .idle := entering ▸ Writer.on_other nofun
  unfold enter
  split
  all_goals exact SameWaits.away (s := s) ⟨rfl,rfl,rfl,rfl,rfl⟩ away (fun _ => Writer.on_other nofun) goods

theorem arm_goods {id : Nat} {token : Arbitrator.OwnershipToken} {raw : Bool} (goods : Goods s)
    (arming : s.writer = .arming id token lead suffix raw) : Goods (s.armGatewayLeadWait id token lead suffix raw) := by
  have away (wait : Nat) : s.writer.on wait = .idle := arming ▸ Writer.on_other nofun
  have unpublished (wait : Nat) : s.published ≠ some wait := by
    intro published
    exact ((goods wait).core.owner (decide_eq_true published)).1 (away wait)
  unfold armGatewayLeadWait
  split
  · refine goods_at s.armed goods ?_ ?_
    · intro other apart
      refine view_other (Function.update_of_ne apart _ _) ?_ ?_ rfl ?_ rfl
      · simp [unpublished other,Ne.symm apart]
      · simp only
        omega
      · rw [away]
        exact Writer.on_call rfl (.inl rfl) apart
    · obtain ⟨_,_,reader,_,retiring⟩ := (goods s.armed).core.unarmed (by simp [view])
      have fresh := Good.armed lead suffix ⟨id,token,lead,suffix,some s.armed⟩
      simp only [view] at reader retiring ⊢
      rw [reader,retiring,Function.update_self,Writer.on_self rfl]
      simpa using fresh
  · exact SameWaits.away (s := s) ⟨rfl,rfl,rfl,rfl,rfl⟩ away (fun _ => Writer.on_other nofun) goods

variable {call : Call} {checked : Arbitrator} {wait : Nat} {out : LeadOutcome} {err : Option WriteError}

theorem fail_goods {err : WriteError} {t : State} (same : SameWaits s t) (goods : Goods s)
    (known : s.writer.call = some call) (free : s.writer.holds = false) : Goods (t.fail call err) := by
  have moved : SameWaits s (t.fail call err) := {same with}
  exact moved.move goods known rfl free.symm nofun (fun _ => rfl) nofun

/-- The writer goes on before its suffix is out. -/
theorem early_goods {t : State} (goods : Goods s) (same : SameWaits s t) (known : s.writer.call = some call)
    (early : s.writer.early = true) (new : t.writer.call = some call) (stays : t.writer.early = true) : Goods t := by
  have free {writer : Writer} (early : writer.early = true) : writer.holds = false := by cases writer <;> first | rfl | cases early
  refine same.move goods known new ((free stays).trans (free early).symm) (fun _ => early) (fun _ => free stays) ?_
  rintro - _ awaiting
  rw [awaiting] at stays
  cases stays

theorem checkLead_goods (goods : Goods s) (known : s.writer = .leadCheck call) : Goods (s.checkLead call) := by
  unfold checkLead
  split
  · exact fail_goods ⟨rfl,rfl,rfl,rfl,rfl⟩ goods (known ▸ rfl) (known ▸ rfl)
  · exact early_goods goods ⟨rfl,rfl,rfl,rfl,rfl⟩ (known ▸ rfl) (known ▸ rfl) rfl rfl

theorem writeLead_goods {written : Bool} (goods : Goods s)
    (known : s.writer = .leadWrite call checked) : Goods (s.writeLead call checked written) := by
  unfold writeLead
  split
  · exact early_goods goods ⟨rfl,rfl,rfl,rfl,rfl⟩ (known ▸ rfl) (known ▸ rfl) rfl rfl
  · exact fail_goods ⟨rfl,rfl,rfl,rfl,rfl⟩ goods (known ▸ rfl) (known ▸ rfl)

theorem view_writer (about : call.wait = some wait) (known : s.writer.call = some call) :
    (s.view wait).writer = s.writer := Writer.on_own about (.inl known)

section
variable (goods : Goods s) {symbol : Symbol} {index : Nat}
include goods

section
variable (about : call.wait = some wait)
include about

theorem early_fails (known : s.writer.call = some call) (early : s.writer.early = true) (result : (s.waits wait).result = some out) :
    ∃ err, pairFailure (s.waits wait).lead (s.waits wait).suffix out = some err := by
  have good := goods wait
  have undecided := (good.delivered result).2.1
  have uncommitted := (good.phase.early (by rw [view_writer about known]; exact early)).1
  unfold pairFailure
  cases clear : out.err with
  | some boundary => exact ⟨_,rfl⟩
  | none =>
    have word := (good.word.decided out ((View.outcome_result undecided).trans result) clear).1
    have hasty : out.early = true := by
      cases hasty : out.early with
      | true => rfl
      | false =>
        rw [hasty] at word
        exact (uncommitted word).elim
    rw [hasty]
    cases out.suffixStep <;> exact ⟨_,rfl⟩

theorem consume_goods (known : s.writer.call = some call) (free : s.writer.holds = false)
    (result : (s.waits wait).result = some out) : Goods ((s.receive wait).finish call err) := by
  have good := goods wait
  have held : (s.waits wait).held = (s.view wait).reader.holds := good.held_eq (by rw [view_writer about known]; exact free)
  refine goods_writer (fun w => {w with result := none}) goods rfl (.inl rfl) rfl about known (.inr rfl) rfl rfl ?_
  exact good.consume result held

theorem settle_goods {onward : Writer} (known : s.writer.call = some call) (early : s.writer.early = true)
    (free : s.writer.holds = false) (result : (s.waits wait).result = some out) : Goods (s.settle call wait out onward) := by
  obtain ⟨err,failed⟩ := early_fails goods about known early result
  unfold settle
  rw [failed]
  exact consume_goods goods about known free result

end

theorem pace_goods {arm : Arm} (known : s.writer = .pacing call) (ran : s.pace call arm = some t) : Goods t := by
  have polled : Goods {s with writer := .polling call} := early_goods goods ⟨rfl,rfl,rfl,rfl,rfl⟩ (known ▸ rfl) (known ▸ rfl) rfl rfl
  unfold pace at ran
  split at ran
  · split at ran
    · cases ran
      exact polled
    · cases ran
  · cases ran
  · cases ran
    exact polled
  · rename_i wait about
    obtain ⟨out,result,rfl⟩ := Option.map_eq_some_iff.mp ran
    exact settle_goods goods about (known ▸ rfl) (known ▸ rfl) (known ▸ rfl) result
  · cases ran
  · cases ran
    exact fail_goods ⟨rfl,rfl,rfl,rfl,rfl⟩ goods (known ▸ rfl) (known ▸ rfl)

theorem poll_goods (known : s.writer = .polling call) : Goods (s.poll call) := by
  have passed : Goods {s with writer := .suffixCheck call} :=
    early_goods goods ⟨rfl,rfl,rfl,rfl,rfl⟩ (known ▸ rfl) (known ▸ rfl) rfl rfl
  unfold poll
  split
  · exact passed
  rename_i wait about
  split
  · exact passed
  · rename_i out result
    exact settle_goods goods about (known ▸ rfl) (known ▸ rfl) (known ▸ rfl) result

theorem checkSuffix_goods (known : s.writer = .suffixCheck call) : Goods (s.checkSuffix call) := by
  unfold checkSuffix
  split
  · exact fail_goods ⟨rfl,rfl,rfl,rfl,rfl⟩ goods (known ▸ rfl) (known ▸ rfl)
  split
  · exact early_goods goods ⟨rfl,rfl,rfl,rfl,rfl⟩ (known ▸ rfl) (known ▸ rfl) rfl rfl
  · rename_i blind
    have none : call.wait = none := Option.not_isSome_iff_eq_none.mp blind
    exact SameWaits.away (s := s) ⟨rfl,rfl,rfl,rfl,rfl⟩ (fun _ =>
      Writer.on_blind (known ▸ rfl) none) (fun _ => Writer.on_blind rfl none) goods

theorem claim_goods (known : s.writer = .claiming call checked) (ran : s.claim call checked = some t) : Goods t := by
  obtain ⟨wait,about,locked⟩ := Option.bind_eq_some_iff.mp ran
  have good := goods wait
  have early : (s.view wait).writer.early = true := by
    rw [view_writer about (known ▸ rfl),known]
    rfl
  split at locked
  · cases locked
  rename_i unheld
  have held : (s.waits wait).held = false := (Bool.not_eq_true _).mp unheld
  split at locked
  · rename_i pending
    cases locked
    refine goods_writer (fun w => {w with held := true, suffixState := .committed}) goods
      rfl (.inl rfl) rfl about (known ▸ rfl) (.inl rfl) rfl rfl ?_
    exact good.claim early held pending call checked
  · rename_i decided
    cases locked
    refine goods_writer (fun w => {w with held := true}) goods rfl (.inl rfl) rfl about (known ▸ rfl) (.inl rfl) rfl rfl ?_
    exact good.refused early held decided call

theorem receiveRefuted_goods (known : s.writer = .receiving call) (ran : s.receiveRefuted call = some t) : Goods t := by
  obtain ⟨wait,about,received⟩ := Option.bind_eq_some_iff.mp ran
  obtain ⟨out,result,rfl⟩ := Option.map_eq_some_iff.mp received
  have good := goods wait
  have reading : false = (s.view wait).reader.holds := by
    cases reading : (s.view wait).reader.holds with
    | false => rfl
    | true =>
      have free := good.exclusive reading
      rw [view_writer about (known ▸ rfl),known] at free
      cases free
  refine goods_writer (fun w => {w with result := none, held := false}) goods rfl (.inl rfl) rfl
    about (known ▸ rfl) (.inr rfl) rfl rfl ?_
  exact good.consume result reading

theorem writeSuffix_goods {written : Bool} (known : s.writer = .suffixWrite call checked) :
    Goods (s.writeSuffix call checked written) := by
  cases about : call.wait with
  | none =>
    have away (wait : Nat) : s.writer.on wait = .idle := Writer.on_blind (known ▸ rfl) about
    unfold writeSuffix
    rw [about]
    cases written with
    | false =>
      exact SameWaits.away (s := s) ⟨rfl,rfl,rfl,rfl,rfl⟩ away (fun _ => Writer.on_blind rfl about) goods
    | true =>
      exact SameWaits.away (s := s) ⟨rfl,rfl,rfl,rfl,rfl⟩ away (fun _ => Writer.on_other nofun) goods
  | some wait =>
    have good := goods wait
    have writing : (s.view wait).writer = .suffixWrite call checked := (view_writer about (known ▸ rfl)).trans known
    have written_goods (next : Writer) (same : next.call = some call) (holds : next.holds = false) (late : next.early = false)
        (awaiting : ∀ call, next = .awaiting call → written = true) (transmissions : List Transmission) :
        Goods {s.update wait fun w => {w with held := false, transmitted := written} with
          arbHeld := false, transmissions := transmissions, writer := next} := by
      refine goods_writer (fun w => {w with held := false, transmitted := written}) goods
        rfl (.inl rfl) rfl about (known ▸ rfl) (.inl same) rfl rfl ?_
      have busy : next ≠ .idle := fun idle => by rw [idle] at same; cases same
      exact good.wrote writing written busy holds late awaiting
    unfold writeSuffix
    rw [about]
    cases written with
    | false => exact written_goods (.dropping call (.failed .transport)) rfl rfl rfl nofun s.transmissions
    | true => exact written_goods (.awaiting call) rfl rfl rfl (fun _ _ => rfl) _

theorem awaitEcho_goods {arm : Arm} (known : s.writer = .awaiting call) (ran : s.awaitEcho call arm = some t) : Goods t := by
  unfold awaitEcho at ran
  split at ran
  · obtain ⟨wait,about,received⟩ := Option.bind_eq_some_iff.mp ran
    obtain ⟨out,result,rfl⟩ := Option.map_eq_some_iff.mp received
    exact consume_goods goods about (known ▸ rfl) (known ▸ rfl) result
  · cases ran
    have moved : SameWaits s {s with writer := .dropping call .timedOut} := ⟨rfl,rfl,rfl,rfl,rfl⟩
    exact moved.move goods (known ▸ rfl) rfl (known ▸ rfl) nofun (fun _ => rfl) nofun
  · cases ran
    exact fail_goods ⟨rfl,rfl,rfl,rfl,rfl⟩ goods (known ▸ rfl) (known ▸ rfl)
  · cases ran

theorem drop_goods {cause : Drop} (known : s.writer = .dropping call cause) :
    Goods ((s.dropGatewayLeadWait call).finish call err) := by
  unfold dropGatewayLeadWait
  split
  · rename_i wait about
    have good := goods wait
    have free : (s.view wait).writer.holds = false := by
      rw [view_writer about (known ▸ rfl),known]
      rfl
    split
    · rename_i published
      refine goods_writer (fun w => {w with taken := w.taken + 1}) goods rfl (.inr ⟨published,rfl⟩)
        rfl about (known ▸ rfl) (.inr rfl) rfl rfl ?_
      exact good.drop (decide_eq_true published) free
    rename_i taken
    refine goods_writer id goods ?_ (.inl rfl) rfl about (known ▸ rfl) (.inr rfl) rfl rfl ?_
    · exact (Function.update_eq_self wait s.waits).symm
    · exact good.leave (decide_eq_false taken) free
  · rename_i blind
    exact SameWaits.away (s := s) ⟨rfl,rfl,rfl,rfl,rfl⟩ (fun _ =>
      Writer.on_blind (known ▸ rfl) blind) (fun _ => Writer.on_other nofun) goods

/-- Every step of the writer, by the place it stands at. -/
theorem sendLoop_goods {choice : Choice} (ran : s.sendLoop choice = some t) : Goods t := by
  unfold sendLoop at ran
  split at ran
  · cases ran
  · cases ran
    exact enter_goods goods ‹_›
  · cases ran
    exact arm_goods goods ‹_›
  · cases ran
    exact checkLead_goods goods ‹_›
  · cases ran
    exact writeLead_goods goods ‹_›
  · exact pace_goods goods ‹_› ran
  · cases ran
    exact poll_goods goods ‹_›
  · cases ran
    exact checkSuffix_goods goods ‹_›
  · exact claim_goods goods ‹_› ran
  · exact receiveRefuted_goods goods ‹_› ran
  · cases ran
    exact writeSuffix_goods goods ‹_›
  · exact awaitEcho_goods goods ‹_› ran
  · cases ran
    exact drop_goods goods ‹_›

theorem observe_goods (idle : s.reader = .idle) : Goods (s.observe symbol) := by
  unfold observe
  split
  · exact SameWaits.goods (s := s) ⟨rfl,rfl,rfl,rfl,rfl⟩ (fun _ => rfl) goods
  rename_i wait published
  refine goods_reader (fun w => {w with seen := w.seen ++ [symbol]}) goods rfl (.inl rfl) rfl (.inr idle) (.inl rfl) rfl rfl ?_
  have here : (s.view wait).reader = .idle := by
    rw [← Reader.on_idle wait,← idle]
    rfl
  exact (goods wait).observe (decide_eq_true published) here wait symbol

theorem advance_goods (advancing : s.reader = .advancing wait symbol) : Goods (s.advance wait symbol) := by
  have here : (s.view wait).reader = .advancing wait symbol := by
    rw [view,advancing]
    exact if_pos rfl
  have about : s.reader.wait = some wait := by rw [advancing]; rfl
  have unchanged : s.waits = (s.update wait id).waits := (Function.update_eq_self wait s.waits).symm
  have good := goods wait
  unfold advance
  split
  · rename_i leadSeen
    refine goods_reader id goods unchanged (.inl rfl) rfl (.inl about) (.inl rfl) rfl rfl ?_
    refine good.advance here rfl rfl ?_
    rintro ⟨base,lead,seen⟩
    exact ⟨leadSeen,base,symbol.2,lead,seen⟩
  rename_i unseen
  split
  · rename_i syn
    refine goods_reader id goods unchanged (.inl rfl) rfl (.inl about) (.inr rfl) rfl rfl ?_
    refine good.advance here rfl rfl ?_
    rintro ⟨base,⟨syns,structural,rfl⟩,seen⟩
    refine ⟨syns ++ [symbol],?_,?_⟩
    · intro other mem
      rcases mem_append.mp mem with old | new
      · exact structural other old
      · rw [mem_singleton.mp new]
        exact syn
    · have before : (s.waits wait).leadSeen = false := (Bool.not_eq_true _).mp unseen
      simp only [view,before] at seen ⊢
      simpa using seen
  · rename_i plain
    split
    · rename_i echo
      refine goods_reader (fun w => {w with leadSeen := true, leadEchoed := true}) goods rfl
        (.inl rfl) rfl (.inl about) (.inr rfl) rfl rfl ?_
      refine good.advance here rfl rfl ?_
      rintro ⟨base,⟨syns,structural,rfl⟩,seen⟩
      refine ⟨syns,structural,?_⟩
      have before : (s.waits wait).leadSeen = false := (Bool.not_eq_true _).mp unseen
      have same : symbol = ((s.waits wait).lead,false) := Prod.ext echo ((Bool.not_eq_true _).mp plain)
      simp only [view,before] at seen ⊢
      rw [seen,same]
      simp
    · refine goods_reader id goods unchanged (.inl rfl) rfl (.inl about) (.inl rfl) rfl rfl ?_
      refine good.advance here rfl rfl ?_
      rintro ⟨base,lead,seen⟩
      exact ⟨(Bool.not_eq_true _).mp unseen,base,symbol.2,lead,seen⟩

/-- Every step of the reader. -/
theorem readLoop_goods (ran : s.readLoop = some t) : Goods t := by
  have here {wait : Nat} (about : s.reader.wait = some wait) : (s.view wait).reader = s.reader := Reader.on_self about
  unfold readLoop at ran
  split at ran
  · cases ran
  · cases ran
    exact advance_goods goods ‹_›
  · rename_i wait symbol suffixStep known
    unfold lockWait at ran
    split at ran
    · cases ran
    rename_i held
    cases ran
    refine goods_reader (fun w => {w with held := true}) goods rfl (.inl rfl) rfl (.inl (known ▸ rfl)) (.inl rfl) rfl rfl ?_
    exact (goods wait).lock ((here (known ▸ rfl)).trans known) ((Bool.not_eq_true _).mp held)
  · rename_i wait symbol suffixStep known
    cases ran
    unfold swapWait
    split
    · rename_i published
      refine goods_reader (fun w => {w with taken := w.taken + 1}) goods rfl (.inr ⟨published,rfl⟩)
        rfl (.inl (known ▸ rfl)) (.inl rfl) rfl rfl ?_
      exact (goods wait).take ((here (known ▸ rfl)).trans known) (decide_eq_true published)
    · rename_i taken
      refine goods_reader (fun w => {w with held := false}) goods rfl (.inl rfl) rfl (.inl (known ▸ rfl)) (.inr rfl) rfl rfl ?_
      exact (goods wait).missed ((here (known ▸ rfl)).trans known) (decide_eq_false taken)
  · rename_i wait symbol suffixStep known
    cases ran
    refine goods_reader (fun w => {w with
      suffixState := if (s.waits wait).suffixState = .pending then .refuted else w.suffixState, decidedAfter := w.transmitted})
      goods ?_ (.inl rfl) rfl (.inl (known ▸ rfl)) (.inl rfl) rfl rfl ?_
    · unfold refute
      simp only
    · have settled := (goods wait).refute ((here (known ▸ rfl)).trans known)
      unfold refute
      exact settled
  · rename_i wait out known
    obtain ⟨sent,delivered,rfl⟩ := Option.map_eq_some_iff.mp ran
    unfold sendOutcome at delivered
    split at delivered
    · cases delivered
    cases delivered
    refine goods_reader (fun w => {w with result := some out, sends := w.sends + 1, held := false}) goods
      ?_ (.inl rfl) rfl (.inl (congrArg Reader.wait known)) (.inr rfl) rfl rfl ?_
    · unfold update
      simp
    · exact (goods wait).send ((here (known ▸ rfl)).trans known)

theorem swapRetired_goods (ran : s.swapRetired index = some t) : Goods t := by
  obtain ⟨boundary,found,rfl⟩ := Option.map_eq_some_iff.mp ran
  split
  · exact SameWaits.goods (s := s) ⟨rfl,rfl,rfl,rfl,rfl⟩ (fun _ => rfl) goods
  rename_i wait published
  refine goods_at wait goods ?_ ?_
  · intro other apart
    refine view_other (Function.update_of_ne apart _ _) ?_ Iff.rfl rfl rfl ?_
    · rw [published]
      simp [Ne.symm apart]
    · rw [countP_append]
      simp [Ne.symm apart]
  · have retired := (goods wait).retire (decide_eq_true published)
    have count : (s.retiring ++ [(wait,boundary)]).countP (·.1 = wait) = s.retiring.countP (·.1 = wait) + 1 := by
      rw [countP_append]
      simp
    simp only [view,update] at retired ⊢
    rw [Function.update_self,count]
    exact retired

theorem sendRetired_goods (ran : s.sendRetired index = some t) : Goods t := by
  obtain ⟨⟨wait,boundary⟩,found,delivering⟩ := Option.bind_eq_some_iff.mp ran
  obtain ⟨sent,delivered,rfl⟩ := Option.map_eq_some_iff.mp delivering
  obtain ⟨inside,equal⟩ := List.getElem?_eq_some_iff.mp found
  have count (other : Nat) : s.retiring.countP (·.1 = other) =
      (s.retiring.eraseIdx index).countP (·.1 = other) + if wait = other then 1 else 0 := by
    rw [← (getElem_cons_eraseIdx_perm inside).countP_eq,equal,countP_cons]
    simp
  unfold sendOutcome at delivered
  split at delivered
  · cases delivered
  cases delivered
  refine goods_at wait goods ?_ ?_
  · intro other apart
    refine view_other (Function.update_of_ne apart _ _) Iff.rfl Iff.rfl rfl rfl ?_
    rw [count other,if_neg (Ne.symm apart)]
    rfl
  · have sent := (goods wait).sendRetired boundary (by simp only [view]; rw [count wait,if_pos rfl])
    simp only [view,update] at sent ⊢
    rw [Function.update_self]
    exact sent

end

end State

theorem step_goods {s t : State} {label : Label} (goods : Goods s) (ran : step s label = some t) : Goods t := by
  cases label with
  | writeSymbols lead suffix raw =>
    simp only [step] at ran
    split at ran
    · rename_i idle
      cases ran
      exact SameWaits.away (s := s) ⟨rfl,rfl,rfl,rfl,rfl⟩ (idle ▸ Writer.on_idle) (fun _ => Writer.on_other nofun) goods
    · cases ran
  | sendLoop choice => exact State.sendLoop_goods goods ran
  | observe symbol =>
    simp only [step] at ran
    split at ran
    · cases ran
      exact State.observe_goods goods ‹_›
    · cases ran
  | readLoop => exact State.readLoop_goods goods ran
  | confirmOwnership | releaseOwnership | forceRelease =>
    simp only [step] at ran
    split at ran
    · cases ran
    · cases ran
      exact SameWaits.goods (s := s) ⟨rfl,rfl,rfl,rfl,rfl⟩ (fun _ => rfl) goods
  | fence boundary =>
    cases ran
    exact SameWaits.goods (s := s) ⟨rfl,rfl,rfl,rfl,rfl⟩ (fun _ => rfl) goods
  | swap index => exact State.swapRetired_goods goods ran
  | send index => exact State.sendRetired_goods goods ran

theorem initially_goods (arb : Arbitrator) : Goods (initially arb) := by
  intro wait
  have view : (initially arb).view wait = ⟨{},false,false,.idle,.idle,0⟩ := rfl
  rw [view]
  exact ⟨⟨fun _ => ⟨rfl,rfl,rfl,rfl,rfl⟩,nofun,nofun,Nat.le_refl _,nofun,rfl⟩,⟨nofun,nofun,nofun⟩,.of_idle rfl,⟨nofun,nofun,nofun⟩⟩

end EbusGateway.EscapePair
