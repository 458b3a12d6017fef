import EbusGateway.DriverManager.Claims

/-! No runtime is left without an owner: a construction that returned success is published or followed by a
stop.
-/
namespace EbusGateway.DriverManager
open Library List

def Call.begins : Call → Bool
  | .began .. => true
  | _ => false

def awaiting (calls : List Call) : Option Nat :=
  calls.foldl (fun pending call =>
    match call with
    | .returned attempt true => some attempt
    | .published attempt => if pending = some attempt then none else pending
    | .stopBegan => none
    | _ => pending) none

def Followed (attempt : Nat) (after : List Call) : Prop :=
  ∃ between call later, after = between ++ call :: later ∧ (∀ other ∈ between, other.begins = false) ∧
    (call = .published attempt ∨ call = .stopBegan)

def Kept (calls : List Call) : Prop :=
  ∀ before attempt after, calls = before ++ .returned attempt true :: after →
    Followed attempt after ∨ (∀ call ∈ after, call.begins = false) ∧ awaiting calls = some attempt

section
variable {calls : List Call} {call : Call}

theorem awaiting_append (calls : List Call) (call : Call) : awaiting (calls ++ [call]) = match call with
      | .returned attempt true => some attempt
      | .published attempt => if awaiting calls = some attempt then none else awaiting calls
      | .stopBegan => none
      | _ => awaiting calls := by
  rw [awaiting,foldl_append]
  rfl

theorem Followed.append {attempt : Nat} {after : List Call} (followed : Followed attempt after) :
    Followed attempt (after ++ [call]) := by
  obtain ⟨between,found,later,rfl,quiet,settles⟩ := followed
  exact ⟨between,found,later ++ [call],by simp,quiet,settles⟩

theorem Kept.append (kept : Kept calls)
    (allowed : ∀ attempt, awaiting calls = some attempt → call = .published attempt ∨
      call = .stopBegan) : Kept (calls ++ [call]) := by
  intro before attempt after split
  rcases eq_nil_or_concat after with rfl | ⟨rest,last,rfl⟩
  · obtain ⟨rfl,same⟩ := append_inj' split rfl
    cases same
    exact .inr ⟨nofun,awaiting_append _ _⟩
  rw [concat_eq_append] at split ⊢
  rw [← cons_append,← append_assoc] at split
  obtain ⟨earlier,same⟩ := append_inj' split rfl
  cases same
  rcases kept before attempt rest earlier with followed | ⟨quiet,awaits⟩
  · exact .inl followed.append
  · exact .inl ⟨rest,call,[],rfl,quiet,allowed attempt awaits⟩

end

namespace Act

def constructing : Act → Option Nat
  | .constructed attempt => some attempt.id
  | _ => none

def builds : Act → Bool
  | .construct _ | .constructed _ => true
  | _ => false

def stopNext : Act → Bool
  | .cancelAttempt _ none _ _ | .runtimeStop .. => true
  | _ => false

def decided : Act → Bool
  | .hold .. | .rejudge .. | .finishAttempt _ _ none _ _ => true
  | _ => false

def carries : Act → Bool
  | .judge _ _ none | .retireSuperseded .. | .retireHeld .. => true
  | act => act.decided

end Act

inductive Guarded (closed : Bool) (s : Slot) (acts : List Act) (id : Nat) : Prop
  | carried (act : Act) (attempt : Attempt) (mem : act ∈ acts) (carries : act.carries = true) (holds : act.holds = some attempt)
    (mine : attempt.id = id)
    (standing : act.decided = true → s.current attempt.operation ∨ ∃ stop ∈ acts, stop.stopNext = true)
  | stopping (stop : Act) (mem : stop ∈ acts) (ahead : stop.stopNext = true)
  | closing (shut : closed = true) (positive : 0 < s.activeOperation) (running : s.desired = .running)
    (unclaimed : ∀ act ∈ acts, act.claim ≠ some s.activeOperation) (free : ∀ act ∈ acts, act.holds = none)

structure Attended (config : DriverConfig) (closed : Bool) (s : Slot) (calls : List Call) (inFlight : List Nat) (acts : List Act) :
    Prop where
  flight : inFlight.Perm (acts.filterMap Act.constructing)
  runtime : ∀ act ∈ acts, act.constructing.isSome = true → config.runtime = true
  kept : Kept calls
  alone : ∀ id, awaiting calls = some id → config.runtime = true ∧ (∀ act ∈ acts, act.builds = false) ∧ Guarded closed s acts id

variable {act : Act}

theorem Act.builds_false (plain : act.holds = none) : act.builds = false := by
  cases act <;> first | rfl | cases plain

theorem Act.constructing_none (quiet : act.builds = false) : act.constructing = none := by
  cases act <;> first | rfl | cases quiet

theorem Act.stopping_of_stopNext (ahead : act.stopNext = true) : act.stopping = true := by
  unfold Act.stopNext at ahead
  split at ahead
  · rfl
  · rfl
  · cases ahead

section
variable {config : DriverConfig} {closed : Bool} {s next : Slot} {calls : List Call} {inFlight : List Nat} {act : Act}
variable {news others : List Act} {id : Nat} {attempt : Attempt} {new : Act} {acts : List Act}

theorem Guarded.holder (safe : Guarded closed s (act :: others) id)
    (claimed : Claimed s (act :: others)) (holds : act.holds = some attempt) :
    act.carries = true ∧ attempt.id = id ∧
    (act.decided = true → s.current attempt.operation ∨ ∃ stop ∈ others, stop.stopNext = true) ∨
    ∃ stop ∈ others, stop.stopNext = true := by
  have later : act.stopNext = false := by
    cases act <;> first | rfl | cases holds
  have tail {stop : Act} (mem : stop ∈ act :: others) (ahead : stop.stopNext = true) : stop ∈ others := by
    rcases mem_cons.mp mem with rfl | inside
    · cases later.symm.trans ahead
    · exact inside
  cases safe with
  | carried found other mem carries held mine standing =>
    rcases mem_cons.mp mem with rfl | inside
    · cases held.symm.trans holds
      refine .inl ⟨carries,mine,fun decided => (standing decided).imp_right ?_⟩
      exact fun ⟨stop,mem,ahead⟩ => ⟨stop,tail mem ahead,ahead⟩
    · cases (claimed.others_hold_none holds found inside).symm.trans held
  | stopping stop mem ahead => exact .inr ⟨stop,tail mem ahead,ahead⟩
  | closing _ _ _ _ free => cases (free act mem_cons_self).symm.trans holds

theorem Guarded.pass (safe : Guarded closed s (act :: others) id) (claimed : Claimed s (act :: others)) (plain : act.holds = none)
    (later : act.stopNext = true → ∃ new ∈ news, new.stopNext = true) (stays : 0 < s.activeOperation → s.desired = .running →
      next.activeOperation = s.activeOperation ∧ next.desired = .running ∨ ∃ new ∈ news, new.stopNext = true)
    (quiet : ∀ new ∈ news, new.holds = none ∧ (closed = true → new.claim = none ∨ new.claim = act.claim)) :
    Guarded closed next (news ++ others) id := by
  have stops {stop : Act} (mem : stop ∈ act :: others) (ahead : stop.stopNext = true) :
    ∃ stop ∈ news ++ others, stop.stopNext = true := by
    rcases mem_cons.mp mem with rfl | inside
    · obtain ⟨new,mem,ahead⟩ := later ahead
      exact ⟨new,mem_append_left _ mem,ahead⟩
    · exact ⟨stop,mem_append_right _ inside,ahead⟩
  have goes {new : Act} (mem : new ∈ news) (ahead : new.stopNext = true) : ∃ stop ∈ news ++ others, stop.stopNext = true :=
    ⟨new,mem_append_left _ mem,ahead⟩
  cases safe with
  | carried found attempt mem carries holds mine standing =>
    rcases mem_cons.mp mem with rfl | inside
    · cases plain.symm.trans holds
    refine .carried found attempt (mem_append_right _ inside) carries holds mine fun decided => ?_
    rcases standing decided with ⟨same,live⟩ | ⟨stop,mem,ahead⟩
    · have positive : 0 < s.activeOperation := same ▸ (claimed.held found mem attempt holds).2.1
      rcases stays positive live with ⟨kept,live⟩ | ⟨new,mem,ahead⟩
      · exact .inl ⟨kept.trans same,live⟩
      · exact .inr (goes mem ahead)
    · exact .inr (stops mem ahead)
  | stopping stop mem ahead =>
    obtain ⟨stop,mem,ahead⟩ := stops mem ahead
    exact .stopping stop mem ahead
  | closing shut positive live unclaimed free =>
    rcases stays positive live with ⟨kept,live⟩ | ⟨new,mem,ahead⟩
    · refine .closing shut (kept ▸ positive) live ?_ ?_
      · rw [kept,forall_mem_append]
        refine ⟨fun new mem => ?_,fun other mem => unclaimed other (.tail _ mem)⟩
        rcases (quiet new mem).2 shut with none | same
        · rw [none]
          nofun
        · rw [same]
          exact unclaimed act mem_cons_self
      · exact forall_mem_append.mpr ⟨fun new mem => (quiet new mem).1,fun other mem => free other (.tail _ mem)⟩
    · exact .stopping new (mem_append_left _ mem) ahead

theorem Guarded.mono {shut : Bool} (safe : Guarded closed s others id) (closes : closed = true → shut = true)
    (stay : others ⊆ acts) (fresh : ∀ act ∈ acts, act ∈ others ∨ act.holds = none ∧ act.claim = none) : Guarded shut s acts id := by
  cases safe with
  | carried found attempt mem carries holds mine standing =>
    refine .carried found attempt (stay mem) carries holds mine fun decided => (standing decided).imp_right ?_
    exact fun ⟨stop,mem,ahead⟩ => ⟨stop,stay mem,ahead⟩
  | stopping stop mem ahead => exact .stopping stop (stay mem) ahead
  | closing closed positive live unclaimed free =>
    refine .closing (closes closed) positive live (fun act mem => ?_) fun act mem => (fresh act mem).elim (free act) And.left
    rcases fresh act mem with old | ⟨_,claim⟩
    · exact unclaimed act old
    · rw [claim]
      nofun

theorem Attended.perm (same : others.Perm acts) (attended : Attended config closed s calls inFlight others) :
    Attended config closed s calls inFlight acts := by
  refine ⟨attended.flight.trans (same.filterMap _),fun act mem => attended.runtime act (same.mem_iff.mpr mem),attended.kept,?_⟩
  intro id awaits
  obtain ⟨runtime,builds,safe⟩ := attended.alone id awaits
  exact ⟨runtime,fun act mem => builds act (same.mem_iff.mpr mem),safe.mono (·) same.subset fun _ mem => .inl (same.mem_iff.mpr mem)⟩

theorem Attended.add (attended : Attended config closed s calls inFlight others) (plain : new.holds = none)
    (claim : new.claim = none) : Attended config closed s calls inFlight (new :: others) := by
  have quiet := Act.builds_false plain
  have none := Act.constructing_none quiet
  refine ⟨by rw [filterMap_cons_none none]; exact attended.flight,?_,attended.kept,fun id awaits => ?_⟩
  · refine forall_mem_cons.mpr ⟨?_,attended.runtime⟩
    rw [none]
    nofun
  · obtain ⟨runtime,builds,safe⟩ := attended.alone id awaits
    exact ⟨runtime,forall_mem_cons.mpr ⟨quiet,builds⟩,
      safe.mono (·) (subset_cons_self _ _) (forall_mem_cons.mpr ⟨.inr ⟨plain,claim⟩,fun _ => .inl⟩)⟩

theorem Attended.fork {forked : List (Thread Unit Act)} (task : RetryTask forked)
    (attended : Attended config closed s calls inFlight others) :
    Attended config closed s calls inFlight (forked.flatMap (·.code) ++ others) := by
  rcases task with rfl | ⟨operation,token,rfl⟩
  · exact attended
  · exact attended.add rfl rfl

section
variable (attended : Attended config closed s calls inFlight (act :: others)) {shut : Bool}
include attended

theorem Attended.acted {later : List Call} (quiet : act.builds = false)
    (news_quiet : ∀ new ∈ news, new.builds = false) (kept : Kept later)
    (safe : ∀ id, awaiting later = some id → config.runtime = true ∧
      (∀ act ∈ others, act.builds = false) ∧ Guarded shut next (news ++ others) id) :
    Attended config shut next later inFlight (news ++ others) := by
  have none : news.filterMap Act.constructing = [] :=
    filterMap_eq_nil_iff.mpr fun new mem => Act.constructing_none (news_quiet new mem)
  refine ⟨?_,?_,kept,fun id awaits => ?_⟩
  · rw [filterMap_append,none,nil_append]
    have flight := attended.flight
    rwa [filterMap_cons_none (Act.constructing_none quiet)] at flight
  · refine forall_mem_append.mpr ⟨fun new mem live => ?_,fun other mem => attended.runtime other (.tail _ mem)⟩
    rw [Act.constructing_none (news_quiet new mem)] at live
    cases live
  · obtain ⟨runtime,quiet,safe⟩ := safe id awaits
    exact ⟨runtime,forall_mem_append.mpr ⟨news_quiet,quiet⟩,safe⟩

theorem Attended.kept_calls (quiet : act.builds = false) (news_quiet : ∀ new ∈ news, new.builds = false)
    (safe : ∀ id, Guarded closed s (act :: others) id → Guarded shut next (news ++ others) id) :
    Attended config shut next calls inFlight (news ++ others) :=
  attended.acted quiet news_quiet attended.kept fun id awaits => by
    obtain ⟨runtime,builds,before⟩ := attended.alone id awaits
    exact ⟨runtime,fun other mem => builds other (.tail _ mem),safe id before⟩

theorem Attended.idle (builds : act.builds = true) : awaiting calls = none := by
  cases awaits : awaiting calls with
  | none => rfl
  | some id => cases ((attended.alone id awaits).2.1 act mem_cons_self).symm.trans builds

theorem Attended.unguarded (quiet : act.builds = false) (builds : new.constructing = none)
    (nobody : ∀ id, ¬Guarded closed s (act :: others) id) :
    Attended config closed next calls inFlight (new :: others) := by
  refine ⟨?_,?_,attended.kept,fun id awaits => absurd (attended.alone id awaits).2.2 (nobody id)⟩
  · have flight := attended.flight
    rwa [filterMap_cons_none (Act.constructing_none quiet),← filterMap_cons_none builds] at flight
  · refine forall_mem_cons.mpr ⟨?_,fun other mem => attended.runtime other (.tail _ mem)⟩
    rw [builds]
    nofun

section
variable (claimed : Claimed s (act :: others))
include claimed

theorem Attended.pass (plain : act.holds = none) (later : act.stopNext = true → ∃ new ∈ news, new.stopNext = true)
    (stays : 0 < s.activeOperation → s.desired = .running →
      next.activeOperation = s.activeOperation ∧ next.desired = .running ∨ ∃ new ∈ news, new.stopNext = true)
    (quiet : ∀ new ∈ news, new.holds = none ∧ (closed = true → new.claim = none ∨ new.claim = act.claim)) :
    Attended config closed next calls inFlight (news ++ others) :=
  attended.kept_calls (Act.builds_false plain) (fun new mem => Act.builds_false (quiet new mem).1) fun _ safe =>
    safe.pass claimed plain later stays quiet

theorem Attended.one (plain : act.holds = none) (later : act.stopNext = true → new.stopNext = true)
    (stays : 0 < s.activeOperation → s.desired = .running →
      next.activeOperation = s.activeOperation ∧ next.desired = .running ∨ new.stopNext = true)
    (holds : new.holds = none) (claim : closed = true → new.claim = none ∨ new.claim = act.claim) :
    Attended config closed next calls inFlight (new :: others) := by
  have single {property : Act → Prop} (holds : property new) : ∃ new' ∈ [new], property new' := ⟨new,.head _,holds⟩
  refine attended.pass claimed plain (fun ahead => single (later ahead)) (fun positive live => (stays positive live).imp_right single)
    (forall_mem_singleton.mpr ⟨holds,claim⟩)

theorem Attended.none (plain : act.holds = none) (later : act.stopNext = false)
    (stays : 0 < s.activeOperation → s.desired = .running → next.activeOperation = s.activeOperation ∧ next.desired = .running) :
    Attended config closed next calls inFlight others := by
  refine attended.pass claimed plain (fun ahead => ?_) (fun positive live => .inl (stays positive live)) (forall_mem_nil _)
  cases later.symm.trans ahead

end

end

theorem Attended.began (attended : Attended config closed s calls inFlight (.construct attempt :: others))
    (runtime : config.runtime = true) (cancelled : Bool) :
    Attended config closed s (calls ++ [.began attempt.id cancelled]) (attempt.id :: inFlight) (.constructed attempt :: others) := by
  have quiet : awaiting calls = Option.none := attended.idle rfl
  refine ⟨attended.flight.cons attempt.id,?_,attended.kept.append fun id awaits => ?_,fun id awaits => ?_⟩
  · exact forall_mem_cons.mpr ⟨fun _ => runtime,fun other mem => attended.runtime other (.tail _ mem)⟩
  · cases quiet.symm.trans awaits
  · rw [awaiting_append] at awaits
    cases quiet.symm.trans awaits

theorem Attended.returned (attended : Attended config closed s calls inFlight (.constructed attempt :: others))
    (claimed : Claimed s (.constructed attempt :: others)) (gen : Nat) (err : Option RuntimeError) :
    Attended config closed s (calls ++ [.returned attempt.id err.isNone])
    (inFlight.erase attempt.id) (.judge attempt gen err :: others) := by
  have quiet : awaiting calls = Option.none := attended.idle rfl
  have flight := attended.flight.erase attempt.id
  change (inFlight.erase attempt.id).Perm ((attempt.id :: others.filterMap Act.constructing).erase attempt.id) at flight
  rw [erase_cons_head] at flight
  refine ⟨flight,?_,attended.kept.append fun id awaits => ?_,fun id awaits => ?_⟩
  · exact forall_mem_cons.mpr ⟨nofun,fun other mem => attended.runtime other (.tail _ mem)⟩
  · cases quiet.symm.trans awaits
  · rw [awaiting_append] at awaits
    cases err with
    | some e => cases quiet.symm.trans awaits
    | none =>
      have plain := claimed.others_hold_none rfl
      refine ⟨attended.runtime _ mem_cons_self rfl,forall_mem_cons.mpr ⟨rfl,fun other mem => Act.builds_false (plain other mem)⟩,?_⟩
      exact .carried _ attempt mem_cons_self rfl rfl (Option.some.inj awaits) nofun

section
variable (attended : Attended config closed s calls inFlight (act :: others))
include attended

theorem Attended.hands
    (claimed : Claimed s (act :: others)) (holds : act.holds = some attempt)
    (quiet : act.builds = false) (still : new.holds = some attempt)
    (built : new.builds = false)
    (carries : act.carries = true → new.carries = true ∧ (new.decided = true → act.decided = true ∨ s.current attempt.operation)) :
    Attended config closed s calls inFlight (new :: others) := by
  refine attended.kept_calls quiet (forall_mem_singleton.mpr built) fun id safe => ?_
  rcases safe.holder claimed holds with ⟨carried,mine,standing⟩ | ⟨stop,mem,ahead⟩
  · obtain ⟨carried,decides⟩ := carries carried
    refine .carried new attempt mem_cons_self carried still mine fun decided => ?_
    rcases decides decided with before | current
    · exact (standing before).imp_right fun ⟨stop,mem,ahead⟩ => ⟨stop,mem_cons_of_mem _ mem,ahead⟩
    · exact .inl current
  · exact .stopping stop (.tail _ mem) ahead

theorem Attended.empty
    (claimed : Claimed s (act :: others)) (holds : act.holds = some attempt)
    (quiet : act.builds = false) (empty : act.carries = false)
    (built : new.builds = false) : Attended config closed next calls inFlight (new :: others) := by
  refine attended.kept_calls quiet (forall_mem_singleton.mpr built) fun id safe => ?_
  rcases safe.holder claimed holds with ⟨carried,_⟩ | ⟨stop,mem,ahead⟩
  · cases empty.symm.trans carried
  · exact .stopping stop (.tail _ mem) ahead

theorem Attended.stop (quiet : act.builds = false)
    (news_quiet : ∀ new ∈ news, new.builds = false) : Attended config closed s (calls ++ [.stopBegan]) inFlight (news ++ others) := by
  refine attended.acted quiet news_quiet (attended.kept.append fun _ _ => .inr rfl) fun id awaits => ?_
  rw [awaiting_append] at awaits
  cases awaits

end

end

section
variable {config : DriverConfig} {choice : Choice} {act : Act} {d : Driver} {effect : Outcome} {others : List Act}

def Driver.attended (config : DriverConfig) (d : Driver) (acts : List Act) : Prop :=
  Attended config d.closed d.slot d.calls d.inFlight acts

theorem ran_attended {op : Operation} (ran : Ran config d op effect) (locked : Locked d.opMu d.closed d.desired (.run op :: others))
    (claimed : Claimed d.slot (.run op :: others)) (attended : d.attended config (.run op :: others)) :
    effect.shared.attended config (effect.acts ++ others) := by
  cases ran with
  | refused other => exact Attended.none attended claimed rfl rfl fun _ live => ⟨rfl,live⟩
  | @reserved op observed reason new other live safe idle begins claims =>
    have nobody : ∀ id, ¬Guarded d.closed d.slot (.run op :: others) id := by
      intro id guarded
      cases guarded with
      | carried found attempt mem carries holds => cases (claimed.none_holds idle found mem).symm.trans holds
      | stopping stop mem ahead =>
        rcases mem_cons.mp mem with rfl | inside
        · cases ahead
        · have locks := Act.inLock_of_stopping (Act.stopping_of_stopNext ahead)
          cases ((locked.others_outside rfl).2 stop inside).symm.trans locks
      | closing shut => cases live.symm.trans shut
    obtain ⟨replacing,rfl | rfl⟩ := claims
    all_goals exact attended.unguarded rfl rfl nobody
  | @retried op operation other live safe current backoff =>
    exact Attended.one attended claimed rfl nofun (fun _ live => .inl ⟨rfl,live⟩) rfl fun shut => by cases live.symm.trans shut
  | @unneeded observed next report slot frame shown idle =>
    obtain ⟨_,closed,calls,inFlight,_⟩ := frame_fields frame
    unfold Driver.attended
    rw [closed,slot,calls,inFlight]
    refine Attended.one attended claimed rfl nofun (fun positive live => ?_) rfl fun _ => .inl rfl
    exact absurd idle (claimed.not_idle positive live)
  | stops => exact Attended.one attended claimed rfl nofun (fun _ _ => .inr rfl) rfl fun _ => .inl rfl

private theorem finish_attended {attempt : Attempt} {gen : Nat} {err : Option RuntimeError} {replacing : Bool}
    {held : Option CloseReport} {new : Act} (locked : Locked d.opMu d.closed d.desired
      (.finishAttempt attempt gen err replacing held :: others))
    (claimed : Claimed d.slot (.finishAttempt attempt gen err replacing held :: others))
    (attended : d.attended config (.finishAttempt attempt gen err replacing held :: others)) (flag : Bool) (plain : new.holds = none)
    (claim : new.claim = none) : (d.finishAttempt config attempt gen err replacing flag).1.attended config
      (new :: ((d.finishAttempt config attempt gen err replacing flag).2.flatMap (·.code) ++ others)) := by
  have quiet := Act.builds_false plain
  obtain ⟨mine,positive,_⟩ := claimed.held _ mem_cons_self attempt rfl
  have free : ∀ act ∈ new :: others, act.holds = none := forall_mem_cons.mpr ⟨plain,claimed.others_hold_none rfl⟩
  have busy : d.slot.activeAttempt ≠ none := by
    rw [mine]
    nofun
  have unclaimed : ∀ act ∈ new :: others, act.claim ≠ some d.activeOperation :=
    forall_mem_cons.mpr ⟨by rw [claim]; nofun,fun act mem => claimed.unclaimed busy act (.tail _ mem)⟩
  obtain ⟨gone,same⟩ | ⟨_,current,next,forked,same,tasks,⟨rfl,slot,frame⟩ | ⟨⟨e,rfl⟩,_,frame⟩⟩ :=
    d.finishAttempt_cases config attempt gen err replacing flag
  all_goals rw [same]
  · -- The goroutine leaves a construction it carries to the stop that superseded it or closes the manager.
    refine attended.kept_calls rfl (forall_mem_singleton.mpr quiet) fun id safe => ?_
    rcases safe.holder claimed rfl with ⟨carries,_,standing⟩ | ⟨stop,mem,ahead⟩
    · cases err with
      | some e => cases carries
      | none =>
        rcases standing rfl with ⟨stands,live⟩ | ⟨stop,mem,ahead⟩
        · rcases gone with shut | gone
          · exact .closing shut (stands ▸ positive) live unclaimed free
          · rw [Driver.superseded,show d.activeOperation = attempt.operation from stands,show d.desired = .running from live] at gone
            simp at gone
        · exact .stopping stop (.tail _ mem) ahead
    · exact .stopping stop (.tail _ mem) ahead
  · have settles : ∀ id, awaiting d.calls = some id → id = attempt.id := by
      intro id awaits
      rcases (attended.alone id awaits).2.2.holder claimed rfl with ⟨_,rfl,_⟩ | ⟨stop,mem,ahead⟩
      · rfl
      · have intent := locked.intent stop (.tail _ mem) (Act.stopping_of_stopNext ahead)
        cases intent.symm.trans (not_superseded current).2
    simp only [Driver.frame,Prod.mk.injEq] at frame
    obtain ⟨_,closed,calls,inFlight,_⟩ := frame
    unfold Driver.attended
    rw [closed,calls,inFlight]
    refine Attended.perm perm_middle (Attended.fork tasks ?_)
    refine Attended.acted attended rfl (forall_mem_singleton.mpr quiet) (attended.kept.append fun id awaits => ?_) fun id awaits => ?_
    · rw [settles id awaits]
      exact .inl rfl
    · rw [awaiting_append] at awaits
      change (if awaiting d.calls = some attempt.id then none else awaiting d.calls) = some id at awaits
      split at awaits
      · cases awaits
      · rename_i other
        exact absurd (settles id awaits ▸ awaits) other
  · obtain ⟨_,closed,calls,inFlight,_⟩ := frame_fields frame
    unfold Driver.attended
    rw [closed,calls,inFlight]
    exact Attended.perm perm_middle (Attended.fork tasks (attended.empty claimed rfl rfl rfl quiet))

theorem perform_attended (ran : perform config choice act d = some effect)
    (locked : Locked d.opMu d.closed d.desired (act :: others)) (claimed : Claimed d.slot (act :: others))
    (attended : d.attended config (act :: others)) : effect.shared.attended config (effect.acts ++ others) := by
  have onward {next : Slot} {new : Act} (stays : next.activeOperation = d.activeOperation ∧ next.desired = d.desired)
      (plain : act.holds = none) (early : act.stopNext = false) (holds : new.holds = none) (claim : new.claim = none) :
      Attended config d.closed next d.calls d.inFlight (new :: others) :=
    Attended.one attended claimed plain (clash · early)
      (fun _ live => .inl ⟨stays.1,stays.2.trans live⟩) holds fun _ => .inl claim
  have gone {next : Slot} (stays : next.activeOperation = d.activeOperation ∧ next.desired = d.desired) (plain : act.holds = none)
      (early : act.stopNext = false) : Attended config d.closed next d.calls d.inFlight others :=
    Attended.none attended claimed plain early fun _ live => ⟨stays.1,stays.2.trans live⟩
  cases act
  all_goals simp only [perform] at ran
  case run op =>
    cases ran
    exact ran_attended (runOperation_ran config choice op d) locked claimed attended
  case closeManager =>
    cases ran
    have passed : Attended config d.closed d.slot d.calls d.inFlight
      (.cancelRetry .stop true :: others) := onward ⟨rfl,rfl⟩ rfl rfl rfl rfl
    exact ⟨passed.flight,passed.runtime,passed.kept,fun id awaits => by
      obtain ⟨runtime,quiet,safe⟩ := passed.alone id awaits
      exact ⟨runtime,quiet,safe.mono (fun _ => rfl) (Subset.refl _) fun _ => .inl⟩⟩
  case cancelAttempt attempt found gen operation =>
    cases ran
    cases found
    · exact Attended.one attended claimed rfl (fun _ => rfl) (fun _ live => .inl ⟨rfl,live⟩) rfl fun _ => .inl rfl
    · exact onward ⟨rfl,rfl⟩ rfl rfl rfl rfl
  case runtimeStop gen operation =>
    cases ran
    cases runtime : config.runtime
    · refine attended.acted rfl (forall_mem_singleton.mpr rfl) attended.kept fun id awaits => ?_
      cases runtime.symm.trans (attended.alone id awaits).1
    · exact attended.stop rfl (forall_mem_singleton.mpr rfl)
  case stopped gen operation =>
    cases ran
    obtain ⟨observed,quarantined,_,_,slot,frame⟩ :=
      d.stopped_effect (if config.runtime then choice.err else none) (config.runtime && choice.again)
    obtain ⟨_,closed,calls,inFlight,_⟩ := frame_fields frame
    have intent : d.desired = .stopped := locked.intent _ mem_cons_self rfl
    unfold Driver.attended
    dsimp only
    rw [closed,slot,calls,inFlight]
    exact Attended.one attended claimed rfl (absurd · Bool.false_ne_true) (fun _ live => by
      cases intent.symm.trans live) rfl fun _ => .inl rfl
  case publish report after =>
    cases ran
    cases after with
    | none => exact gone ⟨rfl,rfl⟩ rfl rfl
    | some attempt => exact onward ⟨rfl,rfl⟩ rfl rfl rfl rfl
  case beginTask operation replacing =>
    cases ran
    cases d.closed
    · exact Attended.one attended claimed rfl (absurd · Bool.false_ne_true) (fun _ live => .inl ⟨rfl,live⟩) rfl fun _ => .inr rfl
    · exact gone ⟨rfl,rfl⟩ rfl rfl
  case startAttempt operation replacing retry =>
    split at ran
    · cases ran
      exact gone ⟨rfl,rfl⟩ rfl rfl
    rename_i accepted
    cases ran
    obtain ⟨current,_⟩ := Bool.or_eq_false_iff.mp (Bool.eq_false_iff.mpr accepted)
    obtain ⟨rfl,live⟩ := not_superseded current
    refine attended.unguarded rfl rfl fun id safe => ?_
    have idle := (claimed.claims _ mem_cons_self _ rfl).2.2 rfl
    cases safe with
    | carried found attempt mem carries holds => cases (claimed.none_holds idle found mem).symm.trans holds
    | stopping stop mem ahead =>
      cases (locked.intent stop mem (Act.stopping_of_stopNext ahead)).symm.trans live
    | closing _ _ _ unclaimed => exact unclaimed _ mem_cons_self rfl
  case construct attempt =>
    split at ran
    · rename_i runtime
      cases ran
      exact attended.began runtime _
    cases ran
    have quiet : awaiting d.calls = none := attended.idle rfl
    refine ⟨attended.flight,?_,attended.kept,fun id awaits => by cases quiet.symm.trans awaits⟩
    exact forall_mem_cons.mpr ⟨(absurd · Bool.false_ne_true),fun other mem => attended.runtime other (.tail _ mem)⟩
  case constructed attempt =>
    cases ran
    exact attended.returned claimed choice.generation choice.err
  case judge attempt gen err =>
    split at ran
    · cases ran
      exact attended.hands claimed rfl rfl rfl rfl fun _ => ⟨rfl,(absurd · Bool.false_ne_true)⟩
    rename_i stands
    split at ran
    · rename_i success
      cases ran
      rw [success,Bool.true_or,Bool.and_true,Bool.not_eq_true] at stands
      exact attended.hands claimed rfl rfl rfl rfl fun _ => ⟨rfl,fun _ => .inr (not_superseded (Bool.or_eq_false_iff.mp stands).2)⟩
    · rename_i failed
      cases ran
      cases err with
      | none => exact absurd rfl failed
      | some e => exact attended.hands claimed rfl rfl rfl rfl (absurd · Bool.false_ne_true)
  case hold | rejudge =>
    try split at ran
    all_goals cases ran
    all_goals
      try unfold Option.elim
      try split
      all_goals exact attended.hands claimed rfl rfl rfl rfl fun _ => ⟨rfl,fun _ => .inl rfl⟩
  case retireSuperseded | retireHeld =>
    cases ran
    exact attended.stop rfl (forall_mem_singleton.mpr rfl)
  case supersededStopped | heldStopped =>
    try split at ran
    all_goals cases ran
    all_goals
      try split
      all_goals first
        | exact attended.hands claimed rfl rfl rfl rfl (absurd · Bool.false_ne_true)
        | exact attended.empty claimed rfl rfl rfl rfl
  case finishAttempt attempt gen err replacing held =>
    cases ran
    cases held
    all_goals exact finish_attended locked claimed attended _ rfl rfl
  case reportFailure correlation failure =>
    obtain same | ⟨_,settled,_,_,frame,tasks⟩ := d.reportFailure_cases config correlation failure
    · simp only [same] at ran
      cases ran
      exact gone ⟨rfl,rfl⟩ rfl rfl
    cases ran
    have idle := (claimed.settled (settled_cases settled)).1
    obtain ⟨_,closed,calls,inFlight,_⟩ := frame_fields frame
    change Attended config (d.reportFailure config correlation failure).1.closed _
      (d.reportFailure config correlation failure).1.calls
      (d.reportFailure config correlation failure).1.inFlight _
    rw [closed,calls,inFlight]
    exact Attended.fork tasks (Attended.none attended claimed rfl rfl fun current => absurd idle (Nat.pos_iff_ne_zero.mp current))
  case reportDegraded correlation effective reason =>
    cases ran
    obtain same | ⟨settled,slot,frame⟩ := d.reportDegraded_cases config correlation effective reason
    · dsimp only
      rw [same]
      exact gone ⟨rfl,rfl⟩ rfl rfl
    · obtain ⟨_,closed,calls,inFlight,_⟩ := frame_fields frame
      unfold Driver.attended
      dsimp only
      rw [closed,slot,calls,inFlight]
      exact gone ⟨rfl,rfl⟩ rfl rfl
  -- the others concern no attempt and stop nothing
  all_goals
    repeat' split at ran
    all_goals cases ran
    all_goals first
      | exact onward ⟨rfl,rfl⟩ rfl rfl rfl rfl
      | exact gone ⟨rfl,rfl⟩ rfl rfl

end

structure Orderly (config : DriverConfig) (d : Driver) (acts : List Act) : Prop where
  locked : Locked d.opMu d.closed d.desired acts
  claimed : Claimed d.slot acts
  attended : d.attended config acts

namespace Orderly
variable {config : DriverConfig} {d : Driver} {acts others : List Act}

theorem perm (same : acts.Perm others) (orderly : Orderly config d acts) : Orderly config d others :=
  ⟨orderly.locked.perm same,orderly.claimed.perm same,orderly.attended.perm same⟩

theorem create (config : DriverConfig) : Orderly config (Driver.create config) [] := by
  have none {property : Act → Prop} : ∀ act ∈ [], property act := forall_mem_nil _
  have kept : Kept [] := by
    intro before attempt after split
    cases before <;> cases split
  unfold Driver.create
  split
  all_goals
    refine ⟨⟨rfl,none,nofun⟩,?_,.refl _,none,kept,nofun⟩
    exact ⟨Nat.zero_le 1,none,none,none,none,Nat.zero_le 1,le_rfl,fun _ => ⟨rfl,rfl⟩,nofun,nofun⟩

end Orderly

section
variable {config : DriverConfig} {manager next : Manager} {move : Move Event Choice}

theorem step_orderly (orderly : Orderly config manager.shared manager.acts) (stepped : step config manager move = some next) :
    Orderly config next.shared next.acts := by
  apply Machine.acts_step (Orderly config) (fun _ _ _ => Orderly.perm) ?_ ?_ orderly stepped
  · intro event effect name _ launched
    obtain ⟨locked,claimed,attended⟩ := orderly
    cases launched
    cases event
    all_goals exact ⟨locked.add rfl,claimed.join rfl rfl rfl,Attended.add attended rfl rfl⟩
  · intro choice act others effect _ _ _ before ran
    obtain ⟨locked,claimed,attended⟩ := before
    exact ⟨perform_locked ran locked,perform_claimed ran locked claimed,perform_attended ran locked claimed attended⟩

def Short (threads : List (Thread Unit Act)) : Prop := ∀ thread ∈ threads, thread.code.length ≤ 1

theorem RetryTask.short {forked : List (Thread Unit Act)} (task : RetryTask forked) : Short forked := by
  rcases task with rfl | ⟨operation,token,rfl⟩
  · exact forall_mem_nil _
  · exact forall_mem_singleton.mpr le_rfl

theorem perform_short {choice : Choice} {act : Act} {d : Driver} {effect : Outcome}
    (performed : perform config choice act d = some effect) :
    effect.code.length ≤ 1 ∧ Short effect.forked := by
  have none : Short [] := forall_mem_nil _
  cases act with
  | run op =>
    cases performed
    have ran := runOperation_ran config choice op d
    generalize runOperation config choice op d = effect at ran
    cases ran
    · exact ⟨Nat.zero_le 1,none⟩
    all_goals exact ⟨le_rfl,none⟩
  | publish report after =>
    cases performed
    cases after
    · exact ⟨Nat.zero_le 1,none⟩
    · exact ⟨le_rfl,none⟩
  | beginTask operation replacing =>
    cases performed
    cases d.closed
    · exact ⟨Nat.zero_le 1,forall_mem_singleton.mpr le_rfl⟩
    · exact ⟨Nat.zero_le 1,none⟩
  | finishAttempt attempt gen err replacing held =>
    obtain ⟨_,same⟩ | ⟨_,_,next,forked,same,task,_⟩ :=
      d.finishAttempt_cases config attempt gen err replacing (config.runtime && choice.quarantined)
    all_goals
      simp only [perform,same] at performed
      cases performed
    · exact ⟨le_rfl,none⟩
    · exact ⟨le_rfl,task.short⟩
  | reportFailure correlation failure =>
    obtain same | ⟨_,_,_,_,_,task⟩ := d.reportFailure_cases config correlation failure
    · simp only [perform,same] at performed
      cases performed
      exact ⟨Nat.zero_le 1,none⟩
    · cases performed
      exact ⟨Nat.zero_le 1,task.short⟩
  | _ =>
    simp only [perform] at performed
    repeat' split at performed
    all_goals cases performed
    all_goals first
      | exact ⟨le_rfl,none⟩
      | exact ⟨Nat.zero_le 1,none⟩

theorem step_short (short : Short manager.threads) (stepped : step config manager move = some next) : Short next.threads := by
  let shape : Driver → Unit → List Act → Prop := fun _ _ code => code.length ≤ 1
  have shaped : manager.Shaped (program config).sequential (shape manager.shared) := ⟨short,pairwise_of_forall fun _ _ _ => rfl⟩
  refine (Machine.shaped_step ?_ ?_ shaped stepped).shapes
  · intro event effect name _ launched
    cases launched
    exact ⟨le_rfl,forall_mem_nil _,fun _ _ _ before => before⟩
  · intro choice act rest effect name _ mem ran
    obtain ⟨own,forks⟩ := perform_short ran
    have rest_empty : rest = [] := by simpa using short _ mem
    rw [rest_empty,append_nil]
    exact ⟨own,fun thread mem => ⟨forks thread mem,rfl⟩,fun _ _ _ before => before⟩

theorem perform_unblocked (config : DriverConfig) (choice : Choice) (act : Act) (d : Driver)
    (free : act.inLock = true ∨ d.opMu = false) :
    ∃ effect, perform config choice act d = some effect := by
  cases act with
  | lock op =>
    rcases free with inside | free
    · cases inside
    · simp [perform,free]
  | startAttempt | construct | rejudge | heldStopped =>
    simp only [perform]
    split <;> exact ⟨_,rfl⟩
  | judge attempt gen err =>
    simp only [perform]
    split
    · exact ⟨_,rfl⟩
    · split <;> exact ⟨_,rfl⟩
  | _ => exact ⟨_,rfl⟩

theorem unblocked (locked : Locked manager.shared.opMu manager.shared.closed manager.shared.desired manager.acts)
    (short : Short manager.threads) (busy : manager.acts ≠ []) :
    ∃ index next, step config manager (.run index {}) = some next ∧ manager.performs
    (.run index ({} : Choice) : Move Event Choice) ≠ none := by
  obtain ⟨act,mem,free⟩ : ∃ act ∈ manager.acts, act.inLock = true ∨ manager.shared.opMu = false := by
    cases opMu : manager.shared.opMu with
    | false =>
      obtain ⟨act,mem⟩ := exists_mem_of_ne_nil _ busy
      exact ⟨act,mem,.inr rfl⟩
    | true =>
      have inside : 0 < manager.acts.countP Act.inLock := by
        rw [locked.mutex,opMu]
        exact Nat.one_pos
      obtain ⟨act,mem,inside⟩ := countP_pos_iff.mp inside
      exact ⟨act,mem,.inl inside⟩
  obtain ⟨⟨name,code⟩,inside,mem⟩ := mem_flatMap.mp mem
  have single := short _ inside
  obtain ⟨index,found⟩ := List.getElem?_of_mem inside
  obtain ⟨effect,ran⟩ := perform_unblocked config {} act manager.shared free
  cases code with
  | nil => cases mem
  | cons first rest =>
    have empty : rest = [] := by simpa using single
    subst empty
    cases mem_singleton.mp mem
    refine ⟨index,⟨effect.shared,manager.threads.set index ⟨name,effect.code ++ []⟩ ++ effect.forked⟩,?_,?_⟩
    · simp only [step,Machine.step,found,program,ran]
      rfl
    · simp [Machine.performs,found]

end

theorem run_orderly {config : DriverConfig} {labels : List (Move Event Choice)} {manager : Manager}
    (run : Run (step config) anyStep (created config) labels manager) :
    Orderly config manager.shared manager.acts ∧ Short manager.threads := by
  have first : Short (created config).threads := forall_mem_nil _
  refine run.invariant (fun manager => Orderly config manager.shared manager.acts ∧ Short manager.threads) ?_
    ⟨Orderly.create config,first⟩
  intro manager move next ⟨orderly,short⟩ _ stepped
  exact ⟨step_orderly orderly stepped,step_short short stepped⟩

/-- In every interleaving the constructions of a driver do not overlap, one that succeeded is published or
followed by a stop of the runtime before another begins, or a goroutine is there that is yet to see to it, and
the goroutines go on until none has anything ahead. -/
theorem no_orphan_runtime {config : DriverConfig} {labels : List (Move Event Choice)} {manager : Manager}
    (run : Run (step config) anyStep (created config) labels manager) :
    manager.shared.inFlight.length ≤ 1 ∧
    (∀ before attempt after, manager.shared.calls = before ++ .returned attempt true :: after →
      Followed attempt after ∨ (∀ call ∈ after, call.begins = false) ∧
        ∃ act ∈ manager.acts, act.carries = true ∨ act.stopNext = true ∨ act.stopAhead = true) ∧
    (manager.acts ≠ [] → ∃ index next, step config manager (.run index {}) = some next ∧
      manager.performs (.run index ({} : Choice) : Move Event Choice) ≠ none) := by
  obtain ⟨⟨locked,claimed,attended⟩,short⟩ := run_orderly run
  refine ⟨?_,fun before attempt after split => ?_,unblocked locked short⟩
  · rw [attended.flight.length_eq,length_filterMap_eq_countP]
    refine (countP_mono_left fun act _ running => ?_).trans claimed.one
    cases act <;> first | rfl | cases running
  · refine (attended.kept before attempt after split).imp_right fun ⟨quiet,awaits⟩ => ⟨quiet,?_⟩
    cases (attended.alone attempt awaits).2.2 with
    | carried act _ mem carries => exact ⟨act,mem,.inl carries⟩
    | stopping stop mem ahead => exact ⟨stop,mem,.inr (.inl ahead)⟩
    | closing shut _ running =>
      rcases locked.ahead shut with stopped | ⟨act,mem,ahead⟩
      · cases running.symm.trans stopped
      · exact ⟨act,mem,.inr (.inr ahead)⟩

def overtakenStart : List (Move Event Choice) :=
  .start (.start false) :: List.replicate 6 (.run 0 {}) ++ .start .stop :: List.replicate 9 (.run 1 {}) ++
    List.replicate 7 (.run 0 {generation := 1})

theorem overtaken_start_stops : ∃ manager, Run (step {}) anyStep (created {}) overtakenStart manager ∧
    manager.shared.calls = [.began 0 false,.stopBegan,.returned 0 true,.stopBegan] ∧ manager.acts = [] ∧ Followed 0 [.stopBegan] := by
  refine Exists.imp (fun manager (found : _ ∧ _ ∧ _) => ⟨found.1,found.2.1,found.2.2,?_⟩)
    (Run.exists_of_execute _ (by decide +kernel))
  obtain ⟨run,calls,quiet⟩ := found
  obtain followed | ⟨_,act,mem,_⟩ := (no_orphan_runtime run).2.1 [.began 0 false,.stopBegan] 0 [.stopBegan] calls
  · exact followed
  · rw [quiet] at mem
    cases mem

/-- One goroutine at most works on an attempt, and none while the driver is settled or waits to retry; an operation that is to
run the driver is never shown idle or quarantined. -/
theorem status_matches_work {config : DriverConfig} {labels : List (Move Event Choice)} {manager : Manager}
    (run : Run (step config) anyStep (created config) labels manager) : let slot := manager.shared.slot
    manager.acts.countP (fun act => act.holds.isSome) ≤ 1 ∧
    (slot.observed = .running ∨ slot.observed = .degraded → slot.activeOperation = 0 ∧ ∀ act ∈ manager.acts, act.holds = none) ∧
    (slot.observed = .backoff → 0 < slot.activeOperation ∧
      ∀ act ∈ manager.acts, act.holds = none ∧ act.claim ≠ some slot.activeOperation) ∧
    (0 < slot.activeOperation → slot.desired = .running →
      ¬(slot.quarantined = true ∨ slot.observed = .stopped ∨ slot.observed = .disabled)) := by
  have claimed := (run_orderly run).1.claimed
  refine ⟨claimed.one,fun shown => ?_,fun waits => ?_,claimed.not_idle⟩
  · obtain ⟨done,idle⟩ := claimed.settled shown
    exact ⟨done,claimed.none_holds idle⟩
  · obtain ⟨positive,idle,unclaimed⟩ := claimed.backoff waits
    exact ⟨positive,fun act mem => ⟨claimed.none_holds idle act mem,unclaimed act mem⟩⟩

theorem started_driver_settled : ∃ manager,
    Run (step {}) anyStep (created {}) (.start (.start false) :: replicate 10 (.run 0 {generation := 1})) manager ∧
    (manager.shared.slot.observed = .running ∧ manager.acts ≠ []) ∧ ∀ act ∈ manager.acts, act.holds = none := by
  refine Exists.imp (fun _ ⟨run,reached⟩ => ⟨run,reached,?_⟩) (Run.exists_of_execute _ (by decide +kernel))
  exact ((status_matches_work run).2.1 (.inl reached.1)).2

end EbusGateway.DriverManager
