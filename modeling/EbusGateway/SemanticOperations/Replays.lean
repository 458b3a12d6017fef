import EbusGateway.SemanticOperations.Router

/-! Replays: what a call is told that obtains an admission that has been dispatched.
-/
namespace EbusGateway.SemanticOperations
open Library List

structure Matched (a : Admission) (route : Route) (guard : String) (admittedAt : TimePoint) (revision : String) : Prop where
  routed : a.route = some route
  guarded : a.guard = some guard
  admitted : a.admittedAt = some (admittedAt,revision)
  capability : a.intent.instanceID = some route.capabilityInstance
  epoch : a.intent.expectedSourceEpochID = route.sourceEpochID
  generation : a.intent.expectedDriverGeneration = route.driverGeneration

structure Bound (r : Router) (o : Obtained) : Prop where
  intent : ∃ a, r.admissions[o.admission]? = some a ∧ a.intent.members = o.request.draftIntent.members
  handed : o.handed = true → o.admission ∈ r.dispatched

def Dispatchable (r : Router) (o : Obtained) : Prop :=
  ∃ a route guard revision, r.admissions[o.admission]? = some a ∧ Matched a route guard o.evaluatedAt revision

def Act.Sound (r : Router) : Act → Prop
  | .completeIntent .. => True
  | .capture _ request intent | .admitIntent _ request intent _ => intent.members = request.draftIntent.members
  | .examine o | .replayed o | .replayedDispatch o => Bound r o
  | .lookup o | .claim o => Bound r o ∧ Dispatchable r o
  | .execute .. | .record .. => True
  | .await o => o.handed = false

inductive Excused (r : Router) (o : Obtained) : Result → Prop
  | recorded {record : ExecutionRecord} (stored : r.recorded o.admission = some record) : Excused r o (project record)
  | binding {a : Admission} {route : Route} (known : r.admissions[o.admission]? = some a) (routed : a.route = some route)
    (other : route.bindingID ≠ o.request.bindingID) : Excused r o (refused .bindingMismatch)
  | missing (dispatchable : Dispatchable r o) : Excused r o (refused .executorMissing)
  | expired (dispatchable : Dispatchable r o) : Excused r o (refused (.error .deadlineExpired))

def Fine (r : Router) (entry : Return) : Prop :=
  ∀ o result, entry.obtained = some o → o.handed = true → entry.response = .ok result → result.deniesSend = true → Excused r o result

structure Extends (r next : Router) : Prop where
  admissions : ∀ {id : Nat} {a : Admission}, r.admissions[id]? = some a → next.admissions[id]? = some a
  recorded : ∀ {id : Nat} {record : ExecutionRecord}, r.recorded id = some record → next.recorded id = some record
  dispatched : ∀ {id : Nat}, id ∈ r.dispatched → id ∈ next.dispatched

section
variable {r next : Router} {o : Obtained} {act : Act} {entry : Return}

namespace Extends

theorem refl (r : Router) : Extends r r := ⟨id,id,id⟩

section
variable (extended : Extends r next)
include extended

theorem bound (bound : Bound r o) : Bound next o := by
  obtain ⟨⟨a,known,members⟩,handed⟩ := bound
  exact ⟨⟨a,extended.admissions known,members⟩,fun before => extended.dispatched (handed before)⟩

theorem dispatchable (dispatchable : Dispatchable r o) : Dispatchable next o := by
  obtain ⟨a,route,guard,revision,known,matched⟩ := dispatchable
  exact ⟨a,route,guard,revision,extended.admissions known,matched⟩

theorem sound (sound : act.Sound r) : act.Sound next := by
  cases act with
  | examine o | replayed o | replayedDispatch o => exact extended.bound sound
  | lookup o | claim o => exact ⟨extended.bound sound.1,extended.dispatchable sound.2⟩
  | _ => exact sound

theorem fine (fine : Fine r entry) : Fine next entry := by
  intro o result obtained handed response denies
  cases fine o result obtained handed response denies with
  | recorded stored => exact .recorded (extended.recorded stored)
  | binding known routed other => exact .binding (extended.admissions known) routed other
  | missing dispatchable => exact .missing (extended.dispatchable dispatchable)
  | expired dispatchable => exact .expired (extended.dispatchable dispatchable)

end

end Extends

def Act.executes (id : Nat) : Act → Bool
  | .execute o _ => o.admission = id
  | _ => false

def Router.handovers (r : Router) (id : Nat) : Nat := (r.invoked.map (·.1)).count id

def Admitted (r : Router) (id : Nat) : Prop :=
  ∃ a route guard admittedAt revision, r.admissions[id]? = some a ∧ Matched a route guard admittedAt revision

structure Goes (r : Router) (own : Nat → Nat) (effect : Outcome) : Prop where
  extended : Extends r effect.shared
  sound : ∀ act ∈ effect.acts, act.Sound effect.shared
  fine : ∀ entry ∈ effect.shared.returned, entry ∈ r.returned ∨ Fine effect.shared entry
  claims : ∀ id ∈ effect.shared.dispatched, id ∈ r.dispatched ∨ Admitted effect.shared id
  nodup : r.dispatched.Nodup → effect.shared.dispatched.Nodup
  balance : ∀ id, effect.shared.handovers id + effect.acts.countP (·.executes id) + r.dispatched.count id ≤
    r.handovers id + effect.shared.dispatched.count id + own id

abbrev GoesOn (r : Router) (effect : Outcome) : Prop := Goes r (fun _ => 0) effect

namespace Goes

theorem after {effect : Outcome} {own : Nat → Nat} (next : Router) (extended : Extends r next) (returned : next.returned = r.returned)
    (dispatched : next.dispatched = r.dispatched)
    (spent : ∀ id, next.handovers id ≤ r.handovers id + own id) (goes : GoesOn next effect) :
    Goes r own effect where
  extended := ⟨goes.extended.admissions ∘ extended.admissions,goes.extended.recorded ∘ extended.recorded,
    goes.extended.dispatched ∘ extended.dispatched⟩
  sound := goes.sound
  fine := returned ▸ goes.fine
  claims := dispatched ▸ goes.claims
  nodup := dispatched ▸ goes.nodup
  balance id := by
    have balance := goes.balance id
    have spent := spent id
    rw [dispatched] at balance
    omega

theorem on {act : Act} (sound : act.Sound r) (quiet : ∀ id, act.executes id = false) : GoesOn r {shared := r, code := [act]} where
  extended := .refl r
  sound next pending := by
    cases mem_singleton.mp (by simpa [Effect.acts] using pending)
    exact sound
  fine entry old := .inl old
  claims id old := .inl old
  nodup := id
  balance id := by simp [Effect.acts,quiet]

theorem respond (r : Router) (call : Nat) (obtained : Option Obtained) (response : Except RequestError Result)
    (fine : Fine r ⟨call,obtained,response⟩) : GoesOn r (r.respond call obtained response) where
  extended := ⟨id,id,id⟩
  sound act pending := nomatch pending
  fine entry inside := by
    refine (mem_append.mp inside).imp_right fun new => ?_
    cases mem_singleton.mp new
    have extended : Extends r (r.respond call obtained response).shared := ⟨id,id,id⟩
    exact extended.fine fine
  claims id old := .inl old
  nodup := id
  balance id := Nat.le_refl _

theorem refuse (r : Router) (call : Nat) (response : Except RequestError Result) : GoesOn r (r.respond call none response) :=
  respond r call none response fun _ _ obtained => nomatch obtained

theorem answer {result : Result} (excused : o.handed = true → result.deniesSend = true →
      Excused r o result) : GoesOn r (r.answer o result) := by
  refine respond r o.call (some o) (.ok result) fun o result obtained handed response denies => ?_
  cases obtained
  cases response
  exact excused handed denies

end Goes

variable {cfg : Config} {choice : Choice} {effect : Outcome}

theorem completeIntent_goes (call : Nat) (req : Request) : GoesOn r (r.completeIntent cfg choice call req) := by
  unfold Router.completeIntent
  split
  · exact .refuse ..
  split
  · exact .refuse ..
  split
  · split
    all_goals exact .refuse ..
  split
  · exact .refuse ..
  split
  · exact .refuse ..
  rename_i same
  split
  · exact .refuse ..
  split
  · exact .refuse ..
  refine .on ?_ fun _ => rfl
  rw [Bool.not_eq_true,Bool.not_eq_false'] at same
  exact (of_decide_eq_true same).symm

variable {call : Nat} {req : Request} {a : Admission} {intent : Intent}
    {evaluatedAt admittedAt : TimePoint} {route : Route} {guard revision : String}

theorem capture_goes (members : intent.members = req.draftIntent.members) : GoesOn r (r.capture choice call req intent) := by
  unfold Router.capture
  split
  · split
    all_goals exact .refuse ..
  · split
    · exact .refuse ..
    split
    · split
      all_goals exact .refuse ..
    split
    · split
      · exact .on members fun _ => rfl
      · exact .refuse ..
    · exact .refuse ..
  · exact .refuse ..

theorem proceed_goes {admission : Nat} (known : r.admissions[admission]? = some a)
    (members : a.intent.members = req.draftIntent.members) :
    GoesOn r (r.proceed call req evaluatedAt admission) :=
  .on ⟨⟨a,known,members⟩,fun handed => by simpa using handed⟩ fun _ => rfl

theorem admitIntent_goes
    (members : intent.members = req.draftIntent.members) : GoesOn r (r.admitIntent choice call req intent evaluatedAt) := by
  unfold Router.admitIntent
  split
  · exact .refuse ..
  split
  next known found =>
    obtain ⟨inside,same,_⟩ := List.findIdx?_eq_some_iff_getElem.mp found
    have equal : r.admissions[known].intent = intent := by simpa using same
    exact proceed_goes (List.getElem?_eq_getElem inside) (equal ▸ members)
  next =>
    refine Goes.after {r with admissions := r.admissions ++ [_]} ?_ rfl rfl (fun _ =>
      Nat.le_refl _) (proceed_goes List.getElem?_concat_length members)
    exact ⟨fun known => (List.getElem?_append_left (List.getElem?_eq_some_iff.mp known).1).trans known,id,id⟩

theorem members_route (members : a.intent.members = req.draftIntent.members) :
    a.intent.instanceID = some req.capabilityInstanceID ∧ a.intent.expectedSourceEpochID = req.expectedSourceEpochID ∧
      a.intent.expectedDriverGeneration = req.expectedDriverGeneration :=
  ⟨congrArg Intent.instanceID members,congrArg Intent.expectedSourceEpochID members,congrArg Intent.expectedDriverGeneration members⟩

theorem Matched.routeMatches (matched : Matched a route guard admittedAt revision)
    (members : a.intent.members = req.draftIntent.members) :
    Router.routeMatches route req = true := by
  obtain ⟨capability,epoch,gen⟩ := members_route members
  have capability := Option.some.inj (matched.capability.symm.trans capability)
  simp [Router.routeMatches,capability,matched.epoch.symm.trans epoch,matched.generation.symm.trans gen]

theorem matched_of_routeMatches
    (routed : a.route = some route) (guarded : a.guard = some guard) (admitted : a.admittedAt = some (admittedAt,revision))
    (members : a.intent.members = req.draftIntent.members) (matches_ : Router.routeMatches route req = true) :
    Matched a route guard admittedAt revision := by
  obtain ⟨capability,epoch,gen⟩ := members_route members
  simp only [Router.routeMatches,Bool.and_eq_true,decide_eq_true_eq] at matches_
  obtain ⟨⟨first,second⟩,third⟩ := matches_
  exact ⟨routed,guarded,admitted,first ▸ capability,second ▸ epoch,third ▸ gen⟩

theorem examine_goes (claimed : ∀ id ∈ r.dispatched, Admitted r id) (bound : Bound r o)
    (known : r.admissions[o.admission]? = some a) :
    GoesOn r (r.examine o a) := by
  obtain ⟨⟨same,found,members⟩,handed⟩ := bound
  obtain rfl : same = a := Option.some.inj (found.symm.trans known)
  -- an admission that was dispatched before has all that the later checks ask for
  have before (already : o.handed = true) : ∃ route guard admittedAt revision, Matched same route guard admittedAt revision := by
    obtain ⟨other,route,guard,admittedAt,revision,there,matched⟩ := claimed _ (handed already)
    obtain rfl : other = same := Option.some.inj (there.symm.trans known)
    exact ⟨route,guard,admittedAt,revision,matched⟩
  unfold Router.examine
  split
  next other =>
    obtain ⟨route,routed,apart⟩ : ∃ route, same.route = some route ∧ route.bindingID ≠ o.request.bindingID := by
      simpa [Option.any_eq_true] using other
    exact .answer fun _ _ => .binding known routed apart
  split
  next record stored => exact .answer fun _ _ => .recorded stored
  split
  next route guard admittedAt revision routed guarded admitted =>
    by_cases sameTime : admittedAt ≠ o.evaluatedAt
    · rw [if_pos sameTime]
      exact .on ⟨⟨same,known,members⟩,handed⟩ fun _ => rfl
    rw [if_neg sameTime]
    split
    next mismatch =>
      refine .answer fun already _ => ?_
      obtain ⟨_,_,_,_,matched⟩ := before already
      obtain rfl := Option.some.inj (matched.routed.symm.trans routed)
      rw [matched.routeMatches members] at mismatch
      exact nomatch mismatch
    next matching =>
      refine .on ⟨⟨⟨same,known,members⟩,handed⟩,?_⟩ fun _ => rfl
      rw [ne_eq,not_not] at sameTime
      subst sameTime
      exact ⟨same,route,guard,revision,known,matched_of_routeMatches routed guarded admitted members (by simpa using matching)⟩
  next incomplete =>
    refine .answer fun already _ => ?_
    obtain ⟨route,guard,admittedAt,revision,matched⟩ := before already
    exact (incomplete _ _ _ _ matched.routed matched.guarded matched.admitted).elim

section
variable (bound : Bound r o)
include bound

theorem replayed_goes : GoesOn r (r.replayed o) := by
  unfold Router.replayed
  split
  next record stored => exact .answer fun _ _ => .recorded stored
  next => exact .on bound fun _ => rfl

theorem replayedDispatch_goes : GoesOn r (r.replayedDispatch o) := by
  refine .answer fun already denies => ?_
  have dispatched : r.dispatched.contains o.admission = true := by simpa using bound.handed already
  rw [if_pos dispatched] at denies
  exact nomatch denies

theorem lookup_goes (dispatchable : Dispatchable r o) : GoesOn r (r.lookup choice o) := by
  unfold Router.lookup
  split
  · exact .answer fun _ _ => .missing dispatchable
  split
  · exact .answer fun _ _ => .expired dispatchable
  · exact .on ⟨bound,dispatchable⟩ fun _ => rfl

theorem claim_goes (dispatchable : Dispatchable r o) : GoesOn r (r.claim o a) := by
  unfold Router.claim
  split
  · exact .on bound fun _ => rfl
  rename_i free
  have fresh : o.admission ∉ r.dispatched := by simpa using free
  refine ⟨⟨id,id,mem_append_left _⟩,fun act pending => ?_,fun entry old => .inl old,fun id claimed => ?_,fun nodup => ?_,fun id => ?_⟩
  · have acts : act = .await o ∨ ∃ dispatch, act = .execute o dispatch := by
      simp only [Effect.acts,mem_append,mem_singleton,mem_flatMap,mem_map] at pending
      rcases pending with rfl | ⟨thread,⟨dispatch,_,rfl⟩,inside⟩
      · exact .inl rfl
      · exact .inr ⟨dispatch,mem_singleton.mp inside⟩
    rcases acts with rfl | ⟨dispatch,rfl⟩
    · exact Bool.eq_false_iff.mpr fun already => fresh (bound.handed already)
    · trivial
  · refine (mem_append.mp claimed).imp_right fun new => ?_
    cases mem_singleton.mp new
    obtain ⟨a,route,guard,revision,known,matched⟩ := dispatchable
    exact ⟨a,route,guard,o.evaluatedAt,revision,known,matched⟩
  · exact nodup_append.mpr ⟨nodup,nodup_singleton _,fun old inside new last => by
      rw [mem_singleton.mp last]
      exact fun same => fresh (same ▸ inside)⟩
  · have due : (a.dispatch.toList.map fun dispatch => Thread.mk Name.task [Act.execute o dispatch]).flatMap (·.code) =
        a.dispatch.toList.map (Act.execute o ·) := by
      cases a.dispatch
      all_goals rfl
    have one : (a.dispatch.toList.map (Act.execute o ·)).countP (·.executes id) ≤ [o.admission].count id := by
      cases a.dispatch
      all_goals simp [Act.executes,count_singleton]
    simp only [Effect.acts,due,countP_append,count_append,Router.handovers]
    have await : [Act.await o].countP (·.executes id) = 0 := rfl
    omega

end

theorem complete_goes (result : Result) : GoesOn r (r.complete o result) :=
  ⟨⟨id,id,id⟩,forall_mem_nil _,fun _ old => .inl old,fun _ old => .inl old,id,fun _ =>
    Nat.le_refl _⟩

theorem execute_goes (dispatch : Dispatch) : Goes r (fun id => (decide (o.admission = id)).toNat) (r.execute choice o dispatch) := by
  unfold Router.execute
  extract_lets invoked
  have spent (id : Nat) : invoked.handovers id ≤ r.handovers id + (decide (o.admission = id)).toNat := by
    by_cases same : o.admission = id
    · simp [invoked,Router.handovers,same]
    · simp [invoked,Router.handovers,same]
  refine Goes.after (r := r) invoked ⟨id,id,id⟩ rfl rfl spent ?_
  split
  · exact complete_goes _
  · exact complete_goes _
  · exact .on trivial fun _ => rfl

theorem record_goes (record : ExecutionRecord) : GoesOn r (r.record choice o record) := by
  unfold Router.record
  split
  · exact complete_goes _
  split
  · exact complete_goes _
  rename_i unrecorded
  refine Goes.after {r with recorded := Function.update r.recorded o.admission (some record)}
    ⟨id,?_,id⟩ rfl rfl (fun _ => Nat.le_refl _) (complete_goes _)
  intro id stored known
  by_cases same : id = o.admission
  · rw [same,unrecorded] at known
    exact nomatch known
  · simpa [same] using known

theorem perform_goes (ran : perform cfg choice act r = some effect) (sound : act.Sound r)
    (claimed : ∀ id ∈ r.dispatched, Admitted r id) :
    Goes r (fun id => (act.executes id).toNat) effect := by
  cases act with
  | completeIntent call req =>
    cases ran
    exact completeIntent_goes ..
  | capture call req intent =>
    cases ran
    exact capture_goes sound
  | admitIntent call req intent evaluatedAt =>
    cases ran
    exact admitIntent_goes sound
  | examine o =>
    obtain ⟨a,known,rfl⟩ := Option.map_eq_some_iff.mp ran
    exact examine_goes claimed sound known
  | replayed o =>
    cases ran
    exact replayed_goes sound
  | replayedDispatch o =>
    cases ran
    exact replayedDispatch_goes sound
  | lookup o =>
    cases ran
    exact lookup_goes sound.1 sound.2
  | claim o =>
    obtain ⟨a,_,rfl⟩ := Option.map_eq_some_iff.mp ran
    exact claim_goes sound.1 sound.2
  | execute o dispatch =>
    cases ran
    exact execute_goes dispatch
  | record o record =>
    cases ran
    exact record_goes record
  | await o =>
    have unhanded {result : Result} : GoesOn r (r.answer o result) := .answer fun already => nomatch sound.symm.trans already
    simp only [perform,Router.await] at ran
    split at ran
    · cases ran
      exact unhanded
    split at ran
    · cases ran
      exact unhanded
    · cases ran

structure Dispatches (r : Router) (acts : List Act) : Prop where
  sound : ∀ act ∈ acts, act.Sound r
  claimed : ∀ id ∈ r.dispatched, Admitted r id
  nodup : r.dispatched.Nodup
  fine : ∀ entry ∈ r.returned, Fine r entry
  balance : ∀ id, r.handovers id + acts.countP (·.executes id) ≤ r.dispatched.count id

namespace Dispatches

theorem perm {acts others : List Act} (same : acts.Perm others) (dispatches : Dispatches r acts) :
    Dispatches r others := {dispatches with
  sound act pending := dispatches.sound act (same.mem_iff.mpr pending)
  balance id := by
    rw [← same.countP_eq]
    exact dispatches.balance id}

theorem go {others : List Act} {own : Nat → Nat} (goes : Goes r own effect) (dispatches : Dispatches r others)
    (due : ∀ id, r.handovers id + own id + others.countP (·.executes id) ≤ r.dispatched.count id) :
    Dispatches effect.shared (effect.acts ++ others) where
  sound := forall_mem_append.mpr ⟨goes.sound,fun act pending => goes.extended.sound (dispatches.sound act pending)⟩
  claimed id inside := by
    rcases goes.claims id inside with old | new
    · obtain ⟨a,route,guard,admittedAt,revision,known,matched⟩ := dispatches.claimed id old
      exact ⟨a,route,guard,admittedAt,revision,goes.extended.admissions known,matched⟩
    · exact new
  nodup := goes.nodup dispatches.nodup
  fine entry inside := (goes.fine entry inside).elim (fun old => goes.extended.fine (dispatches.fine entry old)) id
  balance id := by
    have balance := goes.balance id
    have due := due id
    rw [countP_append]
    omega

end Dispatches

theorem step_dispatches {system next : System} {label : Label} (dispatches : Dispatches system.shared system.acts)
    (stepped : step cfg system label = some next) : Dispatches next.shared next.acts := by
  refine Machine.acts_step Dispatches (fun _ _ _ same dispatches => dispatches.perm same) ?_ ?_ dispatches stepped
  · intro req effect name _ launched
    cases launched
    have goes : GoesOn system.shared
      {shared := {system.shared with calls := system.shared.calls + 1},
        code := [.completeIntent system.shared.calls req]} :=
      .after {system.shared with calls := system.shared.calls + 1} ⟨id,id,id⟩ rfl rfl (fun _ =>
        Nat.le_refl _) (.on trivial fun _ => rfl)
    exact dispatches.go goes dispatches.balance
  · intro choice act others effect _ _ _ dispatches ran
    obtain ⟨sound,rest⟩ := forall_mem_cons.mp dispatches.sound
    refine Dispatches.go (perform_goes ran sound dispatches.claimed)
      ⟨rest,dispatches.claimed,dispatches.nodup,dispatches.fine,fun id => ?_⟩ fun id => ?_
    · have balance := dispatches.balance id
      rw [countP_cons] at balance
      omega
    · have balance := dispatches.balance id
      rw [countP_cons] at balance
      cases executes : act.executes id
      all_goals
        rw [executes] at balance
        simp only [Bool.toNat_true,Bool.toNat_false,if_true,Bool.false_eq_true,if_false] at balance ⊢
        omega

end

def openRoute : Config := {validate := fun _ => none}

def setPoint : Request where
  assetID := "asset"
  bindingID := "binding"
  capabilityInstanceID := "instance"
  operation := "set"
  arguments := []
  expectedSemanticRevision := "1"
  expectedCapabilityRevision := "2"
  expectedCapabilityInstanceRevision := "3"
  expectedSourceEpochID := "epoch"
  expectedDriverGeneration := "4"
  preconditions := []
  timeout := 1000

def noon : TimePoint := ⟨"clock.utc","43200000000000"⟩

def setIntent : Intent := {setPoint.draftIntent with owned := "intent", deadline := noon}

def toAdmission (thread : Nat) : List Label :=
  [.run thread {owner := .completed setIntent true none},.run thread {capture := .inputs [⟨"asset",none,true,some noon⟩]},
   .run thread {admission := .admits (some ⟨"binding","instance","epoch","4",""⟩) (some "guard") (some (noon,"1"))},.run thread {}]

def sent : List Label := .start setPoint :: toAdmission 0 ++ [.run 0 {},.run 0 {},.run 1 {execution := .pending},.run 0 {}]

def Return.deniesDispatch (entry : Return) : Bool :=
  entry.obtained.any (·.handed) && match entry.response with
    | .ok result => result.deniesSend
    | .error _ => false

def Denied (call : List Label) : Prop :=
  ∃ final, Run (step openRoute) anyStep (initially [] fun _ => none) (sent ++ call) final ∧
    (final.shared.invoked.map (·.1) = [0] ∧ final.shared.returned.any Return.deniesDispatch = true)

theorem Return.deniesDispatch_cases {entry : Return} (denies : entry.deniesDispatch = true) :
    ∃ o result, entry.obtained = some o ∧ o.handed = true ∧ entry.response = .ok result ∧ result.deniesSend = true := by
  obtain ⟨call,obtained,response⟩ := entry
  simp only [deniesDispatch,Bool.and_eq_true,Option.any_eq_true] at denies
  obtain ⟨⟨o,found,handed⟩,denied⟩ := denies
  cases response with
  | ok result => exact ⟨o,result,found,handed,rfl,denied⟩
  | error => exact nomatch denied

end EbusGateway.SemanticOperations
