import EbusGateway.Mux.ActiveGate
import EbusGateway.Mux.Desk

/-! A client's cancel. The handler of START 0xAA withdraws the queued bid, then the grant, then the
selected bid, each in a critical section of its own; a grant committed before the third escapes.
-/
namespace EbusGateway.Mux
open Library List

variable (history : List Trace) {session : Nat}

def withdrawn (session : Nat) : Bool :=
  history.foldl (fun found entry => match entry with
    | .requested other _ => if other = session then false else found
    | .cancelled other => if other = session then true else found
    | _ => found) false

theorem withdrawn_requested (other session : Nat) (initiator : UInt8) :
    withdrawn (history ++ [.requested other initiator]) session = if other = session then false else withdrawn history session := by
  simp [withdrawn]

theorem withdrawn_cancelled (other session : Nat) :
    withdrawn (history ++ [.cancelled other]) session = if other = session then true else withdrawn history session := by
  simp [withdrawn]

theorem withdrawn_filter (journal : List Trace) (session : Nat) (keep : Trace → Bool)
    (requests : ∀ other initiator, keep (.requested other initiator) = true) (cancels : ∀ other, keep (.cancelled other) = true) :
    withdrawn (journal.filter keep) session = withdrawn journal session := by
  rw [withdrawn,foldl_filter,withdrawn]
  congr 1
  funext found entry
  cases entry <;> simp [requests,cancels]

section Session
variable {session : Nat} {d later : Desk} {act : Act}

def Unqueued (session : Nat) (d : Desk) : Prop := ∀ request ∈ d.queue, request.sessionID ≠ session

def Unselected (session : Nat) (d : Desk) : Prop := ∀ request ∈ d.selected, request.sessionID ≠ session

theorem cancelFor_session (other : Nat) (req : StartRequest) : (StartRequest.cancelFor other req).sessionID = req.sessionID := by
  unfold StartRequest.cancelFor
  split <;> rfl

theorem Unqueued.turn (unqueued : Unqueued session d) (other : ∀ initiator, act ≠ .requestStart session initiator)
    (turn : Turn d act later) : Unqueued session later := by
  cases turn with
  | shrink _ _ _ _ _ sub _ => exact fun req mem => unqueued req (sub.subset mem)
  | repeated => exact unqueued
  | queued asking initiator ch outer fresh =>
    intro bid mem
    rcases Arbitrator.submit_mem mem with rfl | ⟨old,present,same,_⟩
    · intro equal
      exact other initiator (congrArg (Act.requestStart · initiator) equal)
    · rw [same]
      exact unqueued old present
  | gateway => exact unqueued
  | selects => exact fun req mem => unqueued req (mem_of_mem_filter mem)
  | grants => exact unqueued
  | returns => exact unqueued

theorem Unselected.turn (outer : session ≠ gatewaySessionID) (tidy : Tidy d) (unqueued : Unqueued session d)
    (unselected : Unselected session d) (turn : Turn d act later) : Unselected session later := by
  have marked : ∀ other, ∀ req ∈ d.selected.map (StartRequest.cancelFor other), req.sessionID ≠ session := by
    intro other req chosen
    obtain ⟨before,won,rfl⟩ := Option.map_eq_some_iff.mp chosen
    rw [cancelFor_session]
    exact unselected before won
  cases turn with
  | shrink _ _ _ won _ _ kept =>
    intro req chosen
    rcases kept with rfl | rfl
    · exact unselected req chosen
    · cases chosen
  | repeated => exact unselected
  | queued => exact marked _
  | gateway => exact marked _
  | selects bids req free eligible bid =>
    rintro _ ⟨⟩
    rcases bid with own | queued
    · rw [tidy.own req own]
      exact Ne.symm outer
    · exact unqueued req queued
  | grants => exact nofun
  | returns => exact unselected

theorem withdrawn_before (turn : Turn d act later) (cancelled : withdrawn later.history session = true) :
    withdrawn d.history session = true ∨ act = .cancelReturn session := by
  cases turn with
  | shrink => exact .inl cancelled
  | repeated | queued | gateway =>
    rw [withdrawn_requested] at cancelled
    split at cancelled
    · cases cancelled
    · exact .inl cancelled
  | selects => exact .inl cancelled
  | grants =>
    exact .inl (by simpa [withdrawn] using cancelled)
  | returns other =>
    rw [withdrawn_cancelled] at cancelled
    split at cancelled
    · rename_i same
      exact .inr (same ▸ rfl)
    · exact .inl cancelled

theorem withdrawn_unqueued (unqueued : Unqueued session d) (turn : Turn d act later)
    (cancelled : withdrawn later.history session = true) : Unqueued session later := by
  by_cases asks : ∃ initiator, act = .requestStart session initiator
  · obtain ⟨initiator,rfl⟩ := asks
    cases turn with
    | shrink _ _ _ _ _ sub _ => exact fun req mem => unqueued req (sub.subset mem)
    | repeated | queued | gateway =>
      rw [withdrawn_requested,if_pos rfl] at cancelled
      cases cancelled
  · exact unqueued.turn (fun initiator same => asks ⟨initiator,same⟩) turn

end Session

section Owner
variable {cfg : Config} {choice : Choice} {act : Act} {m : State} {effect : Step} {session : Nat}

theorem grant_owner {due : PendingStart} (found : perform cfg choice (.completeArbitrationGrant due) m = some effect)
    (owns : effect.shared.arb.isOwner session = true) :
    m.arb.isOwner session = true ∨ ∃ req, m.desk.selected = some req ∧ req.sessionID = session := by
  cases found
  unfold completeArbitrationGrant at owns
  split at owns
  · exact .inl owns
  split at owns
  · exact .inl owns
  rename_i p won
  have bid : m.desk.selected = some p.request :=
    congrArg (Option.map PendingStart.request) (Option.filter_eq_some_iff.mp won).1
  have reject : (rejectGrant {m with pendingStart := none} p.request).arb.isOwner session = true → m.arb.isOwner session = true :=
    (trySend_keeps _ _).owner session
  have commit : ∀ ready : State, (commitGrant cfg choice.now ready p.request).arb.isOwner session = true →
      p.request.sessionID = session := by
    intro ready granted
    obtain ⟨before,equal,_,arb,_⟩ := commitGrant_update cfg choice.now ready p.request
    rw [equal] at granted
    have owner := (send_keeps before _).owner session granted
    rw [arb] at owner
    simpa [Arbitrator.isOwner,Arbitrator.confirmOwnership] using owner
  extract_lets taken asking decided at owns
  split at owns
  · exact .inl (reject owns)
  split at owns
  · exact .inr ⟨_,bid,commit _ owns⟩
  split at owns
  · exact .inr ⟨_,bid,commit _ owns⟩
  · exact .inl (reject owns)

theorem tryGrantAndStart_ownership (choice : Choice) (m : State) (bids : Option Bids) :
    (tryGrantAndStart choice m bids).shared.arb.ownership = m.arb.ownership := by
  unfold tryGrantAndStart
  split
  · rfl
  split
  · rfl
  rename_i arb req losers won
  obtain ⟨_,_,_,rfl⟩ := Arbitrator.selectBidsAtSYN_cases won
  obtain ⟨results,wedged,announced⟩ := announceLoser_foldl choice req.initiator {m with arb := _} losers
  dsimp only
  rw [announced]
  rfl

theorem releaseSessionGrant_owner {released : Nat} (owns : (releaseSessionGrant m released).shared.arb.isOwner session = true) :
    m.arb.isOwner session = true ∧ m.arb.isOwner released = false := by
  unfold releaseSessionGrant at owns
  extract_lets fenced at owns
  have same : fenced.arb = m.arb := by
    dsimp only [fenced]
    split <;> rfl
  rw [← same]
  exact isOwner_releaseOwnership owns

theorem perform_owner (found : perform cfg choice act m = some effect) (owns : effect.shared.arb.isOwner session = true) :
    m.arb.isOwner session = true ∨
      (∃ due, act = .completeArbitrationGrant due) ∧ ∃ req, m.desk.selected = some req ∧ req.sessionID = session := by
  cases gating : act.gating with
  | true =>
    cases act
    all_goals cases gating
    case armSend.refl data structural =>
      cases found
      exact .inl owns
    case forceRelease.refl =>
      cases found
      simp [Arbitrator.isOwner,Arbitrator.forceRelease] at owns
    case tryGrantAndStart.refl bids =>
      cases found
      rw [Arbitrator.isOwner_congr (tryGrantAndStart_ownership choice m bids)] at owns
      exact .inl owns
    case completeArbitrationGrant.refl due => exact (grant_owner found owns).imp_right fun won => ⟨⟨due,rfl⟩,won⟩
  | false =>
    cases outer : act.external with
    | true => exact .inl ((perform_keeps gating outer found).owner session owns)
    | false =>
      cases act
      all_goals simp only [Act.external,Bool.true_eq_false] at outer
      case releaseOwnership other =>
        cases found
        exact .inl (isOwner_releaseOwnership owns).1
      case releaseSessionGrant other =>
        cases found
        exact .inl (releaseSessionGrant_owner owns).1
      case deleteSession other =>
        cases found
        unfold deleteSession at owns
        split at owns <;> exact .inl owns

end Owner

structure Outside (session : Nat) (code : List Act) : Prop where
  asks : ∀ initiator, .requestStart session initiator ∉ code
  returns : .cancelReturn session ∉ code

inductive Phase (session : Nat) (m : State) : List Act → Prop
  | other code (outside : Outside session code) : Phase session m code
  | asking initiator : Phase session m [.requestStart session initiator]
  | cancelling : Phase session m (cancelCode session)
  | dequeued (unqueued : Unqueued session m.desk) :
    Phase session m [.releaseSessionGrant session,.cancelPendingStart session,.cancelReturn session]
  | released (unqueued : Unqueued session m.desk) (unowned : m.arb.isOwner session = false) :
    Phase session m [.cancelPendingStart session,.cancelReturn session]
  | cleared notices (outside : Outside session notices) (unqueued : Unqueued session m.desk)
    (unselected : Unselected session m.desk) (unowned : m.arb.isOwner session = false) :
    Phase session m (notices ++ [.cancelReturn session])

structure Shape (session : Nat) (m : State) (name : Name) (code : List Act) : Prop where
  reader : name = .session session → Phase session m code
  others : name ≠ .session session → Outside session code

theorem Outside.append {first second : List Act} (head : Outside session first) (tail : Outside session second) :
    Outside session (first ++ second) where
  asks initiator mem := (mem_append.mp mem).elim (head.asks initiator) (tail.asks initiator)
  returns mem := (mem_append.mp mem).elim head.returns tail.returns

theorem Outside.tail {act : Act} {rest : List Act} (outside : Outside session (act :: rest)) : Outside session rest where
  asks initiator mem := outside.asks initiator (.tail _ mem)
  returns mem := outside.returns (.tail _ mem)

section Steps
variable {cfg : Config} {choice : Choice} {act : Act} {m : State} {effect : Step} {session : Nat} {name : Name} {rest : List Act}

theorem perform_outside (found : perform cfg choice act m = some effect) : Outside session effect.acts where
  asks initiator mem := by
    generalize same : Act.requestStart session initiator = pushed at mem
    cases perform_pushes found mem <;> cases same
  returns mem := by
    generalize same : Act.cancelReturn session = pushed at mem
    cases perform_pushes found mem <;> cases same

theorem code_outside (found : perform cfg choice act m = some effect) : Outside session effect.code where
  asks initiator mem := (perform_outside found).asks initiator (mem_append_left _ mem)
  returns mem := (perform_outside found).returns (mem_append_left _ mem)

theorem unowned_step (unowned : m.arb.isOwner session = false)
    (alone : (∃ due, act = .completeArbitrationGrant due) → Unselected session m.desk)
    (found : perform cfg choice act m = some effect) : effect.shared.arb.isOwner session = false := by
  cases owns : effect.shared.arb.isOwner session with
  | false => rfl
  | true =>
    rcases perform_owner found owns with before | ⟨grant,req,won,same⟩
    · exact before.symm.trans unowned
    · exact absurd same (alone grant req won)

theorem cancelStart_unqueued (outer : session ≠ gatewaySessionID) (tidy : Tidy m.desk) :
    Unqueued session (cancelStart m session).shared.desk := by
  unfold cancelStart
  dsimp only
  rw [sendAll_desk]
  show ∀ req ∈ (m.arb.cancelStart session).1.pendingExternal, req.sessionID ≠ session
  unfold Arbitrator.cancelStart
  rw [if_neg outer]
  have distinct : (m.arb.pendingExternal.map (·.sessionID)).Nodup := tidy.distinct
  split
  · rename_i found others taken
    have perm := (Arbitrator.takeSession_waiters taken).map (·.sessionID)
    rw [perm.nodup_iff,map_cons,nodup_cons,(Arbitrator.takeSession_split taken).1] at distinct
    intro req mem same
    exact distinct.1 (mem_map.mpr ⟨req,mem,same⟩)
  · rename_i none
    exact Arbitrator.takeSession_none none

theorem cancelPendingStart_unselected (cfg : Config) (choice : Choice) (m : State) (session : Nat) :
    Unselected session (cancelPendingStart cfg choice m session).shared.desk := by
  unfold cancelPendingStart
  split
  · rename_i p won
    split
    · dsimp only
      split <;> exact nofun
    rename_i other
    intro request chosen
    have bid : m.desk.selected = some p.request := congrArg (Option.map PendingStart.request) won
    obtain rfl : p.request = request := Option.some.inj (bid.symm.trans chosen)
    exact other
  · rename_i none
    intro request chosen
    have empty : m.desk.selected = Option.none := congrArg (Option.map PendingStart.request) none
    exact absurd (empty.symm.trans chosen) nofun

namespace Phase
variable {code : List Act}

theorem keep (outer : session ≠ gatewaySessionID) (tidy : Tidy m.desk) (phase : Phase session m code)
    (other : ∀ initiator, act ≠ .requestStart session initiator)
    (alone : (∃ due, act = .completeArbitrationGrant due) →
      code.head? = some (.cancelPendingStart session) → Unselected session m.desk)
    (found : perform cfg choice act m = some effect) : Phase session effect.shared code := by
  have turn := perform_turn found
  cases phase with
  | other _ outside => exact .other _ outside
  | asking initiator => exact .asking initiator
  | cancelling => exact .cancelling
  | dequeued unqueued => exact .dequeued (unqueued.turn other turn)
  | released unqueued unowned =>
    exact .released (unqueued.turn other turn) (unowned_step unowned (fun grant => alone grant rfl) found)
  | cleared notices outside unqueued unselected unowned =>
    exact .cleared notices outside (unqueued.turn other turn) (unselected.turn outer tidy unqueued turn)
      (unowned_step unowned (fun _ => unselected) found)

theorem congr {later : State} (desk : later.desk = m.desk) (arb : later.arb = m.arb)
    (phase : Phase session m code) : Phase session later code := by
  cases phase with
  | other _ outside => exact .other _ outside
  | asking initiator => exact .asking initiator
  | cancelling => exact .cancelling
  | dequeued unqueued => exact .dequeued (desk ▸ unqueued)
  | released unqueued unowned => exact .released (desk ▸ unqueued) (arb ▸ unowned)
  | cleared notices outside unqueued unselected unowned =>
    exact .cleared notices outside (desk ▸ unqueued) (desk ▸ unselected) (arb ▸ unowned)

theorem step (outer : session ≠ gatewaySessionID) (tidy : Tidy m.desk) (phase : Phase session m (act :: rest))
    (found : perform cfg choice act m = some effect) : Phase session effect.shared (effect.code ++ rest) := by
  have turn := perform_turn found
  have outside : Outside session effect.code := code_outside found
  generalize place : act :: rest = code at phase
  cases phase with
  | other _ before =>
    subst place
    exact .other _ (outside.append before.tail)
  | asking initiator =>
    cases place
    exact .other _ (outside.append ⟨nofun,nofun⟩)
  | cancelling =>
    cases place
    cases found
    exact .dequeued (cancelStart_unqueued outer tidy)
  | dequeued unqueued =>
    cases place
    have cleared := unqueued.turn (by simp) turn
    cases found
    refine .released cleared ?_
    cases owns : (releaseSessionGrant m session).shared.arb.isOwner session with
    | false => rfl
    | true =>
      obtain ⟨before,after⟩ := releaseSessionGrant_owner owns
      exact absurd (before.symm.trans after) nofun
  | released unqueued unowned =>
    cases place
    refine .cleared effect.code outside (unqueued.turn (by simp) turn) ?_ (unowned_step unowned (by simp) found)
    cases found
    exact cancelPendingStart_unselected cfg choice m session
  | cleared notices before unqueued unselected unowned =>
    cases notices with
    | nil =>
      cases place
      exact .other _ (outside.append ⟨nofun,nofun⟩)
    | cons notice others =>
      cases place
      have other : ∀ initiator, act ≠ .requestStart session initiator := by
        rintro initiator rfl
        exact before.asks initiator mem_cons_self
      rw [append_eq,← append_assoc]
      exact .cleared _ (outside.append before.tail) (unqueued.turn other turn) (unselected.turn outer tidy unqueued turn)
        (unowned_step unowned (fun _ => unselected) found)

end Phase
end Steps

/-- A grant is committed only while no reader of the selected session is about to cancel it. -/
def grantsAlone (system : System) : Act → Bool
  | .completeArbitrationGrant _ => system.shared.pendingStart.all fun p => system.threads.all fun thread =>
      !(thread.name == .session p.request.sessionID && thread.code.head? == some (.cancelPendingStart p.request.sessionID))
  | _ => true

def GrantsAlone (system : System) (label : Label) : Prop := (system.performs label).all (grantsAlone system) = true

instance (system : System) (label : Label) : Decidable (GrantsAlone system label) := inferInstanceAs (Decidable (_ = true))

structure Cancels (session : Nat) (system : System) : Prop where
  tidy : Tidy system.shared.desk
  shaped : system.Shaped sequential (Shape session system.shared)
  gone : withdrawn system.shared.desk.history session = true →
    Unqueued session system.shared.desk ∧ Unselected session system.shared.desk ∧ system.shared.arb.isOwner session = false

section Run
variable {cfg : Config} {choice : Choice} {act : Act} {system : System} {effect : Step}
    {session : Nat} {name : Name} {rest : List Act} {event : Event}

theorem grantsAlone_unselected (legal : grantsAlone system act = true) (grant : ∃ due, act = .completeArbitrationGrant due)
    {thread : Thread Name Act} (mem : thread ∈ system.threads) (reader : thread.name = .session session)
    (head : thread.code.head? = some (.cancelPendingStart session)) : Unselected session system.shared.desk := by
  obtain ⟨due,rfl⟩ := grant
  intro req chosen same
  obtain ⟨p,won,rfl⟩ := Option.map_eq_some_iff.mp chosen
  have found : system.shared.pendingStart = some p := won
  have free := legal
  simp only [grantsAlone,found,Option.all_some,all_eq_true] at free
  have other := free thread mem
  simp [same,reader,head] at other

theorem perform_fits (outer : session ≠ gatewaySessionID) (cancels : Cancels session system)
    (legal : grantsAlone system act = true) (mem : ⟨name,act :: rest⟩ ∈ system.threads)
    (found : perform cfg choice act system.shared = some effect) :
    Machine.Fits sequential (Shape session) system effect name (effect.code ++ rest) := by
  have shape := cancels.shaped.shapes _ mem
  refine ⟨⟨?_,?_⟩,?_,?_⟩
  · intro own
    exact (shape.reader own).step outer cancels.tidy found
  · intro other
    exact (code_outside found).append (shape.others other).tail
  · intro thread forked
    have task : thread.name = .task := by rcases perform_forks found forked with ⟨_,_,rfl⟩ | ⟨_,_,rfl⟩ <;> rfl
    have outside : Outside session thread.code := by
      have all : Outside session effect.acts := perform_outside found
      have inside : ∀ pushed ∈ thread.code, pushed ∈ effect.acts :=
        fun pushed present => mem_append_right _ (mem_flatMap.mpr ⟨thread,forked,present⟩)
      exact ⟨fun initiator present => all.asks initiator (inside _ present),fun present => all.returns (inside _ present)⟩
    rw [task]
    exact ⟨⟨nofun,fun _ => outside⟩,rfl⟩
  · intro thread present distinct before
    refine ⟨fun reader => ?_,before.others⟩
    have other : name ≠ .session session := by
      rintro rfl
      exact absurd (distinct reader) nofun
    refine (before.reader reader).keep outer cancels.tidy ?_ ?_ found
    · rintro initiator rfl
      exact (shape.others other).asks initiator mem_cons_self
    · intro grant head
      exact grantsAlone_unselected legal grant present reader head

theorem launch_shape {m : State} (outer : session ≠ gatewaySessionID)
    (began : launch event m = some (effect,name)) : Shape session effect.shared name effect.code := by
  have outside : Outside session effect.code → Shape session effect.shared name effect.code :=
    fun outside => ⟨fun _ => .other _ outside,fun _ => outside⟩
  cases event
  all_goals simp only [launch] at began
  case sessionStart asking initiator =>
    split at began
    · cases began
      by_cases same : asking = session
      · subst same
        exact ⟨fun _ => .asking initiator,fun other => absurd rfl other⟩
      · exact outside ⟨by simp [Ne.symm same],by simp⟩
    · cases began
  case sessionCancel cancelling =>
    split at began
    · cases began
      by_cases same : cancelling = session
      · subst same
        exact ⟨fun _ => .cancelling,fun other => absurd rfl other⟩
      · exact outside ⟨by simp [cancelCode],by simp [cancelCode,Ne.symm same]⟩
    · cases began
  case symbol raw logical dropped =>
    cases began
    apply outside
    unfold symbolCode
    split
    · exact ⟨by simp,by simp⟩
    · split <;> exact ⟨by simp,by simp⟩
  all_goals try split at began
  all_goals cases began
  all_goals exact outside ⟨by simp [outer,handleReset,reconnect,closeCode],by simp [handleReset,reconnect,closeCode]⟩

theorem launch_arb {m : State} (began : launch event m = some (effect,name)) : effect.shared.arb = m.arb := by
  cases event
  all_goals simp only [launch] at began
  all_goals try split at began
  all_goals cases began
  all_goals rfl

theorem launch_fits (outer : session ≠ gatewaySessionID) (began : launch event system.shared = some (effect,name)) :
    Machine.Fits sequential (Shape session) system effect name effect.code := by
  refine ⟨launch_shape outer began,?_,?_⟩
  · rw [(launch_book began).1]
    exact nofun
  · intro thread _ _ before
    exact ⟨fun reader => (before.reader reader).congr (launch_desk began) (launch_arb began),before.others⟩

theorem returning (shape : Shape session system.shared name (.cancelReturn session :: rest)) :
    Unqueued session system.shared.desk ∧ Unselected session system.shared.desk ∧ system.shared.arb.isOwner session = false := by
  by_cases reader : name = .session session
  · have phase := shape.reader reader
    generalize place : Act.cancelReturn session :: rest = code at phase
    cases phase with
    | other _ outside =>
      subst place
      exact absurd mem_cons_self outside.returns
    | asking | cancelling | dequeued | released => cases place
    | cleared notices outside unqueued unselected unowned => exact ⟨unqueued,unselected,unowned⟩
  · exact absurd mem_cons_self (shape.others reader).returns

theorem perform_gone (outer : session ≠ gatewaySessionID) (cancels : Cancels session system)
    (mem : ⟨name,act :: rest⟩ ∈ system.threads) (found : perform cfg choice act system.shared = some effect)
    (cancelled : withdrawn effect.shared.desk.history session = true) :
    Unqueued session effect.shared.desk ∧ Unselected session effect.shared.desk ∧ effect.shared.arb.isOwner session = false := by
  have turn := perform_turn found
  have before : Unqueued session system.shared.desk ∧ Unselected session system.shared.desk ∧
      system.shared.arb.isOwner session = false := by
    rcases withdrawn_before turn cancelled with already | rfl
    · exact cancels.gone already
    · exact returning (cancels.shaped.shapes _ mem)
  obtain ⟨unqueued,unselected,unowned⟩ := before
  exact ⟨withdrawn_unqueued unqueued turn cancelled,unselected.turn outer cancels.tidy unqueued turn,
    unowned_step unowned (fun _ => unselected) found⟩

theorem step_cancels {label : Label} {next : System} (outer : session ≠ gatewaySessionID) (cancels : Cancels session system)
    (legal : GrantsAlone system label) (ran : step cfg system label = some next) : Cancels session next := by
  have shaped : next.Shaped sequential (Shape session next.shared) := by
    refine @Machine.shaped_step _ _ _ _ _ _ (program cfg) system next label (Shape session) ?_ ?_ cancels.shaped ran
    · intro event effect name _ began
      exact launch_fits outer began
    · intro choice act rest effect name performs mem found
      rw [GrantsAlone,performs] at legal
      exact perform_fits outer cancels legal mem found
  obtain ⟨event,effect,name,rfl,found,_,rfl⟩ | ⟨choice,before,name,act,rest,after,effect,rfl,split,found,rfl⟩ |
    ⟨before,name,after,split,rfl⟩ := Machine.step_cases ran
  · have desk := launch_desk found
    have arb := launch_arb found
    refine ⟨?_,shaped,?_⟩
    · rw [desk]
      exact cancels.tidy
    · rw [desk,arb]
      exact cancels.gone
  · have mem : ⟨name,act :: rest⟩ ∈ system.threads := split ▸ mem_append_right _ mem_cons_self
    exact ⟨cancels.tidy.turn (perform_turn found),shaped,perform_gone outer cancels mem found⟩
  · exact ⟨cancels.tidy,shaped,cancels.gone⟩

end Run

/-- In a run that commits no grant between the second and the third section of a cancel of its session,
a session whose cancel has returned and that has not asked again has no queued bid, is not selected and
does not own the bus. -/
theorem client_cancel_effective (cfg : Config) (transport : Transport) (labels : List Label) (final : System) (session : Nat)
    (external : session ≠ gatewaySessionID) (run : Run (step cfg) GrantsAlone (initially transport) labels final)
    (cancelled : withdrawn final.shared.journal session = true) :
    (∀ request ∈ final.shared.arb.pendingExternal, request.sessionID ≠ session) ∧
      (∀ p ∈ final.shared.pendingStart, p.request.sessionID ≠ session) ∧ final.shared.arb.isOwner session = false := by
  have cancels : Cancels session final :=
    run.invariant (Cancels session) (fun _ _ _ cancels permitted stepped => step_cancels external cancels permitted stepped)
      ⟨⟨nofun,nofun,nodup_nil⟩,⟨nofun,List.Pairwise.nil⟩,nofun⟩
  have history : withdrawn final.shared.desk.history session = true := by
    show withdrawn ((final.shared.journal.filter Trace.isHistory).filter Trace.isIntent) session = true
    rw [withdrawn_filter _ _ _ (fun _ _ => rfl) fun _ => rfl,withdrawn_filter _ _ _ (fun _ _ => rfl) fun _ => rfl]
    exact cancelled
  obtain ⟨unqueued,unselected,unowned⟩ := cancels.gone history
  refine ⟨unqueued,?_,unowned⟩
  intro p selected
  exact unselected p.request (congrArg (Option.map PendingStart.request) selected)

def ownerCancels : List Label := [.start (.sessionCancel 1),.run 2 {},.run 2 {},.run 2 {},.run 2 {}]

theorem owner_cancel_effective : ∃ final,
    Run (step defaultConfig) GrantsAlone (initially .requester) (grantedStart ++ ownerCancels) final ∧
      withdrawn final.shared.journal 1 = true ∧ (∀ request ∈ final.shared.arb.pendingExternal, request.sessionID ≠ 1) ∧
      (∀ p ∈ final.shared.pendingStart, p.request.sessionID ≠ 1) ∧ final.shared.arb.isOwner 1 = false := by
  refine Exists.imp (fun final found => and_assoc.mp ⟨found,?_⟩) (Run.exists_of_executeWhere _ (by decide +kernel))
  exact client_cancel_effective defaultConfig .requester _ final 1 (by decide) found.1 found.2

def grantDuringCancel : List Label := [.start (.sessionCancel 1),.run 2 {},.run 2 {},.run 1 {},.run 2 {},.run 2 {}]

/-- A grant is committed while the cancel of its session is under way. -/
theorem cancelled_client_owns_bus : ∃ final,
    Run (step defaultConfig) anyStep (initially .requester) (grantedStart.dropLast ++ grantDuringCancel) final ∧
      withdrawn final.shared.journal 1 = true ∧ final.shared.arb.isOwner 1 = true :=
  Run.exists_of_execute _ (by decide +kernel)

end EbusGateway.Mux
