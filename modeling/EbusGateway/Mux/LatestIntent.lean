import EbusGateway.Mux.Desk

/-! The latest START of a session is the one that counts, except a repeated START for an initiator whose
selected bid is already cancelled: it is answered as if that bid still counted.
-/
namespace EbusGateway.Mux
open Library List

variable (history : List Trace) {session : Nat} {cfg : Config}

def latest (session : Nat) : Option UInt8 :=
  history.foldl (fun found entry => match entry with
    | .requested other initiator => if other = session then some initiator else found
    | _ => found) none

theorem latest_requested (session other : Nat) (initiator : UInt8) :
    latest (history ++ [.requested session initiator]) other = if session = other then some initiator else latest history other := by
  simp [latest]

theorem latest_cancelled (session other : Nat) : latest (history ++ [.cancelled session]) other = latest history other := by
  simp [latest]

theorem latest_filter (journal : List Trace) (session : Nat) (keep : Trace → Bool)
    (kept : ∀ other initiator, keep (.requested other initiator) = true) :
    latest (journal.filter keep) session = latest journal session := by
  rw [latest,foldl_filter,latest]
  congr 1
  funext found entry
  cases entry <;> simp [kept]

def GrantsLatest : Prop :=
  ∀ before after session initiator, session ≠ gatewaySessionID → history = before ++ .granted session initiator :: after →
    latest before session = some initiator

theorem GrantsLatest.snoc {history : List Trace} {entry : Trace} (grants : GrantsLatest history)
    (new : ∀ session initiator, entry = .granted session initiator → session ≠ gatewaySessionID →
      latest history session = some initiator) : GrantsLatest (history ++ [entry]) := by
  intro before after session initiator outer split
  rcases eq_nil_or_concat after with rfl | ⟨middle,final,rfl⟩
  · obtain ⟨rfl,last⟩ := append_inj' split rfl
    exact new session initiator (singleton_inj.mp last) outer
  · rw [concat_eq_append,← cons_append,← append_assoc] at split
    obtain ⟨equal,_⟩ := append_inj' split rfl
    exact grants before middle session initiator outer equal

structure Intended (d : Desk) : Prop where
  tidy : Tidy d
  live : ∀ request ∈ d.queue, request.cancelled = false
  queued : ∀ request ∈ d.queue, latest d.history request.sessionID = some request.initiator
  selected : ∀ request ∈ d.selected, request.cancelled = false → request.sessionID ≠ gatewaySessionID →
    latest d.history request.sessionID = some request.initiator ∧ request.sessionID ∉ d.queue.map (·.sessionID)
  granted : GrantsLatest d.history

theorem cancelFor_live {request : StartRequest} (live : (StartRequest.cancelFor session request).cancelled = false) :
    request.sessionID ≠ session ∧ StartRequest.cancelFor session request = request := by
  unfold StartRequest.cancelFor at live ⊢
  split at live
  · cases live
  · rename_i other
    exact ⟨other,if_neg other⟩

namespace Intended
variable {d later : Desk} {session : Nat} {initiator : UInt8} (intended : Intended d) {req : StartRequest}
include intended

theorem note : GrantsLatest (d.history ++ [.requested session initiator]) :=
  intended.granted.snoc fun _ _ equal => by cases equal

theorem repeated (outer : session ≠ gatewaySessionID) (won : d.selected = some req)
    (same : req.sessionID = session ∧ req.initiator = initiator) (live : req.cancelled = false) :
    Intended {d with history := d.history ++ [.requested session initiator]} := by
  have tidy := intended.tidy.turn (.repeated session initiator req outer won same)
  obtain ⟨rfl,rfl⟩ := same
  have alone := (intended.selected req won live outer).2
  refine ⟨tidy,intended.live,?_,?_,intended.note⟩
  · intro other mem
    rw [latest_requested,if_neg]
    · exact intended.queued other mem
    · intro equal
      exact alone (equal ▸ mem_map_of_mem mem)
  · intro other chosen _ _
    obtain rfl : req = other := Option.some.inj (won.symm.trans chosen)
    rw [latest_requested,if_pos rfl]
    exact ⟨rfl,alone⟩

theorem submitted {ch : Nat} (outer : session ≠ gatewaySessionID)
    (other : ∀ req ∈ d.selected, ¬(req.sessionID = session ∧ req.initiator = initiator)) :
    Intended ⟨d.gateway,(Arbitrator.submit {id := ch, sessionID := session, initiator := initiator, notify := ch} d.queue).1,
      d.selected.map (StartRequest.cancelFor session),d.history ++ [.requested session initiator]⟩ := by
  refine ⟨intended.tidy.turn (.queued session initiator ch outer other),?_,?_,?_,intended.note⟩
  · intro bid mem
    rcases Arbitrator.submit_mem mem with rfl | ⟨old,present,_,_,cancelled⟩
    · rfl
    · exact cancelled.trans (intended.live old present)
  · intro bid mem
    rw [latest_requested]
    split
    · rename_i own
      rw [Arbitrator.submit_initiator intended.tidy.distinct mem own.symm]
    rename_i other
    rcases Arbitrator.submit_mem mem with rfl | ⟨old,present,sameSession,sameInitiator,_⟩
    · exact absurd rfl other
    · rw [sameSession,sameInitiator]
      exact intended.queued old present
  · intro req chosen live notGateway
    obtain ⟨before,won,rfl⟩ := Option.map_eq_some_iff.mp chosen
    obtain ⟨other,unchanged⟩ := cancelFor_live live
    rw [unchanged] at live notGateway ⊢
    obtain ⟨wish,alone⟩ := intended.selected before won live notGateway
    refine ⟨?_,?_⟩
    · rw [latest_requested,if_neg (Ne.symm other)]
      exact wish
    · rcases Arbitrator.submit_sessions {id := ch, sessionID := session, initiator := initiator, notify := ch} d.queue with
        same | ⟨_,added⟩
      · rw [same]
        exact alone
      · rw [added,mem_append,mem_singleton]
        exact fun mem => mem.elim alone other

theorem gatewayStart (initiator : UInt8) (ch : Nat) :
    Intended ⟨some {id := ch, sessionID := gatewaySessionID, initiator := initiator, notify := ch},d.queue,
      d.selected.map (StartRequest.cancelFor gatewaySessionID),d.history ++ [.requested gatewaySessionID initiator]⟩ := by
  refine ⟨intended.tidy.turn (.gateway initiator ch),intended.live,?_,?_,intended.note⟩
  · intro req mem
    rw [latest_requested,if_neg (Ne.symm (intended.tidy.external req mem))]
    exact intended.queued req mem
  · intro req chosen live outer
    obtain ⟨before,won,rfl⟩ := Option.map_eq_some_iff.mp chosen
    obtain ⟨other,unchanged⟩ := cancelFor_live live
    rw [unchanged] at live ⊢
    rw [latest_requested,if_neg (Ne.symm other)]
    exact intended.selected before won live other

theorem selects {bids : Option Bids} (free : d.selected = none)
    (eligible : Arbitrator.eligible bids request = true) (bid : request ∈ d.gateway ∨ request ∈ d.queue) :
    Intended ⟨d.gateway.filter (!Arbitrator.eligible bids ·),d.queue.filter (!Arbitrator.eligible bids ·),some request,d.history⟩ := by
  have left : d.queue.filter (!Arbitrator.eligible bids ·) ⊆ d.queue := filter_subset_self _
  refine ⟨intended.tidy.turn (.selects bids request free eligible bid),fun request mem => intended.live request (left mem),
    fun request mem => intended.queued request (left mem),?_,intended.granted⟩
  rintro _ ⟨⟩ _ outer
  rcases bid with own | queued
  · exact absurd (intended.tidy.own request own) outer
  refine ⟨intended.queued request queued,?_⟩
  intro still
  obtain ⟨other,mem,same⟩ := mem_map.mp still
  obtain ⟨present,ineligible⟩ := mem_filter.mp mem
  obtain rfl : other = request := inj_on_of_nodup_map intended.tidy.distinct present queued same
  rw [eligible] at ineligible
  cases ineligible

theorem turn {act : Act} (live : ∀ session initiator req, act = .requestStart session initiator → session ≠ gatewaySessionID →
      d.selected = some req → req.sessionID = session → req.initiator = initiator → req.cancelled = false)
    (turn : Turn d act later) : Intended later := by
  have tidy := intended.tidy.turn turn
  cases turn with
  | shrink _ gateway queue won own sub kept =>
    refine ⟨tidy,fun req mem => intended.live req (sub.subset mem),
      fun req mem => intended.queued req (sub.subset mem),?_,intended.granted⟩
    intro req chosen alive outer
    rcases kept with rfl | rfl
    · obtain ⟨wish,alone⟩ := intended.selected req chosen alive outer
      exact ⟨wish,fun mem => alone ((sub.map _).subset mem)⟩
    · cases chosen
  | repeated session initiator req outer won same =>
    exact intended.repeated outer won same (live session initiator req rfl outer won same.1 same.2)
  | queued session initiator ch outer other => exact intended.submitted outer other
  | gateway initiator ch => exact intended.gatewayStart initiator ch
  | selects bids req free eligible bid => exact intended.selects free eligible bid
  | grants due req won alive =>
    refine ⟨tidy,intended.live,?_,nofun,?_⟩
    · intro other mem
      simpa [latest] using intended.queued other mem
    · refine intended.granted.snoc ?_
      rintro _ _ ⟨⟩ outer
      exact (intended.selected req won alive outer).1
  | returns session =>
    refine ⟨tidy,intended.live,?_,?_,?_⟩
    · intro req mem
      rw [latest_cancelled]
      exact intended.queued req mem
    · intro req chosen alive outer
      rw [latest_cancelled]
      exact intended.selected req chosen alive outer
    · exact intended.granted.snoc fun _ _ equal => by cases equal

end Intended

/-- A START call does not find its session selected for the same initiator and already cancelled. -/
def rebidsLive (m : State) : Act → Bool
  | .requestStart session initiator => session = gatewaySessionID || !m.pendingStart.any fun p =>
      p.request.sessionID = session && p.request.initiator = initiator && p.request.cancelled
  | _ => true

def RebidsLive (system : System) (label : Label) : Prop := (system.performs label).all (rebidsLive system.shared) = true

instance (system : System) (label : Label) : Decidable (RebidsLive system label) := inferInstanceAs (Decidable (_ = true))

theorem rebidsLive_selected {m : State} {act : Act} (legal : rebidsLive m act = true) :
    ∀ session initiator req, act = .requestStart session initiator → session ≠ gatewaySessionID →
      m.desk.selected = some req → req.sessionID = session → req.initiator = initiator → req.cancelled = false := by
  rintro session initiator req rfl outer won rfl rfl
  obtain ⟨p,due,rfl⟩ := Option.map_eq_some_iff.mp won
  have found : m.pendingStart = some p := due
  simpa [rebidsLive,outer,found] using legal

theorem run_intended {transport : Transport} {labels : List Label} {final : System}
    (run : Run (step cfg) RebidsLive (initially transport) labels final) : Intended final.shared.desk := by
  refine Run.invariant (fun system : System => Intended system.shared.desk) ?_ run ?_
  · intro system label next intended legal stepped
    refine Machine.acts_step (fun m _ => Intended m.desk) (fun _ _ _ _ => id) ?_ ?_ intended stepped
    · intro event effect name _ launched
      rw [launch_desk launched]
      exact intended
    · intro choice act others effect _ performs _ _ found
      rw [RebidsLive,performs] at legal
      exact intended.turn (rebidsLive_selected legal) (perform_turn found)
  · refine ⟨⟨nofun,nofun,nodup_nil⟩,nofun,nofun,nofun,?_⟩
    intro before after session initiator _ split
    have none : ([] : List Trace) = before ++ .granted session initiator :: after := split
    simp at none

def LiveBid (m : State) (session : Nat) (initiator : UInt8) : Prop :=
  (∃ request ∈ m.arb.pendingExternal, request.sessionID = session ∧ request.initiator = initiator ∧ request.cancelled = false) ∨
    ∃ p ∈ m.pendingStart, p.request.sessionID = session ∧ p.request.initiator = initiator ∧ p.request.cancelled = false

instance (m : State) (session : Nat) (initiator : UInt8) :
    Decidable (LiveBid m session initiator) := inferInstanceAs (Decidable (_ ∨ _))

theorem requestStart_live {choice : Choice} {m : State} {effect : Step} {initiator : UInt8}
    (intended : Intended m.desk) (legal : rebidsLive m (.requestStart session initiator) = true)
    (outer : session ≠ gatewaySessionID) (admitted : choice.admitted = true) (running : m.closing = false)
    (found : perform cfg choice (.requestStart session initiator) m = some effect) : LiveBid effect.shared session initiator := by
  have live := rebidsLive_selected legal
  have history : effect.shared.desk.history = m.desk.history ++ [.requested session initiator] := by
    cases found
    exact requestStart_history choice m session initiator admitted running
  have later := intended.turn live (perform_turn found)
  generalize place : effect.shared.desk = d at history later
  have turn := perform_turn found
  rw [place] at turn
  cases turn with
  | shrink _ gateway queue won own sub kept =>
    have length := congrArg List.length history
    simp at length
  | repeated _ _ request _ won same =>
    refine .inr ?_
    have chosen : effect.shared.pendingStart.map (·.request) = some request :=
      (congrArg Desk.selected place).trans won
    obtain ⟨p,due,rfl⟩ := Option.map_eq_some_iff.mp chosen
    exact ⟨p,due,same.1,same.2,live session initiator _ rfl outer won same.1 same.2⟩
  | queued _ _ ch _ other =>
    refine .inl ?_
    obtain ⟨bid,mem,own,wish⟩ :=
      Arbitrator.submit_present {id := ch, sessionID := session, initiator := initiator, notify := ch} m.desk.queue
    have queue : effect.shared.arb.pendingExternal = _ := congrArg Desk.queue place
    rw [queue]
    exact ⟨bid,mem,own,wish,later.live bid mem⟩
  | gateway => exact absurd rfl outer

/-- In a run without such a START, every admitted START leaves a live bid of its session for its
initiator, and what a session is granted is what its latest START asked for. -/
theorem latest_start_wins (cfg : Config) (transport : Transport) (labels : List Label) (system : System)
    (run : Run (step cfg) RebidsLive (initially transport) labels system) :
    (∀ session initiator index choice next, session ≠ gatewaySessionID →
      system.performs (.run index choice : Label) = some (.requestStart session initiator) → choice.admitted = true →
      system.shared.closing = false → RebidsLive system (.run index choice) → step cfg system (.run index choice) = some next →
      LiveBid next.shared session initiator) ∧
    ∀ before after session initiator, session ≠ gatewaySessionID →
      system.shared.journal = before ++ .granted session initiator :: after → latest before session = some initiator := by
  have intended := run_intended run
  constructor
  · intro session initiator index choice next external performs admitted running permitted stepped
    rw [RebidsLive,performs] at permitted
    obtain ⟨effect,found,shared⟩ := Machine.performs_step stepped performs
    have ran : perform cfg choice (.requestStart session initiator) system.shared = some effect := found
    rw [shared]
    exact requestStart_live intended permitted external admitted running ran
  · intro before after session initiator external split
    have history : system.shared.desk.history = ((before.filter Trace.isHistory).filter Trace.isIntent) ++
        .granted session initiator :: (after.filter Trace.isHistory).filter Trace.isIntent := by
      show (system.shared.journal.filter Trace.isHistory).filter Trace.isIntent = _
      rw [split]
      simp [Trace.isHistory,Trace.isIntent]
    have wish := intended.granted _ _ session initiator external history
    rw [latest_filter _ _ _ fun _ _ => rfl,latest_filter _ _ _ fun _ _ => rfl] at wish
    exact wish

def firstStart : List Label := [.start .connect,.run 0 {},.start (.sessionStart 1 0x31)]

theorem granted_start_was_latest :
    (∃ system next, Run (step defaultConfig) RebidsLive (initially .requester) firstStart system ∧
      step defaultConfig system (.run 0 {}) = some next ∧ LiveBid next.shared 1 0x31) ∧
    ∃ system before, Run (step defaultConfig) RebidsLive (initially .requester) grantedStart system ∧
      system.shared.journal = before ++ [.granted 1 0x31] ∧ latest before 1 = some 0x31 := by
  constructor
  · have reached : ∃ system, Run (step defaultConfig) RebidsLive (initially .requester) firstStart system ∧
        Machine.performs system (.run 0 {} : Label) = some (.requestStart 1 0x31) ∧ system.shared.closing = false ∧
        RebidsLive system (.run 0 {}) ∧ (step defaultConfig system (.run 0 {})).isSome = true :=
      Run.exists_of_executeWhere _ (by decide +kernel)
    obtain ⟨system,run,performs,running,permitted,enabled⟩ := reached
    obtain ⟨next,stepped⟩ := Option.isSome_iff_exists.mp enabled
    exact ⟨system,next,run,stepped,(latest_start_wins defaultConfig .requester firstStart system run).1 1 0x31 0 {} next
      (by decide) performs rfl running permitted stepped⟩
  · refine Exists.imp (fun system (found : _ ∧ system.shared.journal = system.shared.journal.dropLast ++ [.granted 1 0x31]) =>
      ⟨_,found.1,found.2,?_⟩) (Run.exists_of_executeWhere _ (by decide +kernel))
    exact (latest_start_wins defaultConfig .requester grantedStart system found.1).2 _ [] 1 0x31 (by decide) found.2

def threeStarts : List Label :=
  [.start .connect,.run 0 {},.start (.sessionStart 1 0x31),.run 0 {},.run 0 {},
   .start (.symbol none (some (symbolSyn,false)) false),.run 1 {},.run 1 {},.run 1 {},.run 1 {},.run 1 {},.run 1 {},.run 1 {},
   .start (.sessionStart 1 0x33),.run 1 {},.run 1 {},.start (.sessionStart 1 0x31),.run 2 {},.run 2 {}]

def secondGranted : List Label :=
  .start (.response true 0x31 0) :: List.replicate 8 (.run 3 {}) ++
    .start (.symbol none (some (symbolSyn,false)) false) :: List.replicate 7 (.run 3 {}) ++
    .start (.response true 0x33 1) :: List.replicate 4 (.run 3 {})

/-- A session asks for 0x31, for 0x33 and for 0x31 again, and is granted 0x33. -/
theorem repeated_start_is_lost :
    (∃ system, Run (step defaultConfig) anyStep (initially .requester) threeStarts system ∧ ¬LiveBid system.shared 1 0x31) ∧
    ∃ system, Run (step defaultConfig) anyStep (initially .requester) (threeStarts ++ secondGranted) system ∧
      system.shared.journal.filter Trace.isIntent =
        [.requested 1 0x31,.requested 1 0x33,.requested 1 0x31,.granted 1 0x33] := by
  constructor
  all_goals exact Run.exists_of_execute _ (by decide +kernel)

end EbusGateway.Mux
