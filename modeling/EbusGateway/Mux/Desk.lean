import EbusGateway.Mux.Posting

/-! The START desk: the queued bids, the selected bid and the history of admitted calls, grants and cancels.
-/
namespace EbusGateway.Mux
open Library List

def Trace.isIntent : Trace → Bool
  | .requested .. | .granted .. | .cancelled .. => true
  | _ => false

structure Desk where
  gateway : Option StartRequest
  queue : List StartRequest
  selected : Option StartRequest
  history : List Trace

def Book.desk (b : Book) : Desk :=
  ⟨b.pendingGateway,b.pendingExternal,b.pendingStart.map (·.request),b.history.filter Trace.isIntent⟩

def State.desk (m : State) : Desk := m.book.desk

def StartRequest.cancelFor (session : Nat) (request : StartRequest) : StartRequest :=
  if request.sessionID = session then {request with cancelled := true} else request

inductive Turn (d : Desk) : Act → Desk → Prop
  | shrink act gateway queue selected (own : gateway = d.gateway ∨ gateway = none) (sub : queue.Sublist d.queue)
    (kept : selected = d.selected ∨ selected = none) : Turn d act ⟨gateway,queue,selected,d.history⟩
  | repeated session initiator request (external : session ≠ gatewaySessionID) (selected : d.selected = some request)
    (same : request.sessionID = session ∧ request.initiator = initiator) :
    Turn d (.requestStart session initiator) {d with history := d.history ++ [.requested session initiator]}
  | queued session initiator ch (external : session ≠ gatewaySessionID)
    (other : ∀ request ∈ d.selected, ¬(request.sessionID = session ∧ request.initiator = initiator)) :
    Turn d (.requestStart session initiator)
      ⟨d.gateway,(Arbitrator.submit {id := ch, sessionID := session, initiator := initiator, notify := ch} d.queue).1,
        d.selected.map (StartRequest.cancelFor session),d.history ++ [.requested session initiator]⟩
  | gateway initiator ch :
    Turn d (.requestStart gatewaySessionID initiator)
      ⟨some {id := ch, sessionID := gatewaySessionID, initiator := initiator, notify := ch},d.queue,
        d.selected.map (StartRequest.cancelFor gatewaySessionID),d.history ++ [.requested gatewaySessionID initiator]⟩
  | selects bids request (free : d.selected = none) (eligible : Arbitrator.eligible bids request = true)
    (bid : request ∈ d.gateway ∨ request ∈ d.queue) :
    Turn d (.tryGrantAndStart bids)
      ⟨d.gateway.filter (!Arbitrator.eligible bids ·),d.queue.filter (!Arbitrator.eligible bids ·),some request,d.history⟩
  | grants pending request (selected : d.selected = some request) (live : request.cancelled = false) :
    Turn d (.completeArbitrationGrant pending)
      {d with selected := none, history := d.history ++ [.granted request.sessionID request.initiator]}
  | returns session : Turn d (.cancelReturn session) {d with history := d.history ++ [.cancelled session]}

section Turns
variable {cfg : Config} {choice : Choice} {m : State} {effect : Step} {later : Desk}

theorem Turn.of_desk_eq {d : Desk} (act : Act) (same : later = d) : Turn d act later := by
  rw [same]
  exact .shrink act d.gateway d.queue d.selected (.inl rfl) (.refl _) (.inl rfl)

theorem Turn.drop {d middle : Desk} (act : Act) (same : middle = d)
    (dropped : later = {middle with selected := none}) : Turn d act later := by
  rw [dropped,same]
  exact .shrink act d.gateway d.queue none (.inl rfl) (.refl _) (.inr rfl)

theorem sendAll_desk (m : State) (sends : Sends) : (m.sendAll sends).desk = m.desk := congrArg (·.book.desk) (sendAll_slip m sends)

theorem post_desk (ledger : Ledger) (entries : List Trace) : (ledger.post entries).book.desk = {ledger.book.desk with
      history := ledger.book.desk.history ++ (entries.filter Trace.isHistory).filter Trace.isIntent} := by
  simp [Ledger.post,Ledger.book,Book.desk]

theorem desk_quiet {ledger : Ledger} {entries : List Trace} (quiet : (entries.filter Trace.isHistory).filter Trace.isIntent = []) :
    (ledger.post entries).book.desk = ledger.book.desk := by
  rw [post_desk,quiet,append_nil]

theorem bid_some {p : PendingStart} (found : m.pendingStart = some p) : m.desk.selected = some p.request :=
  congrArg (Option.map PendingStart.request) found

theorem markInFlightCancelled_request (session : Nat) (due : Option PendingStart) :
    (due.map (markInFlightCancelled session)).map (·.request) = (due.map (·.request)).map (StartRequest.cancelFor session) := by
  cases due with
  | none => rfl
  | some p =>
    simp only [Option.map_some,markInFlightCancelled,StartRequest.cancelFor]
    split <;> rfl

theorem requestStart_history (choice : Choice) (m : State) (session : Nat) (initiator : UInt8) (admitted : choice.admitted = true)
    (running : m.closing = false) : (requestStartForSession choice m session initiator).shared.desk.history =
      m.desk.history ++ [.requested session initiator] := by
  unfold requestStartForSession
  extract_lets ch entered waiting logged retired marked queued
  have releases : Releases logged retired := .ite (retirePreviousGatewayTxn_releases _) (.refl _)
  have posted : retired.desk.history = m.desk.history ++ [.requested session initiator] :=
    congrArg Desk.history ((congrArg (·.book.desk) releases.slip).trans (post_desk m.slip _))
  rw [if_neg (by simp [admitted,entered,running])]
  split
  · exact (congrArg (·.book.desk.history) (send_slip retired _)).trans posted
  dsimp only
  rw [sendAll_desk]
  exact posted

theorem Posts.turn {act : Act} {later : Ledger} (posts : Posts choice m act later) : Turn m.desk act later.book.desk := by
  cases posts with
  | keep | absorb | reset | call | close => exact .of_desk_eq _ rfl
  | retire | drop | answered | clear | reject => exact .drop _ rfl rfl
  | select bids arb request losers _ _ free passed selected =>
    obtain ⟨_,won,_,rfl⟩ := Arbitrator.selectBidsAtSYN_cases selected
    obtain ⟨bid,eligible⟩ := mem_filter.mp won
    rw [desk_quiet (by rw [announcement_silent]; rfl)]
    exact .selects bids request (congrArg (Option.map PendingStart.request) free) eligible
      ((mem_append.mp bid).imp_left Option.mem_toList.mp)
  | refuse snapshot data answers p absorb entries _ _ _ told =>
    rw [desk_quiet (by rcases told with rfl | ⟨_,_,rfl⟩ <;> rfl)]
    exact .drop _ rfl rfl
  | answer snapshot data answers p selected =>
    rw [desk_quiet rfl]
    exact .of_desk_eq _ (congrArg (fun selected => {m.desk with selected := selected}) (bid_some selected).symm)
  | started selection gen p selected =>
    exact .of_desk_eq _ (congrArg (fun selected => {m.desk with selected := selected}) (bid_some selected).symm)
  | returns session =>
    rw [post_desk]
    exact .returns session
  | called => exact .of_desk_eq _ (desk_quiet rfl)
  | withdraw _ gateway queue own sub => exact .shrink _ gateway queue _ own sub (.inl rfl)
  | again session initiator p external selected same =>
    rw [post_desk]
    exact .repeated session initiator p.request external (bid_some selected) same
  | request session initiator ch other =>
    rw [post_desk]
    have marked : (Option.map (markInFlightCancelled session) m.pendingStart).map (·.request) =
        m.desk.selected.map (StartRequest.cancelFor session) := markInFlightCancelled_request session m.pendingStart
    by_cases own : session = gatewaySessionID
    · subst own
      have turn := @Turn.gateway m.desk initiator ch
      rw [← marked] at turn
      exact turn
    · have turn := @Turn.queued m.desk session initiator ch own fun request selected same => by
        obtain ⟨p,found,rfl⟩ := Option.map_eq_some_iff.mp selected
        exact other own p found same
      rw [← marked] at turn
      simp only [Arbitrator.requestStart,if_neg own]
      exact turn
  | grant due p entries selected live told =>
    rw [post_desk]
    have grants := Turn.grants due p.request (bid_some selected) live
    rcases told with rfl | rfl | ⟨_,rfl⟩ <;> exact grants

theorem perform_turn {act : Act} (found : perform cfg choice act m = some effect) : Turn m.desk act effect.shared.desk := by
  cases idle : act.idle with
  | true => exact .of_desk_eq _ (congrArg Book.desk (perform_idles idle found).book)
  | false => exact (perform_posts idle found).turn

theorem launch_desk {event : Event} {name : Name} (launched : launch event m = some (effect,name)) : effect.shared.desk = m.desk := by
  obtain ⟨_,outstanding,book⟩ := launch_book launched
  rw [State.desk,book]
  rfl

end Turns

structure Tidy (d : Desk) : Prop where
  own : ∀ request ∈ d.gateway, request.sessionID = gatewaySessionID
  external : ∀ request ∈ d.queue, request.sessionID ≠ gatewaySessionID
  distinct : (d.queue.map (·.sessionID)).Nodup

namespace Tidy
variable {d later : Desk}

theorem sublist {gateway : Option StartRequest} {queue : List StartRequest} {selected : Option StartRequest} {history : List Trace}
    (tidy : Tidy d) (own : ∀ req ∈ gateway, req ∈ d.gateway) (sub : queue.Sublist d.queue) :
    Tidy ⟨gateway,queue,selected,history⟩ where
  own req mem := tidy.own req (own req mem)
  external req mem := tidy.external req (sub.subset mem)
  distinct := (sub.map _).nodup tidy.distinct

theorem turn {act : Act} (tidy : Tidy d) (turn : Turn d act later) : Tidy later := by
  cases turn with
  | shrink _ gateway queue selected own sub kept =>
    refine tidy.sublist ?_ sub
    intro req mem
    rcases own with rfl | rfl
    · exact mem
    · cases mem
  | repeated | grants | returns => exact tidy.sublist (fun _ => id) (.refl _)
  | queued session initiator ch external other =>
    refine ⟨tidy.own,?_,?_⟩
    · intro bid mem
      rcases Arbitrator.submit_mem mem with rfl | ⟨old,present,same,_⟩
      · exact external
      · rw [same]
        exact tidy.external old present
    · rcases Arbitrator.submit_sessions {id := ch, sessionID := session, initiator := initiator, notify := ch} d.queue with
        same | ⟨absent,added⟩
      · rw [same]
        exact tidy.distinct
      · rw [added]
        exact List.Nodup.append tidy.distinct (nodup_singleton _) (disjoint_singleton.mpr absent)
  | gateway initiator ch =>
    refine ⟨?_,tidy.external,tidy.distinct⟩
    rintro req ⟨⟩
    rfl
  | selects bids req free eligible bid =>
    exact tidy.sublist (fun _ mem => (Option.filter_eq_some_iff.mp mem).1) filter_sublist

end Tidy
end EbusGateway.Mux
