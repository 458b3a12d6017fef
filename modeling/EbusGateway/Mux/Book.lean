import EbusGateway.Mux.Frame
import EbusGateway.Mux.Pushes

/-! The START book: queued bids, the selected one, absorbed answers, waiter channels, unanswered requests,
and what the journal says of them.
-/
namespace EbusGateway.Mux
open Library List

def Trace.isHistory : Trace → Bool
  | .requested .. | .applied .. | .granted .. | .cancelled .. => true
  | .decided .. | .reported .. | .observed .. | .delivered .. => false

structure Book where
  pendingGateway : Option StartRequest
  deferredGatewayLoser : Option StartRequest
  pendingExternal : List StartRequest
  pendingStart : Option PendingStart
  pendingStartAbsorb : Nat
  transport : Transport
  upstreamClosed : Bool
  nextWaiter : Nat
  results : Sends
  wedged : Bool
  outstanding : List Nat
  history : List Trace

def Ledger.book (ledger : Ledger) : Book where
  pendingGateway := ledger.pendingGateway
  deferredGatewayLoser := ledger.deferredGatewayLoser
  pendingExternal := ledger.pendingExternal
  pendingStart := ledger.pendingStart
  pendingStartAbsorb := ledger.pendingStartAbsorb
  transport := ledger.transport
  upstreamClosed := ledger.upstreamClosed
  nextWaiter := ledger.nextWaiter
  results := ledger.results
  wedged := ledger.wedged
  outstanding := ledger.outstanding
  history := ledger.journal.filter Trace.isHistory

variable (choice : Choice) (m : State)

def State.book : Book := m.ledger.book

theorem Releases.book {m later : State} (releases : Releases m later) : later.book = m.book :=
  congrArg Ledger.book releases.ledger

theorem log_book (entry : Trace) (quiet : entry.isHistory = false) : (m.log entry).book = m.book := by
  simp [State.book,State.ledger,Ledger.book,State.log,quiet]

theorem history_silent (journal : List Trace) {entries : List Trace} (silent : ∀ entry ∈ entries, entry.isHistory = false) :
    (journal ++ entries).filter Trace.isHistory = journal.filter Trace.isHistory := by
  have none : entries.filter Trace.isHistory = [] := filter_eq_nil_iff.mpr fun entry mem => by simp [silent entry mem]
  rw [filter_append,none,append_nil]

theorem deliverReceived_eq (item : Nat) (m : State) (session : Nat) : m.deliverReceived choice item session =
      {m with journal := m.journal ++ ([session].filter (m.accepts choice)).map (Trace.delivered · item)} := by
  unfold State.deliverReceived State.log
  split <;> simp_all

theorem deliverReceived_foldl (item : Nat) (m : State) (sessions : List Nat) : sessions.foldl (State.deliverReceived choice item) m =
      {m with journal := m.journal ++ (sessions.filter (m.accepts choice)).map (Trace.delivered · item)} := by
  induction sessions generalizing m with
  | nil => simp
  | cons session rest ih =>
    rw [foldl_cons,ih,deliverReceived_eq]
    have same : State.accepts {m with journal := m.journal ++ ([session].filter (m.accepts choice)).map (Trace.delivered · item)} choice =
        m.accepts choice := rfl
    rw [same,append_assoc,← map_append,← filter_append,singleton_append]

theorem send_update (message : Nat × StartResult) :
    ∃ results wedged, m.send message = {m with results := results, wedged := wedged} := by
  unfold State.send
  split
  · exact ⟨_,_,rfl⟩
  · exact ⟨_,_,rfl⟩

theorem trySend_update (message : Nat × StartResult) :
    m.trySend message = m ∨ m.trySend message = {m with results := m.results ++ [message]} := by
  unfold State.trySend
  split
  · exact .inl rfl
  · exact .inr rfl

theorem sendAll_update (sends : Sends) : ∃ results wedged, m.sendAll sends = {m with results := results, wedged := wedged} := by
  unfold State.sendAll
  induction sends generalizing m with
  | nil => exact ⟨_,_,rfl⟩
  | cons message rest ih =>
    obtain ⟨results,wedged,sent⟩ := send_update m message
    rw [foldl_cons,sent]
    exact ih _

def announcement (loser : StartRequest) : List Trace :=
  if loser.sessionID = gatewaySessionID then []
  else .decided (localOutcome choice loser.sessionID) loser.sessionID loser.notify m.items ::
    if m.sessions.contains loser.sessionID && m.accepts choice loser.sessionID then [.reported loser.sessionID loser.notify] else []

theorem announcement_mem {losers : List StartRequest} {entry : Trace} (mem : entry ∈ losers.flatMap (announcement choice m)) :
    (∃ outcome session ch items, entry = .decided outcome session ch items) ∨ ∃ session ch, entry = .reported session ch := by
  obtain ⟨loser,_,inside⟩ := mem_flatMap.mp mem
  unfold announcement at inside
  split at inside
  · cases inside
  split at inside
  · simp only [mem_cons,not_mem_nil,or_false] at inside
    exact inside.imp (fun same => ⟨_,_,_,_,same⟩) fun same => ⟨_,_,same⟩
  · exact .inl ⟨_,_,_,_,mem_singleton.mp inside⟩

theorem announcement_quiet (losers : List StartRequest) :
    ∀ entry ∈ losers.flatMap (announcement choice m), entry.isHistory = false := by
  intro entry mem
  rcases announcement_mem _ _ mem with ⟨_,_,_,_,rfl⟩ | ⟨_,_,rfl⟩ <;> rfl

theorem announceLoser_foldl (source : UInt8) (m : State) (losers : List StartRequest) :
    ∃ results wedged, losers.foldl (announceLoser choice source) m =
      {m with results := results, wedged := wedged, journal := m.journal ++ losers.flatMap (announcement choice m)} := by
  induction losers generalizing m with
  | nil => exact ⟨m.results,m.wedged,by simp⟩
  | cons loser rest ih =>
    have one : ∃ results wedged, announceLoser choice source m loser =
        {m with results := results, wedged := wedged, journal := m.journal ++ announcement choice m loser} := by
      unfold announceLoser announcement
      split
      · exact ⟨m.results,m.wedged,by simp⟩
      dsimp only
      have same : (m.log (.decided (localOutcome choice loser.sessionID) loser.sessionID loser.notify m.items)).accepts choice
          loser.sessionID = m.accepts choice loser.sessionID := rfl
      rw [same]
      split
      all_goals obtain ⟨results,wedged,sent⟩ := send_update _ _
      · rw [sent]
        exact ⟨results,wedged,by simp [State.log]⟩
      · rw [sent]
        exact ⟨results,wedged,rfl⟩
    obtain ⟨results,wedged,equal⟩ := one
    obtain ⟨results',wedged',equal'⟩ := ih (announceLoser choice source m loser)
    refine ⟨results',wedged',?_⟩
    rw [foldl_cons,equal',equal,flatMap_cons,append_assoc]
    rfl

theorem commitGrant_update (cfg : Config) (now : Nat) (m : State) (req : StartRequest) :
    ∃ granted : State, commitGrant cfg now m req = granted.send
      (req.notify,{granted := true, initiator := req.initiator, startedQueued := req.sessionID ≠ gatewaySessionID}) ∧
      granted.book = {m.book with history := m.book.history ++ [.granted req.sessionID req.initiator]} ∧
      granted.arb = m.arb.confirmOwnership req.sessionID req.initiator ∧
      granted.gatewayTxnActive = (m.gatewayTxnActive && decide (req.sessionID ≠ gatewaySessionID)) := by
  refine ⟨_,rfl,?_⟩
  by_cases own : req.sessionID = gatewaySessionID
  · simp [own,State.book,State.ledger,Ledger.book,State.log,Trace.isHistory,recordGatewayGrant,Arbitrator.confirmOwnership]
  · simp [own,State.book,State.ledger,Ledger.book,State.log,Trace.isHistory,Arbitrator.confirmOwnership]

def Act.idle : Act → Bool
  | .releaseSessionGrant .. | .deleteSession .. | .closeSession .. | .awaitResult .. | .reportResult ..
  | .releaseOwnership .. | .undoLocalLosses .. | .resetLocalLoserSources .. | .blockingReturned ..
  | .expectForeignTelegram .. | .deliverResponse .. | .fenceLifecycle | .forceRelease | .enqueueReset
  | .closeSessions | .reconcileArbitrationClassifier .. | .onRawSymbol .. | .onLogicalReceived ..
  | .deliverActive .. | .deliverToSessions .. | .releaseAfterFrame .. | .quietBus | .markOwnerWrite ..
  | .armSend .. | .checkSend | .writeSymbols | .enterWriteCollisionRecovery | .rollbackSend
  | .markActiveFailure .. | .completeCollisionRecovery .. => true
  | _ => false

def Act.plain : Act → Bool
  | .cancelStart .. | .cancelPendingStart .. | .tryGrantAndStart .. => true
  | act => act.idle

variable {act : Act} {effect : Step}

theorem Pushes.plain {m : State} {pushed : Act} (pushes : Pushes m act pushed) (idle : act.idle = true) : pushed.plain = true := by
  cases pushes
  all_goals first | rfl | cases idle

theorem deliverResponse_shared (snapshot : ResponseSnapshot) (bidderFailed : Bool) :
    (deliverResponse m snapshot bidderFailed).shared = m := by
  unfold deliverResponse
  extract_lets _ _ _
  split
  · rfl
  split
  · split
    · rfl
    · split <;> rfl
  · rfl

def Act.item : Act → Option Nat
  | .resetLocalLoserSources _ item | .deliverToSessions _ item | .onRawSymbol _ _ item | .onLogicalReceived _ _ _ _ item => some item
  | .handleArbitrationResponse snapshot _ _ | .deliverResponse snapshot _ => some snapshot.item
  | _ => none

inductive Idles (m : State) : Act → Ledger → Prop
  | keep act received : Idles m act {m.ledger with received := received}
  | leave act sessions closedSessions (fewer : sessions ⊆ m.sessions) (more : m.closedSessions ⊆ closedSessions) :
    Idles m act {m.ledger with sessions := sessions, closedSessions := closedSessions}
  | receive act item (sessions : List Nat) (carries : act.item = some item)
    (taking : ∀ session ∈ sessions, session ∈ m.sessions ∧ session ∉ m.closedSessions) :
    Idles m act {m.ledger with journal := m.journal ++ sessions.map (Trace.delivered · item)}
  | report session waiter result :
    Idles m (.reportResult session waiter result) {m.ledger with journal := m.journal ++ [.reported session waiter]}

namespace Idles
variable {m : State} {act : Act} {later : Ledger}

theorem of_eq (same : later = m.ledger) : Idles m act later := same ▸ .keep act m.received

theorem deliver {choice : Choice} {item : Nat} (carries : act.item = some item) (sessions : List Nat)
    (present : ∀ session ∈ sessions, session ∈ m.sessions) :
    Idles m act (sessions.foldl (State.deliverReceived choice item) m).ledger := by
  rw [deliverReceived_foldl]
  refine .receive act item _ carries fun session mem => ?_
  obtain ⟨inside,accepts⟩ := mem_filter.mp mem
  simp only [State.accepts,Bool.and_eq_true,Bool.not_eq_true',contains_eq_mem,decide_eq_false_iff_not] at accepts
  exact ⟨present session inside,accepts.1⟩

theorem book (idles : Idles m act later) : later.book = m.book := by
  have silent {entries : List Trace} (silent : ∀ entry ∈ entries, entry.isHistory = false) :
      Ledger.book {m.ledger with journal := m.journal ++ entries} = m.book :=
    congrArg (fun history => {m.book with history := history}) (history_silent m.journal silent)
  cases idles with
  | keep | leave => rfl
  | receive item sessions => exact silent (by simp [Trace.isHistory])
  | report => exact silent (by simp [Trace.isHistory])

end Idles

theorem perform_idles {cfg : Config} {choice : Choice} {m : State} (idle : act.idle = true)
    (found : perform cfg choice act m = some effect) : Idles m act effect.shared.ledger := by
  cases act
  case awaitResult session waiter =>
    simp only [perform,awaitResult] at found
    split at found
    · cases found
      exact .of_eq rfl
    split at found
    · obtain ⟨_,_,rfl⟩ := Option.map_eq_some_iff.mp found
      exact .keep _ _
    · cases found
  all_goals cases idle
  all_goals cases found
  case releaseSessionGrant session =>
    refine .of_eq ((releaseOwnership_ledger (if m.arb.isOwner session then m.fenceArbitrationUntilSYN else m) session).trans ?_)
    split <;> rfl
  case deleteSession session =>
    unfold deleteSession
    split
    · exact .leave _ _ m.closedSessions (filter_subset_self _) (List.Subset.refl _)
    · exact .of_eq rfl
  case closeSession session => exact .leave _ m.sessions _ (List.Subset.refl _) (subset_cons_self _ _)
  case reportResult session waiter result =>
    unfold reportResult
    dsimp only
    split
    · exact .report session waiter result
    · exact .of_eq rfl
  case releaseOwnership session => exact .of_eq (releaseOwnership_ledger m session)
  case undoLocalLosses selection =>
    unfold undoLocalLosses
    extract_lets current
    split <;> exact .of_eq rfl
  case resetLocalLoserSources losers item =>
    exact .deliver rfl _ fun session mem => contains_iff_mem.mp (mem_filter.mp mem).2
  case blockingReturned gen =>
    unfold blockingReturned
    dsimp only
    split <;> exact .of_eq rfl
  case expectForeignTelegram winner =>
    unfold expectForeignTelegram
    split <;> exact .of_eq rfl
  case deliverResponse snapshot bidderFailed =>
    rw [deliverResponse_shared]
    exact .of_eq rfl
  case closeSessions => exact .leave _ [] m.closedSessions (nil_subset _) (List.Subset.refl _)
  case reconcileArbitrationClassifier isSYN =>
    unfold reconcileArbitrationClassifier
    extract_lets _ _ reset
    cases reset <;> exact .of_eq rfl
  case onRawSymbol symbol logical item =>
    unfold onRawSymbol
    dsimp only
    split <;> split <;> exact .of_eq rfl
  case onLogicalReceived symbol wasEscaped deliver bids item => exact .of_eq (onLogicalReceived_releases ..).ledger
  case deliverActive symbol wasEscaped whileActive =>
    dsimp only
    unfold deliverActive
    split
    · exact .of_eq rfl
    · exact .of_eq (deliverToActive_releases m symbol wasEscaped).ledger
  case deliverToSessions except item => exact .deliver rfl _ fun session mem => (mem_filter.mp mem).1
  case releaseAfterFrame owner reason => exact .of_eq (releaseAfterFrame_releases m owner reason).ledger
  case quietBus => exact .of_eq (quietBus_releases cfg choice m).ledger
  case markOwnerWrite session =>
    dsimp only
    split <;> exact .of_eq rfl
  case enterWriteCollisionRecovery => exact .of_eq (enterWriteCollisionRecovery_releases cfg m).ledger
  case rollbackSend => exact .of_eq (rollbackSend_releases m).ledger
  case markActiveFailure reason => exact .of_eq (markActiveFailure_releases m reason).ledger
  case completeCollisionRecovery token =>
    dsimp only
    unfold completeCollisionRecovery
    split <;> exact .of_eq rfl
  all_goals exact .of_eq rfl

theorem launch_book {event : Event} {m : State} {name : Name} (launched : launch event m = some (effect,name)) :
    effect.forked = [] ∧ ∃ outstanding, effect.shared.book = {m.book with outstanding := outstanding} := by
  have observed : ∀ later : State, later = m.observe → later.book = m.book := by
    rintro _ rfl
    exact log_book _ _ rfl
  cases event
  all_goals simp only [launch] at launched
  case symbol raw logical dropped =>
    cases launched
    exact ⟨rfl,m.outstanding,observed _ rfl⟩
  case response started data answers =>
    cases launched
    refine ⟨rfl,(m.observe.answer answers).outstanding,?_⟩
    rw [← observed _ rfl]
    rfl
  all_goals try split at launched
  all_goals cases launched
  all_goals exact ⟨rfl,_,rfl⟩

end EbusGateway.Mux
