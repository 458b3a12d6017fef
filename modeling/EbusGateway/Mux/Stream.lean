import EbusGateway.Mux.Posting

/-! The stream of frames seen by itself: the sessions that take frames, the items observed, and what the
journal says of outcomes, control frames and deliveries.
-/
namespace EbusGateway.Mux
open Library List

def Trace.isStream : Trace → Bool
  | .decided .. | .reported .. | .delivered .. => true
  | .requested .. | .applied .. | .granted .. | .observed .. | .cancelled .. => false

structure Stream where
  transport : Transport
  sessions : List Nat
  closedSessions : List Nat
  nextSession : Nat
  items : Nat
  answered : Option (Bool × Nat)
  entries : List Trace

def Ledger.stream (ledger : Ledger) : Stream where
  transport := ledger.transport
  sessions := ledger.sessions
  closedSessions := ledger.closedSessions
  nextSession := ledger.nextSession
  items := ledger.items
  answered := ledger.pendingStart.map fun p => (p.blockingArb,p.answeredAt)
  entries := ledger.journal.filter Trace.isStream

def State.stream (m : State) : Stream := m.ledger.stream

inductive Flow (choice : Choice) (m : State) : Act → Stream → Prop
  | keep act : Flow choice m act m.stream
  | leave act sessions closedSessions (fewer : sessions ⊆ m.sessions) (more : m.closedSessions ⊆ closedSessions) :
    Flow choice m act {m.stream with sessions := sessions, closedSessions := closedSessions}
  | unselect act : Flow choice m act {m.stream with answered := none}
  | select bids (losers : List StartRequest) (queued : ∀ loser ∈ losers,
    loser ∈ m.arb.pendingGateway.toList ++ m.arb.pendingExternal) :
    Flow choice m (.tryGrantAndStart bids)
      {m.stream with
        answered := some (decide (m.transport = .blocking),0)
        entries := m.stream.entries ++ losers.flatMap (announcement choice m)}
  | receive act item (sessions : List Nat) (carries : act.item = some item)
    (taking : ∀ session ∈ sessions, session ∈ m.sessions ∧ session ∉ m.closedSessions) :
    Flow choice m act {m.stream with entries := m.stream.entries ++ sessions.map (Trace.delivered · item)}
  | report session waiter result :
    Flow choice m (.reportResult session waiter result) {m.stream with entries := m.stream.entries ++ [.reported session waiter]}
  | lose snapshot data answers session waiter : Flow choice m (.handleArbitrationResponse snapshot data answers)
      {m.stream with answered := none, entries := m.stream.entries ++ [.decided .lost session waiter m.items]}
  | answer snapshot data answers blocking item (selected : m.stream.answered = some (blocking,item)) :
    Flow choice m (.handleArbitrationResponse snapshot data answers) {m.stream with answered := some (blocking,snapshot.item)}
  | call selection gen session waiter : Flow choice m (.callStartArbitration selection gen)
      {m.stream with entries := m.stream.entries ++ [.decided .called session waiter m.items]}
  | start pending session waiter item (selected : m.stream.answered = some (false,item)) :
    Flow choice m (.completeArbitrationGrant pending)
      {m.stream with
        answered := none
        entries := m.stream.entries ++ [.decided .started session waiter item,.reported session waiter]}
  | grant pending session waiter : Flow choice m (.completeArbitrationGrant pending)
      {m.stream with answered := none, entries := m.stream.entries ++ [.reported session waiter]}

section Functions
variable {cfg : Config} {choice : Choice} {m : State} {effect : Step} {act : Act} {later : Ledger}

theorem Flow.of_eq {later : Stream} (act : Act) (same : later = m.stream) : Flow choice m act later := same ▸ .keep act

theorem post_stream (ledger : Ledger) (entries : List Trace) :
    (ledger.post entries).stream = {ledger.stream with entries := ledger.stream.entries ++ entries.filter Trace.isStream} := by
  simp [Ledger.post,Ledger.stream]

theorem stream_quiet {ledger : Ledger} {entries : List Trace} (quiet : entries.filter Trace.isStream = []) :
    (ledger.post entries).stream = ledger.stream := by
  rw [post_stream,quiet,append_nil]

theorem answered_some {p : PendingStart} (found : m.pendingStart = some p) : m.stream.answered = some (p.blockingArb,p.answeredAt) :=
  congrArg (Option.map fun p : PendingStart => (p.blockingArb,p.answeredAt)) found

theorem announcement_stream (choice : Choice) (m : State) (losers : List StartRequest) :
    (losers.flatMap (announcement choice m)).filter Trace.isStream = losers.flatMap (announcement choice m) := by
  refine filter_eq_self.mpr fun entry mem => ?_
  rcases announcement_mem choice m mem with ⟨_,_,_,_,rfl⟩ | ⟨_,_,rfl⟩ <;> rfl

theorem Posts.flow (posts : Posts choice m act later) : Flow choice m act later.stream := by
  cases posts with
  | keep | absorb | reset | call | close | withdraw => exact .keep _
  | retire | drop | answered | clear | reject => exact .unselect _
  | select bids arb request losers _ _ free passed won =>
    obtain ⟨_,_,lost,_⟩ := Arbitrator.selectBidsAtSYN_cases won
    rw [post_stream,announcement_stream]
    refine .select bids losers fun loser mem => ?_
    rw [lost] at mem
    exact mem_of_mem_filter (mem_of_mem_filter mem)
  | refuse snapshot data answers p absorb entries _ _ _ told =>
    rw [post_stream]
    rcases told with rfl | ⟨session,waiter,rfl⟩
    · exact (append_nil m.stream.entries).symm ▸ .unselect _
    · exact .lose snapshot data answers session waiter
  | answer snapshot data answers p won =>
    rw [stream_quiet rfl]
    exact .answer snapshot data answers p.blockingArb p.answeredAt (answered_some won)
  | started selection gen p won =>
    exact .of_eq _ (congrArg (fun answered => {m.stream with answered := answered}) (answered_some won).symm)
  | returns | again => exact .of_eq _ (stream_quiet rfl)
  | called selection gen session waiter =>
    rw [post_stream]
    exact .call selection gen session waiter
  | request session initiator ch =>
    rw [stream_quiet rfl]
    refine .of_eq _ (congrArg (fun answered => {m.stream with answered := answered}) (markInFlightCancelled_map _ _ _ fun p => ?_))
    unfold markInFlightCancelled
    split <;> rfl
  | grant pending p entries won _ told =>
    rw [post_stream]
    rcases told with rfl | rfl | ⟨inline,rfl⟩
    · exact (append_nil m.stream.entries).symm ▸ .unselect _
    · exact .grant pending _ _
    · exact .start pending _ _ _ (inline ▸ answered_some won)

theorem Idles.flow (idles : Idles m act later) : Flow choice m act later.stream := by
  cases idles with
  | keep => exact .keep _
  | leave _ sessions closedSessions fewer more => exact .leave _ sessions closedSessions fewer more
  | receive _ item sessions carries taking =>
    have loud : (sessions.map (Trace.delivered · item)).filter Trace.isStream = sessions.map (Trace.delivered · item) :=
      filter_eq_self.mpr (by simp [Trace.isStream])
    have posted := post_stream m.ledger (sessions.map (Trace.delivered · item))
    rw [loud] at posted
    exact posted ▸ .receive _ item sessions carries taking
  | report session waiter result => exact (post_stream m.ledger [.reported session waiter]) ▸ .report session waiter result

theorem perform_flow (found : perform cfg choice act m = some effect) : Flow choice m act effect.shared.stream := by
  cases idle : act.idle with
  | true => exact (perform_idles idle found).flow
  | false => exact (perform_posts idle found).flow

theorem launch_stream {event : Event} {name : Name} (began : launch event m = some (effect,name)) : effect.shared.stream = m.stream ∨
    effect.shared.stream = {m.stream with sessions := m.sessions ++ [m.nextSession], nextSession := m.nextSession + 1} ∨
    name = .readLoop ∧ effect.shared.stream = {m.stream with items := m.items + 1} := by
  cases event
  all_goals simp only [launch] at began
  case connect =>
    cases began
    exact .inr (.inl rfl)
  case symbol raw logical dropped =>
    cases began
    exact .inr (.inr ⟨rfl,@stream_quiet {m.ledger with items := m.items + 1} [_] rfl⟩)
  case response started data answers =>
    cases began
    exact .inr (.inr ⟨rfl,@stream_quiet {m.ledger with items := m.items + 1} [_] rfl⟩)
  all_goals try split at began
  all_goals cases began
  all_goals exact .inl rfl

end Functions
end EbusGateway.Mux
