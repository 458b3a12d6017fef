import EbusGateway.Mux.Book

/-! What is posted in the ledger. Leaving the waiters' channels out, the actions that write in the book do
so in one of the ways of `Posts`, and the idle ones in one of those of `Idles`.
-/
namespace EbusGateway.Mux
open Library List

def Ledger.slip (ledger : Ledger) : Ledger :=
  {ledger with deferredGatewayLoser := none, closing := false, nextWaiter := 0, results := [], received := [], wedged := false}

def Ledger.post (ledger : Ledger) (entries : List Trace) : Ledger := {ledger with journal := ledger.journal ++ entries}

def State.slip (m : State) : Ledger := m.ledger.slip

def Act.blocking : Act → Bool
  | .startBlocking .. | .abortClosing .. | .abortUnsupported .. | .callStartArbitration .. | .blockingFailed ..
  | .blockingStarted .. => true
  | _ => false

def Act.consuming : Act → Bool
  | .failRequestStart .. | .handleArbitrationResponse .. => true
  | act => act.blocking

inductive Posts (choice : Choice) (m : State) : Act → Ledger → Prop
  | keep act : Posts choice m act m.slip
  | absorb act (consuming : act.consuming = true) : Posts choice m act {m.slip with pendingStartAbsorb := m.pendingStartAbsorb - 1}
  | retire act p (selected : m.pendingStart = some p) :
    Posts choice m act {m.slip with pendingStart := none, pendingStartAbsorb := m.pendingStartAbsorb + 1}
  | drop act (consuming : act.consuming = true) : Posts choice m act {m.slip with pendingStart := none}
  | answered session p (selected : m.pendingStart = some p) (received : p.responseReceived = true) :
    Posts choice m (.cancelPendingStart session) {m.slip with pendingStart := none}
  | clear act (clearing : act = .resetState ∨ act = .reconnectState ∨ act = .closeState) :
    Posts choice m act {m.slip with pendingStart := none, pendingStartAbsorb := 0}
  | reset (positive : 0 < m.pendingStartAbsorb) : Posts choice m .fireAbsorbReset {m.slip with pendingStartAbsorb := 0}
  | select bids arb request losers lifecycleEpoch gatewayLoser (free : m.pendingStart = none) (passed : m.pendingStartAbsorb = 0)
    (selected : m.arb.selectBidsAtSYN true bids = (arb,some (request,losers))) :
    Posts choice m (.tryGrantAndStart bids) (Ledger.post {m.slip with
      pendingGateway := arb.pendingGateway, pendingExternal := arb.pendingExternal
      pendingStart := some
        {lifecycleEpoch := lifecycleEpoch, request := request, blockingArb := m.transport = .blocking, gatewayLoser := gatewayLoser}}
      (losers.flatMap (announcement choice m)))
  | call selection (running : m.upstreamClosed = false) :
    Posts choice m (.callRequestStart selection) {m.slip with outstanding := m.outstanding ++ [selection.request.id]}
  | refuse snapshot data answers p absorb entries (selected : m.pendingStart = some p) (passed : m.pendingStartAbsorb = 0)
    (arms : absorb ≤ 1) (told : entries = [] ∨ ∃ session waiter, entries = [.decided .lost session waiter m.items]) :
    Posts choice m (.handleArbitrationResponse snapshot data answers)
      (Ledger.post {m.slip with pendingStart := none, pendingStartAbsorb := absorb} (.applied answers p.request.id :: entries))
  | answer snapshot data answers p (selected : m.pendingStart = some p) (passed : m.pendingStartAbsorb = 0) :
    Posts choice m (.handleArbitrationResponse snapshot data answers)
      (Ledger.post {m.slip with pendingStart := some {p with responseReceived := true, answeredAt := snapshot.item}}
        [.applied answers p.request.id])
  | started selection gen p (selected : m.pendingStart = some p) :
    Posts choice m (.blockingStarted selection gen) {m.slip with pendingStart := some {p with responseReceived := true}}
  | close : Posts choice m .closeUpstream {m.slip with upstreamClosed := true, outstanding := []}
  | returns session : Posts choice m (.cancelReturn session) (m.slip.post [.cancelled session])
  | called selection gen session waiter :
    Posts choice m (.callStartArbitration selection gen) (m.slip.post [.decided .called session waiter m.items])
  | withdraw act gateway queue (own : gateway = m.arb.pendingGateway ∨ gateway = none) (sub : queue.Sublist m.arb.pendingExternal) :
    Posts choice m act {m.slip with pendingGateway := gateway, pendingExternal := queue}
  | again session initiator p (external : session ≠ gatewaySessionID) (selected : m.pendingStart = some p)
    (same : p.request.sessionID = session ∧ p.request.initiator = initiator) :
    Posts choice m (.requestStart session initiator) (m.slip.post [.requested session initiator])
  | request session initiator ch (other : session ≠ gatewaySessionID →
      ∀ p ∈ m.pendingStart, ¬(p.request.sessionID = session ∧ p.request.initiator = initiator)) :
    Posts choice m (.requestStart session initiator) (Ledger.post {m.slip with
      pendingGateway := (m.arb.requestStart session initiator ch).1.pendingGateway
      pendingExternal := (m.arb.requestStart session initiator ch).1.pendingExternal
      pendingStart := m.pendingStart.map (markInFlightCancelled session)} [.requested session initiator])
  | reject pending : Posts choice m (.completeArbitrationGrant pending) {m.slip with pendingStart := none}
  | grant pending p entries (selected : m.pendingStart = some p) (live : p.request.cancelled = false)
    (told : entries = [] ∨ entries = [.reported p.request.sessionID p.request.notify] ∨ p.blockingArb = false ∧
      entries = [.decided .started p.request.sessionID p.request.notify p.answeredAt,
        .reported p.request.sessionID p.request.notify]) :
    Posts choice m (.completeArbitrationGrant pending)
      (Ledger.post {m.slip with pendingStart := none} (entries ++ [.granted p.request.sessionID p.request.initiator]))

section
variable {cfg : Config} {choice : Choice} {m : State} {effect : Step} {act : Act} {later : State}

theorem post_post (ledger : Ledger) (first second : List Trace) :
    (ledger.post first).post second = ledger.post (first ++ second) := by
  simp [Ledger.post]

theorem announcement_silent (choice : Choice) (m : State) (losers : List StartRequest) :
    (losers.flatMap (announcement choice m)).filter Trace.isHistory = [] :=
  filter_eq_nil_iff.mpr fun entry mem => by simp [announcement_quiet choice m losers entry mem]

theorem markInFlightCancelled_map {Seen : Type} (session : Nat) (due : Option PendingStart) (f : PendingStart → Seen)
    (same : ∀ p, f (markInFlightCancelled session p) = f p) : (due.map (markInFlightCancelled session)).map f = due.map f := by
  cases due with
  | none => rfl
  | some p => exact congrArg some (same p)

theorem Posts.of_eq {later : Ledger} (act : Act) (same : later = m.slip) : Posts choice m act later := same ▸ .keep act

theorem Posts.after {middle : State} (same : middle.slip = m.slip) (f : Ledger → Ledger) (posts : Posts choice m act (f m.slip)) :
    Posts choice m act (f middle.slip) := same ▸ posts

theorem Releases.slip (releases : Releases m later) : later.slip = m.slip := congrArg Ledger.slip releases.ledger

theorem sendAll_slip (m : State) (sends : Sends) : (m.sendAll sends).slip = m.slip := by
  obtain ⟨results,wedged,sent⟩ := sendAll_update m sends
  rw [sent]
  rfl

theorem send_slip (m : State) (message : Nat × StartResult) : (m.send message).slip = m.slip := sendAll_slip m [message]

theorem trySend_slip (m : State) (message : Nat × StartResult) : (m.trySend message).slip = m.slip := by
  rcases trySend_update m message with same | sent
  · rw [same]
  · rw [sent]
    rfl

theorem takeDeferredGatewayLoser_slip (m : State) (loser : Option StartRequest) :
    State.slip {m with arb := (m.arb.takeDeferredGatewayLoser loser).1} = m.slip := by
  unfold Arbitrator.takeDeferredGatewayLoser
  split
  · split <;> rfl
  · rfl

theorem cancelStart_queue (a : Arbitrator) (session : Nat) : (a.cancelStart session).1.pendingExternal.Sublist a.pendingExternal ∧
      ((a.cancelStart session).1.pendingGateway = a.pendingGateway ∨ (a.cancelStart session).1.pendingGateway = none) := by
  unfold Arbitrator.cancelStart
  split
  · split
    · exact ⟨.refl _,.inr rfl⟩
    · exact ⟨.refl _,.inl rfl⟩
    · exact ⟨.refl _,.inl rfl⟩
  · split
    · rename_i taken
      exact ⟨Arbitrator.takeSession_sublist taken,.inl rfl⟩
    · exact ⟨.refl _,.inl rfl⟩

theorem requestStart_posts (choice : Choice) (m : State) (session : Nat) (initiator : UInt8) :
    Posts choice m (.requestStart session initiator) (requestStartForSession choice m session initiator).shared.slip := by
  unfold requestStartForSession
  extract_lets ch entered waiting logged retired marked queued
  have releases : Releases logged retired := .ite (retirePreviousGatewayTxn_releases _) (.refl _)
  have toRetired : retired.slip = m.slip.post [.requested session initiator] := releases.slip
  have due : retired.pendingStart = m.pendingStart := congrArg Ledger.pendingStart toRetired
  split
  · exact .of_eq _ (send_slip entered _)
  split
  · rename_i duplicate
    obtain ⟨outer,any⟩ := duplicate
    obtain ⟨p,won,same⟩ := (Option.any_eq_true _ _).mp any
    rw [send_slip,toRetired]
    exact .again session initiator p outer (due ▸ won) (of_decide_eq_true same)
  rename_i fresh
  dsimp only
  rw [sendAll_slip]
  have bids : queued.1.pendingGateway = (m.arb.requestStart session initiator ch).1.pendingGateway ∧
      queued.1.pendingExternal = (m.arb.requestStart session initiator ch).1.pendingExternal := by
    have gateway : retired.arb.pendingGateway = m.arb.pendingGateway := congrArg Ledger.pendingGateway toRetired
    have outer : retired.arb.pendingExternal = m.arb.pendingExternal := congrArg Ledger.pendingExternal toRetired
    simp only [queued,marked,Arbitrator.requestStart,gateway,outer]
    split <;> exact ⟨by simp,by simp⟩
  have posted : State.slip {marked with arb := queued.1} = {m.slip.post [.requested session initiator] with
      pendingGateway := (m.arb.requestStart session initiator ch).1.pendingGateway
      pendingExternal := (m.arb.requestStart session initiator ch).1.pendingExternal
      pendingStart := m.pendingStart.map (markInFlightCancelled session)} := by
    rw [← toRetired,← bids.1,← bids.2,← due]
    rfl
  rw [posted]
  refine .request session initiator ch fun outer p won same => fresh ⟨outer,?_⟩
  exact (Option.any_eq_true _ _).mpr ⟨p,due ▸ won,decide_eq_true same⟩

theorem tryGrantAndStart_posts (choice : Choice) (m : State) (bids : Option Bids) :
    (tryGrantAndStart choice m bids).acts = [] ∧ (tryGrantAndStart choice m bids).shared.slip = m.slip ∨
    ∃ arb request losers lifecycleEpoch gatewayLoser,
      (tryGrantAndStart choice m bids).acts = startTransport m.transport ⟨request,losers⟩ ∧ m.pendingStart = none ∧
      m.pendingStartAbsorb = 0 ∧ m.arb.selectBidsAtSYN true bids = (arb,some (request,losers)) ∧
      (tryGrantAndStart choice m bids).shared.slip = Ledger.post {m.slip with
        pendingGateway := arb.pendingGateway, pendingExternal := arb.pendingExternal
        pendingStart := some
          {lifecycleEpoch := lifecycleEpoch, request := request,
            blockingArb := m.transport = .blocking, gatewayLoser := gatewayLoser}}
        (losers.flatMap (announcement choice m)) := by
  unfold tryGrantAndStart
  split
  · exact .inl ⟨rfl,rfl⟩
  split
  · exact .inl ⟨rfl,rfl⟩
  rename_i arb request losers won
  obtain ⟨results,wedged,announced⟩ := announceLoser_foldl choice request.initiator {m with arb := arb} losers
  have free : m.pendingStart = none := by simp_all
  have passed : m.pendingStartAbsorb = 0 := by simp_all
  dsimp only
  rw [announced]
  exact .inr ⟨arb,request,losers,_,_,append_nil _,free,passed,won,rfl⟩

theorem commitGrant_slip (cfg : Config) (now : Nat) (m : State) (req : StartRequest) :
    (commitGrant cfg now m req).slip = m.slip.post [.granted req.sessionID req.initiator] := by
  unfold commitGrant
  extract_lets outer phased recorded confirmed
  rw [send_slip]
  dsimp only [confirmed,recorded]
  split <;> rfl

theorem completeArbitrationGrant_posts (cfg : Config) (choice : Choice) (m : State) (due : PendingStart) :
    Posts choice m (.completeArbitrationGrant due) (completeArbitrationGrant cfg choice m due).shared.slip := by
  unfold completeArbitrationGrant
  split
  · exact .keep _
  split
  · exact .keep _
  rename_i p found
  have selected := (Option.filter_eq_some_iff.mp found).1
  extract_lets taken session decided
  have reject : Posts choice m (.completeArbitrationGrant due) (rejectGrant taken p.request).slip := by
    unfold rejectGrant
    rw [trySend_slip]
    exact .reject due
  split
  · exact reject
  rename_i live
  have grant := @Posts.grant choice m due p
  have live : p.request.cancelled = false := by simpa using live
  split
  · rw [commitGrant_slip]
    exact grant [] selected live (.inl rfl)
  split
  · rw [commitGrant_slip]
    dsimp only [decided]
    split
    · exact (post_post taken.slip _ _) ▸ grant _ selected live (.inr (.inl rfl))
    · rename_i inline
      have told := grant _ selected live (.inr (.inr ⟨by simpa using inline,rfl⟩))
      exact (post_post (taken.slip.post _) _ _) ▸ (post_post taken.slip _ _) ▸ told
  · exact reject

theorem handleArbitrationResponse_posts (cfg : Config) (choice : Choice) (m : State) (snap : ResponseSnapshot) (data : UInt8)
    (answers : Nat) : Posts choice m (.handleArbitrationResponse snap data answers)
      (handleArbitrationResponse cfg choice m snap data answers).shared.slip := by
  unfold handleArbitrationResponse
  extract_lets cleared after
  split
  · exact .absorb _ rfl
  rename_i passed
  split
  · dsimp only
    split <;> exact .keep _
  rename_i p won
  have passed : m.pendingStartAbsorb = 0 := Nat.eq_zero_of_not_pos passed
  extract_lets req logged retired _ armed
  have refuse (absorb : Nat) (entries : List Trace) (arms : absorb ≤ 1) :=
    @Posts.refuse choice m snap data answers p absorb entries won passed arms
  have silent (absorb : Nat) (arms : absorb ≤ 1) := refuse absorb [] arms (.inl rfl)
  have told (later : State) (absorb : Nat) (arms : absorb ≤ 1)
      (same : later.slip = Ledger.post {m.slip with pendingStart := none, pendingStartAbsorb := absorb} [.applied answers req.id]) :
      Posts choice m (.handleArbitrationResponse snap data answers) (decideExternal later req).slip := by
    unfold decideExternal
    split
    · rw [same]
      exact silent absorb arms
    have items : later.items = m.items := congrArg Ledger.items same
    have posted : (later.log (.decided .lost req.sessionID req.notify later.items)).slip =
        later.slip.post [.decided .lost req.sessionID req.notify m.items] := items ▸ rfl
    rw [posted,same,post_post]
    exact refuse absorb _ arms (.inr ⟨req.sessionID,req.notify,rfl⟩)
  have none : m.pendingStartAbsorb ≤ 1 := passed ▸ Nat.zero_le 1
  have one : m.pendingStartAbsorb + 1 ≤ 1 := passed ▸ Nat.le_refl 1
  split
  · split
    · split
      · exact silent _ one
      · exact told armed _ one rfl
    · split
      · exact silent _ none
      · exact .answer snap data answers p won passed
  · split
    · exact silent _ none
    · exact told retired _ none rfl

theorem clearStart_posts (err : StartError) (same : later.slip = m.slip)
    (clearing : act = .resetState ∨ act = .reconnectState ∨ act = .closeState) :
    Posts choice m act (clearStart err later).shared.slip :=
  .after same ({· with pendingStart := none, pendingStartAbsorb := 0}) (.clear act clearing)

/-- Every action that writes in the book posts in one of the listed ways. -/
theorem perform_posts (idle : act.idle = false) (found : perform cfg choice act m = some effect) :
    Posts choice m act effect.shared.slip := by
  cases act
  all_goals cases idle
  all_goals cases found
  case requestStart session initiator => exact requestStart_posts choice m session initiator
  case cancelStart session =>
    unfold cancelStart
    dsimp only
    rw [sendAll_slip]
    exact .withdraw _ _ _ (cancelStart_queue m.arb session).2 (cancelStart_queue m.arb session).1
  case cancelPendingStart session =>
    unfold cancelPendingStart
    split
    · rename_i p won
      split
      · dsimp only
        split
        · rename_i received
          exact .answered session p won received
        · exact .retire _ p won
      · exact .keep _
    · exact .keep _
  case cancelReturn session => exact .returns session
  case expireGatewayAdmission waiter =>
    unfold expireGatewayAdmission
    dsimp only
    split
    · rw [send_slip]
      exact .withdraw _ none _ (.inr rfl) (.refl _)
    · exact .of_eq _ (send_slip _ _)
    · exact .keep _
  case deadline =>
    unfold deadline
    split
    · rename_i p won
      split
      · exact .keep _
      · exact .retire _ p won
    · exact .keep _
  case takeGatewayLoser loser => exact .of_eq _ (takeDeferredGatewayLoser_slip m loser)
  case fireAbsorbReset =>
    unfold fireAbsorbReset
    split
    · exact .keep _
    · rename_i fires
      exact .reset (Nat.pos_of_ne_zero (by simp_all))
  case tryGrantAndStart bids =>
    rcases tryGrantAndStart_posts choice m bids with ⟨_,same⟩ | ⟨arb,req,losers,epoch,loser,_,free,passed,won,same⟩
    · exact .of_eq _ same
    · rw [same]
      exact .select bids arb req losers epoch loser free passed won
  case callRequestStart selection =>
    unfold callRequestStart
    split
    · rename_i accepted
      refine .call selection ?_
      cases closed : m.upstreamClosed with
      | false => rfl
      | true => simp [closed] at accepted
    · exact .keep _
  case settleLocalLosses selection err => exact .of_eq _ (takeDeferredGatewayLoser_slip m _)
  case startBlocking | abortClosing | abortUnsupported | failRequestStart =>
    try simp only [startBlocking,abortClosing,abortUnsupported,failRequestStart]
    repeat' split
    all_goals first
      | exact .keep _
      | exact .drop _ rfl
      | exact .absorb _ rfl
  case callStartArbitration selection gen =>
    unfold callStartArbitration
    split
    · exact .keep _
    dsimp only
    split
    · exact .called selection gen selection.request.sessionID selection.request.notify
    · exact .keep _
  case blockingFailed selection gen err =>
    unfold blockingFailed
    extract_lets current cleared
    have same : cleared.slip = m.slip := by
      dsimp only [cleared]
      split <;> rfl
    split
    · exact .after same ({· with pendingStart := none}) (.drop _ rfl)
    dsimp only
    split
    · exact .after same (fun ledger => {ledger with pendingStartAbsorb := ledger.pendingStartAbsorb - 1}) (.absorb _ rfl)
    · exact .of_eq _ same
  case blockingStarted selection gen =>
    unfold blockingStarted
    extract_lets current
    split
    · rename_i p won
      exact .started selection gen p (Option.filter_eq_some_iff.mp won).1
    dsimp only
    split
    · exact .absorb _ rfl
    · exact .keep _
  case completeArbitrationGrant due => exact completeArbitrationGrant_posts cfg choice m due
  case snapshotResponse started data answers => exact .keep _
  case handleArbitrationResponse snap data answers => exact handleArbitrationResponse_posts cfg choice m snap data answers
  case notify guarded waiter result =>
    dsimp only
    split
    · exact .of_eq _ (trySend_slip m _)
    · exact .of_eq _ (send_slip m _)
  case resetState => exact clearStart_posts .adapterReset (endGatewayTxn_releases _ .reset).slip (.inl rfl)
  case reconnectState => exact clearStart_posts .adapterDisconnected (endGatewayTxn_releases _ .reconnect).slip (.inr (.inl rfl))
  case closeUpstream => exact .close
  case closeState => exact clearStart_posts .closed (endGatewayTxn_releases m .contextCancel).slip (.inr (.inr rfl))
  case failAllPending err =>
    unfold failAllPending
    dsimp only
    rw [sendAll_slip]
    exact .withdraw _ none [] (.inr rfl) (nil_sublist _)

end
end EbusGateway.Mux
