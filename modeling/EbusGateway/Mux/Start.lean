import EbusGateway.Mux.State

/-! The START path: admission of bids, selection at a SYN, the transport call with its three kinds of
upstream, the adapter's answer, the grant, and every way in which a bid is withdrawn or fails.
-/
namespace EbusGateway.Mux
open Library

namespace State

variable (m : State)

def buffered (waiter : Nat) : Bool :=
  m.received.count waiter < (m.results.filter (·.1 == waiter)).length

def send (message : Nat × StartResult) : State :=
  if m.buffered message.1 then {m with wedged := true} else {m with results := m.results ++ [message]}

def trySend (message : Nat × StartResult) : State :=
  if m.buffered message.1 then m else {m with results := m.results ++ [message]}

def sendAll (sends : Sends) : State := sends.foldl send m

def log (entry : Trace) : State := {m with journal := m.journal ++ [entry]}

def accepts (choice : Choice) (session : Nat) : Bool :=
  !m.closedSessions.contains session && !choice.full.contains session

def deliverReceived (choice : Choice) (item : Nat) (m : State) (session : Nat) : State :=
  if m.accepts choice session then m.log (.delivered session item) else m

def fenceArbitrationUntilSYN : State :=
  {m with
    retiredSelection := true
    deferRegrantUntilNextSyn := true
    arbitrationRecovery := if m.arbitrationRecovery = .none then .atSYN else m.arbitrationRecovery}

def armPendingStartAbsorb (cfg : Config) (now : Nat) (m : State) : State :=
  {m with
    pendingStartAbsorb := m.pendingStartAbsorb + 1
    pendingAbsorbResetDueAt := some (now + if cfg.startDeadline = 0 then 2000000000 else cfg.startDeadline)}

def pendingIs (waiter : Nat) : Bool := m.pendingStart.any (·.request.notify = waiter)

def recordGatewayInactive (reason : InactiveReason) : State :=
  {m with activeTxn := {m.activeTxn with inactiveReas := m.activeTxn.inactiveReas.or (some reason)}}

def discardStaleActiveBytes : State :=
  {m with activeCh := ⟨m.activeCh.buffer.filter (· = .adapterReset),(List.length_filter_le _ _).trans m.activeCh.bounded⟩}

def releaseGatewayOwnership : State :=
  if m.arb.isOwner gatewaySessionID then
    {m with arb := m.arb.releaseOwnership gatewaySessionID, gatewayEcho := m.gatewayEcho.reset}
  else m

def releaseGatewayAfterFailure (reason : InactiveReason) : State :=
  if m.gatewayTxnActive then
    ({m with gatewayTxnActive := false}.recordGatewayInactive reason).releaseGatewayOwnership.discardStaleActiveBytes
  else m

def releaseGatewayOnArbitrationLoss (cfg : Config) (m : State) : State :=
  if m.gatewayTxnActive then
    {m.releaseGatewayAfterFailure .arbitrationCollision with
      collisionResyncOwed := cfg.collisionRetryResyncSYNCount, deferRegrantUntilNextSyn := true}
  else m

def retirePreviousGatewayTxn : State :=
  let m := if m.gatewayTxnActive || (m.arb.isOwner gatewaySessionID && m.activeTxn.inactiveReas.isNone) then
      ({m with gatewayTxnActive := false}.recordGatewayInactive .abandonedOnRebid).releaseGatewayOwnership
    else m
  {m with collisionResyncOwed := 0}.discardStaleActiveBytes

end State

def markInFlightCancelled (session : Nat) (p : PendingStart) : PendingStart :=
  if p.request.sessionID = session then {p with request := {p.request with cancelled := true}} else p

def requestStartForSession (choice : Choice) (m : State) (session : Nat) (initiator : UInt8) : Step :=
  let ch := m.nextWaiter
  let m := {m with nextWaiter := ch + 1}
  let waiting : List (Thread Name Act) := [⟨.task,[.awaitResult session ch]⟩]
  if !choice.admitted || m.closing then
    {shared := m.send (ch,{initiator := initiator, err := some .notConnected}), forked := waiting}
  else
    let m := m.log (.requested session initiator)
    let m := if session = gatewaySessionID then m.retirePreviousGatewayTxn else m
    if session ≠ gatewaySessionID ∧
        m.pendingStart.any (fun p => p.request.sessionID = session ∧ p.request.initiator = initiator) then
      {shared := m.send (ch,{cancelled := true, initiator := initiator}), forked := waiting}
    else
      let m := {m with pendingStart := m.pendingStart.map (markInFlightCancelled session)}
      let queued := m.arb.requestStart session initiator ch
      {shared := {m with arb := queued.1}.sendAll queued.2, forked := waiting}

def cancelStart (m : State) (session : Nat) : Step :=
  let withdrawn := m.arb.cancelStart session
  {shared := {m with arb := withdrawn.1}.sendAll withdrawn.2}

variable (m : State) (selection : Selection)

def releaseSessionGrant (session : Nat) : Step :=
  let m := if m.arb.isOwner session then m.fenceArbitrationUntilSYN else m
  {shared := {m with arb := m.arb.releaseOwnership session}}

def cancelPendingStart (cfg : Config) (choice : Choice) (m : State) (session : Nat) : Step :=
  match m.pendingStart with
  | some p =>
    if p.request.sessionID = session then
      let m := {m with pendingStart := none}.fenceArbitrationUntilSYN
      let m := if p.responseReceived then m else m.armPendingStartAbsorb cfg choice.now
      {shared := m, code := [.notify true p.request.notify {cancelled := true, initiator := p.request.initiator}]}
    else {shared := m}
  | none => {shared := m}

def awaitResult (choice : Choice) (m : State) (session waiter : Nat) : Option Step :=
  if m.closedSessions.contains session && !choice.admitted then some {shared := m}
  else if m.buffered waiter then
    (m.results.find? (·.1 == waiter)).map fun message =>
      {shared := {m with received := waiter :: m.received}, code := [.reportResult session waiter message.2]}
  else none

def reportResult (choice : Choice) (m : State) (session waiter : Nat) (result : StartResult) : Step :=
  let silent := session = gatewaySessionID || result.cancelled || (result.granted && result.startedQueued) ||
    (!result.granted && (result.failedQueued || result.err.any isResetOrDisconnectError))
  {shared := if !silent && m.accepts choice session then m.log (.reported session waiter) else m}

def expireGatewayAdmission (waiter : Nat) : Step :=
  let expired := fun (request : StartRequest) =>
    (request.notify,({initiator := request.initiator, err := some .admissionTimeout} : StartResult))
  match m.arb.pendingGateway.filter (·.notify = waiter),m.arb.deferredGatewayLoser.filter (·.notify = waiter) with
  | some request,_ => {shared := {m with arb := {m.arb with pendingGateway := none}}.send (expired request)}
  | none,some request => {shared := {m with arb := {m.arb with deferredGatewayLoser := none}}.send (expired request)}
  | none,none => {shared := m}

def deadline (cfg : Config) (choice : Choice) (m : State) : Step :=
  match m.pendingStart with
  | some p =>
    if p.responseReceived then {shared := m}
    else
      let m := {m with pendingStart := none}.fenceArbitrationUntilSYN.armPendingStartAbsorb cfg choice.now
      let result : StartResult := if p.request.cancelled then
          {cancelled := true, initiator := p.request.initiator, err := some .deadlineSuperseded}
        else {initiator := p.request.initiator, err := some .deadlineExpired}
      {shared := m, code := [.takeGatewayLoser p.gatewayLoser,.notify true p.request.notify result]}
  | none => {shared := m}

def takeGatewayLoser (loser : Option StartRequest) : Step :=
  let taken := m.arb.takeDeferredGatewayLoser loser
  {shared := {m with arb := taken.1}
   code := if taken.2 then loser.toList.map fun request =>
      .notify false request.notify {initiator := request.initiator, err := some .deadlineTimeout} else []}

def fireAbsorbReset (choice : Choice) (m : State) : Step :=
  if m.pendingStartAbsorb = 0 || m.pendingAbsorbResetDueAt.any (choice.now < ·) then {shared := m}
  else {shared := {m with pendingStartAbsorb := 0, pendingAbsorbResetDueAt := none}}

def localOutcome (choice : Choice) (session : Nat) : Outcome :=
  if choice.full.contains session then .overflowed else .lostLocally

def announceLoser (choice : Choice) (source : UInt8) (m : State) (loser : StartRequest) : State :=
  if loser.sessionID = gatewaySessionID then m
  else
    let queued := m.sessions.contains loser.sessionID
    let m := m.log (.decided (localOutcome choice loser.sessionID) loser.sessionID loser.notify m.items)
    let m := if queued && m.accepts choice loser.sessionID then m.log (.reported loser.sessionID loser.notify) else m
    m.send (loser.notify,{initiator := source, failedQueued := queued})

def startTransport (transport : Transport) (selection : Selection) : List Act :=
  match transport with
  | .requester => [.callRequestStart selection]
  | .blocking => [.startBlocking selection]
  | .unsupported => [.undoLocalLosses selection,.settleLocalLosses selection (some .unsupported),.abortUnsupported selection]

def tryGrantAndStart (choice : Choice) (m : State) (bids : Option Bids) : Step :=
  if !choice.admitted || m.pendingStart.isSome || 0 < m.pendingStartAbsorb || m.blockingArbActive ||
      m.deferRegrantUntilNextSyn then {shared := m}
  else match m.arb.selectBidsAtSYN true bids with
    | (_,none) => {shared := m}
    | (arb,some (request,losers)) =>
      let selection : Selection := ⟨request,losers⟩
      let m := losers.foldl (announceLoser choice request.initiator) {m with arb := arb}
      {shared := {m with
          retiredSelection := false
          localLosers := losers
          localLoserSource := request.initiator
          pendingStart := some
            {lifecycleEpoch := m.arb.lifecycleEpoch, request := request, blockingArb := m.transport = .blocking
             gatewayLoser := selection.gatewayLoser}}
       code := startTransport m.transport selection}

def callRequestStart (choice : Choice) (m : State) (selection : Selection) : Step :=
  match if m.upstreamClosed then some (choice.failure.getD .closed) else choice.failure with
  | none =>
    {shared := {m with outstanding := m.outstanding ++ [selection.request.id]}, code := [.settleLocalLosses selection none]}
  | some err =>
    {shared := m
     code := [.undoLocalLosses selection,.settleLocalLosses selection (some err),.failRequestStart selection err]}

def undoLocalLosses : Step :=
  let current : Bool := match selection.losers,m.localLosers with
    | first :: _,other :: _ => first.id == other.id
    | _,_ => false
  if current then
    {shared := {m with localLosers := []}, code := [.resetLocalLoserSources selection.losers m.items]}
  else {shared := m}

def resetLocalLoserSources (choice : Choice) (m : State) (losers : List StartRequest) (item : Nat) : Step :=
  {shared := ((losers.map (·.sessionID)).filter m.sessions.contains).foldl (State.deliverReceived choice item) m}

def localLossResult (err : Option StartError) (loser : StartRequest) : StartResult :=
  match err with
  | some failure => {initiator := loser.initiator, err := some failure}
  | none => {initiator := selection.request.initiator}

def settleLocalLosses (cfg : Config) (m : State) (selection : Selection) (err : Option StartError) : Step :=
  let taken := m.arb.takeDeferredGatewayLoser selection.gatewayLoser
  {shared := {m with
      arb := taken.1
      collisionResyncOwed := if taken.2 && err.isNone then cfg.collisionRetryResyncSYNCount else m.collisionResyncOwed}
   code := if taken.2 then selection.gatewayLoser.toList.map fun loser =>
     .notify false loser.notify (localLossResult selection err loser)
    else []}

def transportFailure (p : PendingStart) (err : StartError) : StartResult :=
  {cancelled := p.request.cancelled && !isResetOrDisconnectError err, initiator := p.request.initiator, err := some err}

def failRequestStart (err : StartError) : Step :=
  match m.pendingStart.filter (·.request.notify = selection.request.notify) with
  | some p =>
    {shared := {m with pendingStart := none}, code := [.notify false p.request.notify (transportFailure p err)]}
  | none =>
    let m := {m with pendingStartAbsorb := m.pendingStartAbsorb - 1}
    {shared := if m.pendingStartAbsorb = 0 then
        {m with
          retiredSelection := false
          deferRegrantUntilNextSyn := false
          arbitrationRecovery := if m.arbitrationRecovery = .atSYN then .none else m.arbitrationRecovery}
      else m}

def startBlocking : Step :=
  if m.closing then
    {shared := m
     code := [.undoLocalLosses selection,.settleLocalLosses selection (some .closed),.abortClosing selection]}
  else
    {shared := {m with blockingArbGen := m.blockingArbGen + 1, blockingArbActive := true}
     forked := [⟨.task,[.callStartArbitration selection (m.blockingArbGen + 1)]⟩]}

def abortClosing : Step :=
  {shared := if m.pendingIs selection.request.notify then {m with pendingStart := none} else m
   code := [.notify true selection.request.notify {initiator := selection.request.initiator, err := some .closed}]}

def abortUnsupported : Step :=
  {shared := if m.pendingIs selection.request.notify then {m with pendingStart := none}.fenceArbitrationUntilSYN else m
   code := [.notify false selection.request.notify {initiator := selection.request.initiator, err := some .unsupported}]}

def callStartArbitration (choice : Choice) (m : State) (selection : Selection) (gen : Nat) : Step :=
  match if choice.admitted then choice.failure else some .notConnected with
  | some err =>
    {shared := m
     code := [.undoLocalLosses selection,.settleLocalLosses selection (some err),.blockingFailed selection gen err]}
  | none =>
    let live := m.pendingStart.any fun p => p.request.notify = selection.request.notify && !p.request.cancelled
    let external := selection.request.sessionID ≠ gatewaySessionID
    {shared := if live && external then m.log (.decided .called selection.request.sessionID selection.request.notify m.items) else m
     code := [.settleLocalLosses selection none,.blockingStarted selection gen]}

def blockingFailed (gen : Nat) (err : StartError) : Step :=
  let current := m.blockingArbGen = gen
  let m := if current then {m with blockingArbActive := false} else m
  match m.pendingStart.filter (·.request.notify = selection.request.notify) with
  | some p =>
    {shared := {m with pendingStart := none}, code := [.notify false p.request.notify (transportFailure p err)]}
  | none => {shared := if current then {m with pendingStartAbsorb := m.pendingStartAbsorb - 1} else m}

def blockingStarted (gen : Nat) : Step :=
  let current := m.blockingArbGen = gen
  match m.pendingStart.filter (·.request.notify = selection.request.notify) with
  | some p =>
    {shared := {m with pendingStart := some {p with responseReceived := true}}
     code := [.completeArbitrationGrant p,.blockingReturned gen]}
  | none =>
    {shared := if current then
        {{m with blockingArbActive := false}.fenceArbitrationUntilSYN with pendingStartAbsorb := m.pendingStartAbsorb - 1}
      else m}

def blockingReturned (gen : Nat) : Step :=
  {shared := if m.blockingArbGen = gen then {m with blockingArbActive := false} else m}

def rejectGrant (request : StartRequest) : State :=
  m.fenceArbitrationUntilSYN.trySend (request.notify,{cancelled := true, initiator := request.initiator})

def recordGatewayGrant : State :=
  {m with activeTxn := {id := m.activeTxn.id + 1}, collisionResyncOwed := 0}

def commitGrant (cfg : Config) (now : Nat) (m : State) (request : StartRequest) : State :=
  let external := request.sessionID ≠ gatewaySessionID
  let m := {m with
    phase := if cfg.arbitrationSendsSource then m.phase.startRequestWithSource request.initiator else m.phase.startRequest
    busOwned := some now
    lastWireActivity := now}
  let m := if external then m else
    recordGatewayGrant {m with
      activeCh := .empty, gatewayEcho := m.gatewayEcho.markRequestStart, gatewayTxnActive := false}
  let m := {m with arb := m.arb.confirmOwnership request.sessionID request.initiator}
  (m.log (.granted request.sessionID request.initiator)).send
    (request.notify,{granted := true, initiator := request.initiator, startedQueued := external})

def completeArbitrationGrant (cfg : Config) (choice : Choice) (m : State) (pending : PendingStart) : Step :=
  if pending.lifecycleEpoch ≠ m.arb.lifecycleEpoch then {shared := m}
  else match m.pendingStart.filter (·.request.notify = pending.request.notify) with
    | none => {shared := m.fenceArbitrationUntilSYN}
    | some p =>
      let m := {m with pendingStart := none}
      let session := p.request.sessionID
      if p.request.cancelled then {shared := rejectGrant m p.request}
      else if session = gatewaySessionID then {shared := commitGrant cfg choice.now m p.request}
      else if m.sessions.contains session && m.accepts choice session then
        let m := if p.blockingArb then m else m.log (.decided .started session p.request.notify p.answeredAt)
        {shared := commitGrant cfg choice.now (m.log (.reported session p.request.notify)) p.request}
      else {shared := rejectGrant m p.request}

def snapshotResponse (cfg : Config) (choice : Choice) (m : State) (started : Bool) (data : UInt8) (answers : Nat) : Step :=
  let bidder := if m.pendingStartAbsorb = 0 then
      m.pendingStart.map fun p => (p.request.sessionID,p.request.initiator) else none
  let phantom := !started && !cfg.isKnownInitiatorByte data
  let snapshot : ResponseSnapshot :=
    {started := started, data := data, phantom := phantom, bidder := bidder, losers := m.localLosers
     selectedSource := m.localLoserSource, retiredSelection := m.retiredSelection
     epoch := m.arb.lifecycleEpoch, item := m.items}
  let notifyByte := if phantom then (bidder.map (·.2)).getD data else data
  {shared := {m with lastWireActivity := choice.now}, code := [.handleArbitrationResponse snapshot notifyByte answers]}

def decideExternal (request : StartRequest) : State :=
  if request.sessionID = gatewaySessionID then m else m.log (.decided .lost request.sessionID request.notify m.items)

def handleArbitrationResponse (cfg : Config) (choice : Choice) (m : State) (snapshot : ResponseSnapshot)
    (data : UInt8) (answers : Nat) : Step :=
  let m := {m with localLosers := []}
  let after := fun bidderFailed => [Act.expectForeignTelegram snapshot.data,.deliverResponse snapshot bidderFailed]
  if 0 < m.pendingStartAbsorb then
    {shared := {m.fenceArbitrationUntilSYN with pendingStartAbsorb := m.pendingStartAbsorb - 1}, code := after false}
  else match m.pendingStart with
    | none => {shared := if m.retiredSelection then m.fenceArbitrationUntilSYN else m, code := after false}
    | some p =>
      let request := p.request
      let m := m.log (.applied answers request.id)
      let retired := {m with pendingStart := none}.fenceArbitrationUntilSYN
      if snapshot.started then
        if data ≠ request.initiator then
          let armed := {retired.armPendingStartAbsorb cfg choice.now with lastWireActivity := choice.now}
          if request.cancelled then
            {shared := armed
             code := .notify true request.notify
                {cancelled := true, initiator := request.initiator, err := some .mismatchSuperseded} :: after false}
          else
            {shared := decideExternal armed request
             code := .notify false request.notify
                {initiator := data, err := some (.startedMismatch data request.initiator)} :: after true}
        else if request.cancelled then
          {shared := retired
           code := .notify true request.notify
              {cancelled := true, initiator := request.initiator, err := some .superseded} :: after false}
        else
          {shared := {m with pendingStart := some {p with responseReceived := true, answeredAt := snapshot.item}}
           code := .completeArbitrationGrant p :: after false}
      else if request.cancelled then
        {shared := retired
         code := .notify true request.notify
            {cancelled := true, initiator := request.initiator, err := some .failedSuperseded} :: after false}
      else
        {shared := decideExternal retired request
         code := .notify false request.notify {initiator := data, err := some (.arbitrationLost data)} :: after true}

def expectForeignTelegram (cfg : Config) (m : State) (winner : UInt8) : Step :=
  if cfg.enforcesClassifier && cfg.isKnownInitiatorByte winner && m.arbitrationRecovery = .atSYN &&
      winner ≠ m.localLoserSource then {shared := {m with arbitrationRecovery := .foreign}}
  else {shared := m}

def deliverResponse (snapshot : ResponseSnapshot) (bidderFailed : Bool) : Step :=
  let resets := Act.resetLocalLoserSources snapshot.losers snapshot.item
  let toAll := Act.deliverToSessions [] snapshot.item
  let toAllBut := fun session => Act.deliverToSessions [session] snapshot.item
  if snapshot.epoch ≠ m.arb.lifecycleEpoch then {shared := m}
  else if snapshot.started then
    match snapshot.bidder with
    | none =>
      {shared := m
       code := if snapshot.retiredSelection && snapshot.data ≠ snapshot.selectedSource then [resets,toAll] else []}
    | some (session,initiator) =>
      if snapshot.data = initiator then
        {shared := m, code := [.deliverToSessions (session :: snapshot.losers.map (·.sessionID)) snapshot.item]}
      else
        {shared := m
         code := [resets,if session = gatewaySessionID || !bidderFailed then toAll else toAllBut session]}
  else
    let session := (snapshot.bidder.map (·.1)).getD gatewaySessionID
    {shared := m
     code := resets :: if snapshot.phantom then [] else
        [if !bidderFailed || session = gatewaySessionID then toAll else toAllBut session]}

end EbusGateway.Mux
