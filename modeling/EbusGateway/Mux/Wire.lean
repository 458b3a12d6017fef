import EbusGateway.Mux.Lifecycle

/-! The wire side: what readLoop does with every symbol, the release decisions at a SYN and at the
ownership limit, and the gateway's own writes through sendLoop.
-/
namespace EbusGateway.Mux
open Library

namespace State

variable (m : State)

def sendActive (event : ActiveEvent) : State × Bool :=
  match m.activeCh.send event with
  | some activeCh => ({m with activeCh := activeCh},true)
  | none => (m,false)

def deliverToActive (symbol : UInt8) (wasEscaped : Bool) : State :=
  match m.sendActive (.byte symbol wasEscaped) with
  | (m,true) => {m with activeTxn := {m.activeTxn with bytesDeliveredToActive := m.activeTxn.bytesDeliveredToActive + 1}}
  | (m,false) => m

def gatewayOwned : Bool := m.arb.isOwner gatewaySessionID

def releaseOwner (owner : Nat) (reason : InactiveReason) : State :=
  let m := {m with arb := m.arb.releaseOwnership owner}
  if owner = gatewaySessionID then endGatewayTxn m reason else m

end State

variable (cfg : Config) (m : State)

def ownershipDurationLimit (owner : Nat) : Nat :=
  if owner = gatewaySessionID ∧ cfg.gatewayMaxOwnershipDuration < cfg.maxOwnershipDuration then
    cfg.gatewayMaxOwnershipDuration else cfg.maxOwnershipDuration

def ownershipExpired (now : Nat) (m : State) (owner : Nat) : Bool :=
  m.busOwned.any fun since => ownershipDurationLimit cfg owner < now - since

def expireOwnership (owner : Nat) : State :=
  let m := {m with arb := m.arb.releaseOwnership owner, gatewayEcho := m.gatewayEcho.reset}
  if owner = gatewaySessionID && m.gatewayTxnActive then
    ({m with gatewayTxnActive := false}.recordGatewayInactive .maxOwnership).discardStaleActiveBytes
  else m

def midWriteSyn : Bool :=
  m.gatewayEcho.peekNextExpectedWithFlags.any fun (expected,structural) => expected ≠ symbolSyn || !structural

def betweenWritesSyn : Bool :=
  m.gatewayEcho.queueJustDrained && m.gatewayEcho.peekNextExpected.isNone

def payOwedResync : State :=
  if 0 < m.collisionResyncOwed && !m.gatewayTxnActive then
    match m.sendActive (.byte symbolSyn false) with
    | (m,true) => {m with collisionResyncOwed := m.collisionResyncOwed - 1}
    | (m,false) => m
  else m

def terminateGatewayTxn : State :=
  {m.deliverToActive symbolSyn false with gatewayTxnActive := false}.recordGatewayInactive .synTerminator

def idleRelease (now : Nat) (m : State) (owner : Nat) : Bool :=
  if owner = gatewaySessionID then
    !m.busOwned.any (fun since => now - since ≤ cfg.idleReleaseGrace) || m.arb.hasExternalPending
  else cfg.externalSessionSYNGrace ≤ now - m.lastWireActivity

def onSYN (now : Nat) (m : State) (phaseEvent : WirePhaseEvent) (owner : Nat) (hasOwner : Bool) :
    State × Bool :=
  let m := payOwedResync {m with
    deferRegrantUntilNextSyn := false
    arbitrationRecovery := if m.arbitrationRecovery = .reset then .reset else .none}
  let wasGatewayOwned := hasOwner && owner = gatewaySessionID
  let midWrite := midWriteSyn m
  let betweenWrites := betweenWritesSyn m
  let midFrame := wasGatewayOwned && m.gatewayTxnActive && (midWrite || betweenWrites)
  let m := if midFrame then m else {m with gatewayEcho := m.gatewayEcho.flushOnSYN}
  let m := if wasGatewayOwned && m.gatewayTxnActive && 0 < m.activeTxn.bytesDeliveredToActive && !midFrame then
    terminateGatewayTxn m else m
  let finished := phaseEvent = .transactionDone && hasOwner
  let m := if finished then m.releaseOwner owner .transactionDone else m
  let hasOwner := hasOwner && !finished
  let m := if phaseEvent = .synTimeout && hasOwner &&
      (owner = gatewaySessionID || cfg.externalSessionSYNGrace ≤ now - m.lastWireActivity) then
    m.releaseOwner owner .synTimeout else m
  let withinGrace := m.busOwned.any fun since => now - since ≤ cfg.idleReleaseGrace
  let suppressIdle := wasGatewayOwned && m.gatewayTxnActive && 0 < m.activeTxn.bytesDeliveredToActive &&
    (midWrite || (betweenWrites && withinGrace))
  let m := if phaseEvent = .synIdle && hasOwner && !suppressIdle && idleRelease cfg now m owner then
      let m := if owner = gatewaySessionID && m.gatewayTxnActive then
        {m with gatewayEcho := m.gatewayEcho.clearQueueJustDrained} else m
      m.releaseOwner owner .synIdle
    else m
  let firstEcho := hasOwner && owner = gatewaySessionID && m.gatewayTxnActive && m.activeTxn.bytesDeliveredToActive = 0
  (m,firstEcho || midFrame)

def advanceWire (now : Nat) (m : State) (symbol : UInt8) (wasEscaped : Bool) :
    State × WirePhaseEvent × Nat × Bool :=
  let hasOwner := m.arb.hasOwner
  let owner := if hasOwner then m.arb.currentOwner else 0
  let isWireSyn := symbol = symbolSyn && !wasEscaped
  let m := if isWireSyn then {m with localLosers := []} else {m with lastWireActivity := now}
  let (phase,event) := if hasOwner && owner = gatewaySessionID then
      if isWireSyn then (m.phase.reset .idle,.synIdle) else (m.phase,.none)
    else m.phase.advanceWithProvenance cfg.isInitiatorCapableAddress symbol isWireSyn
  let m := {m with phase := phase}
  if hasOwner && ownershipExpired cfg now m owner then (expireOwnership m owner,event,owner,false)
  else (m,event,owner,hasOwner)

def releaseOnForeignInitiator (symbol : UInt8) (expected : Option UInt8) : State × Bool × Bool :=
  if !cfg.isMasterAddress symbol then (m,false,false)
  else if m.gatewayTxnActive && expected.any (· ≠ symbol) && m.gatewayEcho.totalSuppressed = 0 &&
      m.gatewayEcho.totalWritten = 1 && !m.activeTxn.firstByteSuspectArbLoss then
    (State.releaseGatewayOnArbitrationLoss cfg
      {m with activeTxn := {m.activeTxn with firstByteSuspectArbLoss := true}},true,true)
  else if !m.gatewayTxnActive && m.activeTxn.inactiveReas.isSome then
    ({m.releaseGatewayOwnership with deferRegrantUntilNextSyn := true},true,false)
  else (m,false,false)

def receiveGatewayByte (symbol : UInt8) (wasEscaped gatewayOwned : Bool) : State × Bool × Bool :=
  let expected := m.gatewayEcho.peekNextExpected
  if gatewayOwned then
    releaseOnForeignInitiator cfg (if expected.all (· = symbol) then
      {m with gatewayEcho := (m.gatewayEcho.matchEcho symbol wasEscaped).1} else m) symbol expected
  else (m,false,false)

def receiveSYN (now : Nat) (m : State) (event : WirePhaseEvent) (owner : Nat) (hasOwner deliver : Bool)
    (bids : Option Bids) (item : Nat) : Step :=
  let handled := onSYN cfg now m event owner hasOwner
  let m := handled.1
  let bids := if m.arb.hasPending && bids.isNone then some m.arb.snapshotBids else bids
  {shared := m
   code := (if m.gatewayTxnActive && !handled.2 then [.deliverActive symbolSyn false true] else []) ++
    (if deliver then [.deliverToSessions [] item] else []) ++
    (if m.arb.hasPending then [.tryGrantAndStart bids] else [])}

def receiveByte (symbol : UInt8) (wasEscaped : Bool) (event : WirePhaseEvent) (owner : Nat)
    (hasOwner deliver : Bool) (item : Nat) : Step :=
  let expected := m.gatewayEcho.peekNextExpected
  let received := receiveGatewayByte cfg m symbol wasEscaped (hasOwner && owner = gatewaySessionID)
  let m := received.1
  let advanced := if received.2.1 then m.phase.advanceWithProvenance cfg.isInitiatorCapableAddress symbol false
    else (m.phase,event)
  {shared := {m with phase := advanced.1}
   code := (if received.2.2 then [.deliverActive symbol wasEscaped false] else []) ++
    (if m.gatewayTxnActive && expected.all (· = symbol) then [.deliverActive symbol wasEscaped true] else []) ++
    (if deliver then [.deliverToSessions [] item] else []) ++
    match advanced.2 with
    | .transactionDone => [.releaseAfterFrame owner .transactionDone]
    | .cmdNACK => [.releaseAfterFrame owner .cmdNACK]
    | _ => []}

def onLogicalReceived (choice : Choice) (m : State) (symbol : UInt8) (wasEscaped deliver : Bool)
    (bids : Option Bids) (item : Nat) : Step :=
  let wire := advanceWire cfg choice.now m symbol wasEscaped
  if symbol = symbolSyn && !wasEscaped then
    receiveSYN cfg choice.now wire.1 wire.2.1 wire.2.2.1 wire.2.2.2 deliver bids item
  else receiveByte cfg wire.1 symbol wasEscaped wire.2.1 wire.2.2.1 wire.2.2.2 deliver item

def releaseAfterFrame (owner : Nat) (reason : InactiveReason) : State :=
  if m.arb.isOwner owner then m.releaseOwner owner reason else m

def onRawSymbol (choice : Choice) (m : State) (symbol : UInt8) (logical : Option (UInt8 × Bool)) (item : Nat) : Step :=
  let bids := if symbol = symbolSyn && logical = some (symbolSyn,false) then some m.arb.snapshotBids else none
  let m := if symbol = symbolSyn then {m with localLosers := []} else m
  let m := if logical.isNone && symbol ≠ symbolSyn then {m with lastWireActivity := choice.now} else m
  {shared := m
   code := .deliverToSessions [] item :: logical.toList.map fun (byte,wasEscaped) =>
      .onLogicalReceived byte wasEscaped false bids item}

def reconcileArbitrationClassifier (choice : Choice) (m : State) (isSYN : Bool) : State :=
  let recovery := if m.arbitrationRecovery = .atSYN && isSYN && m.phase.telegramLive then .foreign
    else m.arbitrationRecovery
  let foreign := recovery = .foreign || recovery = .foreignAfterAA
  let reset := if foreign then isSYN && (recovery = .foreignAfterAA || choice.classifierAborted)
    else recovery = .reset || (recovery = .atSYN && isSYN)
  let recovery := if foreign then (if isSYN then .foreignAfterAA else .foreign) else recovery
  if reset then {m with phase := m.phase.reset .idle, arbitrationRecovery := .none}
  else {m with arbitrationRecovery := recovery}

def deliverToSessions (choice : Choice) (m : State) (except : List Nat) (item : Nat) : State :=
  (m.sessions.filter (!except.contains ·)).foldl (State.deliverReceived choice item) m

def deliverActive (symbol : UInt8) (wasEscaped whileActive : Bool) : State :=
  if whileActive && !m.gatewayTxnActive then m else m.deliverToActive symbol wasEscaped

def quietBus (choice : Choice) (m : State) : State :=
  if m.arb.hasOwner && ownershipExpired cfg choice.now m m.arb.currentOwner then expireOwnership m m.arb.currentOwner else m

def armSend (data : UInt8) (structural : Bool) : State :=
  {m.discardStaleActiveBytes with
    gatewayTxnActive := true, gatewayEcho := m.gatewayEcho.recordSentStructural data structural}

def checkSend (choice : Choice) (m : State) : Step :=
  {shared := m, code := if choice.admitted && m.gatewayOwned then [.writeSymbols] else [.rollbackSend]}

def writeSymbols (choice : Choice) (m : State) : Step :=
  {shared := m
   code := if choice.collision then [.enterWriteCollisionRecovery]
    else if choice.failure.isSome then [.rollbackSend] else []}

def rollbackSend : State :=
  {m with gatewayEcho := m.gatewayEcho.rollbackSent}.releaseGatewayAfterFailure .activeWriteError

def enterWriteCollisionRecovery : State :=
  if m.gatewayTxnActive && !m.activeTxn.firstByteSuspectArbLoss then
    State.releaseGatewayOnArbitrationLoss cfg {m with activeTxn := {m.activeTxn with firstByteSuspectArbLoss := true}}
  else m

def markActiveFailure (reason : InactiveReason) : State :=
  let m := m.releaseGatewayAfterFailure reason
  if reason = .contextCancel then {m with collisionResyncOwed := 0} else m

def completeCollisionRecovery (token : Nat) : State :=
  if token ≠ 0 ∧ token = m.activeTxn.id ∧ m.activeTxn.firstByteSuspectArbLoss then {m with collisionResyncOwed := 0} else m

end EbusGateway.Mux
