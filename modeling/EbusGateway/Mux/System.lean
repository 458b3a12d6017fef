import EbusGateway.Mux.Wire
import EbusGateway.Library.Transition

/-! The multiplexer as a system of goroutines: what clients, the adapter, the gateway and the timers can
set off. readLoop, sendLoop and the reader of each session handle one thing at a time.
-/
namespace EbusGateway.Mux
open Library

/-- What the environment sets off. A `response` says which request it answers, which the code cannot
see; `resetted` says whether the adapter still answers requests from before the RESETTED. -/
inductive Event
  | connect
  | sessionStart (session : Nat) (initiator : UInt8)
  | sessionCancel (session : Nat)
  | sessionSend (session : Nat)
  | removeSession (session : Nat)
  | abandonTimer (session : Nat)
  | gatewayStart (initiator : UInt8)
  | gatewayCancel
  | gatewayWrite (data : UInt8) (structural : Bool)
  | activeFailure (reason : InactiveReason)
  | collisionRecovered (token : Nat)
  | admissionTimer (waiter : Nat)
  | deadlineTimer
  | absorbTimer
  | symbol (raw : Option UInt8) (logical : Option (UInt8 × Bool)) (dropped : Bool)
  | response (started : Bool) (data : UInt8) (answers : Nat)
  | resetted (answersLater : Bool)
  | disconnected
  | quiet
  | close

namespace State

def observe (m : State) : State := {m with items := m.items + 1}.log (.observed (m.items + 1))

def answer (m : State) (answers : Nat) : State :=
  {m with outstanding := if m.outstanding.contains answers then (m.outstanding.dropWhile (· ≠ answers)).tail else m.outstanding}

def known (m : State) (session : Nat) : Bool := 0 < session && session < m.nextSession

end State

def isSYN (logical : Option (UInt8 × Bool)) : Bool := logical = some (symbolSyn,false)

def symbolCode (raw : Option UInt8) (logical : Option (UInt8 × Bool)) (dropped : Bool) (item : Nat) : List Act :=
  .reconcileArbitrationClassifier (isSYN logical) :: if dropped then [] else
    match raw,logical with
    | some symbol,_ => [.onRawSymbol symbol logical item]
    | none,some (symbol,wasEscaped) => [.onLogicalReceived symbol wasEscaped true none item]
    | none,none => []

def handleReset : List Act :=
  [.fenceLifecycle,.resetState,.forceRelease,.failAllPending .adapterReset,.enqueueReset]

def reconnect : List Act :=
  [.fenceLifecycle,.reconnectState,.failAllPending .adapterDisconnected,.enqueueReset]

def closeCode : List Act :=
  [.closeUpstream,.fenceLifecycle,.closeState,.forceRelease,.failAllPending .closed,.closeSessions]

def cancelCode (session : Nat) : List Act :=
  [.cancelStart session,.releaseSessionGrant session,.cancelPendingStart session,.cancelReturn session]

def launch (event : Event) (m : State) : Option (Step × Name) :=
  match event with
  | .connect => some ({shared := {m with sessions := m.sessions ++ [m.nextSession], nextSession := m.nextSession + 1}},.task)
  | .sessionStart session initiator =>
    if m.known session then some ({shared := m, code := [.requestStart session initiator]},.session session) else none
  | .sessionCancel session =>
    if m.known session then some ({shared := m, code := cancelCode session},.session session) else none
  | .sessionSend session =>
    if m.known session then some ({shared := m, code := [.markOwnerWrite session]},.session session) else none
  | .removeSession session => if m.known session then some ({shared := m, code := [.deleteSession session]},.task) else none
  | .abandonTimer session => if m.known session then some ({shared := m, code := [.releaseOwnership session]},.task) else none
  | .gatewayStart initiator => some ({shared := m, code := [.requestStart gatewaySessionID initiator]},.task)
  | .gatewayCancel => some ({shared := m, code := [.cancelStart gatewaySessionID]},.task)
  | .gatewayWrite data structural => some ({shared := m, code := [.armSend data structural]},.sendLoop)
  | .activeFailure reason => some ({shared := m, code := [.markActiveFailure reason]},.task)
  | .collisionRecovered token => some ({shared := m, code := [.completeCollisionRecovery token]},.task)
  | .admissionTimer waiter => some ({shared := m, code := [.expireGatewayAdmission waiter]},.task)
  | .deadlineTimer => some ({shared := m, code := [.deadline]},.task)
  | .absorbTimer => some ({shared := m, code := [.fireAbsorbReset]},.task)
  | .symbol raw logical dropped =>
    some ({shared := m.observe, code := symbolCode raw logical dropped (m.items + 1)},.readLoop)
  | .response started data answers =>
    some ({shared := m.observe.answer answers
           code := [.reconcileArbitrationClassifier false,.snapshotResponse started data answers]},.readLoop)
  | .resetted answersLater =>
    some ({shared := {m with outstanding := if answersLater then m.outstanding else []}, code := handleReset},.readLoop)
  | .disconnected => some ({shared := {m with outstanding := []}, code := reconnect},.readLoop)
  | .quiet => some ({shared := m, code := [.quietBus]},.readLoop)
  | .close => if m.closing then none else some ({shared := {m with closing := true}, code := closeCode},.task)

def done (m : State) : Option Step := some {shared := m}

def perform (cfg : Config) (choice : Choice) (act : Act) (m : State) : Option Step :=
  match act with
  | .requestStart session initiator => some (requestStartForSession choice m session initiator)
  | .cancelStart session => some (cancelStart m session)
  | .releaseSessionGrant session => some (releaseSessionGrant m session)
  | .cancelPendingStart session => some (cancelPendingStart cfg choice m session)
  | .cancelReturn session => done (m.log (.cancelled session))
  | .deleteSession session => some (deleteSession m session)
  | .closeSession session => done {m with closedSessions := session :: m.closedSessions}
  | .awaitResult session waiter => awaitResult choice m session waiter
  | .reportResult session waiter result => some (reportResult choice m session waiter result)
  | .expireGatewayAdmission waiter => some (expireGatewayAdmission m waiter)
  | .deadline => some (deadline cfg choice m)
  | .takeGatewayLoser loser => some (takeGatewayLoser m loser)
  | .fireAbsorbReset => some (fireAbsorbReset choice m)
  | .releaseOwnership session => done {m with arb := m.arb.releaseOwnership session}
  | .tryGrantAndStart bids => some (tryGrantAndStart choice m bids)
  | .callRequestStart selection => some (callRequestStart choice m selection)
  | .undoLocalLosses selection => some (undoLocalLosses m selection)
  | .resetLocalLoserSources losers item => some (resetLocalLoserSources choice m losers item)
  | .settleLocalLosses selection err => some (settleLocalLosses cfg m selection err)
  | .failRequestStart selection err => some (failRequestStart m selection err)
  | .startBlocking selection => some (startBlocking m selection)
  | .abortClosing selection => some (abortClosing m selection)
  | .abortUnsupported selection => some (abortUnsupported m selection)
  | .callStartArbitration selection gen => some (callStartArbitration choice m selection gen)
  | .blockingFailed selection gen err => some (blockingFailed m selection gen err)
  | .blockingStarted selection gen => some (blockingStarted m selection gen)
  | .blockingReturned gen => some (blockingReturned m gen)
  | .completeArbitrationGrant pending => some (completeArbitrationGrant cfg choice m pending)
  | .snapshotResponse started data answers => some (snapshotResponse cfg choice m started data answers)
  | .handleArbitrationResponse snapshot data answers => some (handleArbitrationResponse cfg choice m snapshot data answers)
  | .expectForeignTelegram winner => some (expectForeignTelegram cfg m winner)
  | .deliverResponse snapshot bidderFailed => some (deliverResponse m snapshot bidderFailed)
  | .notify guarded waiter result => done (if guarded then m.trySend (waiter,result) else m.send (waiter,result))
  | .fenceLifecycle => done {m with arb := m.arb.fenceLifecycle}
  | .resetState => some (resetState m)
  | .reconnectState => some (reconnectState m)
  | .closeUpstream => done {m with upstreamClosed := true, outstanding := []}
  | .closeState => some (closeState m)
  | .forceRelease => done {m with arb := m.arb.forceRelease}
  | .failAllPending err => some (failAllPending m err)
  | .enqueueReset => done (enqueueReset m)
  | .closeSessions => some (closeSessions m)
  | .reconcileArbitrationClassifier isSYN => done (reconcileArbitrationClassifier choice m isSYN)
  | .onRawSymbol symbol logical item => some (onRawSymbol choice m symbol logical item)
  | .onLogicalReceived symbol wasEscaped deliver bids item =>
    some (onLogicalReceived cfg choice m symbol wasEscaped deliver bids item)
  | .deliverActive symbol wasEscaped whileActive => done (deliverActive m symbol wasEscaped whileActive)
  | .deliverToSessions except item => done (deliverToSessions choice m except item)
  | .releaseAfterFrame owner reason => done (releaseAfterFrame m owner reason)
  | .quietBus => done (quietBus cfg choice m)
  | .markOwnerWrite session => done (if m.arb.isOwner session then {m with phase := m.phase.markOwnerWrite} else m)
  | .armSend data structural => some {shared := armSend m data structural, code := [.checkSend]}
  | .checkSend => some (checkSend choice m)
  | .writeSymbols => some (writeSymbols choice m)
  | .enterWriteCollisionRecovery => done (enterWriteCollisionRecovery cfg m)
  | .rollbackSend => done (rollbackSend m)
  | .markActiveFailure reason => done (markActiveFailure m reason)
  | .completeCollisionRecovery token => done (completeCollisionRecovery m token)

def sequential : Name → Bool
  | .task => false
  | _ => true

def program (cfg : Config) : Program Name Act State Event Choice := ⟨sequential,launch,perform cfg⟩

abbrev System := Machine Name Act State
abbrev Label := Move Event Choice

def step (cfg : Config) (system : System) (label : Label) : Option System := system.step (program cfg) label

def isInitiatorNibble (nibble : UInt8) : Bool := [0x0,0x1,0x3,0x7,0xF].contains nibble

def isInitiatorAddress (address : UInt8) : Bool := isInitiatorNibble (address >>> 4) && isInitiatorNibble (address &&& 0x0F)

def defaultConfig : Config where
  startDeadline := 5000000000
  idleReleaseGrace := 200000000
  externalSessionSYNGrace := 250000000
  maxOwnershipDuration := 10000000000
  gatewayMaxOwnershipDuration := 1500000000
  arbitrationSendsSource := true
  enforcesClassifier := false
  isKnownInitiatorByte _ := true
  isInitiatorCapableAddress := isInitiatorAddress
  isMasterAddress := isInitiatorAddress
  collisionRetryResyncSYNCount := 2

def initially (transport : Transport) : System := ⟨{transport := transport},[]⟩

def grantedStart : List Label :=
  [.start .connect,.run 0 {},.start (.sessionStart 1 0x31),.run 0 {},.run 0 {},
   .start (.symbol none (some (symbolSyn,false)) false),.run 1 {},.run 1 {},.run 1 {},.run 1 {},.run 1 {},.run 1 {},.run 1 {},
   .start (.response true 0x31 0),.run 1 {},.run 1 {},.run 1 {},.run 1 {}]

end EbusGateway.Mux
