import EbusGateway.Arbitration
import EbusGateway.EchoTracker
import EbusGateway.Library.Channel
import EbusGateway.Library.Goroutine

/-! The multiplexer's state, the atomic actions its goroutines perform on it, and the helpers those
actions share. An action is one critical section (or one channel or transport operation); what the source
does after it is pushed as further actions of the same goroutine. Behind the source's fields stand what the
environment keeps (waiter channels, unanswered START requests) and a journal, which no action reads.
-/
namespace EbusGateway.Mux
open Library

inductive ArbitrationRecovery
  | none
  | atSYN
  | reset
  | foreign
  | foreignAfterAA
deriving DecidableEq

inductive InactiveReason
  | synTerminator
  | transactionDone
  | cmdNACK
  | synTimeout
  | synIdle
  | maxOwnership
  | reset
  | reconnect
  | activeReadTimeout
  | activeWriteError
  | contextCancel
  | arbitrationCollision
  | abandonedOnRebid
deriving DecidableEq

inductive Transport
  | requester
  | blocking
  | unsupported
deriving DecidableEq

/-- A selected bid whose arbitration is under way. Session, initiator and waiter are those of `request`;
`gatewayLoser` is what the deadline callback captured, `answeredAt` the stream item that started the bid. -/
structure PendingStart where
  lifecycleEpoch : Nat
  request : StartRequest
  blockingArb : Bool
  gatewayLoser : Option StartRequest
  responseReceived : Bool := false
  answeredAt : Nat := 0
deriving DecidableEq

structure Selection where
  request : StartRequest
  losers : List StartRequest
deriving DecidableEq

def Selection.gatewayLoser (selection : Selection) : Option StartRequest :=
  (selection.losers.filter (·.sessionID = gatewaySessionID)).getLast?

inductive ActiveEvent
  | byte (byte : UInt8) (wasEscaped : Bool)
  | adapterReset
deriving DecidableEq

def activeChCapacity : Nat := 4096

structure ActiveTxn where
  id : Nat := 0
  inactiveReas : Option InactiveReason := none
  bytesDeliveredToActive : Nat := 0
  firstByteSuspectArbLoss : Bool := false

structure Config where
  startDeadline : Nat
  idleReleaseGrace : Nat
  externalSessionSYNGrace : Nat
  maxOwnershipDuration : Nat
  gatewayMaxOwnershipDuration : Nat
  arbitrationSendsSource : Bool
  enforcesClassifier : Bool
  isKnownInitiatorByte : UInt8 → Bool
  isInitiatorCapableAddress : UInt8 → Bool
  isMasterAddress : UInt8 → Bool
  collisionRetryResyncSYNCount : Nat

/-- How the outcome of an external bid is decided: by a STARTED in the stream, by a blocking call that
succeeds, by a lower bid of the same SYN (with room for the FAILED in the session's buffer or without), or
by the adapter's FAILED or a STARTED for another initiator. -/
inductive Outcome
  | started
  | called
  | lostLocally
  | overflowed
  | lost
deriving DecidableEq

/-- The journal: admitted START calls, adapter answers with the request they answer and the one they
are applied to, grants, outcomes of bids with the stream item that decided them, the control frames
queued for them, wire items with their number, and frames queued for them. -/
inductive Trace
  | requested (session : Nat) (initiator : UInt8)
  | applied (answers pending : Nat)
  | granted (session : Nat) (initiator : UInt8)
  | decided (outcome : Outcome) (session waiter item : Nat)
  | reported (session waiter : Nat)
  | observed (item : Nat)
  | delivered (session item : Nat)
  | cancelled (session : Nat)
deriving DecidableEq

structure State where
  arb : Arbitrator := {}
  pendingStart : Option PendingStart := none
  pendingStartAbsorb : Nat := 0
  pendingAbsorbResetDueAt : Option Nat := none
  retiredSelection : Bool := false
  deferRegrantUntilNextSyn : Bool := false
  arbitrationRecovery : ArbitrationRecovery := .none
  localLosers : List StartRequest := []
  localLoserSource : UInt8 := 0
  blockingArbGen : Nat := 0
  blockingArbActive : Bool := false
  collisionResyncOwed : Nat := 0
  gatewayTxnActive : Bool := false
  phase : WirePhaseTracker := {}
  gatewayEcho : EchoTracker := {}
  activeTxn : ActiveTxn := {}
  activeCh : Channel ActiveEvent activeChCapacity := .empty
  busOwned : Option Nat := none
  lastWireActivity : Nat := 0
  transport : Transport := .requester
  closing : Bool := false
  upstreamClosed : Bool := false
  sessions : List Nat := []
  closedSessions : List Nat := []
  nextSession : Nat := 1
  nextWaiter : Nat := 0
  results : Sends := []
  received : List Nat := []
  wedged : Bool := false
  outstanding : List Nat := []
  items : Nat := 0
  journal : List Trace := []

inductive Name
  | readLoop
  | sendLoop
  | session (id : Nat)
  | task
deriving DecidableEq

structure ResponseSnapshot where
  started : Bool
  data : UInt8
  phantom : Bool
  bidder : Option (Nat × UInt8)
  losers : List StartRequest
  selectedSource : UInt8
  retiredSelection : Bool
  epoch : Nat
  item : Nat
deriving DecidableEq

inductive Act
  | requestStart (session : Nat) (initiator : UInt8)
  | cancelStart (session : Nat)
  | releaseSessionGrant (session : Nat)
  | cancelPendingStart (session : Nat)
  | cancelReturn (session : Nat)
  | deleteSession (session : Nat)
  | closeSession (session : Nat)
  | awaitResult (session waiter : Nat)
  | reportResult (session waiter : Nat) (result : StartResult)
  | expireGatewayAdmission (waiter : Nat)
  | deadline
  | takeGatewayLoser (loser : Option StartRequest)
  | fireAbsorbReset
  | releaseOwnership (session : Nat)
  | tryGrantAndStart (bids : Option Bids)
  | callRequestStart (selection : Selection)
  | undoLocalLosses (selection : Selection)
  | resetLocalLoserSources (losers : List StartRequest) (item : Nat)
  | settleLocalLosses (selection : Selection) (err : Option StartError)
  | failRequestStart (selection : Selection) (err : StartError)
  | startBlocking (selection : Selection)
  | abortClosing (selection : Selection)
  | abortUnsupported (selection : Selection)
  | callStartArbitration (selection : Selection) (gen : Nat)
  | blockingFailed (selection : Selection) (gen : Nat) (err : StartError)
  | blockingStarted (selection : Selection) (gen : Nat)
  | blockingReturned (gen : Nat)
  | completeArbitrationGrant (pending : PendingStart)
  | snapshotResponse (started : Bool) (data : UInt8) (answers : Nat)
  | handleArbitrationResponse (snapshot : ResponseSnapshot) (notifyByte : UInt8) (answers : Nat)
  | expectForeignTelegram (winner : UInt8)
  | deliverResponse (snapshot : ResponseSnapshot) (bidderFailed : Bool)
  | notify (guarded : Bool) (waiter : Nat) (result : StartResult)
  | fenceLifecycle
  | resetState
  | reconnectState
  | closeUpstream
  | closeState
  | forceRelease
  | failAllPending (err : StartError)
  | enqueueReset
  | closeSessions
  | reconcileArbitrationClassifier (isSYN : Bool)
  | onRawSymbol (symbol : UInt8) (logical : Option (UInt8 × Bool)) (item : Nat)
  | onLogicalReceived (symbol : UInt8) (wasEscaped deliver : Bool) (bids : Option Bids) (item : Nat)
  | deliverActive (symbol : UInt8) (wasEscaped whileActive : Bool)
  | deliverToSessions (except : List Nat) (item : Nat)
  | releaseAfterFrame (owner : Nat) (reason : InactiveReason)
  | quietBus
  | markOwnerWrite (session : Nat)
  | armSend (data : UInt8) (structural : Bool)
  | checkSend
  | writeSymbols
  | enterWriteCollisionRecovery
  | rollbackSend
  | markActiveFailure (reason : InactiveReason)
  | completeCollisionRecovery (token : Nat)
deriving DecidableEq

abbrev Step := Effect Name Act State

/-- What the environment decides when an action runs: the clock, the sessions whose send buffer is
full, whether the managed connection admits the call, what a transport call returns, whether a write
collided, and the state of the classifier's telegram machine. -/
structure Choice where
  now : Nat := 0
  full : List Nat := []
  admitted : Bool := true
  failure : Option StartError := none
  collision : Bool := false
  classifierAborted : Bool := false

end EbusGateway.Mux
