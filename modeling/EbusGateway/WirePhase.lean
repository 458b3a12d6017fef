import Mathlib.Data.List.Basic

/-! The wire phase tracker: which part of a telegram the bus is in, advanced by every symbol the mux
observes while the gateway does not own the bus. `protocol.IsInitiatorCapableAddress` is outside this
repository and a parameter.
-/
namespace EbusGateway

def symbolSyn : UInt8 := 0xAA
def symbolAck : UInt8 := 0x00
def symbolNack : UInt8 := 0xFF
def addressBroadcast : UInt8 := 0xFE

inductive WirePhase
  | idle
  | collectRequest
  | waitCmdAck
  | waitResponseLen
  | waitResponseBody
  | waitResponseAck
  | waitTerminalSyn
deriving DecidableEq

def WirePhase.isSYNTimeoutBoundary : WirePhase → Bool
  | .waitCmdAck | .waitResponseLen | .waitResponseBody | .waitResponseAck => true
  | _ => false

inductive WirePhaseEvent
  | none
  | requestComplete
  | cmdACK
  | cmdNACK
  | responseDone
  | transactionDone
  | cmdNACKRetry
  | synIdle
  | synTimeout
deriving DecidableEq

structure WirePhaseTracker where
  phase : WirePhase := .idle
  requestBytesSeen : Nat := 0
  requestDataLength : Option Nat := none
  requestSrc : UInt8 := 0
  requestDst : UInt8 := 0
  cmdRetried : Bool := false
  responseRetried : Bool := false
  responseBytesRemain : Int := 0
  ownerWrote : Bool := false
deriving DecidableEq

namespace WirePhaseTracker

def reset (_ : WirePhaseTracker) (phase : WirePhase) : WirePhaseTracker := {phase := phase}

variable (t : WirePhaseTracker) {t : WirePhaseTracker}

def markOwnerWrite : WirePhaseTracker := {t with ownerWrote := true}

def telegramLive : Bool :=
  t.ownerWrote && match t.phase with
    | .collectRequest => 1 < t.requestBytesSeen
    | .waitCmdAck | .waitResponseLen | .waitResponseBody | .waitResponseAck => true
    | _ => false

def advanceCollectRequest (symbol : UInt8) : WirePhaseTracker × WirePhaseEvent :=
  let seen := t.requestBytesSeen + 1
  let t := {t with requestBytesSeen := seen}
  let t := match seen with
    | 1 => {t with requestSrc := symbol}
    | 2 => {t with requestDst := symbol}
    | 5 => {t with requestDataLength := some symbol.toNat}
    | _ => t
  if t.requestDataLength.any (6 + · ≤ seen) then ({t with phase := .waitCmdAck},.requestComplete) else (t,.none)

def advanceWaitCmdAck (isInitiatorCapableAddress : UInt8 → Bool) (t : WirePhaseTracker) (symbol : UInt8) :
    WirePhaseTracker × WirePhaseEvent :=
  if symbol = symbolAck then
    if t.requestDst = addressBroadcast || isInitiatorCapableAddress t.requestDst then
      ({t with phase := .waitTerminalSyn},.none)
    else ({t with phase := .waitResponseLen},.cmdACK)
  else if symbol = symbolNack then
    if t.cmdRetried then ({t with phase := .waitTerminalSyn},.none)
    else ({t with cmdRetried := true, requestBytesSeen := 0, requestDataLength := none, phase := .collectRequest},.cmdNACKRetry)
  else (t.reset .idle,.cmdNACK)

def advanceWaitResponseLen (symbol : UInt8) : WirePhaseTracker × WirePhaseEvent :=
  ({t with responseBytesRemain := symbol.toNat + 1, phase := .waitResponseBody},.none)

def advanceWaitResponseBody : WirePhaseTracker × WirePhaseEvent :=
  let remain := t.responseBytesRemain - 1
  if remain ≤ 0 then ({t with responseBytesRemain := remain, phase := .waitResponseAck},.responseDone)
  else ({t with responseBytesRemain := remain},.none)

def advanceWaitResponseAck (symbol : UInt8) : WirePhaseTracker × WirePhaseEvent :=
  if symbol = symbolNack && !t.responseRetried then
    ({t with responseRetried := true, phase := .waitResponseLen},.none)
  else ({t with phase := .waitTerminalSyn},.none)

def advanceWithProvenance (isInitiatorCapableAddress : UInt8 → Bool) (t : WirePhaseTracker) (symbol : UInt8)
    (isWireSyn : Bool) : WirePhaseTracker × WirePhaseEvent :=
  if t.phase = .waitTerminalSyn then (t.reset .idle,.transactionDone)
  else if isWireSyn then
    if t.phase.isSYNTimeoutBoundary || (t.phase = .collectRequest && 1 < t.requestBytesSeen) then (t.reset .idle,.synTimeout)
    else (t.reset .idle,.synIdle)
  else match t.phase with
    | .idle | .waitTerminalSyn => (t,.none)
    | .collectRequest => t.advanceCollectRequest symbol
    | .waitCmdAck => t.advanceWaitCmdAck isInitiatorCapableAddress symbol
    | .waitResponseLen => t.advanceWaitResponseLen symbol
    | .waitResponseBody => t.advanceWaitResponseBody
    | .waitResponseAck => t.advanceWaitResponseAck symbol

def startRequest : WirePhaseTracker := t.reset .collectRequest

def startRequestWithSource (src : UInt8) : WirePhaseTracker :=
  {t.reset .collectRequest with requestBytesSeen := 1, requestSrc := src}

theorem advanceCollectRequest_header (header : t.requestBytesSeen < 4) (unknown : t.requestDataLength = none)
    (symbol : UInt8) : ∃ source destination, t.advanceCollectRequest symbol =
      ({t with requestBytesSeen := t.requestBytesSeen + 1, requestSrc := source, requestDst := destination},.none) := by
  unfold advanceCollectRequest
  dsimp only
  split
  · exact ⟨symbol,t.requestDst,by simp [unknown]⟩
  · exact ⟨t.requestSrc,symbol,by simp [unknown]⟩
  · omega
  · exact ⟨t.requestSrc,t.requestDst,by simp [unknown]⟩

theorem advanceCollectRequest_length (fourth : t.requestBytesSeen = 4) (symbol : UInt8) :
    t.advanceCollectRequest symbol = ({t with requestBytesSeen := 5, requestDataLength := some symbol.toNat},.none) := by
  have more : ¬ 6 + symbol.toNat ≤ 5 := by omega
  simp [advanceCollectRequest,fourth,more]

theorem advanceCollectRequest_later (later : 5 ≤ t.requestBytesSeen) (symbol : UInt8) : t.advanceCollectRequest symbol =
      if t.requestDataLength.any (6 + · ≤ t.requestBytesSeen + 1) then
        ({t with requestBytesSeen := t.requestBytesSeen + 1, phase := .waitCmdAck},.requestComplete)
      else ({t with requestBytesSeen := t.requestBytesSeen + 1},.none) := by
  unfold advanceCollectRequest
  dsimp only
  split
  · omega
  · omega
  · omega
  · rfl

end WirePhaseTracker
end EbusGateway
