import EbusGateway.WirePhase

/-! The passive transaction reconstructor: a parser that rebuilds telegrams from the symbols a passive
tap observes. Each tap event is handled in one critical section of `stateMu`, so the parser is a function.
The tap stamps every event with a non-zero time, so the zero `time.Time` is `none`. CRC, frame type and
address class are computed outside this repository and are parameters.
-/
namespace EbusGateway.Reconstructor

abbrev Time := Int

def symbolEscape : UInt8 := 0xA9

def minPassiveTransactionWatchdog : Int := 250000000
def maxPassiveTransactionWatchdog : Int := 5000000000
def maxPassiveDataLen : Nat := 16
def maxPassiveLogicalRequestBytes : Nat := 50

structure Frame where
  source : UInt8 := 0
  target : UInt8 := 0
  primary : UInt8 := 0
  secondary : UInt8 := 0
  data : List UInt8 := []
deriving DecidableEq

inductive FrameType
  | unknown
  | initiatorInitiator
  | initiatorTarget
  | broadcast
deriving DecidableEq

inductive AddressClass
  | master
  | other
deriving DecidableEq

def isInitiatorNibble (n : UInt8) : Bool :=
  n = 0x0 || n = 0x1 || n = 0x3 || n = 0x7 || n = 0xF

def isInitiatorAddr (b : UInt8) : Bool :=
  isInitiatorNibble (b &&& 0x0F) && isInitiatorNibble ((b >>> 4) &&& 0x0F)

def isValidTargetAddr (b : UInt8) : Bool :=
  b != 0xAA && b != 0xA9 && b != 0xFE && !isInitiatorAddr b

structure Protocol where
  crc : List UInt8 → UInt8
  frameType : Frame → FrameType
  addressClassOf : UInt8 → AddressClass
  master_iff : ∀ b, addressClassOf b = .master ↔ isInitiatorAddr b = true

inductive AbandonReason
  | corruptedRequest
  | corruptedTarget
  | nack
  | noResponse
  | noProgress
  | unexpectedSYN
  | unexpectedSymbol
  | transportReset
  | decodeFault
  | disconnected
  | crcMismatch
  | ambiguousRetransmit
  | scanTimeout
  | scanCollision
  | arbitrationFragment
  | selfEcho
  | invalidQQ
  | invalidZZ
  | invalidNNMaster
  | invalidNNSlave
  | bufferOverflow
deriving DecidableEq

inductive DiscontinuityReason
  | connected
  | disconnected
  | transportReset
  | decodeFault
deriving DecidableEq

inductive RecoveryReason
  | transportReset
  | decodeFault
  | unexpectedSYN
deriving DecidableEq

inductive EventKind
  | broadcastFrame
  | masterFrame
  | transaction
  | abandonedTransaction
  | discontinuity
deriving DecidableEq

inductive Fault
  | invalidPayload
  | timeout
  | nack
  | crcMismatch
  -- an error the tap passes on
  | tap (id : Nat)
deriving DecidableEq

structure TimingMarkers where
  requestStart : Option Time := none
  requestEnd : Option Time := none
  responseStart : Option Time := none
  responseEnd : Option Time := none
  terminal : Option Time := none
deriving DecidableEq

structure ClassifiedEvent where
  kind : EventKind
  frameType : FrameType := .unknown
  request : Frame := {}
  response : Frame := {}
  hasRequest : Bool := false
  hasResponse : Bool := false
  timing : TimingMarkers := {}
  observedAt : Time
  abandonReason : Option AbandonReason := none
  discontinuityReason : Option DiscontinuityReason := none
  -- the acknowledgement byte of a request, when one is correlated
  ackCorrelation : Option UInt8 := none
  err : Option Fault := none
  offendingSymbol : UInt8 := 0
  offendingWasEscaped : Bool := false
deriving DecidableEq

inductive Phase
  | idle
  | request
  | waitACK
  | waitResponse
  | waitFinalACK
  | waitTerminal
  | abandoned
deriving DecidableEq

structure TransactionState where
  phase : Phase := .idle
  requestRaw : List UInt8 := []
  request : Frame := {}
  responseRaw : List UInt8 := []
  response : Frame := {}
  responseExpectedLen : Nat := 0
  responseCRCValid : Bool := false
  ackCorrelation : Option UInt8 := none
  frameType : FrameType := .unknown
  timing : TimingMarkers := {}
  lastProgressAt : Option Time := none
  -- a SYN has been observed since the previous frame boundary
  synced : Bool := false
  -- the bytes up to the next SYN trail a rejected source byte
  awaitingResync : Bool := false

structure Metrics where
  recoveryTotal : RecoveryReason → Nat := fun _ => 0
  abandonsByReason : AbandonReason → Nat := fun _ => 0
  prefixResyncSkippedTotal : Nat := 0
  invalidSrcClassSkippedTotal : Nat := 0

structure Parser where
  state : TransactionState := {}
  pendingRecoveryReason : Option RecoveryReason := none
  metrics : Metrics := {}

inductive TapEvent
  | symbol (symbol : UInt8) (wasEscaped : Bool) (observedAt : Time)
  | connected (observedAt : Time) (err : Option Fault)
  | disconnected (observedAt : Time) (err : Option Fault)
  | reset (observedAt : Time) (err : Option Fault)
  | decodeFault (observedAt : Time) (err : Option Fault)
  | readTimeout (observedAt : Time)

structure Input where
  event : TapEvent
  localAddress : Option UInt8 := none

structure Config where
  protocol : Protocol
  passiveTransactionWatchdog : Int

def clampPassiveTransactionWatchdog (value : Int) : Int :=
  if value ≤ 0 then 1000000000
  else if value < minPassiveTransactionWatchdog then minPassiveTransactionWatchdog
  else if maxPassiveTransactionWatchdog < value then maxPassiveTransactionWatchdog
  else value

def Config.watchdog (cfg : Config) : Int := clampPassiveTransactionWatchdog cfg.passiveTransactionWatchdog

def parseFrame (p : Protocol) (raw : List UInt8) : Option Frame :=
  if raw.length < 6 then none
  else
    let length := (raw.getD 4 0).toNat
    if raw.length ≠ 6 + length then none
    else if p.crc (raw.take (raw.length - 1)) ≠ raw.getD (raw.length - 1) 0 then none
    else some ⟨raw.getD 0 0,raw.getD 1 0,raw.getD 2 0,raw.getD 3 0,(raw.drop 5).take length⟩

def parsePassiveResponse (p : Protocol) (request : Frame) (raw : List UInt8) : Frame × Bool :=
  if raw.length < 2 then ({},false)
  else
    let length := (raw.getD 0 0).toNat
    if raw.length ≠ length + 2 then ({},false)
    else
      (⟨request.target,request.source,request.primary,request.secondary,(raw.drop 1).take length⟩,
        p.crc (raw.take (raw.length - 1)) == raw.getD (raw.length - 1) 0)

def isScanProbeRaw (raw : List UInt8) : Bool :=
  4 ≤ raw.length && raw.getD 2 0 == 0x07 && raw.getD 3 0 == 0x04

namespace Parser

variable (r : Parser) (reason : AbandonReason)

def resetStateLocked : Parser := {r with state := {}}

def resetStateLockedAfterSyn : Parser := {r with state := {synced := true}}

def recordRecoveryLocked : Parser :=
  match r.pendingRecoveryReason with
  | none => r
  | some reason =>
    {r with
      metrics.recoveryTotal := Function.update r.metrics.recoveryTotal reason (r.metrics.recoveryTotal reason + 1)
      pendingRecoveryReason := none}

def stripsACKCorrelation : AbandonReason → Bool
  | .noResponse | .noProgress | .ambiguousRetransmit | .crcMismatch => true
  | _ => false

def abandonEvent (s : TransactionState) (reason : AbandonReason) (observedAt : Time) (err : Option Fault)
    (offendingSymbol : UInt8) (offendingWasEscaped : Bool) : ClassifiedEvent :=
  {kind := .abandonedTransaction, frameType := s.frameType, request := s.request, response := s.response
   hasRequest := s.frameType != .unknown, hasResponse := 0 < s.responseExpectedLen
   timing := {s.timing with terminal := some observedAt}, observedAt := observedAt, abandonReason := some reason
   ackCorrelation := if stripsACKCorrelation reason then none else s.ackCorrelation, err := err
   offendingSymbol := offendingSymbol, offendingWasEscaped := offendingWasEscaped}

def countAbandon : Parser :=
  {r with
    metrics.abandonsByReason :=
      Function.update r.metrics.abandonsByReason reason (r.metrics.abandonsByReason reason + 1)}

def abandonLocked (observedAt : Time) (err : Option Fault)
    (offendingSymbol : UInt8) (offendingWasEscaped : Bool) : Parser × ClassifiedEvent :=
  (r.countAbandon reason,abandonEvent r.state reason observedAt err offendingSymbol offendingWasEscaped)

def abandonAndReset (observedAt : Time) (err : Option Fault)
    (offendingSymbol : UInt8) (offendingWasEscaped : Bool) : Parser × List ClassifiedEvent :=
  let (r,event) := r.abandonLocked reason observedAt err offendingSymbol offendingWasEscaped
  (r.resetStateLocked,[event])

def abandonAfterSyn (observedAt : Time) (err : Option Fault)
    (offendingSymbol : UInt8) (offendingWasEscaped : Bool) : Parser × List ClassifiedEvent :=
  let (r,event) := r.abandonLocked reason observedAt err offendingSymbol offendingWasEscaped
  (r.resetStateLockedAfterSyn,[event])

def abandonAndHold (observedAt : Time) (err : Option Fault)
    (offendingSymbol : UInt8) (offendingWasEscaped : Bool) : Parser × List ClassifiedEvent :=
  let (r,event) := r.abandonLocked reason observedAt err offendingSymbol offendingWasEscaped
  ({r with state.phase := .abandoned},[event])

def startRequestLocked (symbol : UInt8) (observedAt : Time) : Parser :=
  {r with state := {
    phase := .request, requestRaw := [symbol]
    timing := {requestStart := some observedAt}, lastProgressAt := some observedAt}}

def isScanTimeoutLocked : Bool :=
  r.state.request.primary == 0x07 && r.state.request.secondary == 0x04

def isSelfOriginatedRaw (localAddress : Option UInt8) : Bool :=
  match localAddress with
  | none => false
  | some address => 1 ≤ r.state.requestRaw.length && r.state.requestRaw.getD 0 0 == address

def isSelfOriginatedParsed (localAddress : Option UInt8) : Bool :=
  match localAddress with
  | none => false
  | some address => r.state.request.source == address

def dispatchParsedRequestLocked (p : Protocol) (frame : Frame) (observedAt : Time) (afterSyn : Bool) :
    Parser × List ClassifiedEvent :=
  let reset := fun r : Parser => if afterSyn then r.resetStateLockedAfterSyn else r.resetStateLocked
  let parsed : Parser := {r with
    state.timing.requestEnd := some observedAt, state.lastProgressAt := some observedAt
    state.request := frame, state.frameType := p.frameType frame}
  match p.frameType frame with
  | .unknown =>
    let (r,event) := r.abandonLocked .corruptedTarget observedAt (some .invalidPayload) 0 false
    (reset r,[event])
  | .broadcast =>
    (reset parsed.recordRecoveryLocked,[{
      kind := .broadcastFrame, frameType := p.frameType frame, request := frame, hasRequest := true
      timing := {
        requestStart := r.state.timing.requestStart, requestEnd := some observedAt, terminal := some observedAt}
      observedAt := observedAt}])
  | .initiatorInitiator | .initiatorTarget => ({parsed with state.phase := .waitACK},[])

def commitRequestFrameLocked (p : Protocol) (observedAt : Time) :
    Option (Parser × List ClassifiedEvent) :=
  match parseFrame p r.state.requestRaw with
  | none => none
  | some frame =>
    match p.frameType frame with
    | .initiatorInitiator | .initiatorTarget => some (r.dispatchParsedRequestLocked p frame observedAt false)
    -- broadcast and unknown frames wait for the trailing SYN
    | _ => none

def requestBound (raw : List UInt8) : Option (AbandonReason × UInt8) :=
  if raw.length = 2 then
    let zz := raw.getD 1 0
    if zz = 0xAA ∨ zz = 0xA9 then some (.invalidZZ,zz)
    else if zz ≠ 0xFE ∧ isInitiatorAddr zz = false ∧ isValidTargetAddr zz = false then some (.invalidZZ,zz)
    else none
  else if raw.length = 5 then
    let nnM := raw.getD 4 0
    if maxPassiveDataLen < nnM.toNat then some (.invalidNNMaster,nnM) else none
  else none

def completionReason (localAddress : Option UInt8) : AbandonReason :=
  if r.isSelfOriginatedRaw localAddress then .selfEcho
  else if isScanProbeRaw r.state.requestRaw then .scanCollision
  else .corruptedRequest

def truncationReason (localAddress : Option UInt8) : AbandonReason :=
  if r.state.requestRaw.length < 5 then .arbitrationFragment
  else if r.isSelfOriginatedRaw localAddress then .selfEcho
  else if isScanProbeRaw r.state.requestRaw then .scanCollision
  else
    let declared := (r.state.requestRaw.getD 4 0).toNat
    if declared ≤ maxPassiveDataLen ∧ r.state.requestRaw.length < 6 + declared then .unexpectedSYN
    else .corruptedRequest

def expectRecovery : Parser :=
  if reason = .unexpectedSYN then {r with pendingRecoveryReason := some .unexpectedSYN} else r

def pushRequest (symbol : UInt8) (observedAt : Time) : Parser :=
  {r with state.requestRaw := r.state.requestRaw ++ [symbol], state.lastProgressAt := some observedAt}

def checkRequest (p : Protocol) (localAddress : Option UInt8) (symbol : UInt8) (wasEscaped : Bool)
    (observedAt : Time) : Parser × List ClassifiedEvent :=
  match requestBound r.state.requestRaw with
  | some (reason,byte) => r.abandonAndReset reason observedAt (some .invalidPayload) byte wasEscaped
  | none =>
    if maxPassiveLogicalRequestBytes < r.state.requestRaw.length then
      r.abandonAndReset .bufferOverflow observedAt (some .invalidPayload) symbol wasEscaped
    else if 5 ≤ r.state.requestRaw.length ∧
        r.state.requestRaw.length = 6 + (r.state.requestRaw.getD 4 0).toNat then
      match r.commitRequestFrameLocked p observedAt with
      | some committed => committed
      | none =>
        if parseFrame p r.state.requestRaw = none then
          r.abandonAndReset (r.completionReason localAddress) observedAt (some .invalidPayload) symbol wasEscaped
        else (r,[])
    else (r,[])

def handleRequestSymbolLocked (p : Protocol) (localAddress : Option UInt8) (symbol : UInt8)
    (wasEscaped : Bool) (observedAt : Time) : Parser × List ClassifiedEvent :=
  if symbol ≠ symbolSyn ∨ wasEscaped = true then
    (r.pushRequest symbol observedAt).checkRequest p localAddress symbol wasEscaped observedAt
  else
    let r : Parser := {r with
      state.timing.requestEnd := some observedAt, state.lastProgressAt := some observedAt}
    match parseFrame p r.state.requestRaw with
    | none =>
      (r.expectRecovery (r.truncationReason localAddress)).abandonAfterSyn (r.truncationReason localAddress)
        observedAt (some .invalidPayload) symbol wasEscaped
    | some frame => r.dispatchParsedRequestLocked p frame observedAt true

def handleACKSymbolLocked (localAddress : Option UInt8) (symbol : UInt8) (wasEscaped : Bool)
    (observedAt : Time) : Parser × List ClassifiedEvent :=
  if symbol = symbolAck then
    let r : Parser := {r with state.lastProgressAt := some observedAt, state.ackCorrelation := some symbol}
    if r.state.frameType = .initiatorInitiator then ({r with state.phase := .waitTerminal},[])
    else
      ({r with
        state.phase := .waitResponse, state.responseRaw := [], state.responseExpectedLen := 0
        state.responseCRCValid := false},[])
  else if symbol = symbolNack then
    -- a request may be repeated right after its NACK, so the gate stays open
    ({r with state.ackCorrelation := some symbol} : Parser).abandonAfterSyn .nack observedAt (some .nack) symbol wasEscaped
  else if symbol = symbolSyn then
    if r.isScanTimeoutLocked then r.abandonAfterSyn .scanTimeout observedAt (some .timeout) symbol wasEscaped
    else if r.isSelfOriginatedParsed localAddress then
      r.abandonAfterSyn .selfEcho observedAt (some .timeout) symbol wasEscaped
    else
      (r.expectRecovery .unexpectedSYN).abandonAfterSyn .unexpectedSYN observedAt (some .timeout) symbol wasEscaped
  else r.abandonAndHold .unexpectedSymbol observedAt (some .invalidPayload) symbol wasEscaped

def accumulateResponse (p : Protocol) (symbol : UInt8) (wasEscaped : Bool) (observedAt : Time) :
    Parser × List ClassifiedEvent :=
  let r : Parser := {r with state.responseRaw := r.state.responseRaw ++ [symbol]}
  if r.state.responseRaw.length < r.state.responseExpectedLen then (r,[])
  else if r.state.responseExpectedLen < r.state.responseRaw.length then
    r.abandonAndHold .unexpectedSymbol observedAt (some .invalidPayload) symbol wasEscaped
  else
    let (response,crcValid) := parsePassiveResponse p r.state.request r.state.responseRaw
    ({r with
      state.response := response, state.responseCRCValid := crcValid
      state.timing.responseEnd := some observedAt, state.phase := .waitFinalACK},[])

def handleResponseSymbolLocked (p : Protocol) (symbol : UInt8) (wasEscaped : Bool) (observedAt : Time) :
    Parser × List ClassifiedEvent :=
  if symbol = symbolSyn ∧ wasEscaped = false then
    if r.state.responseRaw = [] then
      r.abandonAfterSyn .noResponse observedAt (some .timeout) symbol wasEscaped
    else
      (r.expectRecovery .unexpectedSYN).abandonAfterSyn .unexpectedSYN observedAt (some .timeout) symbol wasEscaped
  else
    let r : Parser := {r with state.lastProgressAt := some observedAt}
    if r.state.responseRaw = [] then
      if maxPassiveDataLen < symbol.toNat then
        ({r with state.responseRaw := [symbol]} : Parser).abandonAndReset .invalidNNSlave observedAt
          (some .invalidPayload) symbol wasEscaped
      else
        ({r with
          state.timing.responseStart := some observedAt
          state.responseExpectedLen := symbol.toNat + 2} : Parser).accumulateResponse p symbol wasEscaped observedAt
    else r.accumulateResponse p symbol wasEscaped observedAt

def handleFinalACKSymbolLocked (symbol : UInt8) (wasEscaped : Bool) (observedAt : Time) :
    Parser × List ClassifiedEvent :=
  if symbol = symbolAck then
    if r.state.responseCRCValid = false then
      r.abandonAndHold .crcMismatch observedAt (some .crcMismatch) symbol wasEscaped
    else ({r with state.lastProgressAt := some observedAt, state.phase := .waitTerminal},[])
  else if symbol = symbolNack then
    r.abandonAndHold .ambiguousRetransmit observedAt (some .nack) symbol wasEscaped
  else if symbol = symbolSyn then
    (r.expectRecovery .unexpectedSYN).abandonAfterSyn .unexpectedSYN observedAt (some .timeout) symbol wasEscaped
  else r.abandonAndHold .unexpectedSymbol observedAt (some .invalidPayload) symbol wasEscaped

def handleTerminalSymbolLocked (symbol : UInt8) (wasEscaped : Bool) (observedAt : Time) :
    Parser × List ClassifiedEvent :=
  if symbol ≠ symbolSyn then r.abandonAndHold .unexpectedSymbol observedAt (some .invalidPayload) symbol wasEscaped
  else
    let timing := {r.state.timing with terminal := some observedAt}
    match r.state.frameType with
    | .initiatorInitiator =>
      (r.recordRecoveryLocked.resetStateLockedAfterSyn,[{
        kind := .masterFrame, frameType := r.state.frameType, request := r.state.request, hasRequest := true
        timing := timing, observedAt := observedAt, ackCorrelation := r.state.ackCorrelation}])
    | .initiatorTarget =>
      (r.recordRecoveryLocked.resetStateLockedAfterSyn,[{
        kind := .transaction, frameType := r.state.frameType, request := r.state.request
        response := r.state.response, hasRequest := true, hasResponse := true
        timing := timing, observedAt := observedAt, ackCorrelation := r.state.ackCorrelation}])
    | _ =>
      let r : Parser := {r with state.lastProgressAt := some observedAt}
      r.abandonAfterSyn .unexpectedSymbol observedAt (some .invalidPayload) 0 false

def handleIdleSymbol (p : Protocol) (symbol : UInt8) (wasEscaped : Bool) (observedAt : Time) :
    Parser × List ClassifiedEvent :=
  if symbol = symbolSyn then ({r with state.synced := true, state.awaitingResync := false},[])
  else if r.state.synced = false then
    (if r.state.awaitingResync = false then
      {r with metrics.prefixResyncSkippedTotal := r.metrics.prefixResyncSkippedTotal + 1} else r,[])
  else if p.addressClassOf symbol ≠ .master then
    ({r with
      metrics.invalidSrcClassSkippedTotal := r.metrics.invalidSrcClassSkippedTotal + 1
      state.synced := false, state.awaitingResync := true},[])
  else if isInitiatorAddr symbol = false then
    r.abandonAndReset .invalidQQ observedAt (some .invalidPayload) symbol wasEscaped
  else (r.startRequestLocked symbol observedAt,[])

def handleSymbolLocked (p : Protocol) (localAddress : Option UInt8) (symbol : UInt8) (wasEscaped : Bool)
    (observedAt : Time) : Parser × List ClassifiedEvent :=
  match r.state.phase with
  | .idle => r.handleIdleSymbol p symbol wasEscaped observedAt
  | .request => r.handleRequestSymbolLocked p localAddress symbol wasEscaped observedAt
  | .waitACK => r.handleACKSymbolLocked localAddress symbol wasEscaped observedAt
  | .waitResponse => r.handleResponseSymbolLocked p symbol wasEscaped observedAt
  | .waitFinalACK => r.handleFinalACKSymbolLocked symbol wasEscaped observedAt
  | .waitTerminal => r.handleTerminalSymbolLocked symbol wasEscaped observedAt
  | .abandoned => if symbol = symbolSyn then (r.resetStateLockedAfterSyn,[]) else (r,[])

def following (s : TransactionState) : Bool := s.phase != .idle && s.phase != .abandoned

def stale (watchdog : Int) (s : TransactionState) (observedAt : Time) : Bool :=
  following s && match s.lastProgressAt with
    | none => false
    | some last => watchdog < observedAt - last

def expireIfStaleLocked (watchdog : Int) (observedAt : Time) : Parser × List ClassifiedEvent :=
  if stale watchdog r.state observedAt then r.abandonAndHold .noProgress observedAt (some .timeout) 0 false
  else (r,[])

def abandonFollowed (observedAt : Time) (err : Option Fault) :
    Parser × List ClassifiedEvent :=
  if following r.state then
    ((r.abandonLocked reason observedAt err 0 false).1,[(r.abandonLocked reason observedAt err 0 false).2])
  else (r,[])

def discontinuityEvent (observedAt : Time) (reason : DiscontinuityReason) (err : Option Fault) : ClassifiedEvent :=
  {kind := .discontinuity, observedAt := observedAt, discontinuityReason := some reason, err := err}

def handleTransportDiscontinuityLocked (observedAt : Time) (reason : DiscontinuityReason)
    (abandonReason : AbandonReason) (err : Option Fault) : Parser × List ClassifiedEvent :=
  let abandoned := r.abandonFollowed abandonReason observedAt err
  let r : Parser := match reason with
    | .transportReset => {abandoned.1 with pendingRecoveryReason := some .transportReset}
    | .decodeFault => {abandoned.1 with pendingRecoveryReason := some .decodeFault}
    | _ => abandoned.1
  (r.resetStateLocked,abandoned.2 ++ [discontinuityEvent observedAt reason err])

def handleTapEventLocked (cfg : Config) (input : Input) : Parser × List ClassifiedEvent :=
  match input.event with
  | .symbol symbol wasEscaped observedAt =>
    let expired := r.expireIfStaleLocked cfg.watchdog observedAt
    let handled := expired.1.handleSymbolLocked cfg.protocol input.localAddress symbol wasEscaped observedAt
    (handled.1,expired.2 ++ handled.2)
  | .connected observedAt err => (r.resetStateLocked,[discontinuityEvent observedAt .connected err])
  | .disconnected observedAt err =>
    r.handleTransportDiscontinuityLocked observedAt .disconnected .disconnected err
  | .reset observedAt err =>
    r.handleTransportDiscontinuityLocked observedAt .transportReset .transportReset err
  | .decodeFault observedAt err =>
    r.handleTransportDiscontinuityLocked observedAt .decodeFault .decodeFault err
  | .readTimeout observedAt => r.expireIfStaleLocked cfg.watchdog observedAt

end Parser

def step (cfg : Config) (r : Parser) (input : Input) : Option Parser := some (r.handleTapEventLocked cfg input).1

def published (cfg : Config) : Parser → List Input → List ClassifiedEvent
  | _, [] => []
  | r, input :: rest =>
    (r.handleTapEventLocked cfg input).2 ++ published cfg (r.handleTapEventLocked cfg input).1 rest

def newPassiveTransactionReconstructor : Parser := {}

end EbusGateway.Reconstructor
