import EbusGateway.Library.Goroutine
import EbusGateway.Library.Transition

/-! The live-monitor session of the B503 protocol. A goroutine is a call of the manager, a lifecycle event or an
idle timer that fires; its actions are the critical sections of the state lock and the calls of refresh and of
the dispatcher. A dispatcher emits at most one frame, between the admission of its operation and the release of
the emission lock, and says truly whether it did. Identifiers, cleanup attempts and issuer tokens are minted from
one counter; contexts and the contents of responses are left out. The `uint64` counters
are natural numbers: a run is taken to count none of them up to 2^64.
-/
namespace EbusGateway.B503
open Library

inductive State
  | idle
  | enabling
  | active
  | refreshing
  | disabled
deriving DecidableEq

inductive Failure
  | sessionBusy
  | transportDown
  | notActive
  | wrongToken
  | targetMismatch
  | cleanupPending
  | other
deriving DecidableEq

inductive NativeResult
  | ambiguous
  | ack
  | nak
deriving DecidableEq

inductive OperationKind
  | enable
  | read
  | disable
deriving DecidableEq

structure TransportKey where
  adapterInstanceID : String := ""
  epoch : Nat := 0
deriving DecidableEq

structure SessionKey where
  transport : TransportKey := {}
  issuerToken : Option Nat := none
deriving DecidableEq

structure DispatchOutcome where
  emitted : Bool := false
  native : NativeResult := .ambiguous
  err : Option Failure := none
deriving DecidableEq

structure Pending where
  id : Nat
  kind : OperationKind
  target : UInt8
  transport : TransportKey
  emitted : Bool := false
  invalidated : Bool := false
  cleanup : Bool := false

structure Cleanup where
  target : UInt8
  attemptID : Nat
  transportEpoch : Nat
  source : Option Nat
  originEmitted : Bool := false
  originNative : NativeResult := .ambiguous
  originErr : Option Failure := none
  lastAttempted : Bool := false
  lastAttemptEpoch : Nat := 0
  lastEmitted : Bool := false
  lastNative : NativeResult := .ambiguous
  lastErr : Option Failure := none

structure Frame where
  kind : OperationKind
  target : UInt8
  operation : Nat
deriving DecidableEq

/-- The manager. `idles`, `refreshes` and `cleans` say whether it has an idle timeout, a refresh and a cleanup
dispatcher; `frames` are the frames emitted and `withdrawn` the operations that a lifecycle event invalidated
before their admission. -/
structure Manager where
  state : State := .idle
  transport : TransportKey := {}
  activeToken : Option Nat := none
  idles : Bool := true
  idleTimerGen : Nat := 0
  idleExpiryPending : Bool := false
  refreshes : Bool := true
  mutexHeld : Bool := false
  refreshFailed : Bool := false
  lastRefreshTransportDown : Bool := false
  activeTarget : UInt8 := 0
  pendingOperation : Option Pending := none
  cleanup : Option Cleanup := none
  cleans : Bool := true
  observedEpoch : Nat := 0
  pendingEpoch : Nat := 0
  qualified : List UInt8 := []
  restarted : Bool := false
  restartFences : List UInt8 := []
  emissionMu : Bool := false
  minted : Nat := 0
  frames : List Frame := []
  withdrawn : List Nat := []

namespace Manager

def create (transport : TransportKey) (idles refreshes cleans : Bool) : Manager :=
  {transport := transport, idles := idles, refreshes := refreshes, cleans := cleans, observedEpoch := transport.epoch}

variable (m : Manager) (operation : Nat)

def markQualifiedTarget (target : UInt8) : Manager :=
  {m with
    qualified := target :: m.qualified
    restartFences := if m.restarted then target :: m.restartFences else m.restartFences}

def releaseOwner : Manager :=
  {m with idleTimerGen := m.idleTimerGen + 1, mutexHeld := false, activeToken := none, activeTarget := 0}

def toDisabled : Manager :=
  {m with
    idleTimerGen := m.idleTimerGen + 1, idleExpiryPending := false, state := .disabled
    mutexHeld := false, activeToken := none, activeTarget := 0}

def armIdleTimer : Manager := if m.idles then {m with idleTimerGen := m.idleTimerGen + 1} else m

def createCleanup (target : UInt8) (epoch : Nat) (source : Option Nat) : Manager :=
  if m.cleanup.isSome then m
  else {m with
    cleanup := some {target := target, attemptID := m.minted, transportEpoch := epoch, source := source}
    minted := m.minted + 1, state := .disabled}

def clearCleanupForOperation : Manager :=
  {m with cleanup := m.cleanup.filter (·.source ≠ some operation)}

def isPending : Bool := m.pendingOperation.any (·.id = operation)

def admitPendingEmission (target : UInt8) : Option Manager :=
  m.pendingOperation.bind fun pending =>
    if pending.invalidated || pending.id ≠ operation || pending.target ≠ target then none
    else
      let admitted : Bool := match pending.kind with
        | .enable => m.state = .enabling
        | .read => m.state = .active
        | .disable => if pending.cleanup then m.state = .disabled && !m.mutexHeld else m.state = .active && m.mutexHeld
      if admitted then some {m with pendingOperation := some {pending with emitted := true}} else none

def enable (m : Manager) (target : UInt8) (entropy : Bool) : Manager × Except Failure (Nat × Nat) :=
  if m.restartFences.contains target || m.cleanup.isSome then (m,.error .cleanupPending)
  else if m.state ≠ .idle then (m,.error .sessionBusy)
  else if !entropy then ({m.releaseOwner with state := .idle},.error .other)
  else ({m with
    state := .enabling, mutexHeld := true
    pendingOperation := some {id := m.minted + 1, kind := .enable, target := target, transport := m.transport}
    activeToken := some m.minted, activeTarget := target, refreshFailed := false, lastRefreshTransportDown := false
    minted := m.minted + 2},.ok (m.minted,m.minted + 1))

def enabled (operation token : Nat) (target : UInt8) (outcome : DispatchOutcome) :
    Manager × SessionKey × Option Failure × Option Nat :=
  let down := some (outcome.err.getD .transportDown)
  match m.pendingOperation.filter (·.id = operation) with
  | none => (m,{},down,none)
  | some pending =>
    let advanced := pending.transport.epoch < m.pendingEpoch
    let m := {m with
      pendingOperation := none
      transport := if advanced then {m.transport with epoch := m.pendingEpoch} else m.transport}
    if m.state ≠ .enabling then
      if !outcome.emitted then
        let m := m.clearCleanupForOperation operation
        ({m with state := if m.cleanup.isNone then .idle else m.state},{},down,none)
      else
        let settled (cleanup : Cleanup) : Cleanup :=
          if cleanup.source = some operation then
            {cleanup with originEmitted := true, originNative := outcome.native, originErr := outcome.err}
          else cleanup
        ({m with cleanup := m.cleanup.map settled},{},down,none)
    else if !outcome.emitted then ({m.releaseOwner with state := .idle},{},outcome.err,none)
    else
      let m := m.createCleanup target m.transport.epoch (some operation)
      let origin (cleanup : Cleanup) : Cleanup :=
        {cleanup with originEmitted := outcome.emitted, originNative := outcome.native, originErr := outcome.err}
      let m := {m with cleanup := m.cleanup.map origin}
      if outcome.native = .ack && outcome.err.isNone && !advanced then
        (armIdleTimer {m with state := .active},{transport := m.transport, issuerToken := some token},none,none)
      else ({m.releaseOwner with state := .disabled},{},down,some m.transport.epoch)

def beginOwnerOperation (target : UInt8) (key : Option SessionKey) (kind : OperationKind) :
    Manager × Except Failure (Nat × Option Nat) :=
  if m.state = .refreshing then (m,.error .sessionBusy)
  else if !m.mutexHeld || m.state ≠ .active then (m,.error .notActive)
  else if m.pendingOperation.isSome then (m,.error .sessionBusy)
  else if m.activeTarget ≠ target then (m,.error .targetMismatch)
  else if key.any fun key => key.transport ≠ m.transport || key.issuerToken ≠ m.activeToken then (m,.error .wrongToken)
  else
    let pending : Pending := {id := m.minted, kind := kind, target := target, transport := m.transport}
    let begun := {m with pendingOperation := some pending, minted := m.minted + 1}
    if m.pendingEpoch ≤ m.transport.epoch then (begun,.ok (m.minted,none))
    else ({begun with state := .refreshing},.ok (m.minted,some m.pendingEpoch))

def refreshAnswer (answer : Except Failure TransportKey) : Except Failure TransportKey :=
  if m.refreshes then answer else .error .transportDown

def refreshError : Except Failure TransportKey → Failure
  | .ok _ => .transportDown
  | .error err => err

def refreshedOwner (operation attemptedEpoch : Nat) (target : UInt8) (answer : Except Failure TransportKey) :
    Manager × Except Failure Unit :=
  let down := refreshError answer
  match m.pendingOperation.filter (·.id = operation) with
  | none => (m,.error down)
  | some pending =>
    if !m.mutexHeld || m.state ≠ .refreshing then (m,.error down)
    else
      if pending.invalidated || attemptedEpoch < m.observedEpoch || answer.toOption.any (·.epoch < m.observedEpoch) then
        let m := {m with pendingOperation := none, pendingEpoch := 0, transport := {m.transport with epoch := m.observedEpoch}}
        (m.toDisabled.createCleanup target m.observedEpoch (some operation),.error .transportDown)
      else
        match answer.toOption.filter (attemptedEpoch ≤ ·.epoch) with
        | some key =>
          let m := {m with
            transport := key, observedEpoch := key.epoch, pendingEpoch := 0, state := .active
            pendingOperation := some {pending with transport := key}
            cleanup := m.cleanup.map fun (cleanup : Cleanup) => {cleanup with transportEpoch := key.epoch}}
          (m.armIdleTimer,.ok ())
        | none =>
          let m := {m with
            lastRefreshTransportDown := m.lastRefreshTransportDown || down = Failure.transportDown
            refreshFailed := m.refreshFailed || down ≠ Failure.transportDown
            transport := {m.transport with epoch := attemptedEpoch}, pendingEpoch := 0}
          let m := m.toDisabled.createCleanup target attemptedEpoch none
          ({m with pendingOperation := none},.error down)

def consumeIdleExpiryAfterRead (target : UInt8) (operation : Nat) : Manager × Option Nat :=
  if !m.idleExpiryPending then (m,none)
  else
    let m := {m with idleExpiryPending := false}
    if m.state ≠ .active || !m.mutexHeld || m.activeTarget ≠ target then (m,none)
    else (m.toDisabled.createCleanup target m.transport.epoch (some operation),some m.transport.epoch)

def readEnd (target : UInt8) (outcome : DispatchOutcome) : Manager × Option Failure × Option Nat :=
  match m.pendingOperation.filter (·.id = operation) with
  | none => (m,some (outcome.err.getD .transportDown),none)
  | some pending =>
    let m := {m with pendingOperation := none}
    if outcome.err = some .transportDown then
      let m := m.toDisabled.createCleanup target m.transport.epoch (some operation)
      ({m with lastRefreshTransportDown := true},outcome.err,none)
    else if outcome.err.isSome || outcome.native ≠ .ack || m.state ≠ .active || m.transport ≠ pending.transport || m.activeTarget ≠ target then
      let (m,epoch) := m.consumeIdleExpiryAfterRead target operation
      (m,some (outcome.err.getD .transportDown),epoch)
    else (armIdleTimer {m with idleExpiryPending := false},none,none)

def stopIdleTimer : Manager :=
  if m.isPending operation && m.mutexHeld then {m with idleTimerGen := m.idleTimerGen + 1} else m

def disableEnd (target : UInt8) (outcome : DispatchOutcome) :
    Manager × Option Failure × Option (Nat × Nat) :=
  match m.pendingOperation.filter (·.id = operation) with
  | none => (m,some (outcome.err.getD .transportDown),none)
  | some pending =>
    let m := {m with pendingOperation := none}
    if !(pending.emitted || outcome.emitted) && m.state = .active && m.mutexHeld && m.activeTarget = target then
      (armIdleTimer {m with idleExpiryPending := false},some (outcome.err.getD .transportDown),none)
    else
      let epoch := m.transport.epoch
      let m := if m.mutexHeld then m.releaseOwner else m
      let m := {m with state := .disabled}.createCleanup target epoch (some operation)
      let m := {m with cleanup := m.cleanup.map fun (cleanup : Cleanup) =>
        {cleanup with lastAttemptEpoch := epoch, lastAttempted := true}}
      (m,outcome.err,m.cleanup.map fun (cleanup : Cleanup) => (cleanup.attemptID,epoch))

def recordCleanupOutcome (attempt epoch : Nat) (outcome : DispatchOutcome) : Manager :=
  {m with cleanup := m.cleanup.map fun (cleanup : Cleanup) =>
    if cleanup.attemptID ≠ attempt || !cleanup.lastAttempted || cleanup.lastAttemptEpoch ≠ epoch then cleanup
    else {cleanup with lastEmitted := outcome.emitted, lastNative := outcome.native, lastErr := outcome.err}}

def attemptCleanup (epoch : Nat) : Manager × Option (Nat × UInt8 × Nat) :=
  match m.cleanup with
  | none => (m,none)
  | some cleanup =>
    if m.restarted || cleanup.lastAttempted && cleanup.lastAttemptEpoch = epoch || !m.cleans then (m,none)
    else
      let pending : Pending := {id := m.minted, kind := .disable, target := cleanup.target, transport := m.transport, cleanup := true}
      ({m with
        cleanup := some {cleanup with lastAttemptEpoch := epoch, lastAttempted := true, transportEpoch := epoch}
        pendingOperation := some pending, minted := m.minted + 1},some (m.minted,cleanup.target,cleanup.attemptID))

def cleanedUp : Manager :=
  {m with pendingOperation := m.pendingOperation.filter (·.id ≠ operation)}

inductive Expiry
  | nothing
  | cleanup (epoch : Nat)
  | refresh (operation attemptedEpoch : Nat) (target : UInt8)

def idleTimerFired (gen : Nat) : Manager × Expiry :=
  if gen ≠ m.idleTimerGen || m.state ≠ .active then (m,.nothing)
  else
    match m.pendingOperation with
    | some pending => (if pending.kind = .read then {m with idleExpiryPending := true} else m,.nothing)
    | none =>
      let target := m.activeTarget
      if m.transport.epoch < m.pendingEpoch then
        let pending : Pending := {id := m.minted, kind := .disable, target := target, transport := m.transport}
        ({m with pendingOperation := some pending, minted := m.minted + 1, state := .refreshing},
          .refresh m.minted m.pendingEpoch target)
      else
        let source := m.minted
        let m := {m with minted := m.minted + 1}
        (m.toDisabled.createCleanup target m.transport.epoch (some source),.cleanup m.transport.epoch)

def expiryRefreshed (operation attemptedEpoch : Nat) (target : UInt8) (answer : Except Failure TransportKey) :
    Manager × Option TransportKey :=
  match m.pendingOperation.filter (·.id = operation) with
  | none => (m,none)
  | some pending =>
    if !m.mutexHeld || m.state ≠ .refreshing then (m,none)
    else
      match answer.toOption.filter fun key => !pending.invalidated && attemptedEpoch ≤ key.epoch && m.observedEpoch ≤ key.epoch with
      | none =>
        let m := {m with pendingOperation := none, pendingEpoch := 0, transport := {m.transport with epoch := m.observedEpoch}}
        (m.toDisabled.createCleanup target m.observedEpoch (some operation),none)
      | some key =>
        ({m with
          transport := key, observedEpoch := key.epoch, pendingEpoch := 0, state := .active
          pendingOperation := some {pending with transport := key}},some key)

def expiryDropped (target : UInt8) (transport : TransportKey) : Manager :=
  if m.isPending operation then
    ({m with pendingOperation := none}.toDisabled.createCleanup target transport.epoch (some operation))
  else m

def expiryEnd (target : UInt8) (transport : TransportKey) (outcome : DispatchOutcome) : Manager :=
  match m.pendingOperation.filter (·.id = operation) with
  | none => m
  | some pending =>
    let m := {m with pendingOperation := none}
    if pending.invalidated || transport.epoch < m.observedEpoch then
      let m := {m with pendingEpoch := 0, transport := {m.transport with epoch := m.observedEpoch}}
      let m := m.toDisabled.createCleanup target m.observedEpoch (some operation)
      {m with cleanup := m.cleanup.map fun (cleanup : Cleanup) => {cleanup with transportEpoch := m.observedEpoch}}
    else
      let m := {m.releaseOwner with state := .disabled}.createCleanup target transport.epoch (some operation)
      {m with cleanup := m.cleanup.map fun (cleanup : Cleanup) =>
        {cleanup with
          lastAttempted := true, lastAttemptEpoch := transport.epoch
          lastEmitted := outcome.emitted, lastNative := outcome.native, lastErr := outcome.err}}

def invalidatePending : Manager :=
  {m with
    pendingOperation := m.pendingOperation.map fun pending => {pending with invalidated := true}
    withdrawn := (m.pendingOperation.filter (!·.emitted)).toList.map (·.id) ++ m.withdrawn}

def unemittedEnable : Option Pending := m.pendingOperation.filter fun pending => pending.kind = .enable && !pending.emitted

def onTransportDisconnect : Manager :=
  if !m.mutexHeld then m
  else
    let m := m.invalidatePending
    match m.unemittedEnable with
    | some pending =>
      let m := {m with pendingOperation := none, pendingEpoch := 0}.releaseOwner.clearCleanupForOperation pending.id
      {m with state := .idle}
    | none =>
      let enable := m.pendingOperation.filter (·.kind = .enable)
      let target := (enable.map (·.target)).getD m.activeTarget
      m.toDisabled.createCleanup target m.transport.epoch (enable.map (·.id))

def onEpochAdvance (newEpoch : Nat) : Manager :=
  if newEpoch ≤ m.observedEpoch then m
  else
    let m := {m with observedEpoch := newEpoch, lastRefreshTransportDown := false}.invalidatePending
    match m.unemittedEnable.filter fun _ => m.state = .enabling with
    | some pending =>
      let m := {m with transport := {m.transport with epoch := newEpoch}, pendingEpoch := 0, pendingOperation := none}
      let m := m.releaseOwner.clearCleanupForOperation pending.id
      {m with state := .idle}
    | none =>
      if m.mutexHeld then {m with pendingEpoch := newEpoch}
      else {m with transport := {m.transport with epoch := newEpoch}, pendingEpoch := 0}

def resetForRestart (qualifiedTargets : List UInt8) : Manager :=
  {m.invalidatePending with
    idleTimerGen := m.idleTimerGen + 1, mutexHeld := false, activeToken := none, activeTarget := 0
    pendingOperation := none, cleanup := none, refreshFailed := false, lastRefreshTransportDown := false
    pendingEpoch := 0, idleExpiryPending := false, state := .disabled, restarted := true
    qualified := qualifiedTargets ++ m.qualified, restartFences := qualifiedTargets ++ m.qualified ++ m.restartFences}

end Manager

inductive Caller
  | enable (token : Nat)
  | read
  | disable
  | cleanup (attempt epoch : Nat)
  | expiry (transport : TransportKey)
deriving DecidableEq

def Caller.kind : Caller → OperationKind
  | .enable _ => .enable
  | .read => .read
  | _ => .disable

structure Operation where
  id : Nat
  target : UInt8
  caller : Caller
deriving DecidableEq

inductive Request
  | enable (target : UInt8)
  | read (target : UInt8)
  | disable (key : SessionKey) (target : UInt8)
deriving DecidableEq

def Request.target : Request → UInt8
  | .enable target | .read target | .disable _ target => target

inductive Event
  | request (request : Request)
  | idleExpiry (gen : Nat)
  | transportDisconnect
  | epochAdvance (epoch : Nat)
  | markQualifiedTarget (target : UInt8)
  | restart (qualifiedTargets : List UInt8)

inductive Act
  | qualify (target : UInt8) (request : Option Request)
  | start (request : Request)
  | refresh (operation : Operation) (attemptedEpoch : Nat)
  | stopIdleTimer (operation : Operation)
  | dispatch (operation : Operation)
  | admission (operation : Operation)
  | send (operation : Operation)
  | release (operation : Operation) (emitted : Bool)
  | finish (operation : Operation) (emitted : Bool)
  | attemptCleanup (epoch : Nat)
  | record (attempt epoch : Nat) (outcome : DispatchOutcome)
  | idleTimerFired (gen : Nat)
  | expiryRefresh (id attemptedEpoch : Nat) (target : UInt8)
  | expiryDropped (id : Nat) (target : UInt8) (transport : TransportKey)
  | transportDisconnect
  | epochAdvance (epoch : Nat)
  | restart (qualifiedTargets : List UInt8)
deriving DecidableEq

structure Choice where
  entropy : Bool := true
  refresh : Except Failure TransportKey := .error .transportDown
  attempts : Bool := true
  emits : Bool := true
  native : NativeResult := .ack
  err : Option Failure := none

abbrev Outcome := Effect Unit Act Manager

def launch (event : Event) (m : Manager) : Option (Outcome × Unit) :=
  let first := match event with
    | .request request => Act.qualify request.target (some request)
    | .idleExpiry gen => .idleTimerFired gen
    | .transportDisconnect => .transportDisconnect
    | .epochAdvance epoch => .epochAdvance epoch
    | .markQualifiedTarget target => .qualify target none
    | .restart targets => .restart targets
  some ({shared := m, code := [first]},())

def dispatching (operation : Operation) : Act :=
  match operation.caller with
  | .disable => .stopIdleTimer operation
  | _ => .dispatch operation

def startOwner (m : Manager) (target : UInt8) (key : Option SessionKey) (caller : Caller) : Outcome :=
  match m.beginOwnerOperation target key caller.kind with
  | (m,.error _) => {shared := m}
  | (m,.ok (id,none)) => {shared := m, code := [dispatching ⟨id,target,caller⟩]}
  | (m,.ok (id,some attemptedEpoch)) => {shared := m, code := [.refresh ⟨id,target,caller⟩ attemptedEpoch]}

def finish (m : Manager) (operation : Operation) (outcome : DispatchOutcome) : Outcome :=
  match operation.caller with
  | .enable token =>
    let (m,_,_,epoch) := m.enabled operation.id token operation.target outcome
    {shared := m, code := epoch.toList.map .attemptCleanup}
  | .read =>
    let (m,_,epoch) := m.readEnd operation.id operation.target outcome
    {shared := m, code := epoch.toList.map .attemptCleanup}
  | .disable =>
    let (m,_,attempt) := m.disableEnd operation.id operation.target outcome
    {shared := m, code := attempt.toList.map fun (attempt,epoch) => .record attempt epoch outcome}
  | .cleanup attempt epoch => {shared := m.cleanedUp operation.id, code := [.record attempt epoch outcome]}
  | .expiry transport => {shared := m.expiryEnd operation.id operation.target transport outcome}

def perform (choice : Choice) (act : Act) (m : Manager) : Option Outcome :=
  match act with
  | .qualify target request => some {shared := m.markQualifiedTarget target, code := request.toList.map .start}
  | .start (.enable target) =>
    match m.enable target choice.entropy with
    | (m,.error _) => some {shared := m}
    | (m,.ok (token,id)) => some {shared := m, code := [.dispatch ⟨id,target,.enable token⟩]}
  | .start (.read target) => some (startOwner m target none .read)
  | .start (.disable key target) => some (startOwner m target (some key) .disable)
  | .refresh operation attemptedEpoch =>
    match m.refreshedOwner operation.id attemptedEpoch operation.target (m.refreshAnswer choice.refresh) with
    | (m,.error _) => some {shared := m}
    | (m,.ok _) => some {shared := m, code := [dispatching operation]}
  | .stopIdleTimer operation => some {shared := m.stopIdleTimer operation.id, code := [.dispatch operation]}
  | .dispatch operation => some {shared := m, code := [if choice.attempts then .admission operation else .finish operation false]}
  | .admission operation =>
    if m.emissionMu then none
    else
      match m.admitPendingEmission operation.id operation.target with
      | none => some {shared := m, code := [.dispatch operation]}
      | some m => some {shared := {m with emissionMu := true}, code := [.send operation]}
  | .send operation =>
    let frame : Frame := ⟨operation.caller.kind,operation.target,operation.id⟩
    some {
      shared := if choice.emits then {m with frames := m.frames ++ [frame]} else m
      code := [.release operation choice.emits]}
  | .release operation emitted =>
    some {shared := {m with emissionMu := false}, code := [if emitted then .finish operation true else .dispatch operation]}
  | .finish operation emitted => some (finish m operation ⟨emitted,choice.native,choice.err⟩)
  | .attemptCleanup epoch =>
    match m.attemptCleanup epoch with
    | (m,none) => some {shared := m}
    | (m,some (id,target,attempt)) => some {shared := m, code := [.dispatch ⟨id,target,.cleanup attempt epoch⟩]}
  | .record attempt epoch outcome => some {shared := m.recordCleanupOutcome attempt epoch outcome}
  | .idleTimerFired gen =>
    match m.idleTimerFired gen with
    | (m,.nothing) => some {shared := m}
    | (m,.cleanup epoch) => some {shared := m, code := [.attemptCleanup epoch]}
    | (m,.refresh id attemptedEpoch target) => some {shared := m, code := [.expiryRefresh id attemptedEpoch target]}
  | .expiryRefresh id attemptedEpoch target =>
    match m.expiryRefreshed id attemptedEpoch target (m.refreshAnswer choice.refresh) with
    | (m,none) => some {shared := m}
    | (m,some transport) =>
      some {
        shared := m
        code := [if m.cleans then .dispatch ⟨id,target,.expiry transport⟩ else .expiryDropped id target transport]}
  | .expiryDropped id target transport => some {shared := m.expiryDropped id target transport}
  | .transportDisconnect => some {shared := m.onTransportDisconnect}
  | .epochAdvance epoch => if m.emissionMu then none else some {shared := m.onEpochAdvance epoch}
  | .restart targets => some {shared := m.resetForRestart targets}

def program : Program Unit Act Manager Event Choice where
  sequential _ := false
  launch := launch
  perform := perform

abbrev System := Machine Unit Act Manager

def created (transport : TransportKey) (idles refreshes cleans : Bool) : System :=
  ⟨Manager.create transport idles refreshes cleans,[]⟩

def step : System → Move Event Choice → Option System := Machine.step program

end EbusGateway.B503
