import EbusGateway.DriverManager.Lifecycle

/-! The bridge between the driver manager and the hub for the primary eBUS driver. A goroutine is a call of the
bridge or of a hook, or a stop or retirement that it forked; its actions are the critical sections of the bridge's
lock and the calls of manager and hub, whose results are chosen. The manager runs one admission hold at a time, for
increasing native generations. Returned values, evidence and observation data are left out. The `uint64`
generations are natural numbers: a run is taken to count none of them up to 2^64.
-/
namespace EbusGateway.EbusControl
open Library
open DriverManager (ObservedState DesiredState ReasonCode CloseClass)

structure Correlation where
  driverID : String := "ebus.primary"
  sourceID : String := ""
  epoch : String
  generation : Nat := 1
  sequence : Nat := 0

structure Key where
  driverID : String := ""
  sourceID : String := ""
  epoch : String := ""
  generation : Nat := 0
  sequence : Nat := 0
deriving DecidableEq

structure Handle where
  epoch : String := ""
  generation : Nat := 0
  token : Nat := 0

structure SourceInfo where
  epoch : String
  generation : Nat
  live : Bool

structure Mapping where
  key : Key
  native : Nat
  operation : Nat
  automatic : Bool

structure Retry where
  attempt : Nat
  persistent : Bool
  scheduled : Bool

structure Snapshot where
  desired : DesiredState := .running
  observed : ObservedState := .starting
  reason : ReasonCode := .none
  generation : Nat := 0
  revision : Nat := 0
  activeOperation : Nat := 0
  quarantined : Bool := false
  retry : Option Retry := none

structure Epoch where
  key : Key := {}
  opened : Handle := {}
  handle : Handle := {}
  generation : Nat := 0
  native : Nat := 0
  mappings : List Mapping := []
  fenced : Bool := false
  launched : Bool := false
  startDone : Bool := false
  startFailed : Bool := false
  dispatched : Bool := false
  dispatchRevision : Nat := 0
  recovering : Bool := false
  retired : Bool := false
  retiring : Bool := false
  closeClass : Option CloseClass := none
  closed : Bool := false

inductive Note
  | started (epoch : String)
  | passed (epoch : String)
deriving DecidableEq

/-- The bridge. Epochs are named by number, `count` of them in use. `holding` and `constructed` are the manager's:
whether a hold runs and the last native generation held. `recorded` are the mappings of all epochs as recorded. -/
structure Bridge where
  id : String := "ebus.primary"
  source : String
  prepared : Bool := false
  initial : Handle := {}
  current : Option Nat := none
  history : List (String × Nat) := []
  tombstones : List String := []
  quarantined : Bool := false
  nativeStop : Option Nat := none
  lastClose : Option CloseClass := none
  opMu : Bool := false
  dispatchMu : Bool := false
  epochs : Nat → Epoch := fun _ => {}
  count : Nat := 0
  holding : Bool := false
  constructed : Option Nat := none
  recorded : List Mapping := []
  journal : List Note := []

def newEpoch (key : Key) (handle : Handle) : Epoch := {key := key, opened := handle, handle := handle, generation := key.generation}

structure Hold where
  native : Nat
  operation : Nat := 0
  retry : Bool := false

structure Held where
  hold : Hold
  epoch : Nat
  handle : Handle
  generation : Nat
  replacement : Bool

inductive Binding
  | refused
  | join (epoch : Nat)
  | first (epoch : Nat)
  | successor (pred : Nat)

namespace Bridge

variable (b : Bridge) (i : Nat)

def key (corr : Correlation) : Option Key :=
  if corr.driverID ≠ b.id || (corr.sourceID ≠ "" && corr.sourceID ≠ b.source) || corr.epoch = "" then none
  else some ⟨corr.driverID,b.source,corr.epoch,corr.generation,corr.sequence⟩

def update (b : Bridge) (i : Nat) (f : Epoch → Epoch) : Bridge := {b with epochs := Function.update b.epochs i (f (b.epochs i))}

def fence : Bridge := b.update i fun epoch => {epoch with fenced := true}

def install (key : Key) (handle : Handle) : Bridge :=
  {b with epochs := Function.update b.epochs b.count {newEpoch key handle with launched := true}, count := b.count + 1, current := some b.count}

def bind (key : Key) : Bridge × Binding :=
  if !b.prepared then (b,.refused)
  else if b.tombstones.contains key.epoch || (b.history.lookup key.epoch).isSome then (b,.refused)
  else
    match b.current.filter fun pred => (b.epochs pred).key.epoch = key.epoch with
    | some pred => (b,if (b.epochs pred).key ≠ key then .refused else .join pred)
    | none =>
      if b.quarantined || key.generation ≠ 1 then (b,.refused)
      else
        match b.current with
        | none => (b.install key b.initial,.first b.count)
        | some pred => (b,if !(b.epochs pred).fenced || !(b.epochs pred).closed then .refused else .successor pred)

def succeed (key : Key) (pred : Nat) (handle : Handle) : Bridge × Bool :=
  let next := {b.install key handle with history := ((b.epochs pred).key.epoch,pred) :: b.history}
  if b.tombstones.contains key.epoch then
    ((next.fence b.count).update b.count fun epoch => {epoch with closed := true, closeClass := some .notRequired},true)
  else (next,false)

def recoveryHandover (snapshot : Snapshot) : Bridge × Bool :=
  let epoch := b.epochs i
  if epoch.recovering then (b,true)
  else if b.current ≠ some i || epoch.fenced || !epoch.dispatched || b.quarantined || epoch.startDone then (b,false)
  else if snapshot.observed ≠ .backoff || snapshot.reason ≠ .retryScheduled || snapshot.desired ≠ .running || snapshot.quarantined ||
      snapshot.revision ≤ epoch.dispatchRevision || !(snapshot.retry.any fun retry =>
        retry.persistent && 1 ≤ retry.attempt && retry.scheduled) then (b,false)
  else (b.update i fun epoch => {epoch with recovering := true, startDone := true},true)

def checkDispatch (revision : Nat) : Bridge × Bool :=
  if (b.epochs i).fenced || b.current ≠ some i then (b,false)
  else (b.update i fun epoch => {epoch with dispatched := true, dispatchRevision := revision},true)

def failStart : Bridge :=
  b.update i fun epoch => {epoch with fenced := true, startFailed := epoch.startFailed || !epoch.startDone, startDone := true}

def stop (key : Key) : Bridge × Option Nat :=
  match (b.current.filter fun i => (b.epochs i).key.epoch = key.epoch).or (b.history.lookup key.epoch) with
  | none => ({b with tombstones := key.epoch :: b.tombstones},none)
  | some i => (b.fence i,some i)

def ensureNativeStop : Bridge × Bool :=
  if (b.epochs i).closed || b.nativeStop.isSome then (b,false) else ({b with nativeStop := some i},true)

def stopped (closeClass : CloseClass) : Bridge :=
  let next := b.update i fun epoch => {epoch with closeClass := some closeClass, closed := epoch.closed || closeClass.isProven}
  {next with lastClose := some closeClass, quarantined := b.quarantined || closeClass = .unconfirmed, nativeStop := none}

def observeClose (closeClass : CloseClass) : Bridge := {b with quarantined := b.quarantined || closeClass = .unconfirmed}

def holdAdmission (hold : Hold) : Option Held :=
  b.current.bind fun i =>
    let epoch := b.epochs i
    if epoch.fenced || b.quarantined || !epoch.launched || hold.native = 0 then none
    else if epoch.native ≠ 0 && hold.native ≤ epoch.native then none
    else some ⟨hold,i,epoch.handle,epoch.generation,epoch.native ≠ 0⟩

def record (mapping : Mapping) : Bridge :=
  {b.update i fun epoch => {epoch with native := mapping.native, mappings := epoch.mappings ++ [mapping]} with recorded := b.recorded ++ [mapping]}

def holdActivated (held : Held) (activated : Handle) : Bridge :=
  let next := if b.current = some held.epoch then
      b.update held.epoch fun epoch => {epoch with handle := activated, generation := held.generation + 1}
    else b
  if b.current ≠ some held.epoch || (b.epochs held.epoch).fenced then next
  else next.record held.epoch ⟨{(b.epochs held.epoch).key with generation := held.generation + 1},
    held.hold.native,held.hold.operation,true⟩

def holdRecord (held : Held) : Bridge :=
  if b.current ≠ some held.epoch || (b.epochs held.epoch).fenced || (b.epochs held.epoch).native ≠ 0 then b
  else b.record held.epoch ⟨{(b.epochs held.epoch).key with generation := held.generation},
    held.hold.native,held.hold.operation,held.hold.retry⟩

def admittedKey (snapshot : Snapshot) : Option (Nat × Key) :=
  b.current.bind fun i =>
    let epoch := b.epochs i
    if epoch.fenced || epoch.native = 0 || b.quarantined then none
    else if snapshot.observed ≠ .running && snapshot.observed ≠ .degraded then none
    else if snapshot.generation ≠ epoch.native then none
    else some (i,{epoch.key with generation := epoch.generation})

def admitted (snapshot : Snapshot) (key : Key) : Bool := (b.admittedKey snapshot).any (·.2 = key)

def publicationHandle (snapshot : Snapshot) (key : Key) : Option Handle :=
  ((b.admittedKey snapshot).filter (·.2 = key)).map fun found => (b.epochs found.1).handle

end Bridge

inductive Next
  | done
  | succeed (key : Key) (pred : Nat)
  | refuse
deriving DecidableEq

inductive Act
  | prepare
  | admitSource
  | start (corr : Correlation)
  | bind (key : Key)
  | retire (epoch : Nat) (next : Next)
  | retireWait (epoch : Nat) (next : Next)
  | retireCall (epoch : Nat) (handle : Handle) (next : Next)
  | retireEnd (epoch : Nat) (success : Bool) (next : Next)
  | admitSuccessor (key : Key) (pred : Nat)
  | succeed (key : Key) (pred : Nat) (handle : Handle)
  | unlockOp
  | dispatch (epoch : Nat)
  | check (epoch : Nat) (revision : Nat)
  | startAsync (epoch : Nat)
  | watch (epoch : Nat)
  | started (epoch : Nat)
  | failStart (epoch : Nat)
  | ensureNativeStop (epoch : Nat) (retire : Bool)
  | stopWithReport (epoch : Nat)
  | stop (corr : Correlation)
  | awaitDispatchIdle (epoch : Nat)
  | hold (hold : Hold)
  | holdGate (held : Held)
  | holdSource (held : Held)
  | holdFence (held : Held)
  | holdActivate (held : Held)
  | holdActivated (held : Held) (activated : Handle)
  | holdRecord (held : Held)
  | observeClose (closeClass : CloseClass)
  | nativeObservation (snapshot : Snapshot)

inductive Event
  | prepare
  | start (corr : Correlation)
  | stop (corr : Correlation)
  | hold (hold : Hold)
  | observeClose (closeClass : CloseClass)
  | nativeObservation (snapshot : Snapshot)

structure Choice where
  cancelled : Bool := false
  succeeds : Bool := true
  unavailable : Bool := false
  handle : Handle := {}
  info : Option SourceInfo := none
  snapshot : Snapshot := {}
  closeClass : CloseClass := .proven

abbrev Outcome := Effect Unit Act Bridge

def launch (event : Event) (b : Bridge) : Option (Outcome × Unit) :=
  match event with
  | .prepare => some ({shared := b, code := [.prepare]},())
  | .start corr => some ({shared := b, code := [.start corr]},())
  | .stop corr => some ({shared := b, code := [.stop corr]},())
  | .hold hold =>
    if b.holding || !(b.constructed.all (· < hold.native)) then none
    else some ({shared := {b with holding := true, constructed := some hold.native}, code := [.hold hold]},())
  | .observeClose closeClass => some ({shared := b, code := [.observeClose closeClass]},())
  | .nativeObservation snapshot => some ({shared := b, code := [.nativeObservation snapshot]},())

def resume (next : Next) (success : Bool) : List Act :=
  match next with
  | .done => []
  | .succeed key pred => if success then [.admitSuccessor key pred] else [.unlockOp]
  | .refuse => [.unlockOp]

def holdOn (b : Bridge) : Option Act → Outcome
  | some act => {shared := b, code := [act]}
  | none => {shared := {b with holding := false}}

def Held.live (held : Held) (info : Option SourceInfo) : Option Act :=
  info.bind fun info =>
    if held.replacement then
      if info.epoch ≠ held.handle.epoch || info.generation ≠ held.generation then none
      else some (if info.live then .holdFence held else .holdActivate held)
    else if !info.live || info.epoch ≠ held.handle.epoch || info.generation ≠ held.handle.generation || held.handle.generation ≠ held.generation then none
    else some (.holdRecord held)

def watched (epoch : Nat) (native : Nat) (snapshot : Snapshot) (cancelled : Bool) : Act :=
  let wait : Act := if cancelled then .failStart epoch else .watch epoch
  match snapshot.observed with
  | .running | .degraded => if native = 0 then .failStart epoch else if native = snapshot.generation then .started epoch else wait
  | .failed => if snapshot.activeOperation = 0 then .failStart epoch else wait
  | .stopped | .disabled => if snapshot.desired = .stopped then .failStart epoch else wait
  | _ => wait

def perform (choice : Choice) (act : Act) (b : Bridge) : Option Outcome :=
  match act with
  | .prepare =>
    if b.opMu then none
    else if b.prepared then some {shared := b}
    else some {shared := {b with opMu := true}, code := [.admitSource]}
  | .admitSource =>
    if choice.succeeds then some {shared := {b with opMu := false, prepared := true, initial := choice.handle}}
    else some {shared := {b with opMu := false}}
  | .start corr =>
    match b.key corr with
    | none => some {shared := b}
    | some key => some {shared := b, code := if key.generation = 0 then [] else [.bind key]}
  | .bind key =>
    if b.opMu then none
    else
      match b.bind key with
      | (b,.refused) | (b,.join _) => some {shared := b}
      | (b,.first epoch) => some {shared := b, code := [.dispatch epoch]}
      | (b,.successor pred) => some {shared := {b with opMu := true}, code := [.retire pred (.succeed key pred)]}
  | .retire epoch next =>
    if (b.epochs epoch).retired then some {shared := b, code := resume next true}
    else if (b.epochs epoch).retiring then some {shared := b, code := [.retireWait epoch next]}
    else some {shared := b.update epoch fun epoch => {epoch with retiring := true}, code := [.retireCall epoch (b.epochs epoch).handle next]}
  | .retireWait epoch next => some {shared := b, code := resume next (!choice.cancelled && (b.epochs epoch).retired)}
  | .retireCall epoch _ next =>
    if choice.succeeds then
      some {shared := b.update epoch fun epoch => {epoch with retired := true}, code := [.retireEnd epoch true next]}
    else some {shared := b, code := [.retireEnd epoch false next]}
  | .retireEnd epoch success next =>
    some {shared := b.update epoch fun epoch => {epoch with retiring := false}, code := resume next success}
  | .admitSuccessor key pred =>
    some {shared := b, code := if choice.succeeds then [.succeed key pred choice.handle] else [.unlockOp]}
  | .succeed key pred handle =>
    match b.succeed key pred handle with
    | (next,true) => some {shared := next, code := [.retire b.count .refuse]}
    | (next,false) => some {shared := {next with opMu := false}, code := [.dispatch b.count]}
  | .unlockOp => some {shared := {b with opMu := false}}
  | .dispatch epoch =>
    if b.dispatchMu then none else some {shared := {b with dispatchMu := true}, code := [.check epoch choice.snapshot.revision]}
  | .check epoch revision =>
    match b.checkDispatch epoch revision with
    | (b,true) => some {shared := b, code := [.startAsync epoch]}
    | (b,false) => some {shared := {b with dispatchMu := false}, code := [.failStart epoch]}
  | .startAsync epoch =>
    some {
      shared := {b with journal := b.journal ++ [.started (b.epochs epoch).key.epoch], dispatchMu := false}
      code := [if choice.succeeds then .watch epoch
        else if choice.unavailable && !choice.cancelled then .dispatch epoch else .failStart epoch]}
  | .watch epoch =>
    let (next,recovering) := b.recoveryHandover epoch choice.snapshot
    if (b.epochs epoch).fenced || b.current ≠ some epoch then some {shared := b, code := [.failStart epoch]}
    else if recovering then some {shared := next}
    else some {shared := b, code := [watched epoch (b.epochs epoch).native choice.snapshot choice.cancelled]}
  | .started epoch =>
    if (b.epochs epoch).fenced then some {shared := b, code := [.watch epoch]}
    else if (b.epochs epoch).recovering then some {shared := b}
    else some {shared := b.update epoch fun epoch => {epoch with startDone := true}}
  | .failStart epoch => some {shared := b.failStart epoch, code := [.ensureNativeStop epoch false]}
  | .ensureNativeStop epoch retire =>
    let (b,runs) := b.ensureNativeStop epoch
    some {
      shared := b
      forked := (if runs then [⟨(),[.stopWithReport epoch]⟩] else []) ++ if retire then [⟨(),[.retire epoch .done]⟩] else []}
  | .stopWithReport epoch => some {shared := b.stopped epoch choice.closeClass}
  | .stop corr =>
    match b.key corr with
    | none => some {shared := b}
    | some key =>
      match b.stop key with
      | (b,none) => some {shared := b}
      | (b,some epoch) => some {shared := b, code := [.awaitDispatchIdle epoch]}
  | .awaitDispatchIdle epoch =>
    if b.dispatchMu then none
    else some {shared := {b with journal := b.journal ++ [.passed (b.epochs epoch).key.epoch]}, code := [.ensureNativeStop epoch true]}
  | .hold hold => some (holdOn b ((b.holdAdmission hold).map .holdGate))
  | .holdGate held =>
    some (holdOn b (if choice.cancelled || held.replacement && !choice.succeeds then none else some (.holdSource held)))
  | .holdSource held => some (holdOn b (held.live choice.info))
  | .holdFence held => some (holdOn b (if choice.succeeds then some (.holdActivate held) else none))
  | .holdActivate held =>
    let activated : Handle := {held.handle with generation := held.generation + 1, token := choice.handle.token}
    some (holdOn b (if choice.succeeds then some (.holdActivated held activated) else none))
  | .holdActivated held activated => some (holdOn (b.holdActivated held activated) none)
  | .holdRecord held => some (holdOn (b.holdRecord held) none)
  | .observeClose closeClass => some {shared := b.observeClose closeClass}
  | .nativeObservation snapshot =>
    match b.current with
    | none => some {shared := b}
    | some epoch =>
      if (b.epochs epoch).fenced || (b.epochs epoch).startDone then some {shared := b}
      else some {shared := (b.recoveryHandover epoch snapshot).1}

def program : Program Unit Act Bridge Event Choice where
  sequential _ := false
  launch := launch
  perform := perform

abbrev System := Machine Unit Act Bridge

def created (source : String) : System := ⟨{source := source},[]⟩

def step : System → Move Event Choice → Option System := Machine.step program

end EbusGateway.EbusControl
