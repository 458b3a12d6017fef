import EbusGateway.Library.Goroutine
import EbusGateway.Library.Transition

/-! The lifecycle of one managed driver. A goroutine is a call of the manager or one of its retry tasks; its
next action is a critical section of the driver's lock, a call of the runtime or of a hook, or the wait for
the operation lock. What runtime, quarantine flag, hooks and classifier answer is chosen at every call. Clock
readings, watch channels and the display data of a retry are left out.
-/
namespace EbusGateway.DriverManager
open Library

inductive DesiredState
  | running
  | stopped
deriving DecidableEq

inductive ObservedState
  | disabled
  | stopped
  | starting
  | running
  | degraded
  | backoff
  | stopping
  | failed
deriving DecidableEq

inductive ReasonCode
  | none
  | configDisabled
  | operatorStopped
  | startRequested
  | stopRequested
  | configInvalid
  | providerUnavailable
  | dependencyUnavailable
  | runtimeNotReady
  | capabilityDegraded
  | retryScheduled
  | retryExhausted
  | stopTimeout
  | closeUnconfirmed
  | internalError
deriving DecidableEq

inductive Capability
  | discovery
  | pairing
  | rawEvidence
  | read
  | semanticProjection
  | topology
  | write
deriving DecidableEq

structure Reason where
  code : ReasonCode
  retryable : Bool := false

def normalizeReason (reason : Reason) : Reason :=
  match reason.code with
  | .dependencyUnavailable | .runtimeNotReady | .retryScheduled => reason
  | _ => {reason with retryable := false}

def normalizeCapabilities (capabilities : List Capability) : List Capability :=
  [.discovery,.pairing,.rawEvidence,.read,.semanticProjection,.topology,.write].filter capabilities.contains

/-- An error of the runtime or of a hook: which sentinel errors it wraps and what the driver's classifier says
about it. -/
structure RuntimeError where
  safetyQuarantined : Bool := false
  stopTimeout : Bool := false
  unavailable : Bool := false
  failure : Reason := ⟨.internalError,false⟩

structure RetryPolicy where
  budget : Nat := 0
  persistent : Bool := false

structure DriverConfig where
  enabled : Bool := true
  runtime : Bool := true
  capabilities : List Capability := [.read]
  retry : RetryPolicy := {}

inductive CloseClass
  | notRequired
  | proven
  | provenAfterDrainTimeout
  | unconfirmed
  | internalError
deriving DecidableEq

def CloseClass.isProven : CloseClass → Bool
  | .notRequired | .proven | .provenAfterDrainTimeout => true
  | _ => false

def classifyClose (err : Option RuntimeError) (quarantined : Bool) : CloseClass :=
  if quarantined || err.any (·.safetyQuarantined) then .unconfirmed
  else
    match err with
    | none => .proven
    | some e => if e.stopTimeout then .provenAfterDrainTimeout else .internalError

/-- How a close was established, which the report itself does not say. `again` is the second reading of the
runtime's quarantine flag. -/
inductive Evidence
  | quarantined
  | nothingAdmitted
  | stop (err : Option RuntimeError) (again : Bool)
  | withdrawal

structure CloseReport where
  closeClass : CloseClass
  generation : Nat
  operation : Nat
  observed : ObservedState
  reason : Reason
  evidence : Evidence

structure Attempt where
  id : Nat
  operation : Nat
  replacing : Bool
  retry : Bool

inductive Call
  | began (attempt : Nat) (cancelled : Bool)
  | returned (attempt : Nat) (success : Bool)
  | published (attempt : Nat)
  | stopBegan
deriving DecidableEq

/-- The driver with the manager's `closed`; `opMu` says that the operation lock is held. Attempts are numbered
by `attempts`, and `cancelled`, `inFlight`, `calls` and `reports` only record. -/
structure Driver where
  desired : DesiredState := .running
  observed : ObservedState := .stopped
  reason : Reason := ⟨.none,false⟩
  generation : Nat := 0
  revision : Nat := 1
  attempt : Nat := 0
  effective : List Capability := []
  quarantined : Bool := false
  operationSeq : Nat := 0
  activeOperation : Nat := 0
  retryRemaining : Nat := 0
  retrySeries : Nat := 0
  retryToken : Nat := 0
  retryNeedsReplace : Bool := false
  needsReplace : Bool := false
  activeAttempt : Option Nat := none
  opMu : Bool := false
  closed : Bool := false
  attempts : Nat := 0
  cancelled : List Nat := []
  inFlight : List Nat := []
  calls : List Call := []
  reports : List CloseReport := []

structure Correlation where
  generation : Nat
  operation : Nat

inductive Operation
  | start (async : Bool)
  | replace
  | stop
  | retry (operation token : Nat)
deriving DecidableEq

inductive Act
  | closeManager
  | cancelRetry (op : Operation) (shutdown : Bool)
  | cancelActive
  | lock (op : Operation)
  | cancelRetryLocked (op : Operation)
  | run (op : Operation)
  | cancelAttempt (attempt : Option Nat) (found : Option CloseReport) (generation operation : Nat)
  | runtimeStop (generation operation : Nat)
  | stopped (generation operation : Nat)
  | unlock (report : CloseReport)
  | publish (report : CloseReport) (after : Option Attempt)
  | beginTask (operation : Nat) (replacing : Bool)
  | startAttempt (operation : Nat) (replacing retry : Bool)
  | construct (attempt : Attempt)
  | constructed (attempt : Attempt)
  | judge (attempt : Attempt) (generation : Nat) (err : Option RuntimeError)
  | hold (attempt : Attempt) (generation : Nat)
  | rejudge (attempt : Attempt) (generation : Nat) (holdErr : Option RuntimeError)
  | retireSuperseded (attempt : Attempt) (generation : Nat)
  | supersededStopped (attempt : Attempt) (generation : Nat)
  | retireHeld (attempt : Attempt) (generation : Nat) (holdErr : RuntimeError)
  | heldStopped (attempt : Attempt) (generation : Nat) (holdErr : RuntimeError)
  | finishAttempt (attempt : Attempt) (generation : Nat) (err : Option RuntimeError) (replacing : Bool) (held : Option CloseReport)
  | observe (report : CloseReport) (attempt : Attempt)
  | release (attempt : Attempt)
  | retryWait (operation token : Nat)
  | reportFailure (correlation : Correlation) (failure : Reason)
  | reportDegraded (correlation : Correlation) (effective : List Capability) (reason : Reason)

structure Choice where
  err : Option RuntimeError := none
  generation : Nat := 0
  quarantined : Bool := false
  again : Bool := false
  hold : Option (Option RuntimeError) := none
  due : Bool := true

inductive Event
  | start (async : Bool)
  | replace
  | stop
  | shutdown
  | reportFailure (correlation : Correlation) (failure : Reason)
  | reportDegraded (correlation : Correlation) (effective : List Capability) (reason : Reason)

inductive Refusal
  | managerClosed
  | safetyQuarantined
  | unavailable

abbrev Outcome := Effect Unit Act Driver

namespace Driver

variable (config : DriverConfig) (d : Driver)

def create : Driver :=
  if config.enabled then {retryRemaining := config.retry.budget}
  else {
    retryRemaining := config.retry.budget, desired := .stopped
    observed := .disabled, reason := ⟨.configDisabled,false⟩}

def transition (observed : ObservedState) (reason : Reason) (effective : List Capability) : Driver :=
  {d with
    observed := observed, reason := normalizeReason reason, effective := normalizeCapabilities effective
    revision := d.revision + 1}

def nextOperation : Driver :=
  {d with operationSeq := d.operationSeq + 1, activeOperation := d.operationSeq + 1}

def resetRetry : Driver := {d with retryRemaining := config.retry.budget, retrySeries := 0}

def superseded (operation : Nat) : Bool := d.activeOperation ≠ operation || d.desired ≠ .running

def logged (call : Call) : Driver := {d with calls := d.calls ++ [call]}

def quarantine : Driver :=
  {d with quarantined := true, activeOperation := 0}.transition .failed ⟨.closeUnconfirmed,false⟩ []

def cancelRetry : Driver := {d with retryToken := d.retryToken + 1}

def cancel (attempt : Option Nat) : Driver := {d with cancelled := attempt.toList ++ d.cancelled}

def reserve (observed : ObservedState) (reason : Reason) : Driver :=
  let reserved := ({d with desired := .running}.resetRetry config).nextOperation.transition observed reason []
  {reserved with attempt := d.attempt + 1}

def start : Driver × Except Refusal (Option (Nat × Bool)) :=
  if d.closed then (d,.error .managerClosed)
  else if d.quarantined then (d,.error .safetyQuarantined)
  else if d.observed = .running || d.desired = .running && (d.observed = .degraded || d.observed = .starting) then (d,.ok none)
  else if d.activeAttempt.isSome || d.observed = .stopping then (d,.error .unavailable)
  else (d.reserve config .starting ⟨.startRequested,false⟩,.ok (some (d.operationSeq + 1,d.needsReplace)))

def replace : Driver × Except Refusal Nat :=
  if d.closed then (d,.error .managerClosed)
  else if d.quarantined then (d,.error .safetyQuarantined)
  else if d.observed = .starting || d.observed = .stopping || d.activeAttempt.isSome then (d,.error .unavailable)
  else (d.reserve config .stopping ⟨.stopRequested,false⟩,.ok (d.operationSeq + 1))

def report (closeClass : CloseClass) (operation : Nat) (evidence : Evidence) : CloseReport :=
  ⟨closeClass,d.generation,operation,d.observed,d.reason,evidence⟩

def stop (runtimeQuarantined : Bool) : Driver × Option CloseReport :=
  if d.quarantined then
    let d := if d.desired ≠ .stopped then {d with desired := .stopped}.transition .failed ⟨.closeUnconfirmed,false⟩ [] else d
    (d,some (d.report .unconfirmed 0 .quarantined))
  else
    let d := {d with desired := .stopped}
    if d.observed = .stopped || d.observed = .disabled then
      let closeClass :=
        if runtimeQuarantined then .unconfirmed
        else if d.activeAttempt.isSome then .internalError
        else .notRequired
      (d,some (d.report closeClass 0 .nothingAdmitted))
    else (d.nextOperation.transition .stopping ⟨.stopRequested,false⟩ [],none)

def stopped (d : Driver) (err : Option RuntimeError) (again : Bool) : Driver :=
  let d := {d with activeOperation := 0}
  match err with
  | none => {d with needsReplace := false}.transition .stopped ⟨.operatorStopped,false⟩ []
  | some e =>
    if e.stopTimeout then {d with needsReplace := false}.transition .stopped ⟨.stopTimeout,false⟩ []
    else if e.safetyQuarantined || again then {d with quarantined := true}.transition .failed ⟨.closeUnconfirmed,false⟩ []
    else d.transition .failed ⟨.internalError,false⟩ []

def retryContinues : Bool := 0 < d.retryRemaining || config.retry.persistent

def scheduleRetry (operation : Nat) (replacing : Bool) : Driver × List (Thread Unit Act) :=
  let d := {d with retryRemaining := d.retryRemaining - 1, retrySeries := d.retrySeries + 1}
  let d := d.transition .backoff ⟨.retryScheduled,true⟩ []
  let d := {d with retryToken := d.retryToken + 1, retryNeedsReplace := replacing}
  (d,if d.closed then [] else [⟨(),[.retryWait operation d.retryToken]⟩])

def retryOrFail (operation : Nat) (replacing : Bool) (reason : Reason) :
    Driver × List (Thread Unit Act) :=
  if reason.retryable && d.retryContinues config then d.scheduleRetry operation replacing
  else ({d with activeOperation := 0}.transition .failed (if reason.retryable then ⟨.retryExhausted,false⟩ else reason) [],[])

def clearAttempt (attempt : Attempt) : Driver :=
  {d with activeAttempt := if d.activeAttempt = some attempt.id then none else d.activeAttempt}

def failAttempt (operation : Nat) (e : RuntimeError) (replacing runtimeQuarantined : Bool) :
    Driver × List (Thread Unit Act) :=
  if e.safetyQuarantined || runtimeQuarantined then (d.quarantine,[])
  else
    {d with needsReplace := d.needsReplace || replacing}.retryOrFail config operation replacing
      (if e.unavailable then ⟨.providerUnavailable,false⟩ else normalizeReason e.failure)

def finishAttempt (attempt : Attempt) (generation : Nat) (err : Option RuntimeError)
    (replacing runtimeQuarantined : Bool) : Driver × List (Thread Unit Act) :=
  let d := d.clearAttempt attempt
  if d.closed || d.superseded attempt.operation then (d,[])
  else
    match err with
    | none =>
      let d := {d with generation := generation, attempt := 1, quarantined := false, needsReplace := false, activeOperation := 0}
      (((d.resetRetry config).transition .running ⟨.none,false⟩ config.capabilities).logged (.published attempt.id),[])
    | some e => d.failAttempt config attempt.operation e replacing runtimeQuarantined

def acceptsCallback (correlation : Correlation) : Bool :=
  !d.quarantined && d.desired = .running && d.generation = correlation.generation && d.activeOperation = correlation.operation

def settled : Bool := d.observed = .running || d.observed = .degraded

def reportFailure (correlation : Correlation) (failure : Reason) :
    Driver × List (Thread Unit Act) :=
  if d.closed || !d.acceptsCallback correlation || !d.settled then (d,[])
  else
    ({d.nextOperation with needsReplace := true}.resetRetry config).retryOrFail config
      (d.operationSeq + 1) true (normalizeReason failure)

def reportDegraded (correlation : Correlation) (effective : List Capability) (reason : Reason) :
    Driver :=
  let effective := normalizeCapabilities effective
  let capabilities := normalizeCapabilities config.capabilities
  if reason.code ≠ .capabilityDegraded || d.closed || !d.acceptsCallback correlation || !d.settled || effective = [] ||
      capabilities.length ≤ effective.length || !effective.all capabilities.contains then d
  else d.transition .degraded reason effective

def invoke (capability : Capability) : Bool := !d.closed && d.effective.contains capability && !d.quarantined

end Driver

def launch (event : Event) (d : Driver) : Option (Outcome × Unit) :=
  let first := match event with
    | .start async => Act.cancelRetry (.start async) false
    | .replace => .cancelRetry .replace false
    | .stop => .cancelRetry .stop false
    | .shutdown => .closeManager
    | .reportFailure correlation failure => .reportFailure correlation failure
    | .reportDegraded correlation effective reason => .reportDegraded correlation effective reason
  some ({shared := d, code := [first]},())

variable (config : DriverConfig)

def runOperation (choice : Choice) (op : Operation) (d : Driver) : Outcome :=
  match op with
  | .start async =>
    match d.start config with
    | (d,.ok (some (operation,replacing))) => {
        shared := {d with opMu := false}
        code := [if async then .beginTask operation replacing else .startAttempt operation replacing false]}
    | (d,_) => {shared := {d with opMu := false}}
  | .replace =>
    match d.replace config with
    | (d,.ok operation) => {shared := {d with opMu := false}, code := [.startAttempt operation true false]}
    | (d,.error _) => {shared := {d with opMu := false}}
  | .stop =>
    let (next,found) := d.stop (config.runtime && choice.quarantined)
    {shared := next, code := [.cancelAttempt d.activeAttempt found d.generation next.activeOperation]}
  | .retry operation token =>
    if d.closed || d.retryToken ≠ token || d.superseded operation || d.observed ≠ .backoff || d.quarantined then
      {shared := {d with opMu := false}}
    else
      let started := d.transition .starting ⟨.startRequested,false⟩ []
      {
        shared := {started with attempt := d.attempt + 1, opMu := false}
        code := [.startAttempt operation d.retryNeedsReplace true]}

def perform (choice : Choice) (act : Act) (d : Driver) : Option Outcome :=
  match act with
  | .closeManager => some {shared := {d with closed := true}, code := [.cancelRetry .stop true]}
  | .cancelRetry op shutdown => some {shared := d.cancelRetry, code := [if shutdown then .cancelActive else .lock op]}
  | .cancelActive => some {shared := d.cancel d.activeAttempt, code := [.lock .stop]}
  | .lock op =>
    if d.opMu then none
    else some {
      shared := {d with opMu := true}
      code := [match op with
        | .retry _ _ => .run op
        | _ => .cancelRetryLocked op]}
  | .cancelRetryLocked op => some {shared := d.cancelRetry, code := [.run op]}
  | .run op => some (runOperation config choice op d)
  | .cancelAttempt attempt found generation operation =>
    some {
      shared := d.cancel attempt
      code := [found.elim (.runtimeStop generation operation) .unlock]}
  | .runtimeStop generation operation =>
    some {shared := if config.runtime then d.logged .stopBegan else d, code := [.stopped generation operation]}
  | .stopped generation operation =>
    let err := if config.runtime then choice.err else none
    let next := d.stopped err (config.runtime && choice.again)
    some {
      shared := next
      code := [.unlock ⟨classifyClose err (config.runtime && choice.quarantined),generation,operation,next.observed,next.reason,
        .stop err (config.runtime && choice.again)⟩]}
  | .unlock report => some {shared := {d with opMu := false}, code := [.publish report none]}
  | .publish report after => some {shared := {d with reports := report :: d.reports}, code := after.toList.map .release}
  | .beginTask operation replacing =>
    some {shared := d, forked := if d.closed then [] else [⟨(),[.startAttempt operation replacing false]⟩]}
  | .startAttempt operation replacing retry =>
    if d.superseded operation || d.quarantined then some {shared := d}
    else some {
      shared := {d with activeAttempt := some d.attempts, attempts := d.attempts + 1}
      code := [.construct ⟨d.attempts,operation,replacing,retry⟩]}
  | .construct attempt =>
    if config.runtime then
      some {
        shared := {d with inFlight := attempt.id :: d.inFlight}.logged (.began attempt.id (d.cancelled.contains attempt.id))
        code := [.constructed attempt]}
    else
      let unavailable : RuntimeError := {failure := choice.err.elim ⟨.internalError,false⟩ (·.failure)}
      some {shared := d, code := [.finishAttempt attempt 0 (some unavailable) attempt.replacing none]}
  | .constructed attempt => some {
      shared := {d with inFlight := d.inFlight.erase attempt.id}.logged (.returned attempt.id choice.err.isNone)
      code := [.judge attempt choice.generation choice.err]}
  | .judge attempt generation err =>
    if (d.closed || d.superseded attempt.operation) && (err.isNone || d.generation < generation) then
      some {shared := d, code := [.retireSuperseded attempt generation]}
    else if err.isNone then some {shared := d, code := [.hold attempt generation]}
    else some {shared := d, code := [.finishAttempt attempt generation err attempt.replacing none]}
  | .hold attempt generation =>
    some {
      shared := d
      code := [choice.hold.elim (.finishAttempt attempt generation none attempt.replacing none) (.rejudge attempt generation)]}
  | .rejudge attempt generation holdErr =>
    if d.closed || d.superseded attempt.operation then some {shared := d, code := [.retireSuperseded attempt generation]}
    else some {
      shared := d
      code := [holdErr.elim (.finishAttempt attempt generation none attempt.replacing none) (.retireHeld attempt generation)]}
  | .retireSuperseded attempt generation => some {shared := d.logged .stopBegan, code := [.supersededStopped attempt generation]}
  | .supersededStopped attempt generation =>
    let unproven := choice.err.isSome || choice.quarantined
    let next := if unproven then d.quarantine else d
    some {
      shared := next
      code := [.observe ⟨if unproven then .unconfirmed else .proven,generation,attempt.operation,
        next.observed,next.reason,.withdrawal⟩
        attempt]}
  | .retireHeld attempt generation holdErr => some {shared := d.logged .stopBegan, code := [.heldStopped attempt generation holdErr]}
  | .heldStopped attempt generation holdErr =>
    let closeClass := classifyClose choice.err choice.quarantined
    if closeClass.isProven then
      let report := ⟨closeClass,generation,attempt.operation,d.observed,d.reason,.withdrawal⟩
      some {shared := d, code := [.finishAttempt attempt 0 (some holdErr) false (some report)]}
    else
      let next := (d.clearAttempt attempt).quarantine
      let report := ⟨closeClass,generation,attempt.operation,next.observed,next.reason,.withdrawal⟩
      some {shared := next, code := [.publish report (some attempt)]}
  | .finishAttempt attempt generation err replacing held =>
    let (d,forked) := d.finishAttempt config attempt generation err replacing (config.runtime && choice.quarantined)
    some {
      shared := d, forked := forked
      code := [held.elim (.release attempt) (.observe · attempt)]}
  | .observe report attempt =>
    some {shared := d, code := [.publish {report with observed := d.observed, reason := d.reason} (some attempt)]}
  | .release attempt => some {shared := d.clearAttempt attempt}
  | .retryWait operation token => some {shared := d, code := if choice.due then [.lock (.retry operation token)] else []}
  | .reportFailure correlation failure =>
    let (d,forked) := d.reportFailure config correlation failure
    some {shared := d, forked := forked}
  | .reportDegraded correlation effective reason => some {shared := d.reportDegraded config correlation effective reason}

def program : Program Unit Act Driver Event Choice where
  sequential _ := false
  launch := launch
  perform := perform config

abbrev Manager := Machine Unit Act Driver

def created : Manager := ⟨Driver.create config,[]⟩

def step (config : DriverConfig) : Manager → Move Event Choice → Option Manager := Machine.step (program config)

end EbusGateway.DriverManager
