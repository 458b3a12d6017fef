import Mathlib

/-! The control namespace of the runtime-state file: driver records with their two typed work slots, the mark
of issued revisions, and what every control operation of the manager does to it. How long a call waits, what
its context says and how a write of the file ends are choices of the surroundings.
-/
namespace EbusGateway.RuntimeState

abbrev Text := List Char
abbrev DriverId := Text

inductive DesiredState
  | running
  | stopped
deriving DecidableEq

inductive ControlMethod
  | start
  | stop
  | restart
deriving DecidableEq

inductive TransitionKind
  | start
  | stop
  | restart
  | cancelAttempt
deriving DecidableEq

inductive TransitionPhase
  | pending
  | active
  | cleanup
deriving DecidableEq

def TransitionPhase.rank : TransitionPhase → Nat
  | .pending => 0
  | .active => 1
  | .cleanup => 2

def ControlMethod.kind : ControlMethod → TransitionKind
  | .start => .start
  | .stop => .stop
  | .restart => .restart

def ControlMethod.desired : ControlMethod → DesiredState
  | .stop => .stopped
  | _ => .running

structure ControlTransition where
  kind : TransitionKind
  desiredRevision : Nat := 0
  sequence : Nat := 0
  phase : TransitionPhase := .pending
  epoch : Text := []
  generation : Nat := 0
  nativeClosePending : Bool := false
  semanticCleanupPending : Bool := false
  attemptsUsed : Nat := 0
  deadlineUTC : Option Nat := none
deriving DecidableEq

structure ControlDriverRecord where
  desiredState : DesiredState := .stopped
  desiredRevision : Nat := 0
  lifecycleSequence : Nat := 0
  current : Option ControlTransition := none
  reserved : Option ControlTransition := none
deriving DecidableEq

/-- A driver record that failed to decode. Its bytes are kept; `record` is what they hold when nothing but a
revision above the mark is wrong with them. -/
structure FailedRecord where
  record : Option ControlDriverRecord
deriving DecidableEq

structure ControlRecovery where
  driverIds : List DriverId
  maxDesiredRevision : Nat
  payload : Text
deriving DecidableEq

structure Namespace where
  mark : Nat := 0
  catalog : Nat := 1
  records : AList fun _ : DriverId => ControlDriverRecord := ∅
  failed : AList fun _ : DriverId => FailedRecord := ∅
  recovery : Option ControlRecovery := none
deriving DecidableEq

inductive RefusalCode
  | invalidArgument
  | notFound
  | failedPrecondition
  | unavailable
  | deadlineExceeded
  | revisionConflict
  | transitionBusy
  | resourceExhausted
  | counterExhausted
deriving DecidableEq

structure ControlView where
  desiredState : DesiredState
  desiredRevision : Nat
deriving DecidableEq

structure ControlRefusal where
  code : RefusalCode
  row : Nat
  reason : String
  view : Option ControlView := none
deriving DecidableEq

inductive ControlError
  | refusal (refusal : ControlRefusal)
  | readbackPending
  | bootstrapGUID
  | invalidConfig
  | invalidRecovery
  | invalidWork (reason : String)
  | context
deriving DecidableEq

def refuse (code : RefusalCode) (row : Nat) (reason : String) : ControlRefusal := ⟨code,row,reason,none⟩

def maxControlDriverRecords : Nat := 128
def maxControlSemanticAttempts : Nat := 8
def maxControlEpochBytes : Nat := 256

def segmentCharacter (c : Char) : Bool := c.isLower || c.isDigit

def canonicalTail : Text → Bool
  | [] => true
  | c :: rest =>
    if segmentCharacter c then canonicalTail rest
    else (c == '.' || c == '-') &&
      match rest with
      | [] => false
      | d :: more => segmentCharacter d && canonicalTail more

def canonicalControlDriverID : DriverId → Bool
  | [] => false
  | first :: rest => first.isLower && canonicalTail rest && rest.length < 128

def epochCharacter (c : Char) : Bool := c.isAlphanum || ['.','_',':','/','@','-'].contains c

def canonicalEpoch : Text → Bool
  | [] => true
  | first :: rest => first.isAlphanum && rest.all epochCharacter && rest.length < maxControlEpochBytes

def addCounter (v n : Nat) : Option Nat := if v + n < 2 ^ 64 then some (v + n) else none

def validateTransition (t : ControlTransition) : Option String :=
  if t.desiredRevision = 0 || t.sequence = 0 then some "revision and sequence must be nonzero"
  else if !canonicalEpoch t.epoch then some "epoch invalid"
  else if maxControlSemanticAttempts < t.attemptsUsed then some "attempts_used out of bounds"
  else none

def validateRecordSlots (r : ControlDriverRecord) : Option String :=
  if r.reserved.isSome && r.current.isNone then some "reserved slot without a current slot"
  else if (r.current.toList ++ r.reserved.toList).any (r.desiredRevision < ·.desiredRevision) then
    some "transition revision above the desired revision"
  else if (r.current.toList ++ r.reserved.toList).any (r.lifecycleSequence < ·.sequence) then
    some "transition sequence above the lifecycle sequence"
  else
    match r.current,r.reserved with
    | some current,some reserved =>
      if current.sequence = reserved.sequence then some "duplicate transition sequence"
      else if reserved.sequence < current.sequence then some "current transition sequence does not precede the reserved sequence"
      else none
    | _,_ => none

def ControlTransition.same (a b : ControlTransition) : Bool :=
  a.sequence = b.sequence && a.desiredRevision = b.desiredRevision && a.kind = b.kind

def sameIdentity : Option ControlTransition → Option ControlTransition → Bool
  | some a,some b => a.same b
  | _,_ => false

def controlRegression (stored next : ControlTransition) : Option String :=
  if next.phase.rank < stored.phase.rank then some "work update moves the phase backwards"
  else if next.attemptsUsed < stored.attemptsUsed then some "work update lowers attempts used"
  else if stored.deadlineUTC.isSome && next.deadlineUTC.isNone then some "work update removes an established deadline"
  else if stored.deadlineUTC.isSome && stored.deadlineUTC.getD 0 < next.deadlineUTC.getD 0 then
    some "work update extends an established deadline"
  else if stored.epoch = [] then none
  else if next.epoch = [] then some "work update removes an established correlation"
  else if next.epoch ≠ stored.epoch then
    if stored.nativeClosePending || stored.semanticCleanupPending then
      some "work update replaces correlation before its obligations cleared"
    else none
  else if next.generation < stored.generation then some "work update lowers generation"
  else
    let incurring := stored.phase = .pending && next.phase = .active
    if !incurring && !stored.nativeClosePending && next.nativeClosePending then
      some "work update reactivates cleared native close"
    else if !incurring && !stored.semanticCleanupPending && next.semanticCleanupPending then
      some "work update reactivates cleared semantic cleanup"
    else none

structure ControlPlan where
  current : Option ControlTransition
  reserved : Option ControlTransition

structure ControlPlanInput where
  method : ControlMethod
  driverId : DriverId
  hasRecord : Bool
  record : ControlDriverRecord

abbrev ControlPlanner := ControlPlanInput → Except ControlRefusal ControlPlan

def allocate (record : ControlDriverRecord) (newRevision lifecycleSequence : Nat) :
    Option ControlTransition → Except ControlError (Option ControlTransition × Nat)
  | none => .ok (none,lifecycleSequence)
  | some t => do
    let (t,lifecycleSequence) ←
      if t.sequence = 0 then
        match addCounter lifecycleSequence 1 with
        | some next => pure ({t with sequence := next, desiredRevision := newRevision},next)
        | none => throw (.refusal (refuse .counterExhausted 10 "lifecycle sequence increment would overflow"))
      else if (record.current.toList ++ record.reserved.toList).contains t then pure (t,lifecycleSequence)
      else throw (.invalidWork "retained transition does not match the stored slot")
    match validateTransition t with
    | some reason => throw (.invalidWork reason)
    | none => pure (some t,lifecycleSequence)

def applyControlPlan (record : ControlDriverRecord) (plan : ControlPlan) (newRevision : Nat)
    (requested : TransitionKind) : Except ControlError ControlDriverRecord := do
  if plan.reserved.isSome && plan.current.isNone then throw (.invalidWork "reserved slot without current slot")
  let (current,sequence) ← allocate record newRevision record.lifecycleSequence plan.current
  let (reserved,sequence) ← allocate record newRevision sequence plan.reserved
  if !(plan.current.toList ++ plan.reserved.toList).any (fun t => t.sequence = 0 && t.kind = requested) then
    throw (.invalidWork "plan must allocate the requested transition kind")
  match current,reserved with
  | some first,some second =>
    if second.sequence ≤ first.sequence then throw (.invalidWork "current transition must precede the reserved transition")
  | _,_ => pure ()
  return {record with lifecycleSequence := sequence, current := current, reserved := reserved}

inductive Write
  | committed
  | failed
  | ambiguous

structure Manager where
  control : Option Namespace := none
  ambiguous : Option Namespace := none
  configs : AList fun _ : DriverId => Bool := ∅
  closed : Bool := false

namespace Manager

def admissionClosed (m : Manager) : Option ControlRefusal :=
  if m.closed then some (refuse .unavailable 3 "admission closed") else none

def commitControl (m : Manager) (stage : Namespace) (write : Write) : Manager × Except ControlError Unit :=
  if m.closed then (m,.error (.refusal (refuse .unavailable 3 "persistence blocked")))
  else
    match write with
    | .failed => (m,.error (.refusal (refuse .unavailable 0 "pre-commit write failure")))
    | .ambiguous => ({m with ambiguous := some stage},.error (.refusal (refuse .unavailable 3 "ambiguous persistence")))
    | .committed => ({m with control := some stage},.ok ())

end Manager

structure ControlDriverView where
  enabled : Bool
  failed : Bool := false
  hasRecord : Bool := false
  desiredState : DesiredState := .stopped
  desiredRevision : Nat := 0
  current : Option ControlTransition := none
  reserved : Option ControlTransition := none

namespace Namespace

def driverView (ns : Namespace) (id : DriverId) (enabled : Bool) : ControlDriverView :=
  if (ns.failed.lookup id).isSome then {enabled := enabled, failed := true}
  else
    match ns.records.lookup id with
    | some r => {
        enabled := enabled, hasRecord := true
        desiredState := r.desiredState, desiredRevision := r.desiredRevision
        current := r.current, reserved := r.reserved}
    | none => {enabled := enabled, desiredRevision := ns.mark}

def currentView (ns : Namespace) (id : DriverId) : ControlView :=
  match ns.records.lookup id with
  | some r => ⟨r.desiredState,r.desiredRevision⟩
  | none => ⟨.stopped,ns.mark⟩

def recordCount (ns : Namespace) : Nat := ns.records.keys.length + ns.failed.keys.length

end Namespace

namespace Manager

def controlDriver (m : Manager) (id : DriverId) : Option ControlDriverView :=
  if !canonicalControlDriverID id then none
  else
    match m.configs.lookup id,m.control with
    | some enabled,some ns => some (ns.driverView id enabled)
    | _,_ => none

def precheckControl (m : Manager) (id : DriverId) : Option ControlRefusal :=
  match (if canonicalControlDriverID id then m.configs.lookup id else none) with
  | none => some (refuse .notFound 2 "driver id noncanonical or not registered")
  | some enabled =>
    match m.control with
    | none => some (refuse .failedPrecondition 3 "runtime_control failed to load")
    | some ns =>
      if m.closed then m.admissionClosed
      else if (ns.failed.lookup id).isSome then some (refuse .failedPrecondition 3 "driver record malformed")
      else if m.ambiguous.isSome then some (refuse .unavailable 3 "readback after ambiguous persistence still pending")
      else if !enabled then some (refuse .failedPrecondition 4 "driver disabled by configuration")
      else none

end Manager

structure ControlRequest where
  driverId : DriverId
  expectedRevision : Nat

inductive Wait
  | acquired
  | deadlineHit
  | timedOut
deriving DecidableEq

structure Call where
  deadline : Bool := true
  validated : Bool := true
  wait : Wait := .acquired
  rechecked : Bool := true
  fits : Bool := true
  precommit : Bool := true
  write : Write := .committed

namespace Manager

variable (m : Manager)

def waitTimeoutRefusal (request : ControlRequest) : ControlRefusal :=
  match m.precheckControl request.driverId,m.control with
  | some refusal,_ => refusal
  | none,none => refuse .failedPrecondition 3 "runtime_control is not loaded"
  | none,some ns =>
    let current := ns.currentView request.driverId
    if request.expectedRevision < current.desiredRevision then
      ⟨.revisionConflict,6,"expected revision is conclusively stale",some current⟩
    else refuse .transitionBusy 8 "serialization point held beyond the bounded wait"

def decideRefusal (request : ControlRequest) (call : Call) : Option ControlRefusal :=
  if request.expectedRevision = 0 then some (refuse .invalidArgument 1 "ExpectedRevision must be nonzero")
  else if (m.precheckControl request.driverId).isSome then m.precheckControl request.driverId
  else if !call.deadline then some (refuse .invalidArgument 5 "call context has no finite deadline")
  else if !call.validated then some (refuse .deadlineExceeded 5 "deadline expired at validation")
  else
    match call.wait with
    | .deadlineHit => some (refuse .deadlineExceeded 5 "deadline expired during the serialization wait")
    | .timedOut => some (m.waitTimeoutRefusal request)
    | .acquired =>
      if !call.rechecked then some (refuse .deadlineExceeded 5 "deadline expired after acquiring the serialization point")
      else none

def decided (ns : Namespace) (method : ControlMethod) (id : DriverId) (plan : ControlPlan) :
    Except ControlError (Namespace × Nat) :=
  let hasRecord := (ns.records.lookup id).isSome
  if !hasRecord && maxControlDriverRecords < ns.recordCount + 1 then
    .error (.refusal (refuse .resourceExhausted 9 "driver record limit reached"))
  else
    match addCounter ns.mark 1,addCounter ns.catalog 1 with
    | some newRevision,some newCatalog =>
      match applyControlPlan ((ns.records.lookup id).getD {}) plan newRevision method.kind with
      | .error (.refusal refusal) => .error (.refusal refusal)
      | .error (.invalidWork reason) =>
        .error (.refusal (refuse .transitionBusy 8 ("runtime_control: invalid transition record: " ++ reason)))
      | .error error => .error error
      | .ok updated =>
        let updated := {updated with desiredState := method.desired, desiredRevision := newRevision}
        .ok ({ns with records := ns.records.insert id updated, mark := newRevision, catalog := newCatalog},newRevision)
    | _,_ => .error (.refusal (refuse .counterExhausted 10 "mark or catalog increment would overflow"))

def decideControl (method : ControlMethod) (request : ControlRequest) (planner : ControlPlanner)
    (call : Call) : Manager × Except ControlError ControlView :=
  match m.decideRefusal request call,m.control with
  | some refusal,_ => (m,.error (.refusal refusal))
  | none,none => (m,.error (.refusal (refuse .failedPrecondition 3 "runtime_control is not loaded")))
  | none,some ns =>
    let current := ns.currentView request.driverId
    if request.expectedRevision ≠ current.desiredRevision then
      (m,.error (.refusal ⟨.revisionConflict,6,"expected revision differs from the current desired revision",some current⟩))
    else if method = .start && current.desiredState = .running || method = .stop && current.desiredState = .stopped then
      (m,.ok current)
    else if method = .restart && current.desiredState ≠ .running then
      (m,.error (.refusal (refuse .failedPrecondition 6 "RESTART requires desired RUNNING")))
    else
      match planner ⟨method,request.driverId,(ns.records.lookup request.driverId).isSome,
          (ns.records.lookup request.driverId).getD {}⟩ with
      | .error refusal =>
        if refusal.code ≠ .failedPrecondition && refusal.code ≠ .transitionBusy then
          (m,.error (.refusal (refuse .transitionBusy 8 "planner returned an out-of-table refusal")))
        else (m,.error (.refusal refusal))
      | .ok plan =>
        match decided ns method request.driverId plan with
        | .error error => (m,.error error)
        | .ok (stage,newRevision) =>
          if !call.fits then (m,.error (.refusal (refuse .resourceExhausted 9 "namespace byte limit reached")))
          else if !call.precommit then
            (m,.error (.refusal (refuse .deadlineExceeded 5 "deadline expired at the pre-commit recheck")))
          else
            match m.commitControl stage call.write with
            | (m,.error error) => (m,.error error)
            | (m,.ok ()) => (m,.ok ⟨method.desired,newRevision⟩)

def writable (call : Call) : Except ControlError Namespace :=
  if call.wait ≠ .acquired then .error .context
  else
    match m.control with
    | none => .error (.refusal (refuse .failedPrecondition 3 "runtime_control is not loaded"))
    | some ns =>
      if m.closed then .error (.refusal (refuse .unavailable 3 "admission closed"))
      else if m.ambiguous.isSome then
        .error (.refusal (refuse .unavailable 3 "readback after ambiguous persistence still pending"))
      else .ok ns

def stageWrite (call : Call) (staged : Except ControlError Namespace) : Manager × Except ControlError Unit :=
  match staged with
  | .error error => (m,.error error)
  | .ok stage =>
    if !call.fits then (m,.error (.refusal (refuse .resourceExhausted 9 "namespace byte limit reached")))
    else m.commitControl stage call.write

end Manager

def workInvalid (r : ControlDriverRecord) (current reserved : Option ControlTransition) : Option String :=
  let slots := current.toList ++ reserved.toList
  if slots.any fun t => !sameIdentity (some t) r.current && !sameIdentity (some t) r.reserved then
    some "transition does not match a stored slot"
  else if reserved.isSome && !sameIdentity reserved r.reserved then some "current transition cannot be demoted to reserved"
  else if r.reserved.isSome && !sameIdentity current r.reserved && !sameIdentity reserved r.reserved then
    some "work update would discard the reserved transition"
  else
    let stored (t : ControlTransition) := if sameIdentity (some t) r.current then r.current else r.reserved
    match slots.findSome? fun t => (stored t).bind (controlRegression · t) with
    | some reason => some reason
    | none =>
      match slots.findSome? validateTransition with
      | some reason => some reason
      | none => validateRecordSlots {r with current := current, reserved := reserved}

namespace Manager

def commitControlWork (m : Manager) (id : DriverId) (current reserved : Option ControlTransition) (call : Call) :
    Manager × Except ControlError Unit :=
  m.stageWrite call do
    let ns ← m.writable call
    match ns.records.lookup id with
    | none => throw (.refusal (refuse .notFound 2 "driver has no record"))
    | some r =>
      match workInvalid r current reserved with
      | some reason => throw (.invalidWork reason)
      | none => return {ns with records := ns.records.insert id {r with current := current, reserved := reserved}}

def advanceControlCatalog (m : Manager) (call : Call) : Manager × Except ControlError Unit :=
  m.stageWrite call do
    let ns ← m.writable call
    match addCounter ns.catalog 1 with
    | none => throw (.refusal (refuse .counterExhausted 10 "catalog revision increment would overflow"))
    | some next => return {ns with catalog := next}

def commitControlRecovery (m : Manager) (recovery : Option ControlRecovery) (call : Call) : Manager × Except ControlError Unit :=
  m.stageWrite call do
    let ns ← m.writable call
    if recovery.any (ns.mark < ·.maxDesiredRevision) then throw .invalidRecovery
    return {ns with recovery := recovery}

end Manager

structure ControlDriverConfig where
  driverId : DriverId
  enabled : Bool

namespace Namespace

def seed (configs : List ControlDriverConfig) : Namespace :=
  configs.foldl (fun stage c =>
    {stage with
      mark := stage.mark + 1, catalog := stage.catalog + 1
      records := stage.records.insert c.driverId
        {desiredState := if c.enabled then .running else .stopped, desiredRevision := stage.mark + 1}}) {}

def removable (ns : Namespace) (configs : List ControlDriverConfig) : List DriverId :=
  ns.records.keys.filter fun id =>
    !(configs.any (·.driverId = id) || (ns.records.lookup id).any (fun r => r.current.isSome || r.reserved.isSome) ||
      ns.recovery.any (·.driverIds.contains id))

def registrationChanges (ns : Namespace) (prior : List DriverId) (configs : List ControlDriverConfig) : Nat :=
  let removed := ns.removable configs
  removed.length +
    (prior.filter fun id => !(configs.any (·.driverId = id)) && !removed.contains id).length +
    (configs.filter fun c => !(((ns.records.lookup c.driverId).isSome && !removed.contains c.driverId) ||
      (ns.failed.lookup c.driverId).isSome || prior.contains c.driverId)).length

def registered (ns : Namespace) (prior : List DriverId) (configs : List ControlDriverConfig) : Option Namespace :=
  let changes := ns.registrationChanges prior configs
  match addCounter ns.mark changes,addCounter ns.catalog changes with
  | some mark,some catalog => some {ns with
      mark := mark, catalog := catalog, records := (ns.removable configs).foldl (fun records id => records.erase id) ns.records}
  | _,_ => none

end Namespace

def validateControlConfigs (configs : List ControlDriverConfig) : Option (List ControlDriverConfig) :=
  if maxControlDriverRecords < configs.length then none
  else if configs.any (!canonicalControlDriverID ·.driverId) then none
  else if (configs.map (·.driverId)).Nodup then some (configs.insertionSort fun a b => a.driverId ≤ b.driverId)
  else none

def configured (configs : List ControlDriverConfig) : AList fun _ : DriverId => Bool :=
  configs.foldl (fun all c => all.insert c.driverId c.enabled) ∅

namespace Manager

def bootstrapControl (m : Manager) (configs : List ControlDriverConfig) (guid : Bool) (call : Call) :
    Manager × Except ControlError Unit :=
  match validateControlConfigs configs with
  | none => (m,.error .invalidConfig)
  | some sorted =>
    if call.wait ≠ .acquired then (m,.error .context)
    else if m.closed then (m,.error (.refusal (refuse .unavailable 3 "admission closed: manager stopped")))
    else
      let (next,result) : Manager × Except ControlError Unit :=
        if m.ambiguous.isSome then (m,.error .readbackPending)
        else
          match m.control with
          | none =>
            if !guid then (m,.error .bootstrapGUID)
            else m.stageWrite call (.ok (Namespace.seed sorted))
          | some ns =>
            if ns.registrationChanges m.configs.keys sorted = 0 then (m,.ok ())
            else
              match ns.registered m.configs.keys sorted with
              | some stage => m.stageWrite call (.ok stage)
              | none =>
                (m,.error (.refusal (refuse .counterExhausted 10 "registration mark or catalog increment would overflow")))
      -- Registration is published after its durable fence; a missing namespace still exposes the drivers.
      let publish := match result with
        | .ok () => true
        | .error _ => m.control.isNone && m.ambiguous.isNone
      (if publish then {next with configs := configured sorted} else next,result)

end Manager

inductive Readback
  | staged
  | committed
  | pending

namespace Manager

def resolveControlReadback (m : Manager) (found : Readback) : Manager :=
  match m.ambiguous,found with
  | some stage,.staged => {m with control := some stage, ambiguous := none}
  | some _,.committed => {m with ambiguous := none}
  | _,_ => m

end Manager

def Namespace.reload (ns : Namespace) : Namespace :=
  let ripe := ns.failed.keys.filter fun id =>
    ((ns.failed.lookup id).bind (·.record)).any (·.desiredRevision ≤ ns.mark)
  {ns with
    failed := ripe.foldl (fun failed id => failed.erase id) ns.failed
    records := ripe.foldl (fun records id =>
      match (ns.failed.lookup id).bind (·.record) with
      | some r => records.insert id r
      | none => records) ns.records}

def Manager.restart (m : Manager) (staged : Bool) : Manager :=
  {control := ((if staged then m.ambiguous else none).or m.control).map (·.reload)}

end EbusGateway.RuntimeState
