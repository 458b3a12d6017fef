import EbusGateway.Library.Goroutine
import EbusGateway.Library.Transition

/-! The semantic operation router: a request is completed to an intent by its owner, captured, admitted by the kernel
and handed to one executor. Concurrent calls with one intent meet in the kernel's admission, and the router claims an
admission before it dispatches it.
-/
namespace EbusGateway.SemanticOperations
open Library

inductive Code
  | invalidArgument
  | resourceExhausted
  | unavailable

structure RequestError where
  code : Code
  detail : String

structure Request where
  assetID : String
  bindingID : String
  capabilityInstanceID : String
  operation : String
  arguments : List String
  expectedSemanticRevision : String
  expectedCapabilityRevision : String
  expectedCapabilityInstanceRevision : String
  expectedSourceEpochID : String
  expectedDriverGeneration : String
  preconditions : List String
  timeout : Nat

structure TimePoint where
  clockID : String
  unixNanoseconds : String
deriving DecidableEq

inductive Contract
  | operationV1
  | other (version : String)
deriving DecidableEq

structure Intent where
  contract : Contract
  kind : String
  assetID : String
  arguments : List String
  instanceID : Option String
  expectedSemanticRevision : String
  expectedCapabilityRevision : String
  expectedCapabilityInstanceRevision : String
  expectedSourceEpochID : String
  expectedDriverGeneration : String
  preconditions : List String
  owned : String := ""
  deadline : TimePoint := ⟨"",""⟩
deriving DecidableEq

def Request.draftIntent (r : Request) : Intent where
  contract := .operationV1
  kind := r.operation
  assetID := r.assetID
  arguments := r.arguments
  instanceID := some r.capabilityInstanceID
  expectedSemanticRevision := r.expectedSemanticRevision
  expectedCapabilityRevision := r.expectedCapabilityRevision
  expectedCapabilityInstanceRevision := r.expectedCapabilityInstanceRevision
  expectedSourceEpochID := r.expectedSourceEpochID
  expectedDriverGeneration := r.expectedDriverGeneration
  preconditions := r.preconditions

def Intent.members (intent : Intent) : Intent := {intent with owned := "", deadline := ⟨"",""⟩}

def sameRequestMembers (draft completed : Intent) : Bool := draft.members = completed.members

inductive ErrorID
  | causalBudgetExceeded
  | echoSuppressed
  | deadlineExpired
  | other (id : String)
deriving DecidableEq

def causalDomainError (id : ErrorID) : Bool := id = .causalBudgetExceeded || id = .echoSuppressed

def parseInt (text : String) : Option Int :=
  let signed : Bool × List Char := match text.toList with
    | '-' :: digits => (true,digits)
    | '+' :: digits => (false,digits)
    | digits => (false,digits)
  if signed.2.isEmpty || !signed.2.all Char.isDigit then none
  else
    let magnitude : Int := signed.2.foldl (fun value digit => value * 10 + (digit.toNat - '0'.toNat)) 0
    let value := if signed.1 then -magnitude else magnitude
    if -2 ^ 63 ≤ value ∧ value < 2 ^ 63 then some value else none

def wallTime (point : TimePoint) : Option Int := if point.clockID = "clock.utc" then parseInt point.unixNanoseconds else none

inductive CaptureReason
  | assetUnknown
  | snapshotUnavailable
  | sourceUnavailable
  | publicationWithheld
  | other (reason : String)

def captureReasons : CaptureReason → Bool
  | .other _ => false
  | _ => true

inductive Reason
  | executorMissing
  | bindingMismatch
  | routeMismatch
  | admissionReplayed
  | snapshotUnavailable
  | evidenceTimeout
  | executionEvidenceMissing
  | executionEvidenceInvalid
  | capture (reason : CaptureReason)
  | error (id : ErrorID)

inductive Status
  | accepted
  | protocolAck
  | readbackConfirmed
  | failed
  | unknown

inductive OperationOutcome
  | applied
  | acknowledgedUnverified
  | indeterminate
  | rejected
  | failed (name : String)
deriving DecidableEq

inductive DeliveryState
  | notSent
  | other (name : String)
deriving DecidableEq

structure ExecutionRecord where
  outcome : OperationOutcome
  delivery : Option DeliveryState := none
  acknowledgement : Option String := none
  readback : Option String := none
  errorID : Option ErrorID := none

structure Result where
  status : Status
  kernelOutcome : Option OperationOutcome := none
  delivery : Option DeliveryState := none
  acknowledgement : Option String := none
  readbackRelation : Option String := none
  reason : Option Reason := none

def project (record : ExecutionRecord) : Result :=
  let result : Result :=
    {status := .failed, kernelOutcome := some record.outcome, delivery := record.delivery, acknowledgement := record.acknowledgement
     readbackRelation := record.readback}
  match record.outcome with
  | .applied => {result with status := .readbackConfirmed}
  | .acknowledgedUnverified => {result with status := .protocolAck}
  | .indeterminate => {result with status := .unknown}
  | .rejected => {result with delivery := some .notSent, reason := record.errorID.map .error}
  | .failed _ => result

def refused (reason : Reason) : Result :=
  {status := .failed, kernelOutcome := some .rejected, delivery := some .notSent, reason := some reason}

def unknown (reason : Reason) : Result := {status := .unknown, reason := some reason}

def accepted : Result := {status := .accepted}

def Result.deniesSend (result : Result) : Bool := result.kernelOutcome = some .rejected && result.delivery = some .notSent

structure Route where
  bindingID : String
  capabilityInstance : String
  sourceEpochID : String
  driverGeneration : String
  service : String := ""

structure Admission where
  intent : Intent
  route : Option Route
  guard : Option String
  admittedAt : Option (TimePoint × String)

structure Dispatch where
  intent : Intent
  route : Route
  guard : String
  admittedAt : TimePoint
  admittedRevision : String

def Admission.dispatch (a : Admission) : Option Dispatch :=
  match a.route,a.guard,a.admittedAt with
  | some route,some guard,some (admittedAt,admittedRevision) => some ⟨a.intent,route,guard,admittedAt,admittedRevision⟩
  | _,_,_ => none

structure Input where
  assetID : String
  unavailableReason : Option CaptureReason := none
  snapshot : Bool := true
  evaluatedAt : Option TimePoint

inductive OwnerAnswer
  | failed (deadlineExceeded : Bool)
  | completed (intent : Intent) (authority : Bool) (invalid : Option ErrorID)

inductive CaptureAnswer
  | failed
  | inputs (inputs : List Input)

inductive AdmitAnswer
  | rejected (id : ErrorID) (recorded : Option ExecutionRecord)
  | admits (route : Option Route) (guard : Option String) (admittedAt : Option (TimePoint × String))

inductive ExecuteAnswer
  | failed
  | pending
  | completed (record : ExecutionRecord)

structure Choice where
  ended : Bool := false
  owner : OwnerAnswer := .failed false
  capture : CaptureAnswer := .failed
  admission : AdmitAnswer := .rejected (.other "") none
  found : Bool := true
  execution : ExecuteAnswer := .failed
  recordable : Bool := true

structure Obtained where
  call : Nat
  request : Request
  evaluatedAt : TimePoint
  admission : Nat
  handed : Bool

structure Return where
  call : Nat
  obtained : Option Obtained
  response : Except RequestError Result

/-- The router and its kernel. Admissions are numbered; `invoked` are the calls of executors and `returned` what the calls
of Route have returned. -/
structure Router where
  admissions : List Admission := []
  recorded : Nat → Option ExecutionRecord := fun _ => none
  dispatched : List Nat := []
  outcomes : Nat → Option Result := fun _ => none
  calls : Nat := 0
  invoked : List (Nat × Dispatch) := []
  returned : List Return := []

inductive Act
  | completeIntent (call : Nat) (request : Request)
  | capture (call : Nat) (request : Request) (intent : Intent)
  | admitIntent (call : Nat) (request : Request) (intent : Intent) (evaluatedAt : TimePoint)
  | examine (obtained : Obtained)
  | replayed (obtained : Obtained)
  | replayedDispatch (obtained : Obtained)
  | lookup (obtained : Obtained)
  | claim (obtained : Obtained)
  | execute (obtained : Obtained) (dispatch : Dispatch)
  | record (obtained : Obtained) (record : ExecutionRecord)
  | await (obtained : Obtained)

inductive Name
  | task
deriving DecidableEq

abbrev Outcome := Effect Name Act Router

structure Config where
  validate : Request → Option RequestError
  wired : Bool := true

def unavailable (detail : String) : RequestError := ⟨.unavailable,detail⟩

namespace Router

variable (r : Router) (o : Obtained)

def respond (call : Nat) (obtained : Option Obtained) (response : Except RequestError Result) : Outcome :=
  {shared := {r with returned := r.returned ++ [⟨call,obtained,response⟩]}}

def answer (result : Result) : Outcome := r.respond o.call (some o) (.ok result)

def completeIntent (cfg : Config) (choice : Choice) (r : Router) (call : Nat) (request : Request) : Outcome :=
  match cfg.validate request with
  | some refusal => r.respond call none (.error refusal)
  | none =>
    if !cfg.wired then r.respond call none (.error (unavailable "operation provider unwired"))
    else match choice.owner with
      | .failed deadlineExceeded =>
        if choice.ended || deadlineExceeded then r.respond call none (.ok (refused (.error .deadlineExpired)))
        else r.respond call none (.error (unavailable "intent owner cannot construct the intent"))
      | .completed intent authority invalid =>
        if !authority then r.respond call none (.error (unavailable "intent owner cannot construct the intent"))
        else if !sameRequestMembers request.draftIntent intent then
          r.respond call none (.error (unavailable "intent owner altered request-owned members"))
        else if invalid.any (!causalDomainError ·) then
          r.respond call none (.error (unavailable "intent owner produced an invalid intent"))
        else if (wallTime intent.deadline).isNone then
          r.respond call none (.error (unavailable "intent owner produced an invalid deadline"))
        else {shared := r, code := [.capture call request intent]}

def capture (choice : Choice) (r : Router) (call : Nat) (request : Request) (intent : Intent) : Outcome :=
  match choice.capture with
  | .failed =>
    if choice.ended then r.respond call none (.ok (refused (.error .deadlineExpired)))
    else r.respond call none (.error (unavailable "current snapshot capture unavailable"))
  | .inputs [input] =>
    if input.assetID ≠ request.assetID then
      r.respond call none (.error (unavailable "current snapshot capture returned another selection"))
    else match input.unavailableReason with
      | some reason =>
        if captureReasons reason then r.respond call none (.ok (refused (.capture reason)))
        else r.respond call none (.ok (refused .snapshotUnavailable))
      | none =>
        match input.evaluatedAt with
        | some evaluatedAt =>
          if input.snapshot then {shared := r, code := [.admitIntent call request intent evaluatedAt]}
          else r.respond call none (.ok (refused .snapshotUnavailable))
        | none => r.respond call none (.ok (refused .snapshotUnavailable))
  | .inputs _ => r.respond call none (.error (unavailable "current snapshot capture returned another selection"))

def proceed (call : Nat) (request : Request) (evaluatedAt : TimePoint) (admission : Nat) : Outcome :=
  {shared := r, code := [.examine ⟨call,request,evaluatedAt,admission,r.dispatched.contains admission⟩]}

def admitIntent (choice : Choice) (r : Router) (call : Nat) (request : Request) (intent : Intent)
    (evaluatedAt : TimePoint) : Outcome :=
  match choice.admission with
  | .rejected id recorded =>
    r.respond call none (.ok (match recorded with
      | some record => project record
      | none => refused (.error id)))
  | .admits route guard admittedAt =>
    match r.admissions.findIdx? (·.intent = intent) with
    | some known => r.proceed call request evaluatedAt known
    | none => proceed {r with admissions := r.admissions ++ [⟨intent,route,guard,admittedAt⟩]} call
                request evaluatedAt r.admissions.length

def routeMatches (route : Route) (request : Request) : Bool :=
  route.capabilityInstance = request.capabilityInstanceID && route.sourceEpochID = request.expectedSourceEpochID &&
    route.driverGeneration = request.expectedDriverGeneration

def examine (a : Admission) : Outcome :=
  if a.route.any (·.bindingID ≠ o.request.bindingID) then r.answer o (refused .bindingMismatch)
  else match r.recorded o.admission with
    | some record => r.answer o (project record)
    | none =>
      match a.route,a.guard,a.admittedAt with
      | some route,some _,some (admittedAt,_) =>
        if admittedAt ≠ o.evaluatedAt then {shared := r, code := [.replayed o]}
        else if !routeMatches route o.request then r.answer o (refused .routeMismatch)
        else {shared := r, code := [.lookup o]}
      | _,_,_ => r.answer o (refused .routeMismatch)

def replayed : Outcome :=
  match r.recorded o.admission with
  | some record => r.answer o (project record)
  | none => {shared := r, code := [.replayedDispatch o]}

def replayedDispatch : Outcome :=
  r.answer o (if r.dispatched.contains o.admission then accepted else refused .admissionReplayed)

def lookup (choice : Choice) (r : Router) (o : Obtained) : Outcome :=
  if !choice.found then r.answer o (refused .executorMissing)
  else if choice.ended then r.answer o (refused (.error .deadlineExpired))
  else {shared := r, code := [.claim o]}

def claim (a : Admission) : Outcome :=
  if r.dispatched.contains o.admission then {shared := r, code := [.replayed o]}
  else
    {shared := {r with dispatched := r.dispatched ++ [o.admission]}
     code := [.await o]
     forked := a.dispatch.toList.map fun dispatch => Thread.mk Name.task [.execute o dispatch]}

def complete (result : Result) : Outcome :=
  {shared := {r with outcomes := Function.update r.outcomes o.call (some result)}}

def execute (choice : Choice) (r : Router) (o : Obtained) (dispatch : Dispatch) : Outcome :=
  let r := {r with invoked := r.invoked ++ [(o.admission,dispatch)]}
  match choice.execution with
  | .failed => r.complete o (unknown .executionEvidenceMissing)
  | .pending => r.complete o accepted
  | .completed record => {shared := r, code := [.record o record]}

def record (choice : Choice) (r : Router) (o : Obtained) (record : ExecutionRecord) : Outcome :=
  if !choice.recordable then r.complete o (unknown .executionEvidenceInvalid)
  else match r.recorded o.admission with
    | some stored => r.complete o (project stored)
    | none => {r with recorded := Function.update r.recorded o.admission (some record)}.complete o (project record)

def await (choice : Choice) (r : Router) (o : Obtained) : Option Outcome :=
  match r.outcomes o.call with
  | some result => some (r.answer o result)
  | none => if choice.ended then some (r.answer o (unknown .evidenceTimeout)) else none

end Router

def perform (cfg : Config) (choice : Choice) (act : Act) (r : Router) : Option Outcome :=
  match act with
  | .completeIntent call request => some (r.completeIntent cfg choice call request)
  | .capture call request intent => some (r.capture choice call request intent)
  | .admitIntent call request intent evaluatedAt => some (r.admitIntent choice call request intent evaluatedAt)
  | .examine o => r.admissions[o.admission]?.map (r.examine o)
  | .replayed o => some (r.replayed o)
  | .replayedDispatch o => some (r.replayedDispatch o)
  | .lookup o => some (r.lookup choice o)
  | .claim o => r.admissions[o.admission]?.map (r.claim o)
  | .execute o dispatch => some (r.execute choice o dispatch)
  | .record o record => some (r.record choice o record)
  | .await o => r.await choice o

def launch (request : Request) (r : Router) : Option (Outcome × Name) :=
  some ({shared := {r with calls := r.calls + 1}, code := [.completeIntent r.calls request]},.task)

def program (cfg : Config) : Program Name Act Router Request Choice := ⟨fun _ => false,launch,perform cfg⟩

abbrev System := Machine Name Act Router
abbrev Label := Move Request Choice

def step (cfg : Config) (system : System) (label : Label) : Option System := system.step (program cfg) label

def initially (admissions : List Admission) (recorded : Nat → Option ExecutionRecord) : System :=
  ⟨{admissions := admissions, recorded := recorded},[]⟩

end EbusGateway.SemanticOperations
