import EbusGateway.Arbitration
import EbusGateway.Library.Transition
import Mathlib.Logic.Function.Basic

/-! The gateway's write of an escape pair: `writeSymbols` in sendLoop, `observeGatewayLeadEcho` in
readLoop and `retireGatewayLeadWait` at lifecycle boundaries share one wait through an atomic pointer, a
state word, a mutex and a channel with one place. Every atomic operation, and every stretch under a lock
that nothing else observes, is one step. `arbHeld` is the arbitrator's lock, for which ownership transitions
wait and a lifecycle fence does not. The transmission is the step that ends the write.
-/
namespace EbusGateway.EscapePair
open Library

abbrev Symbol := UInt8 × Bool

inductive SuffixState
  | pending
  | committed
  | refuted
deriving DecidableEq

inductive Boundary
  | adapterReset
  | reconnect
  | closed
deriving DecidableEq

structure LeadOutcome where
  observed : UInt8 := 0
  early : Bool := false
  suffixStep : Bool := false
  err : Option Boundary := none
deriving DecidableEq

/-- A wait. Beside the code's fields it has the symbols observed while it was published, how often it was
unpublished and how many outcomes were sent, whether a boundary retired it, whether its suffix was
transmitted, and whether it was when a symbol decided it. -/
structure LeadWait where
  lead : UInt8 := 0
  suffix : UInt8 := 0
  result : Option LeadOutcome := none
  leadEchoed : Bool := false
  leadSeen : Bool := false
  held : Bool := false
  suffixState : SuffixState := .pending
  seen : List Symbol := []
  taken : Nat := 0
  sends : Nat := 0
  retired : Bool := false
  transmitted : Bool := false
  decidedAfter : Bool := false

inductive CommitError
  | lifecycleFenced
  | ownershipChanged
deriving DecidableEq

inductive EscapeStep
  | lead
  | suffix
deriving DecidableEq

inductive Cause
  | busCollision
  | timeout
deriving DecidableEq

structure EchoError where
  step : EscapeStep
  lead : UInt8
  written : UInt8
  observed : Option UInt8 := none
  beforeWrite : Bool := false
  cause : Cause
deriving DecidableEq

inductive WriteError
  | notBusOwner
  | leadWithheld (err : CommitError)
  | suffixWithheld (err : CommitError)
  | transport
  | boundary (boundary : Boundary)
  | echo (err : EchoError)
  | context
  | unexplained
deriving DecidableEq

structure Call where
  id : Nat
  token : Arbitrator.OwnershipToken
  lead : UInt8
  suffix : UInt8
  wait : Option Nat := none
deriving DecidableEq

inductive Drop
  | failed (err : WriteError)
  | timedOut
deriving DecidableEq

inductive Writer
  | idle
  | entering (lead suffix : UInt8) (raw : Bool)
  | arming (id : Nat) (token : Arbitrator.OwnershipToken) (lead suffix : UInt8) (raw : Bool)
  | leadCheck (call : Call)
  | leadWrite (call : Call) (checked : Arbitrator)
  | pacing (call : Call)
  | polling (call : Call)
  | suffixCheck (call : Call)
  | claiming (call : Call) (checked : Arbitrator)
  | receiving (call : Call)
  | suffixWrite (call : Call) (checked : Arbitrator)
  | awaiting (call : Call)
  | dropping (call : Call) (cause : Drop)
deriving DecidableEq

inductive Reader
  | idle
  | advancing (wait : Nat) (symbol : Symbol)
  | locking (wait : Nat) (symbol : UInt8) (suffixStep : Bool)
  | unpublishing (wait : Nat) (symbol : UInt8) (suffixStep : Bool)
  | refuting (wait : Nat) (symbol : UInt8) (suffixStep : Bool)
  | sending (wait : Nat) (outcome : LeadOutcome)
deriving DecidableEq

structure Transmission where
  call : Call
  suffix : Bool
  checked : Arbitrator
  arb : Arbitrator
  wait : Option LeadWait
  reader : Reader
  stream : List Symbol

structure Return where
  call : Option Call
  err : Option WriteError
  wait : Option LeadWait

structure State where
  arb : Arbitrator
  arbHeld : Bool := false
  published : Option Nat := none
  waits : Nat → LeadWait := fun _ => {}
  armed : Nat := 0
  calls : Nat := 0
  writer : Writer := .idle
  reader : Reader := .idle
  fenced : List Boundary := []
  retiring : List (Nat × Boundary) := []
  stream : List Symbol := []
  transmissions : List Transmission := []
  returns : List Return := []

inductive Arm
  | leadEchoed
  | timer
  | result
  | context

structure Choice where
  written : Bool := true
  arm : Arm := .result

inductive Label
  | writeSymbols (lead suffix : UInt8) (raw : Bool)
  | sendLoop (choice : Choice)
  | observe (symbol : Symbol)
  | readLoop
  | confirmOwnership (session : Nat) (initiator : UInt8)
  | releaseOwnership (session : Nat)
  | forceRelease
  | fence (boundary : Boundary)
  | swap (index : Nat)
  | send (index : Nat)

def commitError (arb : Arbitrator) (token : Arbitrator.OwnershipToken) : Option CommitError :=
  if arb.lifecycleEpoch ≠ token.epoch then some .lifecycleFenced
  else if !arb.hasOwner || arb.currentOwner ≠ token.sessionID || arb.ownershipGen ≠ token.gen then some .ownershipChanged
  else none

def pairFailure (lead suffix : UInt8) (out : LeadOutcome) : Option WriteError :=
  match out.err with
  | some boundary => some (.boundary boundary)
  | none =>
    if out.suffixStep then
      if !out.early && out.observed = suffix then none
      else some (.echo ⟨.suffix,lead,suffix,some out.observed,out.early,.busCollision⟩)
    else some (.echo ⟨.lead,lead,lead,some out.observed,false,.busCollision⟩)

namespace State

def update (s : State) (wait : Nat) (change : LeadWait → LeadWait) : State :=
  {s with waits := Function.update s.waits wait (change (s.waits wait))}

variable (s : State) (call : Call)

def waitOf : Option LeadWait := call.wait.map s.waits

def finish (err : Option WriteError) : State :=
  {s with writer := .idle, returns := ⟨some call,err,s.waitOf call⟩ :: s.returns}

def transmit (suffix : Bool) (checked : Arbitrator) : State :=
  {s with transmissions := ⟨call,suffix,checked,s.arb,s.waitOf call,s.reader,s.stream⟩ :: s.transmissions}

def enter (lead suffix : UInt8) (raw : Bool) : State :=
  match s.arb.currentOwnershipToken gatewaySessionID with
  | none => {s with writer := .idle, returns := ⟨none,some .notBusOwner,none⟩ :: s.returns}
  | some token => {s with writer := .arming s.calls token lead suffix raw, calls := s.calls + 1}

def armGatewayLeadWait (id : Nat) (token : Arbitrator.OwnershipToken) (lead suffix : UInt8) (raw : Bool) : State :=
  if raw then
    {s with
      waits := Function.update s.waits s.armed {lead := lead, suffix := suffix}
      published := some s.armed, armed := s.armed + 1
      writer := .leadCheck ⟨id,token,lead,suffix,some s.armed⟩}
  else {s with writer := .leadCheck ⟨id,token,lead,suffix,none⟩}

def fail (err : WriteError) : State := {s with writer := .dropping call (.failed err)}

def checkLead : State :=
  match commitError s.arb call.token with
  | some err => s.fail call (.leadWithheld err)
  | none => {s with arbHeld := true, writer := .leadWrite call s.arb}

def writeLead (checked : Arbitrator) (written : Bool) : State :=
  if written then {s.transmit call false checked with arbHeld := false, writer := .pacing call}
  else {s with arbHeld := false}.fail call .transport

def receive (wait : Nat) : State := s.update wait fun w => {w with result := none}

def settle (wait : Nat) (out : LeadOutcome) (onward : Writer) : State :=
  match pairFailure (s.waits wait).lead (s.waits wait).suffix out with
  | some err => (s.receive wait).finish call (some err)
  | none => {s.receive wait with writer := onward}

def pace (arm : Arm) : Option State :=
  match arm,call.wait with
  | .leadEchoed,some wait => if (s.waits wait).leadEchoed then some {s with writer := .polling call} else none
  | .leadEchoed,none => none
  | .timer,_ => some {s with writer := .polling call}
  | .result,some wait => (s.waits wait).result.map fun out => s.settle call wait out (.suffixCheck call)
  | .result,none => none
  | .context,_ => some (s.fail call .context)

def poll : State :=
  match call.wait with
  | none => {s with writer := .suffixCheck call}
  | some wait =>
    match (s.waits wait).result with
    | none => {s with writer := .suffixCheck call}
    | some out => s.settle call wait out (.suffixCheck call)

def checkSuffix : State :=
  match commitError s.arb call.token with
  | some err => s.fail call (.suffixWithheld err)
  | none =>
    if call.wait.isSome then {s with arbHeld := true, writer := .claiming call s.arb}
    else {s with arbHeld := true, writer := .suffixWrite call s.arb}

def claim (checked : Arbitrator) : Option State :=
  call.wait.bind fun wait =>
    if (s.waits wait).held then none
    else if (s.waits wait).suffixState = .pending then
      some {s.update wait fun w => {w with held := true, suffixState := .committed} with writer := .suffixWrite call checked}
    else some {s.update wait fun w => {w with held := true} with writer := .receiving call}

def receiveRefuted : Option State :=
  call.wait.bind fun wait => (s.waits wait).result.map fun out =>
    {s.update wait fun w => {w with result := none, held := false} with arbHeld := false}.finish call
      (some ((pairFailure (s.waits wait).lead (s.waits wait).suffix out).getD .unexplained))

def writeSuffix (checked : Arbitrator) (written : Bool) : State :=
  let unlocked : State := match call.wait with
    | some wait => s.update wait fun w => {w with held := false, transmitted := written}
    | none => s
  if !written then {unlocked with arbHeld := false}.fail call .transport
  else
    let sent := {unlocked with transmissions := (s.transmit call true checked).transmissions, arbHeld := false}
    if call.wait.isSome then {sent with writer := .awaiting call} else sent.finish call none

def awaitEcho (arm : Arm) : Option State :=
  match arm with
  | .result => call.wait.bind fun wait => (s.waits wait).result.map fun out =>
    (s.receive wait).finish call (pairFailure (s.waits wait).lead (s.waits wait).suffix out)
  | .timer => some {s with writer := .dropping call .timedOut}
  | .context => some (s.fail call .context)
  | .leadEchoed => none

def Drop.error : Drop → WriteError
  | .failed err => err
  | .timedOut =>
    if (s.waitOf call).any (·.leadEchoed) then .echo ⟨.suffix,call.lead,call.suffix,none,false,.timeout⟩
    else .echo ⟨.lead,call.lead,call.lead,none,false,.timeout⟩

def unpublish (wait : Nat) : State := {s.update wait fun w => {w with taken := w.taken + 1} with published := none}

def dropGatewayLeadWait : State :=
  match call.wait with
  | some wait => if s.published = some wait then s.unpublish wait else s
  | none => s

def sendLoop (choice : Choice) : Option State :=
  match s.writer with
  | .idle => none
  | .entering lead suffix raw => some (s.enter lead suffix raw)
  | .arming id token lead suffix raw => some (s.armGatewayLeadWait id token lead suffix raw)
  | .leadCheck call => some (s.checkLead call)
  | .leadWrite call checked => some (s.writeLead call checked choice.written)
  | .pacing call => s.pace call choice.arm
  | .polling call => some (s.poll call)
  | .suffixCheck call => some (s.checkSuffix call)
  | .claiming call checked => s.claim call checked
  | .receiving call => s.receiveRefuted call
  | .suffixWrite call checked => some (s.writeSuffix call checked choice.written)
  | .awaiting call => s.awaitEcho call choice.arm
  | .dropping call cause =>
    some ((s.dropGatewayLeadWait call).finish call (some (Drop.error (s.dropGatewayLeadWait call) call cause)))

def observe (symbol : Symbol) : State :=
  match s.published with
  | none => {s with stream := s.stream ++ [symbol]}
  | some wait =>
    {s.update wait fun w => {w with seen := w.seen ++ [symbol]} with
      stream := s.stream ++ [symbol], reader := .advancing wait symbol}

def advance (wait : Nat) (symbol : Symbol) : State :=
  if (s.waits wait).leadSeen then {s with reader := .locking wait symbol.1 true}
  else if symbol.2 then {s with reader := .idle}
  else if symbol.1 = (s.waits wait).lead then
    {s.update wait fun w => {w with leadSeen := true, leadEchoed := true} with reader := .idle}
  else {s with reader := .locking wait symbol.1 false}

def lockWait (wait : Nat) (symbol : UInt8) (suffixStep : Bool) : Option State :=
  if (s.waits wait).held then none
  else some {s.update wait fun w => {w with held := true} with reader := .unpublishing wait symbol suffixStep}

def swapWait (wait : Nat) (symbol : UInt8) (suffixStep : Bool) : State :=
  if s.published = some wait then {s.unpublish wait with reader := .refuting wait symbol suffixStep}
  else {s.update wait fun w => {w with held := false} with reader := .idle}

def refute (wait : Nat) (symbol : UInt8) (suffixStep : Bool) : State :=
  let early := (s.waits wait).suffixState = .pending
  {s.update wait fun w => {w with
      suffixState := if early then .refuted else w.suffixState, decidedAfter := w.transmitted} with
    reader := .sending wait {observed := symbol, suffixStep := suffixStep, early := early}}

def sendOutcome (wait : Nat) (out : LeadOutcome) : Option State :=
  match (s.waits wait).result with
  | some _ => none
  | none => some (s.update wait fun w => {w with result := some out, sends := w.sends + 1})

def readLoop : Option State :=
  match s.reader with
  | .idle => none
  | .advancing wait symbol => some (s.advance wait symbol)
  | .locking wait symbol suffixStep => s.lockWait wait symbol suffixStep
  | .unpublishing wait symbol suffixStep => some (s.swapWait wait symbol suffixStep)
  | .refuting wait symbol suffixStep => some (s.refute wait symbol suffixStep)
  | .sending wait out =>
    (s.sendOutcome wait out).map fun sent => {sent.update wait fun w => {w with held := false} with reader := .idle}

def swapRetired (index : Nat) : Option State :=
  s.fenced[index]?.map fun boundary =>
    match s.published with
    | none => {s with fenced := s.fenced.eraseIdx index}
    | some wait =>
      {s.update wait fun w => {w with taken := w.taken + 1, retired := true} with
        published := none, fenced := s.fenced.eraseIdx index, retiring := s.retiring ++ [(wait,boundary)]}

def sendRetired (index : Nat) : Option State :=
  s.retiring[index]?.bind fun (wait,boundary) =>
    (s.sendOutcome wait {err := some boundary}).map fun sent => {sent with retiring := s.retiring.eraseIdx index}

end State

def step (s : State) : Label → Option State
  | .writeSymbols lead suffix raw => if s.writer = .idle then some {s with writer := .entering lead suffix raw} else none
  | .sendLoop choice => s.sendLoop choice
  | .observe symbol => if s.reader = .idle then some (s.observe symbol) else none
  | .readLoop => s.readLoop
  | .confirmOwnership session initiator =>
    if s.arbHeld then none else some {s with arb := s.arb.confirmOwnership session initiator}
  | .releaseOwnership session => if s.arbHeld then none else some {s with arb := s.arb.releaseOwnership session}
  | .forceRelease => if s.arbHeld then none else some {s with arb := s.arb.forceRelease}
  | .fence boundary => some {s with arb := s.arb.fenceLifecycle, fenced := s.fenced ++ [boundary]}
  | .swap index => s.swapRetired index
  | .send index => s.sendRetired index

def initially (arb : Arbitrator) : State := {arb := arb}

end EbusGateway.EscapePair
