import EbusGateway.EchoTracker

/-! The echo tracker with its write times: three parallel queues and a snapshot of each. Every entry
carries the number of the `recordSent` call that pushed it. Forgetting the numbers and the times gives the
tracker the mux is modelled with.
-/
namespace EbusGateway
open List

structure Pushed (α : Type) where
  call : Nat
  value : α
deriving DecidableEq

structure EchoQueues where
  expectedEchoes : List (Pushed UInt8) := []
  expectedStructural : List (Pushed Bool) := []
  expectedWriteTimes : List (Pushed Nat) := []
  preOverflowEchoes : Option (List (Pushed UInt8)) := none
  preOverflowStructural : Option (List (Pushed Bool)) := none
  preOverflowWriteTimes : Option (List (Pushed Nat)) := none
  seenEchoes : List UInt8 := []
  atRequestStart : Bool := false
  totalSuppressed : Nat := 0
  totalWritten : Nat := 0
  totalMismatches : Nat := 0
  totalOverflowResets : Nat := 0
  queueJustDrained : Bool := false
  calls : Nat := 0

namespace EchoQueues

variable (t : EchoQueues) (data : UInt8)

def recordSentInternal (structural : Bool) (writeAt : Nat) (withTime : Bool) : EchoQueues :=
  let t := {t with queueJustDrained := false}
  let t := if maxPendingEchoes ≤ t.expectedEchoes.length then
      {t with
        preOverflowEchoes := some t.expectedEchoes
        preOverflowStructural := some t.expectedStructural
        preOverflowWriteTimes := if withTime then some t.expectedWriteTimes else none
        expectedEchoes := [], expectedStructural := [], expectedWriteTimes := []
        totalOverflowResets := t.totalOverflowResets + 1}
    else {t with preOverflowEchoes := none, preOverflowStructural := none, preOverflowWriteTimes := none}
  {t with
    expectedEchoes := t.expectedEchoes ++ [⟨t.calls,data⟩]
    expectedStructural := t.expectedStructural ++ [⟨t.calls,structural⟩]
    expectedWriteTimes := if withTime then t.expectedWriteTimes ++ [⟨t.calls,writeAt⟩] else t.expectedWriteTimes
    totalWritten := t.totalWritten + 1, calls := t.calls + 1}

def recordSent : EchoQueues := t.recordSentInternal data false 0 false

def recordSentStructural (structural : Bool) : EchoQueues :=
  t.recordSentInternal data structural 0 false

def recordSentWithTimeStructural (writeAt : Nat) (structural : Bool) : EchoQueues :=
  t.recordSentInternal data structural writeAt true

def rollbackSent : EchoQueues :=
  match t.preOverflowEchoes with
  | some echoes =>
    {t with
      expectedEchoes := echoes, preOverflowEchoes := none
      totalOverflowResets := t.totalOverflowResets - 1
      expectedStructural := t.preOverflowStructural.getD [], preOverflowStructural := none
      expectedWriteTimes := t.preOverflowWriteTimes.getD [], preOverflowWriteTimes := none}
  | none =>
    if t.expectedEchoes = [] then t
    else
      {t with
        expectedEchoes := t.expectedEchoes.dropLast
        expectedStructural := t.expectedStructural.dropLast
        expectedWriteTimes := t.expectedWriteTimes.dropLast}

def matchEchoWithTime (received : UInt8) (receivedWasEscaped : Bool) :
    EchoQueues × EchoMatchResult × List UInt8 × Option Nat :=
  match t.expectedEchoes with
  | [] => (t,.none,[],none)
  | expected :: rest =>
    let t := {t with preOverflowEchoes := none, preOverflowWriteTimes := none}
    if received = expected.value then
      let seen := if maxSeenEchoes ≤ t.seenEchoes.length then t.seenEchoes.drop 1 else t.seenEchoes
      ({t with
        expectedEchoes := rest
        expectedStructural := t.expectedStructural.drop 1
        expectedWriteTimes := t.expectedWriteTimes.drop 1
        seenEchoes := seen ++ [received]
        totalSuppressed := t.totalSuppressed + 1
        queueJustDrained := if rest = [] then !(received = symbolSyn && !receivedWasEscaped) else t.queueJustDrained},
        .suppressed,[],(t.expectedWriteTimes.head?.map (·.value)).filter (· ≠ 0))
    else
      ({t with
        expectedEchoes := [], expectedStructural := [], expectedWriteTimes := []
        seenEchoes := [], atRequestStart := false, totalMismatches := t.totalMismatches + 1},.flushed,t.seenEchoes,none)

def matchEcho (received : UInt8) (receivedWasEscaped : Bool) : EchoQueues × EchoMatchResult × List UInt8 :=
  let (next,result,flushed,_) := t.matchEchoWithTime received receivedWasEscaped
  (next,result,flushed)

def clearQueues : EchoQueues :=
  {t with
    seenEchoes := [], expectedEchoes := [], expectedStructural := [], expectedWriteTimes := []
    preOverflowEchoes := none, preOverflowStructural := none, preOverflowWriteTimes := none
    queueJustDrained := false}

def flushOnSYN : EchoQueues × List UInt8 × Bool := (t.clearQueues,t.seenEchoes,t.atRequestStart)

def markRequestStart : EchoQueues :=
  {t.clearQueues with atRequestStart := true, totalSuppressed := 0, totalWritten := 0}

def reset : EchoQueues :=
  {t.clearQueues with atRequestStart := false, totalSuppressed := 0, totalWritten := 0}

def clearQueueJustDrained : EchoQueues := {t with queueJustDrained := false}

def writeCount : Nat := t.totalWritten

inductive Operation
  | recordSent (data : UInt8)
  | recordSentStructural (data : UInt8) (structural : Bool)
  | recordSentWithTimeStructural (data : UInt8) (writeAt : Nat) (structural : Bool)
  | rollbackSent
  | matchEcho (received : UInt8) (receivedWasEscaped : Bool)
  | matchEchoWithTime (received : UInt8) (receivedWasEscaped : Bool)
  | flushOnSYN
  | markRequestStart
  | reset
  | clearQueueJustDrained

def apply : Operation → EchoQueues
  | .recordSent data => t.recordSent data
  | .recordSentStructural data structural => t.recordSentStructural data structural
  | .recordSentWithTimeStructural data writeAt structural => t.recordSentWithTimeStructural data writeAt structural
  | .rollbackSent => t.rollbackSent
  | .matchEcho received escaped => (t.matchEcho received escaped).1
  | .matchEchoWithTime received escaped => (t.matchEchoWithTime received escaped).1
  | .flushOnSYN => t.flushOnSYN.1
  | .markRequestStart => t.markRequestStart
  | .reset => t.reset
  | .clearQueueJustDrained => t.clearQueueJustDrained

def run (operations : List Operation) : EchoQueues := operations.foldl apply {}

def Operation.suits (timed : Bool) : Operation → Bool
  | .recordSent _ | .recordSentStructural _ _ => !timed
  | .recordSentWithTimeStructural _ _ _ => timed
  | _ => true

def values {α : Type} (queue : List (Pushed α)) : List α := queue.map (·.value)

def origins {α : Type} (queue : List (Pushed α)) : List Nat := queue.map (·.call)

def untimed : EchoTracker where
  expectedEchoes := values t.expectedEchoes
  expectedStructural := values t.expectedStructural
  preOverflowEchoes := t.preOverflowEchoes.map values
  preOverflowStructural := t.preOverflowStructural.map values
  seenEchoes := t.seenEchoes
  atRequestStart := t.atRequestStart
  totalSuppressed := t.totalSuppressed
  totalWritten := t.totalWritten
  totalMismatches := t.totalMismatches
  totalOverflowResets := t.totalOverflowResets
  queueJustDrained := t.queueJustDrained

theorem untimed_recordSentInternal (structural : Bool) (writeAt : Nat) (withTime : Bool) :
    (t.recordSentInternal data structural writeAt withTime).untimed = t.untimed.recordSentStructural data structural := by
  simp only [recordSentInternal,EchoTracker.recordSentStructural,untimed,values,length_map]
  split
  · simp [values]
  · simp

theorem untimed_rollbackSent : t.rollbackSent.untimed = t.untimed.rollbackSent := by
  simp only [rollbackSent,EchoTracker.rollbackSent,untimed]
  cases snapshot : t.preOverflowEchoes with
  | some echoes => cases t.preOverflowStructural <;> simp [values]
  | none =>
    simp only [Option.map_none,values,map_eq_nil_iff]
    split
    · simp [*]
    · simp [*,map_dropLast]

theorem untimed_matchEchoWithTime (received : UInt8) (escaped : Bool) :
    (t.matchEchoWithTime received escaped).1.untimed = (t.untimed.matchEcho received escaped).1 := by
  simp only [matchEchoWithTime,EchoTracker.matchEcho,untimed,values]
  cases echoes : t.expectedEchoes with
  | nil => simp [echoes]
  | cons expected rest =>
    simp only [map_cons]
    split
    · simp
    · simp

def Operation.untimed (t : EchoTracker) : Operation → EchoTracker
  | .recordSent data => t.recordSentStructural data false
  | .recordSentStructural data structural | .recordSentWithTimeStructural data _ structural => t.recordSentStructural data structural
  | .rollbackSent => t.rollbackSent
  | .matchEcho received escaped | .matchEchoWithTime received escaped => (t.matchEcho received escaped).1
  | .flushOnSYN => t.flushOnSYN
  | .markRequestStart => t.markRequestStart
  | .reset => t.reset
  | .clearQueueJustDrained => t.clearQueueJustDrained

theorem untimed_apply (op : Operation) : (t.apply op).untimed = op.untimed t.untimed := by
  cases op with
  | recordSent data => exact untimed_recordSentInternal t data false 0 false
  | recordSentStructural data structural => exact untimed_recordSentInternal t data structural 0 false
  | recordSentWithTimeStructural data writeAt structural => exact untimed_recordSentInternal t data structural writeAt true
  | rollbackSent => exact untimed_rollbackSent t
  | matchEcho received escaped => exact untimed_matchEchoWithTime t received escaped
  | matchEchoWithTime received escaped => exact untimed_matchEchoWithTime t received escaped
  | flushOnSYN => rfl
  | markRequestStart => rfl
  | reset => rfl
  | clearQueueJustDrained => rfl

theorem untimed_run (operations : List Operation) : (run operations).untimed = operations.foldl Operation.untimed {} := by
  suffices step : ∀ t : EchoQueues, (operations.foldl apply t).untimed = operations.foldl Operation.untimed t.untimed from step {}
  induction operations with
  | nil => exact fun _ => rfl
  | cons operation rest ih =>
    intro t
    rw [foldl_cons,foldl_cons,ih,untimed_apply]

end EchoQueues
end EbusGateway
