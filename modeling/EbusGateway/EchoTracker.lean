import EbusGateway.WirePhase

/-! The gateway echo tracker: the bytes the gateway wrote and still expects to read back, and those it
has read back since the last flush. The write times it also keeps feed only the output pacer.
-/
namespace EbusGateway

def maxPendingEchoes : Nat := 256
def maxSeenEchoes : Nat := 256

structure EchoTracker where
  expectedEchoes : List UInt8 := []
  expectedStructural : List Bool := []
  preOverflowEchoes : Option (List UInt8) := none
  preOverflowStructural : Option (List Bool) := none
  seenEchoes : List UInt8 := []
  atRequestStart : Bool := false
  totalSuppressed : Nat := 0
  totalWritten : Nat := 0
  totalMismatches : Nat := 0
  totalOverflowResets : Nat := 0
  queueJustDrained : Bool := false

inductive EchoMatchResult
  | none
  | suppressed
  | flushed

namespace EchoTracker

variable (t : EchoTracker)

def recordSentStructural (data : UInt8) (structural : Bool) : EchoTracker :=
  let t := if maxPendingEchoes ≤ t.expectedEchoes.length then
      {t with
        preOverflowEchoes := some t.expectedEchoes, preOverflowStructural := some t.expectedStructural
        expectedEchoes := [], expectedStructural := [], totalOverflowResets := t.totalOverflowResets + 1}
    else {t with preOverflowEchoes := none, preOverflowStructural := none}
  {t with
    queueJustDrained := false
    expectedEchoes := t.expectedEchoes ++ [data], expectedStructural := t.expectedStructural ++ [structural]
    totalWritten := t.totalWritten + 1}

def rollbackSent : EchoTracker :=
  match t.preOverflowEchoes with
  | some echoes =>
    {t with
      expectedEchoes := echoes, preOverflowEchoes := none
      totalOverflowResets := t.totalOverflowResets - 1
      expectedStructural := t.preOverflowStructural.getD [], preOverflowStructural := none}
  | none =>
    if t.expectedEchoes = [] then t
    else {t with expectedEchoes := t.expectedEchoes.dropLast, expectedStructural := t.expectedStructural.dropLast}

def matchEcho (received : UInt8) (receivedWasEscaped : Bool) :
    EchoTracker × EchoMatchResult × List UInt8 :=
  match t.expectedEchoes with
  | [] => (t,.none,[])
  | expected :: rest =>
    if received = expected then
      let seen := if maxSeenEchoes ≤ t.seenEchoes.length then t.seenEchoes.drop 1 else t.seenEchoes
      ({t with
        preOverflowEchoes := none
        expectedEchoes := rest, expectedStructural := t.expectedStructural.drop 1, seenEchoes := seen ++ [received]
        totalSuppressed := t.totalSuppressed + 1
        queueJustDrained :=
          if rest = [] then !(received = symbolSyn && !receivedWasEscaped) else t.queueJustDrained},.suppressed,[])
    else
      ({t with
        preOverflowEchoes := none
        expectedEchoes := [], expectedStructural := [], seenEchoes := [], atRequestStart := false
        totalMismatches := t.totalMismatches + 1},.flushed,t.seenEchoes)

def flushOnSYN : EchoTracker :=
  {t with
    seenEchoes := [], expectedEchoes := [], expectedStructural := []
    preOverflowEchoes := none, preOverflowStructural := none, queueJustDrained := false}

def markRequestStart : EchoTracker :=
  {t with
    atRequestStart := true, seenEchoes := [], expectedEchoes := [], expectedStructural := []
    totalSuppressed := 0, totalWritten := 0
    preOverflowEchoes := none, preOverflowStructural := none, queueJustDrained := false}

def reset : EchoTracker := {t.markRequestStart with atRequestStart := false}

def peekNextExpected : Option UInt8 := t.expectedEchoes.head?

def peekNextExpectedWithFlags : Option (UInt8 × Bool) :=
  t.expectedEchoes.head?.map fun expected => (expected,t.expectedStructural.head?.getD false)

def clearQueueJustDrained : EchoTracker := {t with queueJustDrained := false}

end EchoTracker
end EbusGateway
