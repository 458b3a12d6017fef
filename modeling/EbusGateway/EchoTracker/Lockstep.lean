import EbusGateway.EchoTracker.Queues

/-! The three queues of the echo tracker move together, and a record that is rolled back leaves the queues
as they were.
-/
namespace EbusGateway.EchoQueues
open List

def Aligned (timed : Bool) (echoes : List (Pushed UInt8)) (structural : List (Pushed Bool)) (times : List (Pushed Nat)) : Prop :=
  origins structural = origins echoes ∧ origins times = if timed then origins echoes else []

theorem Aligned.nil (timed : Bool) : Aligned timed [] [] [] := by
  cases timed
  all_goals exact ⟨rfl,rfl⟩

section Queue

variable {timed : Bool} {echoes : List (Pushed UInt8)} {structural : List (Pushed Bool)} {times : List (Pushed Nat)}
variable (aligned : Aligned timed echoes structural times)
include aligned

theorem Aligned.push (call : Nat) (data : UInt8) (flag : Bool) (writeAt : Nat) :
    Aligned timed (echoes ++ [⟨call,data⟩]) (structural ++ [⟨call,flag⟩]) (if timed then times ++ [⟨call,writeAt⟩] else times) := by
  obtain ⟨flags,written⟩ := aligned
  cases timed with
  | false => exact ⟨by simpa [origins] using flags,written⟩
  | true => exact ⟨by simpa [origins] using flags,by simpa [origins] using written⟩

theorem Aligned.drop (n : Nat) : Aligned timed (echoes.drop n) (structural.drop n) (times.drop n) := by
  obtain ⟨flags,written⟩ := aligned
  simp only [origins] at flags written
  refine ⟨by simp only [origins,map_drop,flags],?_⟩
  cases timed with
  | false => simp_all [origins]
  | true => simp only [origins,map_drop,written,if_true]

theorem Aligned.dropLast : Aligned timed echoes.dropLast structural.dropLast times.dropLast := by
  obtain ⟨flags,written⟩ := aligned
  simp only [origins] at flags written
  refine ⟨by simp only [origins,map_dropLast,flags],?_⟩
  cases timed with
  | false => simp_all [origins]
  | true => simp only [origins,map_dropLast,written,if_true]

theorem Aligned.times_length : times.length = if timed then echoes.length else 0 := by
  cases timed with
  | false => simpa [origins] using aligned.2
  | true => simpa [origins] using congrArg List.length aligned.2

end Queue

theorem call_of_origins {α β : Type} {left : List (Pushed α)} {right : List (Pushed β)} (same : origins left = origins right)
    {k : Nat} {a : Pushed α} {b : Pushed β} (first : left[k]? = some a) (second : right[k]? = some b) : a.call = b.call := by
  have entries := congrArg (·[k]?) same
  simpa [origins,first,second] using entries

structure Lockstep (timed : Bool) (t : EchoQueues) : Prop where
  aligned : Aligned timed t.expectedEchoes t.expectedStructural t.expectedWriteTimes
  pending : t.expectedEchoes.length ≤ maxPendingEchoes
  seen : t.seenEchoes.length ≤ maxSeenEchoes
  drained : t.queueJustDrained = true → t.expectedEchoes = [] ∧ t.preOverflowEchoes = none
  snapshot : ∀ echoes, t.preOverflowEchoes = some echoes → echoes.length ≤ maxPendingEchoes ∧
    Aligned timed echoes (t.preOverflowStructural.getD []) (t.preOverflowWriteTimes.getD [])

namespace Lockstep

variable {timed : Bool} {t : EchoQueues}

theorem new (timed : Bool) : Lockstep timed {} := ⟨.nil timed,Nat.zero_le _,Nat.zero_le _,nofun,nofun⟩

theorem clearQueues (t : EchoQueues) : Lockstep timed t.clearQueues := ⟨.nil timed,Nat.zero_le _,Nat.zero_le _,nofun,nofun⟩

section
variable (lockstep : Lockstep timed t)
include lockstep

theorem record (data : UInt8) (structural : Bool) (writeAt : Nat) :
    Lockstep timed (t.recordSentInternal data structural writeAt timed) := by
  unfold recordSentInternal
  dsimp only
  by_cases full : maxPendingEchoes ≤ t.expectedEchoes.length
  · simp only [if_pos full]
    refine ⟨by simpa using (Aligned.nil timed).push t.calls data structural writeAt,by simp [maxPendingEchoes],lockstep.seen,nofun,?_⟩
    intro echoes stored
    cases stored
    refine ⟨lockstep.pending,?_⟩
    -- an untimed tracker keeps no snapshot of its times, and has none
    cases timed with
    | true => exact lockstep.aligned
    | false => exact ⟨lockstep.aligned.1,rfl⟩
  · simp only [if_neg full]
    refine ⟨lockstep.aligned.push t.calls data structural writeAt,?_,lockstep.seen,nofun,nofun⟩
    rw [length_append,length_singleton]
    exact Nat.not_le.mp full

theorem rollback : Lockstep timed t.rollbackSent := by
  unfold rollbackSent
  split
  · rename_i echoes stored
    obtain ⟨within,whole⟩ := lockstep.snapshot echoes stored
    refine ⟨whole,within,lockstep.seen,fun drained => ?_,nofun⟩
    cases stored.symm.trans (lockstep.drained drained).2
  rename_i absent
  split
  · exact lockstep
  rename_i pending
  refine ⟨lockstep.aligned.dropLast,?_,lockstep.seen,?_,?_⟩
  · rw [length_dropLast]
    exact Nat.le_trans (Nat.sub_le _ _) lockstep.pending
  · exact fun drained => absurd (lockstep.drained drained).1 pending
  · intro echoes stored
    cases absent.symm.trans stored

theorem seen_push (received : UInt8) :
    ((if maxSeenEchoes ≤ t.seenEchoes.length then t.seenEchoes.drop 1 else t.seenEchoes) ++ [received]).length ≤ maxSeenEchoes := by
  have seen := lockstep.seen
  unfold maxSeenEchoes at seen ⊢
  split
  all_goals
    simp only [length_append,length_drop,length_singleton]
    omega

theorem echo (received : UInt8) (escaped : Bool) : Lockstep timed (t.matchEchoWithTime received escaped).1 := by
  unfold matchEchoWithTime
  split
  · exact lockstep
  rename_i expected rest queued
  split
  · have moved := lockstep.aligned.drop 1
    have pending := lockstep.pending
    rw [queued] at moved pending
    refine ⟨moved,Nat.le_of_succ_le pending,lockstep.seen_push received,fun drained => ?_,nofun⟩
    refine ⟨?_,rfl⟩
    -- a sentinel set before the match would stand over a queue that is not empty
    by_contra more
    simp only [if_neg more] at drained
    cases queued.symm.trans (lockstep.drained drained).1
  · exact ⟨.nil timed,Nat.zero_le _,Nat.zero_le _,fun _ => ⟨rfl,rfl⟩,nofun⟩

theorem applied {op : Operation} (suits : op.suits timed = true) : Lockstep timed (t.apply op) := by
  cases op with
  | recordSent data =>
    cases timed with
    | false => exact lockstep.record data false 0
    | true => cases suits
  | recordSentStructural data structural =>
    cases timed with
    | false => exact lockstep.record data structural 0
    | true => cases suits
  | recordSentWithTimeStructural data writeAt structural =>
    cases timed with
    | false => cases suits
    | true => exact lockstep.record data structural writeAt
  | rollbackSent => exact lockstep.rollback
  | matchEcho received escaped => exact lockstep.echo received escaped
  | matchEchoWithTime received escaped => exact lockstep.echo received escaped
  | flushOnSYN => exact clearQueues t
  | markRequestStart | reset => exact ⟨.nil timed,Nat.zero_le _,Nat.zero_le _,nofun,nofun⟩
  | clearQueueJustDrained => exact ⟨lockstep.aligned,lockstep.pending,lockstep.seen,nofun,lockstep.snapshot⟩

end

theorem folded {ops : List Operation} (suit : ∀ op ∈ ops, op.suits timed = true)
    (lockstep : Lockstep timed t) : Lockstep timed (ops.foldl apply t) := by
  induction ops generalizing t with
  | nil => exact lockstep
  | cons op rest ih =>
    obtain ⟨first,later⟩ := forall_mem_cons.mp suit
    exact ih later (lockstep.applied first)

end Lockstep

/-- A tracker used only with timed or only with untimed records keeps its queues bounded and in lockstep. -/
theorem queues_in_lockstep (timed : Bool) (operations : List Operation)
    (suit : ∀ operation ∈ operations, operation.suits timed = true) :
    (run operations).expectedStructural.length = (run operations).expectedEchoes.length ∧
    (run operations).expectedEchoes.length ≤ 256 ∧
    (run operations).expectedWriteTimes.length = (if timed then (run operations).expectedEchoes.length else 0) ∧
    (run operations).seenEchoes.length ≤ 256 ∧
    ((run operations).queueJustDrained = true → (run operations).expectedEchoes = []) ∧
    ∀ (k : Nat) (echo : Pushed UInt8), (run operations).expectedEchoes[k]? = some echo →
      (∀ flag : Pushed Bool, (run operations).expectedStructural[k]? = some flag → flag.call = echo.call) ∧
      ∀ time : Pushed Nat, (run operations).expectedWriteTimes[k]? = some time → time.call = echo.call := by
  have lockstep : Lockstep timed (run operations) := (Lockstep.new timed).folded suit
  refine ⟨by simpa [origins] using congrArg List.length lockstep.aligned.1,lockstep.pending,
    lockstep.aligned.times_length,lockstep.seen,
    fun drained => (lockstep.drained drained).1,fun k echo queued => ⟨fun flag stored => ?_,fun time stored => ?_⟩⟩
  · exact call_of_origins lockstep.aligned.1 stored queued
  · cases timed with
    | true => exact call_of_origins lockstep.aligned.2 stored queued
    | false =>
      have none : (run operations).expectedWriteTimes = [] := map_eq_nil_iff.mp lockstep.aligned.2
      rw [none] at stored
      cases stored

def echoedRecord : List Operation :=
  [.recordSentWithTimeStructural 0x10 1 false,.recordSentWithTimeStructural 0xAA 2 true,.matchEchoWithTime 0x10 false]

/-- Two timed records, of which the first is echoed. -/
theorem echoed_record_in_lockstep : (run echoedRecord).expectedEchoes = [⟨1,0xAA⟩] ∧
    (run echoedRecord).expectedWriteTimes.length = 1 :=
  ⟨by decide,(queues_in_lockstep true echoedRecord (by decide)).2.2.1⟩

/-- A record that is rolled back leaves the echoes, their structural flags and the overflow count as they were, and
the write times of a timed record; the count of writes keeps the record, and the tracker is no longer
between two writes. -/
theorem recordSent_rollbackSent (t : EchoQueues) (data : UInt8) (structural : Bool) (writeAt : Nat) (withTime : Bool) :
    let after := (t.recordSentInternal data structural writeAt withTime).rollbackSent
    after.expectedEchoes = t.expectedEchoes ∧ after.expectedStructural = t.expectedStructural ∧
    after.expectedWriteTimes =
      (if withTime then t.expectedWriteTimes
      else if maxPendingEchoes ≤ t.expectedEchoes.length then [] else t.expectedWriteTimes.dropLast) ∧
    after.totalOverflowResets = t.totalOverflowResets ∧ after.writeCount = t.writeCount + 1 ∧ after.queueJustDrained = false := by
  unfold recordSentInternal
  dsimp only
  by_cases full : maxPendingEchoes ≤ t.expectedEchoes.length
  · simp only [if_pos full]
    cases withTime
    all_goals exact ⟨rfl,rfl,rfl,rfl,rfl,rfl⟩
  · simp only [if_neg full]
    cases withTime
    all_goals simp [rollbackSent,writeCount]

/-- After a matched echo the tracker is between two writes; a record and its rollback end that and count a write. An
untimed one drops a write time. -/
theorem rollback_not_exact :
    let drained := run [.recordSent 0x10,.matchEcho 0x10 false]
    let timed := run [.recordSentWithTimeStructural 0x10 5 false]
    (drained.queueJustDrained = true ∧ drained.writeCount = 1 ∧ timed.expectedWriteTimes = [⟨0,5⟩]) ∧
    (drained.recordSent 0x20).rollbackSent.queueJustDrained = false ∧ (drained.recordSent 0x20).rollbackSent.writeCount = 2 ∧
    (timed.recordSent 0x20).rollbackSent.expectedWriteTimes = [] := by decide

end EbusGateway.EchoQueues
