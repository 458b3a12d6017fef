import EbusGateway.WirePhase

/-! The wire phase tracker returns to idle: without a SYN and without a new request, the bytes it still
takes before it is idle are bounded by its phase, its counters and the two retry flags.
-/
namespace EbusGateway.WirePhaseTracker

def maxRequestBytes : Nat := 261
def maxResponseBytes : Nat := 257

def maxTelegramBytes : Nat := 2 * maxRequestBytes + 2 + 2 * maxResponseBytes + 2 + 1

inductive Operation
  | reset
  | startRequest
  | startRequestWithSource (source : UInt8)
  | markOwnerWrite
  | advance (symbol : UInt8) (isWireSyn : Bool)

variable (isInitiatorCapableAddress : UInt8 → Bool)

variable (t : WirePhaseTracker) (operations : List Operation)

def apply : Operation → WirePhaseTracker
  | .reset => t.reset .idle
  | .startRequest => t.startRequest
  | .startRequestWithSource source => t.startRequestWithSource source
  | .markOwnerWrite => t.markOwnerWrite
  | .advance symbol isWireSyn => (t.advanceWithProvenance isInitiatorCapableAddress symbol isWireSyn).1

def run : WirePhaseTracker := operations.foldl (apply isInitiatorCapableAddress) {}

def fed (symbols : List UInt8) : WirePhaseTracker :=
  symbols.foldl (fun t symbol => (t.advanceWithProvenance isInitiatorCapableAddress symbol false).1) t

structure Counts (t : WirePhaseTracker) : Prop where
  header : t.phase = .collectRequest → t.requestDataLength = none → t.requestBytesSeen ≤ 4
  data : t.phase = .collectRequest → ∀ length, t.requestDataLength = some length →
    length ≤ 255 ∧ 5 ≤ t.requestBytesSeen ∧ t.requestBytesSeen < 6 + length
  body : t.phase = .waitResponseBody → 1 ≤ t.responseBytesRemain ∧ t.responseBytesRemain ≤ 256

def afterResponse (retried : Bool) : Nat := if retried then 2 else 3 + maxResponseBytes

def afterCommand (retried : Bool) : Nat := 1 + maxResponseBytes + afterResponse false + if retried then 0 else 1 + maxRequestBytes

def remaining : Nat :=
  match t.phase with
  | .idle => 0
  | .waitTerminalSyn => 1
  | .waitResponseAck => afterResponse t.responseRetried
  | .waitResponseBody => t.responseBytesRemain.toNat + afterResponse t.responseRetried
  | .waitResponseLen => maxResponseBytes + afterResponse t.responseRetried
  | .waitCmdAck => afterCommand t.cmdRetried
  | .collectRequest => t.requestDataLength.elim maxRequestBytes (6 + ·) - t.requestBytesSeen + afterCommand t.cmdRetried

variable {t}

theorem afterResponse_bounds (retried : Bool) : 2 ≤ afterResponse retried ∧ afterResponse retried ≤ 260 := by
  cases retried
  all_goals decide

theorem afterCommand_bounds (retried : Bool) : 518 ≤ afterCommand retried ∧ afterCommand retried ≤ 780 := by
  cases retried
  all_goals decide

theorem counts_of_phase (request : t.phase ≠ .collectRequest) (response : t.phase ≠ .waitResponseBody) : Counts t :=
  ⟨fun collects => absurd collects request,fun collects => absurd collects request,fun waits => absurd waits response⟩

theorem counts_of_request (collects : t.phase = .collectRequest) (header : t.requestDataLength = none → t.requestBytesSeen ≤ 4)
    (data : ∀ length, t.requestDataLength = some length → length ≤ 255 ∧ 5 ≤ t.requestBytesSeen ∧
      t.requestBytesSeen < 6 + length) : Counts t := by
  refine ⟨fun _ => header,fun _ => data,fun waits => ?_⟩
  cases collects.symm.trans waits

theorem counts_of_body (waits : t.phase = .waitResponseBody)
    (left : 1 ≤ t.responseBytesRemain ∧ t.responseBytesRemain ≤ 256) : Counts t := by
  refine ⟨fun collects => ?_,fun collects => ?_,fun _ => left⟩
  all_goals cases waits.symm.trans collects

theorem collect_counts (counts : Counts t) (collects : t.phase = .collectRequest) (symbol : UInt8) :
    Counts (t.advanceCollectRequest symbol).1 ∧ (t.advanceCollectRequest symbol).1.remaining < t.remaining := by
  have small : symbol.toNat ≤ 255 := Nat.le_of_lt_succ symbol.toNat_lt
  cases known : t.requestDataLength with
  | none =>
    have header := counts.header collects known
    by_cases fourth : t.requestBytesSeen = 4
    · rw [advanceCollectRequest_length fourth]
      refine ⟨counts_of_request collects nofun fun length read => ?_,?_⟩
      · cases read
        refine ⟨small,Nat.le_refl _,?_⟩
        change 5 < _
        omega
      · simp only [remaining,collects,known,fourth,maxRequestBytes,Option.elim]
        omega
    · obtain ⟨source,destination,advanced⟩ := advanceCollectRequest_header (Nat.lt_of_le_of_ne header fourth) known symbol
      rw [advanced]
      refine ⟨counts_of_request collects (fun _ => ?_) fun length read => ?_,?_⟩
      · change t.requestBytesSeen + 1 ≤ 4
        omega
      · cases known.symm.trans read
      · simp only [remaining,collects,known,maxRequestBytes,Option.elim]
        omega
  | some length =>
    obtain ⟨short,later,left⟩ := counts.data collects length known
    rw [advanceCollectRequest_later later]
    split
    · refine ⟨counts_of_phase nofun nofun,?_⟩
      simp only [remaining,collects,known,Option.elim]
      omega
    rename_i unfinished
    simp only [known,Option.any_some,decide_eq_true_eq] at unfinished
    refine ⟨counts_of_request collects (fun unread => ?_) fun other read => ?_,?_⟩
    · cases known.symm.trans unread
    · cases known.symm.trans read
      exact ⟨short,Nat.le_succ_of_le later,Nat.lt_of_not_le unfinished⟩
    · simp only [remaining,collects,known,Option.elim]
      omega

theorem command_counts (waits : t.phase = .waitCmdAck) (symbol : UInt8) :
    Counts (t.advanceWaitCmdAck isInitiatorCapableAddress symbol).1 ∧
      (t.advanceWaitCmdAck isInitiatorCapableAddress symbol).1.remaining < t.remaining := by
  have command := afterCommand_bounds t.cmdRetried
  have response := afterResponse_bounds t.responseRetried
  unfold advanceWaitCmdAck
  split
  · split
    · refine ⟨counts_of_phase nofun nofun,?_⟩
      simp only [remaining,waits]
      omega
    · refine ⟨counts_of_phase nofun nofun,?_⟩
      simp only [remaining,waits,maxResponseBytes]
      omega
  · split
    · split
      · refine ⟨counts_of_phase nofun nofun,?_⟩
        simp only [remaining,waits]
        omega
      · rename_i first
        rw [Bool.not_eq_true] at first
        refine ⟨counts_of_request rfl (fun _ => Nat.zero_le _) nofun,?_⟩
        simp only [remaining,waits,first]
        decide
    · refine ⟨counts_of_phase nofun nofun,?_⟩
      simp only [remaining,waits,reset]
      omega

theorem body_counts (counts : Counts t) (waits : t.phase = .waitResponseBody) :
    Counts t.advanceWaitResponseBody.1 ∧ t.advanceWaitResponseBody.1.remaining < t.remaining := by
  obtain ⟨positive,few⟩ := counts.body waits
  unfold advanceWaitResponseBody
  dsimp only
  split
  · refine ⟨counts_of_phase nofun nofun,?_⟩
    simp only [remaining,waits]
    omega
  refine ⟨counts_of_body waits ?_,?_⟩
  · dsimp only
    omega
  · simp only [remaining,waits]
    omega

theorem response_ack_counts (waits : t.phase = .waitResponseAck) (symbol : UInt8) :
    Counts (t.advanceWaitResponseAck symbol).1 ∧ (t.advanceWaitResponseAck symbol).1.remaining < t.remaining := by
  unfold advanceWaitResponseAck
  split
  · rename_i rejected
    simp only [Bool.and_eq_true,Bool.not_eq_true'] at rejected
    refine ⟨counts_of_phase nofun nofun,?_⟩
    simp only [remaining,waits,rejected.2]
    decide
  · refine ⟨counts_of_phase nofun nofun,?_⟩
    have response := afterResponse_bounds t.responseRetried
    simp only [remaining,waits]
    omega

theorem advance_counts (counts : Counts t) (symbol : UInt8) :
    Counts (t.advanceWithProvenance isInitiatorCapableAddress symbol false).1 ∧
      (t.advanceWithProvenance isInitiatorCapableAddress symbol false).1.remaining ≤ t.remaining - 1 := by
  have small : symbol.toNat ≤ 255 := Nat.le_of_lt_succ symbol.toNat_lt
  unfold advanceWithProvenance
  by_cases terminal : t.phase = .waitTerminalSyn
  · rw [if_pos terminal]
    exact ⟨counts_of_phase nofun nofun,Nat.zero_le _⟩
  rw [if_neg terminal]
  simp only [Bool.false_eq_true,if_false]
  cases phase : t.phase with
  | idle => exact ⟨counts,by simp [remaining,phase]⟩
  | waitTerminalSyn => exact absurd phase terminal
  | collectRequest => exact (collect_counts counts phase symbol).imp_right Nat.le_sub_one_of_lt
  | waitCmdAck => exact (command_counts isInitiatorCapableAddress phase symbol).imp_right Nat.le_sub_one_of_lt
  | waitResponseLen =>
    refine ⟨counts_of_body rfl ?_,?_⟩
    · simp only [advanceWaitResponseLen]
      omega
    · simp only [advanceWaitResponseLen,remaining,phase,maxResponseBytes]
      omega
  | waitResponseBody => exact (body_counts counts phase).imp_right Nat.le_sub_one_of_lt
  | waitResponseAck => exact (response_ack_counts phase symbol).imp_right Nat.le_sub_one_of_lt

theorem fed_remaining (counts : Counts t) (symbols : List UInt8) :
    (t.fed isInitiatorCapableAddress symbols).remaining ≤ t.remaining - symbols.length := by
  induction symbols generalizing t with
  | nil => exact Nat.le_refl _
  | cons symbol rest ih =>
    obtain ⟨kept,less⟩ := advance_counts isInitiatorCapableAddress counts symbol
    calc (fed isInitiatorCapableAddress (t.advanceWithProvenance isInitiatorCapableAddress symbol false).1 rest).remaining
      _ ≤ (t.advanceWithProvenance isInitiatorCapableAddress symbol false).1.remaining - rest.length := ih kept
      _ ≤ t.remaining - (symbol :: rest).length := by rw [List.length_cons]; omega

theorem remaining_le (counts : Counts t) : t.remaining ≤ maxTelegramBytes := by
  have command := afterCommand_bounds t.cmdRetried
  have response := afterResponse_bounds t.responseRetried
  unfold maxTelegramBytes maxRequestBytes maxResponseBytes
  cases phase : t.phase with
  | collectRequest =>
    cases known : t.requestDataLength with
    | none =>
      simp only [remaining,phase,known,Option.elim,maxRequestBytes]
      omega
    | some length =>
      have short := (counts.data phase length known).1
      simp only [remaining,phase,known,Option.elim]
      omega
  | waitResponseBody =>
    have few := (counts.body phase).2
    simp only [remaining,phase]
    omega
  | idle | waitTerminalSyn | waitResponseAck | waitResponseLen | waitCmdAck =>
    simp only [remaining,phase,maxResponseBytes]
    omega

theorem idle_of_remaining (gone : t.remaining = 0) : t.phase = .idle := by
  have command := afterCommand_bounds t.cmdRetried
  have response := afterResponse_bounds t.responseRetried
  cases phase : t.phase with
  | idle => rfl
  | collectRequest | waitCmdAck | waitResponseLen | waitResponseBody | waitResponseAck | waitTerminalSyn =>
    simp only [remaining,phase,maxResponseBytes] at gone
    omega

theorem apply_counts (counts : Counts t) (op : Operation) : Counts (t.apply isInitiatorCapableAddress op) := by
  cases op with
  | reset => exact counts_of_phase nofun nofun
  | startRequest => exact counts_of_request rfl (fun _ => Nat.zero_le _) nofun
  | startRequestWithSource source => exact counts_of_request rfl (fun _ => Nat.le_of_ble_eq_true rfl) nofun
  | markOwnerWrite => exact {counts with}
  | advance symbol isWireSyn =>
    cases isWireSyn with
    | false => exact (advance_counts isInitiatorCapableAddress counts symbol).1
    | true =>
      have idle : ((t.advanceWithProvenance isInitiatorCapableAddress symbol true).1).phase = .idle := by
        unfold advanceWithProvenance
        simp only [if_true]
        split
        · rfl
        · split
          all_goals rfl
      exact counts_of_phase (by simp [apply,idle]) (by simp [apply,idle])

theorem run_counts : Counts (run isInitiatorCapableAddress operations) := by
  suffices kept : ∀ t, Counts t → Counts (operations.foldl (apply isInitiatorCapableAddress) t) from
    kept {} (counts_of_phase nofun nofun)
  induction operations with
  | nil => exact fun _ counts => counts
  | cons op rest ih => exact fun t counts => ih _ (apply_counts isInitiatorCapableAddress counts op)

/-- The tracker is idle after the symbols of two whole telegrams at most, and it always has something to count. -/
theorem tracker_returns_to_idle :
    (∀ symbols : List UInt8, maxTelegramBytes ≤ symbols.length →
      ((run isInitiatorCapableAddress operations).fed isInitiatorCapableAddress symbols).phase = .idle) ∧
    ((run isInitiatorCapableAddress operations).phase = .collectRequest →
      ∀ length, (run isInitiatorCapableAddress operations).requestDataLength = some length →
        (run isInitiatorCapableAddress operations).requestBytesSeen < 6 + length) ∧
    ((run isInitiatorCapableAddress operations).phase = .waitResponseBody →
      1 ≤ (run isInitiatorCapableAddress operations).responseBytesRemain) := by
  have counts := run_counts isInitiatorCapableAddress operations
  refine ⟨fun symbols long => ?_,fun collects length known =>
    (counts.data collects length known).2.2,fun waits => (counts.body waits).1⟩
  have few := fed_remaining isInitiatorCapableAddress counts symbols
  have bound := remaining_le counts
  exact idle_of_remaining (by omega)

/-- A tracker with a request that has begun is idle after a row of data bytes. -/
theorem begun_request_ends :
    ((run (fun _ => false) [.startRequestWithSource 0x10]).fed (fun _ => false)
      (List.replicate maxTelegramBytes 0x55)).phase = .idle :=
  (tracker_returns_to_idle (fun _ => false) [.startRequestWithSource 0x10]).1 _ (Nat.le_of_eq List.length_replicate.symm)

end EbusGateway.WirePhaseTracker
