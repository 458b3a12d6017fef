import EbusGateway.Library.Transition

/-! The subscription to the hub's event stream. An event that finds its queue full takes the place of the
oldest one, and the loss is announced before the next event, in a call of its own. The
`uint64` sequence numbers are natural numbers: a run is taken to count none of them up to 2^64.
-/
namespace EbusGateway.Semhub.Subscription
open Library List

structure Event (Payload : Type) where
  hubSeq : Nat
  payload : Payload
deriving DecidableEq

inductive Delivered (Payload : Type)
  | event (event : Event Payload)
  | overflow (dropped resumeSeq : Nat)
deriving DecidableEq

structure State (Payload : Type) where
  limit : Nat
  seq : Nat
  queue : List (Event Payload) := []
  dropped : Nat := 0
  closed : Bool := false
  delivered : List (Delivered Payload) := []

variable {Payload : Type}

namespace State
variable (s : State Payload)

def push (event : Event Payload) : State Payload :=
  if s.closed then s
  else if s.limit ≤ s.queue.length then {s with queue := s.queue.tail ++ [event], dropped := s.dropped + 1}
  else {s with queue := s.queue ++ [event]}

def emit (payload : Payload) : State Payload := {s with seq := s.seq + 1}.push ⟨s.seq + 1,payload⟩

def next : State Payload :=
  match s.queue with
  | [] => s
  | first :: rest =>
    if s.dropped ≠ 0 then {s with dropped := 0, delivered := .overflow s.dropped first.hubSeq :: s.delivered}
    else {s with queue := rest, delivered := .event first :: s.delivered}

def close : State Payload := {s with closed := true, queue := []}

end State

inductive Op (Payload : Type)
  | emit (payload : Payload)
  | next
  | close

def step (s : State Payload) : Op Payload → Option (State Payload)
  | .emit payload => some (s.emit payload)
  | .next => some s.next
  | .close => some s.close

def subscribe (limit seq : Nat) : State Payload := {limit := limit, seq := seq}

def lastSeq (start : Nat) : List (Delivered Payload) → Nat
  | [] => start
  | .event event :: _ => event.hubSeq
  | .overflow .. :: older => lastSeq start older

def notices : List (Delivered Payload) → List (Nat × Nat)
  | .overflow dropped resumeSeq :: older => (dropped,resumeSeq) :: notices older
  | _ => []

def Increasing (start : Nat) : List (Delivered Payload) → Prop
  | [] => True
  | .event event :: older => lastSeq start older < event.hubSeq ∧ Increasing start older
  | .overflow .. :: older => Increasing start older

def Announced (start : Nat) : List (Delivered Payload) → Prop
  | [] => True
  | .event event :: older =>
    notices older = (if lastSeq start older + 1 < event.hubSeq then [(event.hubSeq - lastSeq start older - 1,event.hubSeq)] else []) ∧
      Announced start older
  | .overflow .. :: older => Announced start older

/-- No event is dropped between an announcement and the event it announces. -/
def undisturbed (s : State Payload) : Op Payload → Bool
  | .emit _ => s.closed || notices s.delivered = [] || s.queue.length < s.limit
  | _ => true

def lost : List (Nat × Nat) → Nat
  | [] => 0
  | (dropped,_) :: older => dropped + lost older

structure Counted (start : Nat) (s : State Payload) : Prop where
  room : 0 < s.limit
  queued : s.closed = false → s.queue.map (·.hubSeq) = range' (s.seq + 1 - s.queue.length) s.queue.length
  total : s.closed = false → lastSeq start s.delivered + lost (notices s.delivered) + s.dropped + s.queue.length = s.seq
  emptied : s.closed = true → s.queue = []
  increasing : Increasing start s.delivered

variable {start : Nat} {s : State Payload} {op : Op Payload} {later : State Payload}

theorem Counted.head (counted : Counted start s) {first : Event Payload}
    {rest : List (Event Payload)} (queue : s.queue = first :: rest) :
    s.closed = false ∧ first.hubSeq = lastSeq start s.delivered + lost (notices s.delivered) + s.dropped + 1 ∧
      rest.map (·.hubSeq) = range' (first.hubSeq + 1) rest.length := by
  have live : s.closed = false := Bool.eq_false_iff.mpr fun closed => by cases (counted.emptied closed).symm.trans queue
  have total := counted.total live
  have queued := counted.queued live
  rw [queue] at queued total
  rw [map_cons,length_cons,range'_succ,cons.injEq] at queued
  rw [length_cons] at total
  obtain ⟨head,tail⟩ := queued
  exact ⟨live,by omega,head ▸ tail⟩

theorem emit_counted (payload : Payload) (counted : Counted start s) : Counted start (s.emit payload) := by
  have room := counted.room
  unfold State.emit State.push
  dsimp only
  split
  · rename_i closed
    exact ⟨room,fun live => clash closed live,fun live => clash closed live,
      counted.emptied,counted.increasing⟩
  rename_i live
  have live : s.closed = false := Bool.eq_false_iff.mpr live
  have total := counted.total live
  split
  · rename_i full
    obtain ⟨first,rest,queue⟩ := exists_cons_of_length_pos (Nat.lt_of_lt_of_le room full)
    obtain ⟨_,head,tail⟩ := counted.head queue
    rw [queue,length_cons] at total
    refine ⟨room,fun _ => ?_,fun _ => ?_,fun closed => clash closed live,counted.increasing⟩
    · simp only [queue,tail_cons,map_append,tail,length_append,length_singleton]
      rw [range'_concat,show s.seq + 1 + 1 - (rest.length + 1) = first.hubSeq + 1 by omega]
      simp
      omega
    · simp only [queue,tail_cons,length_append,length_singleton]
      omega
  · refine ⟨room,fun _ => ?_,fun _ => ?_,fun closed => clash closed live,counted.increasing⟩
    · simp only [map_append,counted.queued live,length_append,length_singleton]
      rw [range'_concat,show s.seq + 1 + 1 - (s.queue.length + 1) = s.seq + 1 - s.queue.length by omega]
      simp
      omega
    · simp only [length_append,length_singleton]
      omega

section
variable (counted : Counted start s)
include counted

theorem next_counted : Counted start s.next := by
  unfold State.next
  split
  · exact counted
  rename_i first rest queue
  obtain ⟨live,head,tail⟩ := counted.head queue
  have total := counted.total live
  rw [queue,length_cons] at total
  split
  · refine {counted with total := fun _ => ?_}
    simp only [lastSeq,notices,queue,lost,length_cons]
    omega
  rename_i none
  have none : s.dropped = 0 := Decidable.of_not_not none
  refine ⟨counted.room,fun _ => ?_,fun _ => ?_,fun closed => clash closed live,?_,counted.increasing⟩
  · dsimp only
    rw [tail]
    congr 1
    omega
  · simp only [lastSeq,notices,lost]
    omega
  · omega

theorem close_counted : Counted start s.close :=
  ⟨counted.room,fun live => absurd live.symm Bool.false_ne_true,fun live =>
    absurd live.symm Bool.false_ne_true,fun _ => rfl,counted.increasing⟩

theorem step_counted (ran : step s op = some later) : Counted start later := by
  cases op
  all_goals cases ran
  · exact emit_counted _ counted
  · exact next_counted counted
  · exact close_counted counted

end

def Standing (s : State Payload) : Prop :=
  notices s.delivered = [] ∨ ∃ dropped first rest, notices s.delivered = [(dropped,first)] ∧ 0 < dropped ∧ s.dropped = 0 ∧
    (s.closed = false → s.queue.map (·.hubSeq) = first :: rest)

structure Noticed (start : Nat) (s : State Payload) : Prop where
  counted : Counted start s
  announced : Announced start s.delivered
  standing : Standing s

theorem emit_standing {payload : Payload} (calm : undisturbed s (.emit payload) = true)
    (standing : Standing s) : Standing (s.emit payload) := by
  unfold State.emit State.push
  dsimp only
  split
  · exact standing
  rename_i live
  simp only [undisturbed,live,Bool.false_or,Bool.or_eq_true,decide_eq_true_eq] at calm
  obtain none | ⟨dropped,first,rest,told,lost,fresh,waits⟩ := standing
  · split <;> exact .inl none
  · have room := calm.resolve_left fun none => by cases none.symm.trans told
    rw [if_neg (Nat.not_le_of_lt room)]
    refine .inr ⟨dropped,first,rest ++ [s.seq + 1],told,lost,fresh,fun open_ => ?_⟩
    simp only [map_append,waits open_]
    rfl

theorem next_noticed (noticed : Noticed start s) : Announced start s.next.delivered ∧ Standing s.next := by
  obtain ⟨counted,announced,standing⟩ := noticed
  unfold State.next
  split
  · exact ⟨announced,standing⟩
  rename_i first rest queue
  obtain ⟨live,head,_⟩ := counted.head queue
  split
  · rename_i lost
    obtain none | ⟨_,_,_,_,_,fresh,_⟩ := standing
    · refine ⟨announced,.inr ⟨s.dropped,first.hubSeq,rest.map (·.hubSeq),?_,Nat.pos_of_ne_zero lost,rfl,fun _ => ?_⟩⟩
      · simp only [notices,none]
      · simp only [queue,map_cons]
    · exact absurd fresh lost
  · rename_i none
    have none : s.dropped = 0 := Decidable.of_not_not none
    refine ⟨⟨?_,announced⟩,.inl rfl⟩
    obtain silent | ⟨dropped,resume,_,told,missed,_,waits⟩ := standing
    · rw [silent,lost] at head
      rw [silent,if_neg (by omega)]
    · have same := (cons.inj ((waits live).symm.trans (congrArg (map (·.hubSeq)) queue))).1
      rw [told,lost,lost] at head
      rw [told,if_pos (by omega),same]
      congr 2
      omega

theorem step_noticed (noticed : Noticed start s) (calm : undisturbed s op = true)
    (ran : step s op = some later) : Noticed start later := by
  have counted := step_counted noticed.counted ran
  cases op with
  | emit payload =>
    have same : (s.emit payload).delivered = s.delivered := by
      unfold State.emit State.push
      repeat' split
      all_goals rfl
    cases ran
    exact ⟨counted,same ▸ noticed.announced,emit_standing calm noticed.standing⟩
  | next =>
    cases ran
    obtain ⟨announced,standing⟩ := next_noticed noticed
    exact ⟨counted,announced,standing⟩
  | close =>
    cases ran
    refine ⟨counted,noticed.announced,noticed.standing.imp_right ?_⟩
    rintro ⟨dropped,first,rest,told,lost,fresh,_⟩
    exact ⟨dropped,first,rest,told,lost,fresh,fun live => absurd live.symm Bool.false_ne_true⟩

/-- The events delivered increase in every run. Where no event is dropped between an announcement and the next
delivery, each gap is announced once and exactly. -/
theorem gaps_are_announced (limit seq : Nat) (room : 0 < limit) :
    (∀ ops (final : State Payload), Run step anyStep (subscribe limit seq) ops final → Increasing seq final.delivered) ∧
    ∀ ops (final : State Payload), Run step (fun s op => undisturbed s op = true) (subscribe limit seq) ops final →
      Increasing seq final.delivered ∧ Announced seq final.delivered := by
  have initially : Counted seq (subscribe limit seq : State Payload) := ⟨room,fun _ => rfl,fun _ => rfl,fun _ => rfl,trivial⟩
  refine ⟨fun ops final run => ?_,fun ops final run => ?_⟩
  · exact (run.invariant (Counted seq) (fun _ _ _ counted _ ran => step_counted counted ran) initially).increasing
  · have noticed := run.invariant (Noticed seq) (fun _ _ _ noticed calm ran => step_noticed noticed calm ran)
      ⟨initially,trivial,.inl rfl⟩
    exact ⟨noticed.counted.increasing,noticed.announced⟩

def readInFull (between : List (Op Unit)) : List (Op Unit) :=
  [.emit (),.emit (),.emit (),.next] ++ between ++ [.next,.next]

theorem one_gap_is_announced :
    ∃ final : State Unit, (Run step (fun s op => undisturbed s op = true) (subscribe 2 0) (readInFull []) final ∧
      final.delivered = [.event ⟨3,()⟩,.event ⟨2,()⟩,.overflow 1 2]) ∧ Increasing 0 final.delivered ∧ Announced 0 final.delivered := by
  refine Exists.imp (fun _ found => ⟨found,?_⟩) (Run.exists_of_executeWhere _ (by decide +kernel))
  exact (gaps_are_announced 2 0 (by decide)).2 _ _ found.1

/-- The announced event is dropped before it is read, so that its gap is announced in two parts. -/
theorem gap_is_announced_twice :
    ∃ final : State Unit, Run step anyStep (subscribe 2 0) (readInFull [.emit ()]) final ∧ ¬ Announced 0 final.delivered := by
  refine Exists.imp (fun final (found : _ ∧ final.delivered = [.event ⟨3,()⟩,.overflow 1 3,.overflow 1 2]) => ⟨found.1,?_⟩)
    (Run.exists_of_execute _ (by decide +kernel))
  rw [found.2]
  exact fun announced => absurd announced.1 (by decide)

end EbusGateway.Semhub.Subscription
