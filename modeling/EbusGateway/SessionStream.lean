import EbusGateway.SessionWriter

/-! The stream an external client sees, as long as no frame enters the buffer after another one was
dropped for lack of room.
-/
namespace EbusGateway.SessionWriter
open Library List

variable (state : State)

def roomless : Label → Bool
  | .reach index => !state.dropped || state.entered[index]?.all fun frame => !frame.blocks && state.mailbox.channel.isFull
  | _ => true

/-- The condition on a run: once a frame was dropped on a full buffer, every later call that reaches
the channel finds it full and drops its frame too. -/
def NoneAfterDrop (label : Label) : Prop := roomless state label = true

instance (state : State) (label : Label) : Decidable (NoneAfterDrop state label) :=
  inferInstanceAs (Decidable (roomless state label = true))

def Writer.inHand : Writer → List SessionFrame
  | .writing frame => [frame]
  | _ => []

def Writer.pastCheck : Writer → Bool
  | .pacer | .fill _ | .decide | .pace | .take => true
  | _ => false

def Writer.loaded : Writer → Bool
  | .check => true
  | writer => writer.pastCheck

def Writer.live : Writer → Bool
  | .failing | .draining | .returned => false
  | _ => true

attribute [simp] Writer.inHand Writer.pastCheck Writer.loaded Writer.live

def State.committed : List SessionFrame :=
  state.output ++ state.writer.inHand ++ if state.writer.pastCheck then state.pending.take 1 else []

def State.line : List SessionFrame :=
  state.output ++ state.writer.inHand ++ state.pending ++ state.mailbox.contents

structure Ordered (state : State) : Prop where
  whole : state.done = false → state.writer.live = true →
    ∃ lost, state.offered = state.line ++ lost ∧ (state.dropped = false → lost = [])
  committed : state.committed <+: state.offered
  ready : state.writer.loaded = true → state.pending ≠ []

theorem initial_ordered : Ordered initial where
  whole := fun _ _ => ⟨[],rfl,fun _ => rfl⟩
  committed := nil_prefix
  ready := by simp [initial]

theorem Ordered.advance {state next : State} (ordered : Ordered state) (offered : next.offered = state.offered)
    (dropped : next.dropped = state.dropped) (done : next.done = state.done)
    (whole : next.writer.live = true → state.writer.live = true ∧ next.line = state.line)
    (committed : next.committed <+: state.committed) (ready : next.writer.loaded = true → next.pending ≠ []) : Ordered next where
  whole := by
    intro open_ live
    obtain ⟨running,same⟩ := whole live
    obtain ⟨lost,contents,none⟩ := ordered.whole (done ▸ open_) running
    exact ⟨lost,by rw [offered,same,contents],by rw [dropped]; exact none⟩
  committed := offered ▸ committed.trans ordered.committed
  ready := ready

theorem reachChannel_ordered (index : Nat) (frame : SessionFrame) (ordered : Ordered state)
    (found : state.entered[index]? = some frame) (permitted : NoneAfterDrop state (.reach index)) :
    Ordered (reachChannel state index frame) := by
  have grown : state.committed <+: state.offered ++ [frame] := ordered.committed.trans (prefix_append _ _)
  have accepted : ∀ mailbox : Mailbox SessionFrame sendBuffer, mailbox.contents = state.mailbox.contents ++ [frame] →
      state.dropped = false → Ordered {state with
        entered := state.entered.eraseIdx index, offered := state.offered ++ [frame], mailbox := mailbox} := by
    intro mailbox contents fresh
    refine ⟨fun open_ live => ⟨[],?_,fun _ => rfl⟩,grown,ordered.ready⟩
    obtain ⟨lost,offered,none⟩ := ordered.whole open_ live
    simp [offered,none fresh,State.line,contents]
  simp only [NoneAfterDrop,roomless,found,Option.all_some,Bool.or_eq_true,Bool.not_eq_true',Bool.and_eq_true] at permitted
  unfold reachChannel
  dsimp only
  split
  · rename_i blocks
    apply accepted _ (state.mailbox.send_contents frame)
    cases dropped : state.dropped with
    | false => rfl
    | true => simp [blocks,dropped] at permitted
  rename_i dropping
  split
  · rename_i mailbox sent
    apply accepted _ (Mailbox.trySend_contents sent)
    cases dropped : state.dropped with
    | false => rfl
    | true =>
      rw [dropped] at permitted
      have full := (Channel.isFull_iff _).mp (permitted.resolve_left (by simp)).2
      simp [Mailbox.trySend,full] at sent
  · refine ⟨fun open_ live => ?_,grown,ordered.ready⟩
    obtain ⟨lost,offered,_⟩ := ordered.whole open_ live
    refine ⟨lost ++ [frame],?_,by simp⟩
    rw [← append_assoc]
    exact congrArg (· ++ [frame]) offered

theorem write_ordered (state next : State) (succeeds : Bool) (ordered : Ordered state)
    (ran : step state (.write succeeds) = some next) : Ordered next := by
  simp only [step] at ran
  split at ran
  · rename_i frame writing
    split at ran
    · cases ran
      refine ordered.advance rfl rfl rfl (fun _ => ⟨by simp [writing],?_⟩) ?_ (by simp)
      · simp [State.line,writing]
      · simp [State.committed,writing]
    · cases ran
      refine ordered.advance rfl rfl rfl (fun live => by cases live) ?_ (by simp)
      simp [State.committed,writing]
  · cases ran

theorem proceed_ordered (state next : State) (ordered : Ordered state) (ran : step state .proceed = some next) : Ordered next := by
  simp only [step] at ran
  split at ran
  · rename_i check
    split at ran
    · cases ran
    rename_i running
    cases ran
    have open_ : state.done = false := by
      simp only [Bool.or_eq_true,not_or,Bool.not_eq_true] at running
      exact running.1
    obtain ⟨lost,offered,none⟩ := ordered.whole open_ (by simp [check])
    refine ⟨fun _ _ => ⟨lost,?_,none⟩,?_,fun _ => ordered.ready (by simp [check])⟩
    · rw [offered]
      simp [State.line,check]
    · have line : state.line = state.output ++ state.pending ++ state.mailbox.contents := by
        simp [State.line,check]
      change state.output ++ [] ++ state.pending.take 1 <+: state.offered
      rw [offered,line,append_nil,append_assoc,append_assoc,prefix_append_right_inj]
      exact ( take_prefix 1 state.pending).trans (prefix_append _ _)
  · cases ran

def State.frame : List SessionFrame × Bool × Bool × List SessionFrame × List SessionFrame × Mailbox SessionFrame sendBuffer :=
  (state.offered,state.dropped,state.done,state.output,state.pending,state.mailbox)

theorem decideFlush_frame : (decideFlush state).frame = state.frame := by
  unfold decideFlush
  dsimp only
  repeat' split
  all_goals rfl

theorem settleFlush_frame : (settleFlush state).frame = state.frame := by
  unfold settleFlush
  split
  all_goals rfl

theorem decide_ordered (state next : State) (delayed : Bool) (ordered : Ordered state)
    (ran : step state (.decide delayed) = some next) : Ordered next := by
  have same := decideFlush_frame state
  simp only [State.frame,Prod.mk.injEq] at same
  obtain ⟨offered,dropped,done,output,pending,mailbox⟩ := same
  simp only [step] at ran
  split at ran
  · rename_i deciding
    have ready := ordered.ready (by simp [deciding])
    cases ran
    split
    all_goals
      refine ordered.advance offered dropped done (fun _ => ⟨by simp [deciding],?_⟩) ?_
        (fun _ => pending ▸ ready)
      · simp [State.line,deciding,output,pending,mailbox]
      · simp [State.committed,deciding,output,pending]
  · cases ran

theorem settle_ordered (state next : State) (ordered : Ordered state) (ran : step state .settle = some next) : Ordered next := by
  have same := settleFlush_frame state
  simp only [State.frame,Prod.mk.injEq] at same
  obtain ⟨offered,dropped,done,output,pending,mailbox⟩ := same
  simp only [step] at ran
  split at ran
  · rename_i settling
    cases ran
    refine ordered.advance offered dropped done (fun _ => ⟨by simp [settling],?_⟩) ?_
      (by simp)
    · simp [State.line,settling,output,pending,mailbox]
    · simp [State.committed,settling,output]
  · cases ran

theorem Ordered.stop {state next : State} (ordered : Ordered state) (offered : next.offered = state.offered)
    (output : next.output = state.output) (stopped : next.writer.live = false) : Ordered next := by
  have idle : next.committed = state.output := by
    cases writer : next.writer <;> simp_all [State.committed]
  refine ⟨fun _ live => clash live stopped,?_,?_⟩
  · rw [offered,idle]
    refine List.IsPrefix.trans ?_ ordered.committed
    rw [State.committed,append_assoc]
    exact prefix_append _ _
  · cases writer : next.writer <;> simp_all

@[simp] def Writer.taken : Writer → Nat
  | .writing _ | .settling | .failing | .draining => 1
  | _ => 0

def State.takenOrQueued : Nat :=
  state.writer.taken + state.pending.length + state.discarded + state.mailbox.channel.buffer.length

private theorem received_grow {mailbox next : Mailbox SessionFrame sendBuffer} {frame : SessionFrame}
    (received : mailbox.receive = some (frame,next)) (taken pending discarded : Nat) :
    taken + pending + discarded + mailbox.channel.buffer.length ≤ taken + (pending + 1) + discarded + next.channel.buffer.length := by
  have := Mailbox.receive_length received
  omega

structure Advances (state next : State) : Prop where
  offered : next.offered = state.offered
  dropped : next.dropped = state.dropped
  done : next.done = state.done
  flush : next.flushBacklog = state.flushBacklog
  remaining : next.flushRemaining = state.flushRemaining
  live : state.writer.live = true
  line : next.line = state.line
  committed : next.committed <+: state.committed
  ready : next.writer.loaded = true → next.pending ≠ []
  grown : state.takenOrQueued ≤ next.takenOrQueued

section
variable {state next : State}

theorem receive_advances (ran : step state .receive = some next) : Advances state next := by
  simp only [step] at ran
  split at ran
  · rename_i top
    split at ran
    · rename_i empty
      obtain ⟨⟨frame,mailbox⟩,received,rfl⟩ := Option.map_eq_some_iff.mp ran
      refine ⟨rfl,rfl,rfl,rfl,rfl,by simp [top],?_,by simp [State.committed,top],by simp,?_⟩
      · simp [State.line,top,empty,Mailbox.receive_contents received]
      · simpa [State.takenOrQueued,top,empty] using received_grow received 0 0 state.discarded
    · rename_i waiting
      cases ran
      exact ⟨rfl,rfl,rfl,rfl,rfl,by simp [top],by simp [State.line,top],by simp [State.committed,top],fun _ => waiting,
        by simp [State.takenOrQueued,top]⟩
  · rename_i pace
    split at ran
    · obtain ⟨⟨frame,mailbox⟩,received,rfl⟩ := Option.map_eq_some_iff.mp ran
      refine ⟨rfl,rfl,rfl,rfl,rfl,by simp [pace],?_,by simp [State.committed,pace],by simp,?_⟩
      · simp [State.line,pace,Mailbox.receive_contents received]
      · simpa [State.takenOrQueued,pace] using received_grow received 0 state.pending.length state.discarded
    · cases ran
  · cases ran

theorem fill_advances (ready : state.writer.loaded = true → state.pending ≠ [])
    (ran : step state .fill = some next) : Advances state next := by
  simp only [step] at ran
  split at ran
  · rename_i left fill
    have ready := ready (by simp [fill])
    split at ran
    · obtain ⟨⟨frame,mailbox⟩,received,rfl⟩ := Option.map_eq_some_iff.mp ran
      obtain ⟨first,rest,pending⟩ := exists_cons_of_ne_nil ready
      refine ⟨rfl,rfl,rfl,rfl,rfl,by simp [fill],?_,by simp [State.committed,fill,pending],by simp,?_⟩
      · simp [State.line,fill,Mailbox.receive_contents received]
      · simpa [State.takenOrQueued,fill] using received_grow received 0 state.pending.length state.discarded
    · cases ran
      exact ⟨rfl,rfl,rfl,rfl,rfl,by simp [fill],by simp [State.line,fill],by simp [State.committed,fill],fun _ => ready,
        by simp [State.takenOrQueued,fill]⟩
  · cases ran

theorem take_advances (ran : step state .take = some next) : Advances state next := by
  simp only [step] at ran
  split at ran
  · rename_i frame rest take pending
    cases ran
    refine ⟨rfl,rfl,rfl,rfl,rfl,by simp [take],by simp [State.line,take,pending],by simp [State.committed,take,pending],by simp,?_⟩
    simp only [State.takenOrQueued,take,Writer.taken,pending,length_cons]
    omega
  · cases ran

theorem Advances.ordered (advances : Advances state next) (ordered : Ordered state) : Ordered next :=
  ordered.advance advances.offered advances.dropped advances.done (fun _ => ⟨advances.live,advances.line⟩) advances.committed
    advances.ready

end

theorem step_ordered (label : Label) (next : State) (ordered : Ordered state)
    (permitted : NoneAfterDrop state label) (ran : step state label = some next) : Ordered next := by
  cases label with
  | reach index =>
    obtain ⟨frame,found,rfl⟩ := Option.map_eq_some_iff.mp ran
    exact reachChannel_ordered state index frame ordered found permitted
  | call | abandon | markClosed | cancel =>
    simp only [step,deliver] at ran
    repeat' split at ran
    all_goals
      cases ran
    all_goals exact {ordered with}
  | withdraw index =>
    simp only [step] at ran
    split at ran
    · rename_i done
      cases ran
      -- a blocked sender leaves only after the close, when its place in the line no longer matters
      exact ⟨fun open_ => by simp [done] at open_,ordered.committed,ordered.ready⟩
    · cases ran
  | signalDone =>
    simp only [step] at ran
    split at ran
    · cases ran
      exact ⟨by simp,ordered.committed,ordered.ready⟩
    · cases ran
  | receive => exact (receive_advances ran).ordered ordered
  | leave | shut =>
    simp only [step] at ran
    repeat' split at ran
    all_goals
      cases ran
    all_goals exact ordered.stop rfl rfl rfl
  | proceed => exact proceed_ordered state next ordered ran
  | paced | timer =>
    simp only [step] at ran
    split at ran
    · rename_i pacer
      have ready := ordered.ready (by simp [pacer])
      cases ran
      try split
      all_goals
        refine ordered.advance rfl rfl rfl (fun _ => ⟨by simp [pacer],?_⟩) ?_ (fun _ => ready)
        · simp [State.line,pacer]
        · simp [State.committed,pacer]
    · cases ran
  | fill => exact (fill_advances ordered.ready ran).ordered ordered
  | decide delayed => exact decide_ordered state next delayed ordered ran
  | take => exact (take_advances ran).ordered ordered
  | write succeeds => exact write_ordered state next succeeds ordered ran
  | settle => exact settle_ordered state next ordered ran
  | drain =>
    simp only [step] at ran
    split at ran
    · rename_i draining
      split at ran
      all_goals
        cases ran
      · exact ordered.stop rfl rfl (by simp [draining])
      · exact ordered.stop rfl rfl rfl
    · cases ran

def FlushBounded : Prop :=
  state.writer ≠ .returned → state.flushBacklog = true →
    1 ≤ state.flushRemaining ∧ state.flushRemaining ≤ state.takenOrQueued

theorem FlushBounded.grow {state next : State} (bounded : FlushBounded state)
    (running : next.writer ≠ .returned → state.writer ≠ .returned)
    (flush : next.flushBacklog = state.flushBacklog) (remaining : next.flushRemaining = state.flushRemaining)
    (grown : state.takenOrQueued ≤ next.takenOrQueued) : FlushBounded next := by
  intro live flushing
  obtain ⟨positive,below⟩ := bounded (running live) (flush ▸ flushing)
  rw [remaining]
  exact ⟨positive,by omega⟩

theorem Advances.bounded {state next : State} (advances : Advances state next)
    (bounded : FlushBounded state) : FlushBounded next := by
  refine bounded.grow (fun _ returned => ?_) advances.flush advances.remaining advances.grown
  have live := advances.live
  rw [returned] at live
  cases live

theorem reachChannel_flushBounded (index : Nat) (frame : SessionFrame) (bounded : FlushBounded state) :
    FlushBounded (reachChannel state index frame) := by
  unfold reachChannel
  dsimp only
  split
  · refine bounded.grow id rfl rfl ?_
    have := state.mailbox.send_length frame
    simp only [State.takenOrQueued]
    omega
  split
  · rename_i sent
    refine bounded.grow id rfl rfl ?_
    have := Mailbox.trySend_length sent
    simp only [State.takenOrQueued]
    omega
  · exact bounded.grow id rfl rfl (Nat.le_refl _)

theorem decideFlush_flushBounded (deciding : state.writer = .decide)
    (bounded : FlushBounded state) : FlushBounded (decideFlush state) := by
  unfold decideFlush
  dsimp only
  split
  · exact bounded
  split
  · rename_i many
    intro _ _
    have inside : (state.pending.filter (·.kind == .received)).length ≤ state.pending.length := length_filter_le _ _
    simp only [maxSessionPacerBacklog] at many
    simp only [State.takenOrQueued,deciding,Writer.taken]
    omega
  · split
    · exact bounded
    · rename_i index found
      split
      · split
        · intro _ _
          have inside : index < state.pending.length := (List.findIdx?_eq_some_iff_findIdx_eq.mp found).1
          simp only [State.takenOrQueued,deciding,Writer.taken]
          omega
        · exact bounded
      · exact bounded

theorem settleFlush_flushBounded (settling : state.writer = .settling) (bounded : FlushBounded state) :
    FlushBounded {settleFlush state with writer := .top} := by
  unfold settleFlush
  split
  · rename_i flushing
    obtain ⟨positive,below⟩ := bounded (by simp [settling]) flushing
    intro _ more
    simp only [State.takenOrQueued,settling,Writer.taken] at below ⊢
    dsimp only at more ⊢
    split at more
    · cases more
    · omega
  · rename_i calm
    exact fun _ flushing => absurd flushing calm

theorem step_flushBounded (label : Label) (next : State) (ordered : Ordered state) (bounded : FlushBounded state)
    (ran : step state label = some next) : FlushBounded next := by
  cases label with
  | reach index =>
    obtain ⟨frame,found,rfl⟩ := Option.map_eq_some_iff.mp ran
    exact reachChannel_flushBounded state index frame bounded
  | call | abandon | withdraw | signalDone | markClosed | cancel =>
    simp only [step,deliver] at ran
    repeat' split at ran
    all_goals
      cases ran
    all_goals exact bounded
  | receive => exact (receive_advances ran).bounded bounded
  | leave =>
    simp only [step] at ran
    repeat' split at ran
    all_goals
      cases ran
    all_goals exact fun running => absurd rfl running
  | proceed | paced _ | timer | write _ | shut =>
    simp only [step] at ran
    repeat' split at ran
    all_goals
      cases ran
    all_goals exact bounded.grow (by simp [*]) rfl rfl (by simp [State.takenOrQueued, *])
  | fill => exact (fill_advances ordered.ready ran).bounded bounded
  | decide delayed =>
    simp only [step] at ran
    split at ran
    · rename_i deciding
      have kept : (decideFlush state).writer = .decide := by
        unfold decideFlush
        dsimp only
        repeat' split
        all_goals exact deciding
      cases ran
      refine (decideFlush_flushBounded state deciding bounded).grow (by simp [kept]) rfl rfl ?_
      simp only [State.takenOrQueued,kept]
      split
      all_goals simp
    · cases ran
  | take => exact (take_advances ran).bounded bounded
  | settle =>
    simp only [step] at ran
    split at ran
    · rename_i settling
      cases ran
      exact settleFlush_flushBounded state settling bounded
    · cases ran
  | drain =>
    simp only [step] at ran
    split at ran
    · rename_i draining
      split at ran
      · rename_i frame mailbox received
        cases ran
        refine bounded.grow (by simp [draining]) rfl rfl ?_
        have := Mailbox.receive_length received
        simp only [State.takenOrQueued]
        omega
      · cases ran
        exact fun running => absurd rfl running
    · cases ran

private def resting (queue written offered : List SessionFrame) (dropped : Bool) (fits : queue.length ≤ sendBuffer) : State :=
  {initial with
    mailbox := ⟨⟨queue,fits⟩,[],fun waits => absurd rfl waits⟩, output := written, offered := offered, dropped := dropped}

private theorem deliver_run (symbol : UInt8) (queue written offered : List SessionFrame) (dropped : Bool)
    (fits : queue.length ≤ sendBuffer) (room : queue.length < sendBuffer) :
    ∃ labels, Run step (fun state label => dropped = true ∨ NoneAfterDrop state label)
    (resting queue written offered dropped fits) labels
      (resting (queue ++ [⟨.received,symbol,0⟩]) written (offered ++ [⟨.received,symbol,0⟩]) dropped
        (length_append ▸ Nat.succ_le_of_lt room)) := by
  refine ⟨[.call ⟨.received,symbol,0⟩,.reach 0],Run.of_executeWhere ?_⟩
  cases dropped
  all_goals simp [executeWhere,NoneAfterDrop,roomless,step,deliver,resting,initial,reachChannel,
    SessionFrame.blocks,Mailbox.trySend,room]

private theorem drop_run (symbol : UInt8) (queue written offered : List SessionFrame) (dropped : Bool)
    (fits : queue.length ≤ sendBuffer) (full : queue.length = sendBuffer) :
    ∃ labels, Run step NoneAfterDrop (resting queue written offered dropped fits) labels
      (resting queue written (offered ++ [⟨.received,symbol,0⟩]) true fits) := by
  refine ⟨[.call ⟨.received,symbol,0⟩,.reach 0],Run.of_executeWhere ?_⟩
  simp [executeWhere,NoneAfterDrop,roomless,Channel.isFull_iff,step,deliver,resting,initial,
    reachChannel,SessionFrame.blocks,Mailbox.trySend,full]

private theorem write_run (frame : SessionFrame) (queue written offered : List SessionFrame) (dropped : Bool)
    (fits : (frame :: queue).length ≤ sendBuffer) :
    ∃ labels, Run step NoneAfterDrop (resting (frame :: queue) written offered dropped fits) labels
      (resting queue (written ++ [frame]) offered dropped (Nat.le_of_succ_le fits)) :=
  ⟨[.receive,.proceed,.paced false,.take,.write true,.settle],Run.of_executeWhere rfl⟩

abbrev zero : SessionFrame := ⟨.received,0,0⟩

private theorem fillSendCh_run (count : Nat) (fits : (List.replicate count zero).length ≤ sendBuffer) :
    ∃ labels, Run step NoneAfterDrop initial labels
    (resting (List.replicate count zero) [] (List.replicate count zero) false fits) := by
  induction count with
  | zero => exact ⟨[],.refl⟩
  | succ count ih =>
    have room : (List.replicate count zero).length < sendBuffer := by
      rw [length_replicate] at fits ⊢
      omega
    obtain ⟨_,run⟩ := ih (Nat.le_of_lt room)
    obtain ⟨_,delivery⟩ := deliver_run 0 _ [] (List.replicate count zero) false (Nat.le_of_lt room) room
    have whole := run.trans (delivery.weaken fun _ _ allowed => allowed.resolve_left Bool.false_ne_true)
    simp only [← replicate_succ'] at whole
    exact ⟨_,whole⟩

private theorem freed_run : ∃ labels queue fits, queue.length < sendBuffer - 3 ∧ Run step NoneAfterDrop initial labels
    (resting (List.replicate 3 zero ++ queue) [zero] (List.replicate 4 zero ++ queue ++ [⟨.received,1,0⟩]) true fits) := by
  have size : (List.replicate sendBuffer zero).length = sendBuffer := length_replicate
  obtain ⟨_,filled⟩ := fillSendCh_run sendBuffer (Nat.le_of_eq size)
  obtain ⟨_,dropping⟩ := drop_run 1 _ [] (List.replicate sendBuffer zero) false (Nat.le_of_eq size) size
  obtain ⟨queue,split⟩ : ∃ queue, List.replicate sendBuffer zero = List.replicate 4 zero ++ queue :=
    ⟨List.replicate (sendBuffer - 4) zero,by rw [replicate_append_replicate]; rfl⟩
  have before := filled.trans dropping
  simp only [split] at before size
  obtain ⟨_,freed⟩ := write_run zero (List.replicate 3 zero ++ queue) []
    (List.replicate 4 zero ++ queue ++ [⟨.received,1,0⟩]) true (Nat.le_of_eq size)
  refine ⟨_,queue,_,?_,before.trans freed⟩
  rw [length_append,length_replicate] at size
  omega

private theorem flush_run (queue written offered : List SessionFrame) (fits : (List.replicate 3 zero ++ queue).length ≤ sendBuffer) :
    ∃ labels final, Run step NoneAfterDrop (resting (List.replicate 3 zero ++ queue) written offered true fits) labels final ∧
      final.dropped = true ∧ final.output = written ++ [zero] ∧ final.writer = .top ∧ final.flushBacklog = true := by
  have more : (3 : Int) + queue.length - 1 ≠ 0 := by omega
  refine ⟨[.receive,.proceed,.paced true,.fill,.fill,.fill,.decide false,.take,.write true,.settle],Run.exists_of_executeWhere _ ?_⟩
  simp [executeWhere,NoneAfterDrop,roomless,step,resting,initial,Mailbox.receive,List.replicate,decideFlush,settleFlush,
    maxSessionPacerBacklog,more]

private theorem drainSendCh_run (queue written offered : List SessionFrame) (dropped : Bool) (fits : queue.length ≤ sendBuffer) :
    ∃ labels, Run step NoneAfterDrop (resting queue written offered dropped fits) labels
      (resting [] (written ++ queue) offered dropped (Nat.zero_le _)) := by
  induction queue generalizing written with
  | nil =>
    rw [append_nil]
    exact ⟨[],.refl⟩
  | cons frame rest ih =>
    obtain ⟨_,first⟩ := write_run frame rest written offered dropped fits
    obtain ⟨_,others⟩ := ih (written ++ [frame]) (Nat.le_of_succ_le fits)
    rw [append_assoc] at others
    exact ⟨_,first.trans others⟩

/-- In every run in which no frame enters the buffer after another was dropped on a full one, the
frames written are a prefix of the frames delivered, and the flush counter is at least one and at
most the number of frames taken or queued. -/
theorem output_prefix_of_delivered (labels : List Label) (final : State)
    (run : Run step NoneAfterDrop initial labels final) :
    final.output <+: final.offered ++ final.refused ∧
    (final.writer ≠ .returned → final.flushBacklog = true →
      1 ≤ final.flushRemaining ∧ final.flushRemaining ≤ final.takenOrQueued) := by
  obtain ⟨ordered,bounded⟩ : Ordered final ∧ FlushBounded final := by
    refine run.invariant (fun state => Ordered state ∧ FlushBounded state) ?_ ⟨initial_ordered,fun _ flushing => by cases flushing⟩
    intro state label next ⟨ordered,bounded⟩ permitted stepped
    exact ⟨step_ordered state label next ordered permitted stepped,step_flushBounded state label next ordered bounded stepped⟩
  have written : final.output <+: final.committed := by
    rw [State.committed,append_assoc]
    exact prefix_append _ _
  exact ⟨(written.trans ordered.committed).trans (prefix_append _ _),bounded⟩

/-- A symbol is dropped on a full buffer, and the writer flushes the backlog before it. -/
theorem backlog_flushed_after_drop : ∃ labels final, Run step NoneAfterDrop initial labels final ∧ final.dropped = true ∧
    final.output = [zero,zero] ∧ final.output <+: final.offered ++ final.refused ∧ final.flushBacklog = true ∧
    1 ≤ final.flushRemaining ∧ final.flushRemaining ≤ final.takenOrQueued := by
  obtain ⟨_,queue,fits,_,freed⟩ := freed_run
  obtain ⟨_,final,flushed,dropped,output,top,flushing⟩ := flush_run queue [zero] _ fits
  have kept := output_prefix_of_delivered _ final (freed.trans flushed)
  exact ⟨_,final,freed.trans flushed,dropped,output,kept.1,flushing,kept.2 (by rw [top]; decide) flushing⟩

/-- The buffer fills up, a symbol is dropped, the writer frees a slot before the removal closes the
session, and the next symbol is queued and written: the client sees a gap. -/
theorem symbol_written_past_a_gap : ¬ ∀ (labels : List Label) (final : State),
    Run step anyStep initial labels final → final.output <+: final.offered ++ final.refused ∧
      (final.writer ≠ .returned → final.flushBacklog = true →
        1 ≤ final.flushRemaining ∧ final.flushRemaining ≤ final.takenOrQueued) := by
  intro claimed
  obtain ⟨_,queue,fits,shorter,freed⟩ := freed_run
  have room : (List.replicate 3 zero ++ queue).length < sendBuffer := by
    rw [length_append,length_replicate]
    omega
  obtain ⟨_,entering⟩ := deliver_run 2 _ [zero] _ true fits room
  obtain ⟨_,drained⟩ := drainSendCh_run (List.replicate 3 zero ++ queue ++ [⟨.received,2,0⟩]) [zero] _ true
    (by simpa using Nat.succ_le_of_lt room)
  have whole := ((freed.weaken fun _ _ => .inr).trans entering).trans (drained.weaken fun _ _ => .inr)
  have gap := (claimed _ _ (whole.weaken fun _ _ _ => trivial)).1
  simp only [resting,initial,List.replicate,append_nil,append_assoc,cons_append,nil_append,
    cons_prefix_cons,true_and,prefix_append_right_inj] at gap
  exact absurd gap.1 (by decide)

end EbusGateway.SessionWriter
