import EbusGateway.PassiveTransport

/-! What two consecutive symbol reads of the passive consumer say about the events delivered between
them. The buffer is followed from the last read on.
-/
namespace EbusGateway.PassiveTransport
open Library List

def lastSymbol : List Mark → Option Nat
  | [] => none
  | .read entry :: _ => entry.index?
  | .overflow :: _ => none
  | .expired _ :: older => lastSymbol older

def State.Expired (state : State) (index : Nat) : Prop :=
  state.delivered[index]? = some .reset ∧ .expired index ∈ state.history

def Follows (skipped : Nat → Prop) (earlier later : Nat) : Prop :=
  earlier < later ∧ ∀ index, earlier < index → index < later → skipped index

def Linked (skipped : Nat → Prop) (fresh : Nat) : Option Nat → List Entry → Prop
  | last,[] => ∀ earlier ∈ last, Follows skipped earlier fresh
  | _,.boundary _ :: rest => Linked skipped fresh none rest
  | last,.symbol index _ _ :: rest => (∀ earlier ∈ last, Follows skipped earlier index) ∧
      Linked skipped fresh (some index) rest

def Explained (skipped : Nat → Prop) : List Mark → Prop
  | [] => True
  | .read (.symbol index _ _) :: older =>
    (∀ earlier ∈ lastSymbol older, Follows skipped earlier index) ∧ Explained skipped older
  | _ :: older => Explained skipped older

section
variable {skipped wider : Nat → Prop} {fresh later : Nat} {last : Option Nat} {entries : List Entry} {earlier : Nat}

theorem Follows.widen (included : ∀ index, skipped index → wider index)
    (follows : Follows skipped earlier later) : Follows wider earlier later :=
  ⟨follows.1,fun index above below => included index (follows.2 index above below)⟩

theorem Follows.extend (follows : Follows skipped earlier later) (here : skipped later) : Follows skipped earlier (later + 1) := by
  refine ⟨Nat.lt_succ_of_lt follows.1,fun index above below => ?_⟩
  rcases Nat.lt_succ_iff_lt_or_eq.mp below with inside | equal
  · exact follows.2 index above inside
  · exact equal ▸ here

theorem Linked.widen (included : ∀ index, skipped index → wider index) (linked : Linked skipped fresh last entries) :
    Linked wider fresh last entries := by
  induction entries generalizing last with
  | nil => exact fun earlier mem => (linked earlier mem).widen included
  | cons head rest ih =>
    cases head with
    | boundary origin => exact ih linked
    | symbol index byte wasEscaped =>
      exact ⟨fun earlier mem => (linked.1 earlier mem).widen included,ih linked.2⟩

theorem Linked.forget (linked : Linked skipped fresh last entries) : Linked skipped fresh none entries := by
  cases entries with
  | nil => simp [Linked]
  | cons head rest =>
    cases head with
    | boundary origin => exact linked
    | symbol index byte wasEscaped => exact ⟨by simp,linked.2⟩

theorem Linked.tail {head : Entry} (linked : Linked skipped fresh last (head :: entries)) :
    Linked skipped fresh head.index? entries := by
  cases head with
  | boundary origin => exact linked
  | symbol index byte wasEscaped => exact linked.2

section
variable (linked : Linked skipped fresh last entries)
include linked

theorem Linked.append {beyond : Nat} {more : List Entry}
    (onward : ∀ {last}, Linked skipped fresh last [] → Linked skipped beyond last more) :
    Linked skipped beyond last (entries ++ more) := by
  induction entries generalizing last with
  | nil => exact onward linked
  | cons head rest ih =>
    cases head with
    | boundary origin => exact ih linked
    | symbol index byte wasEscaped => exact ⟨linked.1,ih linked.2⟩

theorem Linked.snoc_symbol (byte : UInt8) (wasEscaped : Bool) :
    Linked skipped (fresh + 1) last (entries ++ [.symbol fresh byte wasEscaped]) := by
  refine linked.append fun ended => ⟨ended,fun earlier mem => ?_⟩
  cases mem
  exact ⟨Nat.lt_succ_self _,fun index above below => by omega⟩

theorem Linked.snoc_boundary (origin : Option Nat) (beyond : Nat) : Linked skipped beyond last (entries ++ [.boundary origin]) :=
  linked.append fun _ => by simp [Linked]

theorem Linked.skip (here : skipped fresh) : Linked skipped (fresh + 1) last entries := by
  rw [← List.append_nil entries]
  exact linked.append fun ended earlier mem => (ended earlier mem).extend here

end

theorem Explained.widen (included : ∀ index, skipped index → wider index) {history : List Mark}
    (explained : Explained skipped history) : Explained wider history := by
  induction history with
  | nil => trivial
  | cons mark older ih =>
    match mark with
    | .read (.symbol index _ _) =>
      exact ⟨fun earlier mem => (explained.1 earlier mem).widen included,ih explained.2⟩
    | .read (.boundary _) | .overflow | .expired _ => exact ih explained

end

def Producer.pending : Producer → Nat
  | .idle => 0
  | _ => 1

structure Tracked (state : State) : Prop where
  linked : ∃ fresh, Linked state.Expired fresh (lastSymbol state.history) state.events.buffer ∧
    (state.closed = false ∨ state.producer ≠ .idle → fresh + state.producer.pending = state.delivered.length)
  explained : Explained state.Expired state.history
  sending : ∀ index event, state.producer = .sending index event →
    index + 1 = state.delivered.length ∧ state.delivered[index]? = some event
  marking : state.producer = .marking → state.events.buffer.length < passiveTransportBuffer

theorem newPassiveTransport_tracked : Tracked newPassiveTransport where
  linked := ⟨0,by simp [newPassiveTransport,Linked,lastSymbol],fun _ => rfl⟩
  explained := trivial
  sending := by simp [newPassiveTransport]
  marking := by simp [newPassiveTransport]

section
variable {state : State} {events : Channel Entry passiveTransportBuffer} {producer : Producer} {event : StreamEvent}

theorem expired_deliver (index : Nat) (expired : state.Expired index) :
    State.Expired {state with delivered := state.delivered ++ [event], producer := producer} index :=
  ⟨(List.getElem?_append_left (List.getElem?_eq_some_iff.mp expired.1).1).trans expired.1,expired.2⟩

theorem expired_mark {mark : Mark} (index : Nat) (expired : state.Expired index) :
    State.Expired {state with events := events, producer := producer, history := mark :: state.history} index :=
  ⟨expired.1,.tail _ expired.2⟩

variable (tracked : Tracked state) {index : Nat}
include tracked

theorem deliver_tracked (event : PassiveEvent) (idle : state.producer = .idle) : Tracked {state with
      delivered := state.delivered ++ [streamEvent event]
      producer := if state.closed then .idle else .sending state.delivered.length (streamEvent event)} := by
  obtain ⟨fresh,linked,counted⟩ := tracked.linked
  refine ⟨⟨fresh,linked.widen expired_deliver,?_⟩,tracked.explained.widen expired_deliver,?_,?_⟩
  · intro live
    cases closed : state.closed with
    | true => simp [closed] at live
    | false =>
      have := counted (Or.inl closed)
      simp [idle,Producer.pending] at this ⊢
      omega
  · intro index found equal
    cases closed : state.closed with
    | true => simp [closed] at equal
    | false =>
      simp only [closed,Bool.false_eq_true,if_false,Producer.sending.injEq] at equal
      obtain ⟨rfl,rfl⟩ := equal
      simp
  · intro equal
    cases closed : state.closed <;> simp [closed] at equal

theorem evict_tracked (overflowing : state.producer = .overflowing) : Tracked (evict state) := by
  obtain ⟨fresh,linked,counted⟩ := tracked.linked
  have pending := counted (Or.inr (by simp [overflowing]))
  rw [overflowing] at pending
  unfold evict
  split
  · rename_i drained
    refine ⟨⟨state.delivered.length,?_,fun _ => rfl⟩,tracked.explained.widen expired_mark,by simp,by simp⟩
    simp [Channel.receive_none_buffer drained,Linked,lastSymbol]
  · rename_i origin events received
    rw [Channel.receive_buffer received] at linked
    exact ⟨⟨fresh,linked.tail.forget.widen expired_mark,fun _ => pending⟩,tracked.explained.widen expired_mark,by simp,by simp⟩
  · rename_i index byte wasEscaped events received
    have room := state.events.bounded
    rw [Channel.receive_buffer received] at linked room
    exact ⟨⟨fresh,linked.tail.forget.widen expired_mark,fun _ => pending⟩,tracked.explained.widen expired_mark,
      by simp,fun _ => room⟩

theorem returned_tracked (linked : Linked state.Expired state.delivered.length (lastSymbol state.history) events.buffer) :
    Tracked {state with events := events, producer := .idle} where
  linked := ⟨_,linked,fun _ => rfl⟩
  explained := tracked.explained
  sending := by simp
  marking := by simp

theorem linked_sending (sending : state.producer = .sending index event) :
    Linked state.Expired index (lastSymbol state.history) state.events.buffer := by
  obtain ⟨fresh,linked,counted⟩ := tracked.linked
  have pending := counted (Or.inr (by simp [sending]))
  have last := (tracked.sending index event sending).1
  simp only [sending,Producer.pending] at pending
  have equal : index = fresh := by omega
  exact equal ▸ linked

theorem sent_tracked (sending : state.producer = .sending index event) (sent : state.events.send (entry index event) = some events) :
    Tracked {state with events := events, producer := .idle} := by
  have linked := linked_sending tracked sending
  apply returned_tracked tracked
  rw [Channel.send_buffer sent,← (tracked.sending index event sending).1]
  cases event with
  | byte byte wasEscaped => exact linked.snoc_symbol byte wasEscaped
  | reset => exact linked.snoc_boundary _ _

theorem boundary_tracked {origin : Option Nat} (sent : state.events.send (.boundary origin) = some events) :
    Tracked {state with events := events, producer := .idle} := by
  obtain ⟨fresh,linked,_⟩ := tracked.linked
  apply returned_tracked tracked
  rw [Channel.send_buffer sent]
  exact linked.snoc_boundary origin _

theorem expire_tracked (sending : state.producer = .sending index .reset) :
    Tracked {state with producer := .idle, history := .expired index :: state.history} := by
  obtain ⟨last,present⟩ := tracked.sending index .reset sending
  refine ⟨⟨index + 1,?_,fun _ => last⟩,tracked.explained.widen expired_mark,by simp,by simp⟩
  exact ((linked_sending tracked sending).widen expired_mark).skip ⟨present,.head _⟩

theorem read_tracked {entry : Entry} (received : state.events.receive = some (entry,events)) :
    Tracked {state with events := events, history := .read entry :: state.history} := by
  obtain ⟨fresh,linked,counted⟩ := tracked.linked
  rw [Channel.receive_buffer received] at linked
  refine ⟨⟨fresh,linked.tail.widen expired_mark,counted⟩,?_,tracked.sending,?_⟩
  · cases entry with
    | boundary origin => exact tracked.explained.widen expired_mark
    | symbol index byte wasEscaped =>
      exact ⟨fun earlier mem => (linked.1 earlier mem).widen expired_mark,tracked.explained.widen expired_mark⟩
  · intro marking
    have room := tracked.marking marking
    rw [Channel.receive_buffer received] at room
    exact Nat.lt_of_succ_lt room

theorem step_tracked (label : Label) (next : State) (ran : step state label = some next) : Tracked next := by
  cases label
  all_goals simp only [step] at ran
  case deliver event =>
    split at ran
    · rename_i idle
      cases ran
      exact deliver_tracked tracked event idle
    · cases ran
  case send =>
    split at ran
    · rename_i index event sending
      obtain ⟨events,sent,rfl⟩ := Option.map_eq_some_iff.mp ran
      exact sent_tracked tracked sending sent
    on_goal 3 => cases ran
    all_goals
      obtain ⟨events,sent,rfl⟩ := Option.map_eq_some_iff.mp ran
      exact boundary_tracked tracked sent
  case done =>
    -- the event in hand is lost, but a closed transport is never sent to again
    obtain ⟨fresh,linked,_⟩ := tracked.linked
    split at ran
    all_goals
      cases ran
    all_goals
      rename_i closed _
      exact ⟨⟨fresh,linked,by simp [closed]⟩,tracked.explained,by simp,by simp⟩
  case expire =>
    split at ran
    · rename_i index sending
      split at ran
      · cases ran
        exact expire_tracked tracked sending
      · cases ran
    · cases ran
  case full =>
    split at ran
    · rename_i sending
      split at ran
      · cases ran
        obtain ⟨fresh,linked,counted⟩ := tracked.linked
        have pending := counted (Or.inr (by simp [sending]))
        rw [sending] at pending
        exact ⟨⟨fresh,linked,fun _ => pending⟩,tracked.explained,by simp,by simp⟩
      · cases ran
    · cases ran
  case evict =>
    split at ran
    · rename_i overflowing
      cases ran
      exact evict_tracked tracked overflowing
    · cases ran
  case unmarked =>
    -- with one producer the evicted slot is still free
    split at ran
    · rename_i marking
      have room := tracked.marking marking
      split at ran
      · rename_i full
        rw [Channel.isFull_iff] at full
        omega
      · cases ran
    · cases ran
  case read =>
    obtain ⟨⟨entry,events⟩,received,rfl⟩ := Option.map_eq_some_iff.mp ran
    exact read_tracked tracked received
  case close =>
    cases ran
    obtain ⟨fresh,linked,counted⟩ := tracked.linked
    refine {tracked with linked := ⟨fresh,linked,fun live => counted ?_⟩}
    exact live.imp (fun impossible => by cases impossible) id

end

def Genuine (delivered : List StreamEvent) : Entry → Prop
  | .symbol index byte wasEscaped => delivered[index]? = some (.byte byte wasEscaped)
  | .boundary _ => True

structure Authentic (state : State) : Prop where
  buffered : ∀ entry ∈ state.events.buffer, Genuine state.delivered entry
  seen : ∀ entry, .read entry ∈ state.history → Genuine state.delivered entry

theorem Genuine.append {delivered : List StreamEvent} {entry : Entry} (genuine : Genuine delivered entry)
    (event : StreamEvent) : Genuine (delivered ++ [event]) entry := by
  cases entry with
  | boundary origin => trivial
  | symbol index byte wasEscaped =>
    have inside : index < delivered.length := (List.getElem?_eq_some_iff.mp genuine).1
    exact (List.getElem?_append_left inside).trans genuine

theorem Authentic.sent {state : State} (authentic : Authentic state) {value : Entry}
    {events : Channel Entry passiveTransportBuffer} (sent : state.events.send value = some events)
    (genuine : Genuine state.delivered value) : Authentic {state with events := events, producer := .idle} := by
  refine ⟨fun entry mem => ?_,authentic.seen⟩
  rw [Channel.send_buffer sent,mem_append,mem_singleton] at mem
  rcases mem with earlier | rfl
  · exact authentic.buffered entry earlier
  · exact genuine

theorem evict_authentic (state : State) (authentic : Authentic state) : Authentic (evict state) := by
  have seen : ∀ entry, Mark.read entry ∈ Mark.overflow :: state.history → Genuine state.delivered entry :=
    fun entry mem => authentic.seen entry (by simpa using mem)
  unfold evict
  split
  · exact ⟨authentic.buffered,seen⟩
  all_goals
    rename_i received
    refine ⟨fun entry mem => authentic.buffered entry ?_,seen⟩
    rw [Channel.receive_buffer received]
    exact mem_cons_of_mem _ mem

theorem step_authentic (state : State) (label : Label) (next : State) (tracked : Tracked state)
    (authentic : Authentic state) (ran : step state label = some next) : Authentic next := by
  cases label
  all_goals simp only [step] at ran
  case deliver event =>
    split at ran
    · cases ran
      exact ⟨fun entry mem => (authentic.buffered entry mem).append _,
        fun entry mem => (authentic.seen entry mem).append _⟩
    · cases ran
  case send =>
    split at ran
    · rename_i index event sending
      obtain ⟨events,sent,rfl⟩ := Option.map_eq_some_iff.mp ran
      have present := (tracked.sending index event sending).2
      refine authentic.sent sent ?_
      cases event with
      | byte byte wasEscaped => exact present
      | reset => trivial
    on_goal 3 => cases ran
    all_goals
      obtain ⟨events,sent,rfl⟩ := Option.map_eq_some_iff.mp ran
      exact authentic.sent sent trivial
  case expire =>
    repeat' split at ran
    all_goals
      cases ran
    exact ⟨authentic.buffered,fun entry mem => authentic.seen entry (by simpa using mem)⟩
  case done | full | unmarked | close =>
    repeat' split at ran
    all_goals
      cases ran
    all_goals exact ⟨authentic.buffered,authentic.seen⟩
  case evict =>
    split at ran
    · cases ran
      exact evict_authentic state authentic
    · cases ran
  case read =>
    obtain ⟨⟨entry,events⟩,received,rfl⟩ := Option.map_eq_some_iff.mp ran
    have contents := Channel.receive_buffer received
    refine ⟨fun other mem => authentic.buffered other (contents ▸ mem_cons_of_mem _ mem),?_⟩
    intro other mem
    rcases mem_cons.mp mem with equal | older
    · cases equal
      exact authentic.buffered entry (contents ▸ mem_cons_self)
    · exact authentic.seen other older

theorem run_tracked {labels : List Label} {final : State} (run : Run step anyStep newPassiveTransport labels final) :
    Tracked final ∧ Authentic final := by
  refine Run.invariant (fun state => Tracked state ∧ Authentic state) ?_ run ⟨newPassiveTransport_tracked,?_⟩
  · intro state label next holds _ ran
    exact ⟨step_tracked holds.1 label next ran,step_authentic state label next holds.1 holds.2 ran⟩
  · exact ⟨by simp [newPassiveTransport],by simp [newPassiveTransport]⟩

private theorem lastSymbol_expired (between : List Mark) (quiet : ∀ mark ∈ between, ∃ index, mark = .expired index)
    (older : List Mark) : lastSymbol (between ++ older) = lastSymbol older := by
  induction between with
  | nil => rfl
  | cons mark rest ih =>
    obtain ⟨index,rfl⟩ := quiet mark mem_cons_self
    exact ih fun other mem => quiet other (.tail _ mem)

private theorem Explained.suffix {skipped : Nat → Prop} (newer : List Mark) {older : List Mark}
    (explained : Explained skipped (newer ++ older)) : Explained skipped older := by
  induction newer with
  | nil => exact explained
  | cons mark rest ih =>
    match mark with
    | .read (.symbol _ _ _) => exact ih explained.2
    | .read (.boundary _) | .overflow | .expired _ => exact ih explained

private theorem fill_run (count : Nat) (inside : count ≤ passiveTransportBuffer) :
    ∃ labels filled, Run step anyStep newPassiveTransport labels filled ∧
      filled.events.buffer = (List.range count).map (Entry.symbol · 0 false) ∧ filled.closed = false ∧
      filled.producer = .idle ∧ filled.delivered = List.replicate count (.byte 0 false) ∧ filled.history = [] := by
  induction count with
  | zero => exact ⟨[],newPassiveTransport,.refl,rfl,rfl,rfl,rfl,rfl⟩
  | succ count ih =>
    obtain ⟨labels,filled,run,buffer,closed,idle,delivered,history⟩ := ih (Nat.le_of_succ_le inside)
    have length : filled.delivered.length = count := by simp [delivered]
    have room : filled.events.buffer.length < passiveTransportBuffer := by simpa [buffer] using Nat.lt_of_succ_le inside
    obtain ⟨events,sent,contents⟩ := filled.events.send_isSome_of_length (.symbol count 0 false) room
    have called : step filled (.deliver (.symbol 0 false)) = some {filled with
        delivered := filled.delivered ++ [.byte 0 false], producer := .sending count (.byte 0 false)} := by
      simp [step,idle,closed,length,streamEvent]
    have enqueued : step {filled with
        delivered := filled.delivered ++ [.byte 0 false], producer := .sending count (.byte 0 false)} .send =
        some {filled with
          events := events, delivered := filled.delivered ++ [.byte 0 false], producer := .idle} := by
      simp [step,entry,sent]
    refine ⟨_,_,(run.snoc _ trivial called).snoc _ trivial enqueued,?_,closed,rfl,?_,history⟩
    · simp [contents,buffer,range_succ]
    · simp [delivered,replicate_succ']

private theorem drain_run (entries : List Entry) (state : State) (buffer : state.events.buffer = entries) :
    ∃ labels drained, Run step anyStep state labels drained ∧ drained.events.buffer = [] ∧
      drained.closed = state.closed ∧ drained.producer = state.producer ∧ drained.delivered = state.delivered ∧
      drained.history = (entries.map Mark.read).reverse ++ state.history := by
  induction entries generalizing state with
  | nil => exact ⟨[],state,.refl,buffer,rfl,rfl,rfl,rfl⟩
  | cons first rest ih =>
    obtain ⟨events,received,contents⟩ := state.events.receive_of_buffer first rest buffer
    have taken : step state .read = some {state with events := events, history := .read first :: state.history} := by
      simp [step,received]
    obtain ⟨labels,drained,run,emptied,closed,producer,delivered,history⟩ :=
      ih {state with events := events, history := .read first :: state.history} contents
    refine ⟨_,drained,(Run.single _ trivial taken).trans run,emptied,closed,producer,delivered,?_⟩
    simp [history]

private theorem expired_run : ∃ labels final older, Run step anyStep newPassiveTransport labels final ∧
    final.history = [] ++ .read (.symbol 513 0 false) :: ([] ++ .read (.symbol 511 0 false) :: older) := by
  obtain ⟨_,filled,run,buffer,closed,idle,delivered,history⟩ := fill_run passiveTransportBuffer (Nat.le_refl _)
  have length : filled.delivered.length = passiveTransportBuffer := by simp [delivered]
  have full : filled.events.isFull = true := by simp [Channel.isFull_iff,buffer]
  let called : State := {filled with
    delivered := filled.delivered ++ [.reset], producer := .sending passiveTransportBuffer .reset}
  let dropped : State := {filled with
    delivered := filled.delivered ++ [.reset], history := [.expired passiveTransportBuffer]}
  have calls : step filled (.deliver .reset) = some called := by simp [step,idle,closed,length,streamEvent,called]
  have expires : step called .expire = some dropped := by simp [step,called,dropped,full,idle,history]
  obtain ⟨_,drained,draining,emptied,drainedClosed,drainedIdle,drainedCalls,reads⟩ := drain_run _ dropped buffer
  have total : drained.delivered.length = 513 := by simp [drainedCalls,dropped,length,passiveTransportBuffer]
  obtain ⟨events,sent,contents⟩ := drained.events.send_isSome_of_length (.symbol 513 0 false)
    (by simp [emptied,passiveTransportBuffer])
  obtain ⟨rest,received,_⟩ := events.receive_of_buffer (.symbol 513 0 false) [] (by simp [contents,emptied])
  let resumed : State := {drained with
    delivered := drained.delivered ++ [.byte 0 false], producer := .sending 513 (.byte 0 false)}
  have resumes : step drained (.deliver (.symbol 0 false)) = some resumed := by
    simp [step,drainedIdle,drainedClosed,dropped,idle,closed,total,streamEvent,resumed]
  have sends : step resumed .send = some {resumed with events := events, producer := .idle} := by
    simp [step,resumed,entry,sent]
  have ends : step {resumed with events := events, producer := .idle} .read = some {resumed with
      events := rest, producer := .idle, history := .read (.symbol 513 0 false) :: resumed.history} := by
    simp [step,received]
  have before : (List.range passiveTransportBuffer).map (Entry.symbol · 0 false) =
      (List.range 511).map (Entry.symbol · 0 false) ++ [.symbol 511 0 false] := by
    simp [passiveTransportBuffer,range_succ (n := 511)]
  refine ⟨_,_,((List.range 511).map (Mark.read <| Entry.symbol · 0 false)).reverse ++ [.expired passiveTransportBuffer],
    ((((run.snoc _ trivial calls).snoc _ trivial expires).trans draining).snoc _ trivial
      resumes).snoc _ trivial sends |>.snoc _ trivial ends,?_⟩
  simp only [resumed,reads,dropped,before]
  simp

/-- In every run, when the consumer reads two symbols one after the other and the buffer did not
overflow between the two reads, the second was delivered after the first and every event delivered
between them was a reset whose bounded send ran out: no symbol between them was lost. -/
theorem consecutive_reads_skip_only_expired_resets (labels : List Label) (final : State)
    (run : Run step anyStep newPassiveTransport labels final) (newer between older : List Mark)
    (first second : Nat) (firstByte secondByte : UInt8) (firstEscaped secondEscaped : Bool)
    (reads : final.history = newer ++ .read (.symbol second secondByte secondEscaped) ::
      (between ++ .read (.symbol first firstByte firstEscaped) :: older))
    (quiet : ∀ mark ∈ between, ∃ index, mark = .expired index) :
    final.delivered[first]? = some (.byte firstByte firstEscaped) ∧
    final.delivered[second]? = some (.byte secondByte secondEscaped) ∧ first < second ∧
    ∀ index, first < index → index < second →
      final.delivered[index]? = some .reset ∧ .expired index ∈ final.history := by
  obtain ⟨tracked,authentic⟩ := run_tracked run
  have explained := tracked.explained
  rw [reads] at explained
  obtain ⟨follows,_⟩ := Explained.suffix newer explained
  have last : lastSymbol (between ++ .read (.symbol first firstByte firstEscaped) :: older) = some first :=
    lastSymbol_expired between quiet _
  obtain ⟨ordered,skipped⟩ := follows first last
  have firstRead := authentic.seen (.symbol first firstByte firstEscaped) (by simp [reads])
  have secondRead := authentic.seen (.symbol second secondByte secondEscaped) (by simp [reads])
  exact ⟨firstRead,secondRead,ordered,skipped⟩

/-- A reset runs out at a full buffer, and the symbols before and after it are read one after the other. -/
theorem expired_reset_skipped : ∃ labels final older, Run step anyStep newPassiveTransport labels final ∧
    final.history = [] ++ .read (.symbol 513 0 false) :: ([] ++ .read (.symbol 511 0 false) :: older) ∧
    final.delivered[512]? = some .reset ∧ .expired 512 ∈ final.history := by
  obtain ⟨labels,final,older,run,reads⟩ := expired_run
  refine ⟨labels,final,older,run,reads,?_⟩
  have skipped := consecutive_reads_skip_only_expired_resets labels final run [] [] older 511 513 0 0 false false reads (by simp)
  exact skipped.2.2.2 512 (by decide) (by decide)

/-- A reset that finds the buffer full for the whole of its bounded send is dropped; the consumer then
reads the symbols before and after it one after the other. -/
theorem dropped_reset_is_unmarked : ¬ ∀ (labels : List Label) (final : State),
    Run step anyStep newPassiveTransport labels final → ∀ (newer between older : List Mark)
      (first second : Nat) (firstByte secondByte : UInt8) (firstEscaped secondEscaped : Bool),
      final.history = newer ++ .read (.symbol second secondByte secondEscaped) ::
        (between ++ .read (.symbol first firstByte firstEscaped) :: older) →
      (∀ mark ∈ between, ∀ entry, mark ≠ .read entry) → second = first + 1 := by
  intro claimed
  obtain ⟨labels,final,older,run,reads⟩ := expired_run
  exact absurd (claimed labels final run [] [] older 511 513 0 0 false false reads (by simp)) (by decide)

end EbusGateway.PassiveTransport
