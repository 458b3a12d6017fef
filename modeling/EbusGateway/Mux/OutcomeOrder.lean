import EbusGateway.Mux.Desk
import EbusGateway.Mux.ReadLoop
import EbusGateway.Mux.Stream

/-! The control frame that reports the outcome of a bid, against the frames for items observed after it:
the FAILED of a loss that the adapter reports goes through the waiter, all others are queued by readLoop.
-/
namespace EbusGateway.Mux
open Library List

def Explained (journal : List Trace) (session waiter item : Nat) : Prop :=
  ∀ before after later, journal = before ++ .delivered session later :: after → item < later → .reported session waiter ∈ before

def Outcome.inline : Outcome → Bool
  | .started | .lostLocally => true
  | _ => false

namespace Explained
variable {journal entries : List Trace} {session waiter item : Nat}

theorem fresh (latest : ∀ later, .delivered session later ∈ journal → later ≤ item) : Explained journal session waiter item := by
  intro before after later split beyond
  have bound := latest later (split ▸ mem_append_right _ mem_cons_self)
  exact absurd beyond (Nat.not_lt.mpr bound)

theorem append (explained : Explained journal session waiter item)
    (told : .reported session waiter ∈ journal ∨ ∀ later, .delivered session later ∉ entries) :
    Explained (journal ++ entries) session waiter item := by
  intro before after later split beyond
  rcases append_eq_append_iff.mp split with ⟨middle,beforeEq,entriesEq⟩ | ⟨middle,journalEq,deliveredEq⟩
  · rcases told with reported | silent
    · rw [beforeEq]
      exact mem_append_left _ reported
    · exact absurd (entriesEq ▸ mem_append_right _ mem_cons_self) (silent later)
  cases middle with
  | nil =>
    rw [append_nil] at journalEq
    rw [nil_append] at deliveredEq
    rw [← journalEq]
    rcases told with reported | silent
    · exact reported
    · exact absurd (deliveredEq ▸ mem_cons_self) (silent later)
  | cons first rest =>
    cases deliveredEq
    exact explained before rest later journalEq beyond

theorem of_filter {keep : Trace → Bool} (frames : ∀ later, keep (.delivered session later) = true)
    (explained : Explained (journal.filter keep) session waiter item) : Explained journal session waiter item := by
  intro before after later split beyond
  have parts : journal.filter keep = before.filter keep ++ .delivered session later :: after.filter keep := by
    rw [split,filter_append,filter_cons_of_pos (frames later)]
  exact mem_of_mem_filter (explained _ _ _ parts beyond)

theorem fails {later : Nat} (shown : .delivered session later ∈ journal) (beyond : item < later)
    (missing : .reported session waiter ∉ journal.takeWhile (· ≠ .delivered session later)) :
    ¬Explained journal session waiter item := by
  intro explained
  obtain ⟨before,after,split,first⟩ := eq_append_cons_of_mem shown
  have earlier : journal.takeWhile (· ≠ .delivered session later) = before := by
    rw [split,takeWhile_append_of_pos,takeWhile_cons_of_neg (by simp),append_nil]
    intro entry mem
    exact decide_eq_true fun same => first (same ▸ mem)
  rw [earlier] at missing
  exact missing (explained before after later split beyond)

end Explained

def Mute (s : Stream) (session : Nat) : Prop := session ∈ s.closedSessions ∨ session ∉ s.sessions ∧ session < s.nextSession

structure Told (m : State) (acts : List Act) : Prop where
  sessions : 0 < m.nextSession
  carried : ∀ act ∈ acts, ∀ item, act.item = some item → item ≤ m.items
  delivered : ∀ session item, .delivered session item ∈ m.stream.entries → item ≤ m.items
  asked : ∀ session initiator, .requestStart session initiator ∈ acts → session < m.nextSession
  bidding : ∀ request ∈ m.desk.gateway.toList ++ m.desk.queue, request.sessionID < m.nextSession
  told : ∀ outcome session waiter item, outcome.inline = true → .decided outcome session waiter item ∈ m.stream.entries →
    Explained m.stream.entries session waiter item ∧ (.reported session waiter ∈ m.stream.entries ∨ Mute m.stream session)

section Steps
variable {cfg : Config} {choice : Choice} {m : State} {effect : Step} {act new : Act} {others : List Act}

variable {item session : Nat} {later : Stream} {losers : List StartRequest} {event : Event} {name : Name}

theorem Pushes.item_kept (pushes : Pushes m act new) (carries : new.item = some item) : item = m.items ∨ act.item = some item := by
  cases pushes with
  | undo | handle =>
    cases carries
    simp_all
  | rawDeliver | rawLogical | logicalDeliver | responseReset | responseDeliver | answerDeliver => exact .inr carries
  | _ => cases carries

theorem Flow.fixed (flow : Flow choice m act later) :
    later.transport = m.transport ∧ later.nextSession = m.nextSession ∧ later.items = m.items := by
  cases flow <;> exact ⟨rfl,rfl,rfl⟩

theorem Flow.mute (flow : Flow choice m act later) (mute : Mute m.stream session) : Mute later session := by
  cases flow with
  | leave _ sessions closedSessions fewer more =>
    exact mute.imp (fun closed => more closed) fun ⟨gone,known⟩ => ⟨fun back => gone (fewer back),known⟩
  | _ => exact mute

theorem Turn.bidders {d later : Desk} (turn : Turn d act later) (known : Nat → Prop)
    (bidding : ∀ req ∈ d.gateway.toList ++ d.queue, known req.sessionID)
    (asked : ∀ session initiator, act = .requestStart session initiator → known session) :
    ∀ req ∈ later.gateway.toList ++ later.queue, known req.sessionID := by
  simp only [mem_append,Option.mem_toList] at bidding ⊢
  cases turn with
  | shrink _ gateway queue won own sub =>
    rintro req (first | second)
    · rcases own with rfl | rfl
      · exact bidding req (.inl first)
      · cases first
    · exact bidding req (.inr (sub.subset second))
  | repeated | grants | returns => exact bidding
  | queued session initiator ch =>
    rintro req (first | second)
    · exact bidding req (.inl first)
    · rcases Arbitrator.submit_mem second with rfl | ⟨old,mem,same,_⟩
      · exact asked session initiator rfl
      · exact same ▸ bidding old (.inr mem)
  | gateway initiator ch =>
    rintro req (first | second)
    · cases first
      exact asked gatewaySessionID initiator rfl
    · exact bidding req (.inr second)
  | selects bids req =>
    rintro req (first | second)
    · exact bidding req (.inl (Option.filter_eq_some_iff.mp first).1)
    · exact bidding req (.inr (mem_of_mem_filter second))

theorem announcement_told (known : ∀ loser ∈ losers, loser.sessionID < m.nextSession) {outcome : Outcome}
    {waiter : Nat} (inline : outcome.inline = true)
    (mem : .decided outcome session waiter item ∈ losers.flatMap (announcement choice m)) :
    item = m.items ∧ (.reported session waiter ∈ losers.flatMap (announcement choice m) ∨ Mute m.stream session) := by
  obtain ⟨loser,inside,announced⟩ := mem_flatMap.mp mem
  unfold announcement at announced
  split at announced
  · cases announced
  rename_i external
  have same : Trace.decided outcome session waiter item =
      .decided (localOutcome choice loser.sessionID) loser.sessionID loser.notify m.items := by
    split at announced <;> simpa using announced
  cases same
  refine ⟨rfl,?_⟩
  by_cases queued : (m.sessions.contains loser.sessionID && m.accepts choice loser.sessionID) = true
  · refine .inl (mem_flatMap.mpr ⟨loser,inside,?_⟩)
    rw [announcement,if_neg external,if_pos queued]
    exact mem_cons_of_mem _ mem_cons_self
  right
  have room : choice.full.contains loser.sessionID = false := by
    cases full : choice.full.contains loser.sessionID with
    | false => rfl
    | true =>
      rw [localOutcome,full] at inline
      cases inline
  by_cases closed : loser.sessionID ∈ m.closedSessions
  · exact .inl closed
  refine .inr ⟨fun present => queued ?_,known loser inside⟩
  have accepts : m.accepts choice loser.sessionID = true := by
    rw [State.accepts,room]
    simpa using closed
  exact Bool.and_eq_true_iff.mpr ⟨contains_iff_mem.mpr present,accepts⟩

theorem announcement_delivers_nothing : .delivered session item ∉ losers.flatMap (announcement choice m) := by
  intro mem
  obtain ⟨loser,_,announced⟩ := mem_flatMap.mp mem
  unfold announcement at announced
  split at announced
  · cases announced
  · split at announced <;> simp at announced

theorem Flow.entries (flow : Flow choice m act later)
    (known : ∀ req ∈ m.arb.pendingGateway.toList ++ m.arb.pendingExternal, req.sessionID < m.nextSession)
    (current : ∀ due, act = .completeArbitrationGrant due → ∀ item, m.stream.answered = some (false,item) → item = m.items) :
    ∃ entries, later.entries = m.stream.entries ++ entries ∧
      (∀ session item, .delivered session item ∈ entries → act.item = some item ∧ ¬Mute m.stream session) ∧
      ∀ outcome session waiter item, outcome.inline = true → .decided outcome session waiter item ∈ entries →
        item = m.items ∧ (.reported session waiter ∈ entries ∨ Mute m.stream session) := by
  cases flow with
  | keep | leave | unselect | answer => exact ⟨[],(append_nil _).symm,nofun,nofun⟩
  | select bids losers queued =>
    refine ⟨_,rfl,fun _ _ mem => absurd mem announcement_delivers_nothing,fun _ _ _ _ inline mem => ?_⟩
    exact announcement_told (fun loser inside => known loser (queued loser inside)) inline mem
  | receive _ item sessions carries taking =>
    refine ⟨_,rfl,?_,?_⟩
    · intro session shown mem
      obtain ⟨receiver,inside,equal⟩ := mem_map.mp mem
      cases equal
      obtain ⟨present,open_⟩ := taking session inside
      exact ⟨carries,fun mute => mute.elim open_ fun gone => gone.1 present⟩
    · intro outcome session waiter shown _ mem
      obtain ⟨receiver,_,equal⟩ := mem_map.mp mem
      cases equal
  | report | grant =>
    refine ⟨_,rfl,?_,?_⟩
    · intro _ _ mem
      cases mem_singleton.mp mem
    · intro _ _ _ _ _ mem
      cases mem_singleton.mp mem
  | lose | call =>
    refine ⟨_,rfl,?_,?_⟩
    · intro _ _ mem
      cases mem_singleton.mp mem
    · intro outcome _ _ _ inline mem
      cases mem_singleton.mp mem
      cases inline
  | start due session waiter item won =>
    refine ⟨_,rfl,?_,?_⟩
    · intro _ _ mem
      simp at mem
    · intro outcome started told shown _ mem
      simp only [mem_cons,not_mem_nil,or_false,reduceCtorEq,Trace.decided.injEq] at mem
      obtain ⟨_,rfl,rfl,rfl⟩ := mem
      exact ⟨current due rfl _ won,.inl (.tail _ mem_cons_self)⟩

theorem perform_told (told : Told m (act :: others))
    (current : ∀ due, act = .completeArbitrationGrant due → ∀ item, m.stream.answered = some (false,item) → item = m.items)
    (found : perform cfg choice act m = some effect) : Told effect.shared (effect.acts ++ others) := by
  have flow := perform_flow found
  obtain ⟨_,(nextSession : effect.shared.nextSession = m.nextSession),(items : effect.shared.items = m.items)⟩ := flow.fixed
  obtain ⟨entries,equal,deliveries,news⟩ := flow.entries told.bidding current
  have delivered : ∀ session item, .delivered session item ∈ effect.shared.stream.entries → item ≤ m.items := by
    intro session item mem
    rcases mem_append.mp (equal ▸ mem) with old | new
    · exact told.delivered session item old
    · exact told.carried act mem_cons_self item (deliveries session item new).1
  refine ⟨nextSession ▸ told.sessions,?_,items ▸ delivered,?_,?_,?_⟩
  · intro new mem item carried
    rw [items]
    rcases mem_append.mp mem with pushed | old
    · rcases (perform_pushes found pushed).item_kept carried with rfl | own
      · exact Nat.le_refl _
      · exact told.carried act mem_cons_self item own
    · exact told.carried new (.tail _ old) item carried
  · intro session initiator mem
    rw [nextSession]
    rcases mem_append.mp mem with pushed | old
    · cases perform_pushes found pushed
    · exact told.asked session initiator (.tail _ old)
  · rw [nextSession]
    refine (perform_turn found).bidders (· < m.nextSession) told.bidding ?_
    rintro session initiator rfl
    exact told.asked session initiator mem_cons_self
  · intro outcome session waiter item inline decided
    rcases mem_append.mp (equal ▸ decided) with old | new
    · obtain ⟨explained,reported⟩ := told.told outcome session waiter item inline old
      rw [equal]
      refine ⟨explained.append (reported.imp_right fun mute shown mem => (deliveries session shown mem).2 mute),?_⟩
      exact reported.imp (mem_append_left _) flow.mute
    · obtain ⟨rfl,reported⟩ := news outcome session waiter item inline new
      refine ⟨.fresh (delivered session),?_⟩
      rw [equal]
      exact reported.imp (mem_append_right _) flow.mute

theorem launch_acts (sessions : 0 < m.nextSession) (began : launch event m = some (effect,name)) :
    (∀ new ∈ effect.acts, ∀ item, new.item = some item → item ≤ effect.shared.items) ∧
      (∀ session initiator, .requestStart session initiator ∈ effect.acts → session < m.nextSession) ∧
      (∀ snap data answers, .handleArbitrationResponse snap data answers ∉ effect.acts) ∧
      ∀ due, .completeArbitrationGrant due ∉ effect.acts := by
  cases event
  all_goals simp only [launch] at began
  case sessionStart session initiator =>
    split at began
    · rename_i known
      cases began
      have bound : session < m.nextSession := by simp_all [State.known]
      simp [Effect.acts,Act.item,bound]
    · cases began
  case symbol raw logical dropped =>
    cases began
    have items : m.observe.items = m.items + 1 := rfl
    simp only [Effect.acts_code,items]
    unfold symbolCode
    split
    · simp [Act.item]
    · split <;> simp [Act.item]
  case gatewayStart initiator =>
    cases began
    simp [Effect.acts,Act.item,gatewaySessionID,sessions]
  all_goals try split at began
  all_goals cases began
  all_goals simp [Effect.acts,cancelCode,closeCode,handleReset,reconnect,Act.item]

theorem launch_told {acts : List Act} (told : Told m acts) (began : launch event m = some (effect,name)) :
    Told effect.shared (effect.acts ++ acts) := by
  obtain ⟨carried,asked,_⟩ := launch_acts told.sessions began
  have desk := launch_desk began
  have counters : m.items ≤ effect.shared.stream.items ∧ m.nextSession ≤ effect.shared.stream.nextSession ∧
      effect.shared.stream.entries = m.stream.entries ∧ ∀ session, Mute m.stream session → Mute effect.shared.stream session := by
    rcases launch_stream began with same | connected | ⟨_,observed⟩
    · rw [same]
      exact ⟨Nat.le_refl _,Nat.le_refl _,rfl,fun _ => id⟩
    · rw [connected]
      refine ⟨Nat.le_refl _,Nat.le_succ _,rfl,fun session mute => mute.imp_right fun ⟨gone,known⟩ => ⟨?_,Nat.lt_succ_of_lt known⟩⟩
      intro mem
      rcases mem_append.mp mem with old | new
      · exact gone old
      · exact absurd (mem_singleton.mp new) (Nat.ne_of_lt known)
    · rw [observed]
      exact ⟨Nat.le_succ _,Nat.le_refl _,rfl,fun _ => id⟩
  obtain ⟨(items : m.items ≤ effect.shared.items),(nextSession : m.nextSession ≤ effect.shared.nextSession),entries,mute⟩ := counters
  refine ⟨Nat.lt_of_lt_of_le told.sessions nextSession,?_,?_,?_,?_,?_⟩
  · intro act mem item carries
    rcases mem_append.mp mem with new | old
    · exact carried act new item carries
    · exact (told.carried act old item carries).trans items
  · rw [entries]
    exact fun session item mem => (told.delivered session item mem).trans items
  · intro session initiator mem
    refine Nat.lt_of_lt_of_le ?_ nextSession
    exact (mem_append.mp mem).elim (asked session initiator) (told.asked session initiator)
  · rw [desk]
    exact fun req mem => Nat.lt_of_lt_of_le (told.bidding req mem) nextSession
  · rw [entries]
    intro outcome session waiter item inline decided
    exact (told.told outcome session waiter item inline decided).imp_right (.imp_right (mute session))

end Steps

structure Reading (m : State) (code : List Act) : Prop where
  current : ∀ snapshot data answers, .handleArbitrationResponse snapshot data answers ∈ code → snapshot.item = m.items
  started : ∀ pending, .completeArbitrationGrant pending ∈ code → ∀ blocking item,
    m.stream.answered = some (blocking,item) → item = m.items

section Readers
variable {cfg : Config} {choice : Choice} {m : State} {system next : System} {effect : Step} {act : Act}

theorem Flow.answered {later : Stream} (flow : Flow choice m act later) (selecting : act.role ≠ some .selecting)
    (current : ∀ snap data answers, act = .handleArbitrationResponse snap data answers → snap.item = m.items)
    (before : ∀ blocking item, m.stream.answered = some (blocking,item) → item = m.items) :
    ∀ blocking item, later.answered = some (blocking,item) → item = m.items := by
  cases flow with
  | unselect | lose | start | grant => nofun
  | select => exact absurd rfl selecting
  | answer snap data answers blocking item =>
    intro _ _ found
    cases found
    exact current snap data answers rfl
  | _ => exact before

theorem perform_reading {rest : List Act} (plain : act.calling = false) (reading : Reading m (act :: rest))
    (alone : ∀ due, .completeArbitrationGrant due ∈ rest → act.role ≠ some .selecting)
    (found : perform cfg choice act m = some effect) : Reading effect.shared (effect.code ++ rest) := by
  have flow := perform_flow found
  obtain ⟨_,_,(items : effect.shared.items = m.items)⟩ := flow.fixed
  refine ⟨?_,?_⟩ <;> rw [items]
  · intro snap data answers mem
    rcases mem_append.mp mem with pushed | old
    · cases perform_pushes found (mem_append_left _ pushed) with
      | handle _ _ _ _ _ current => exact current
    · exact reading.current snap data answers (.tail _ old)
  · intro due mem
    have current : ∀ snap data answers, act = .handleArbitrationResponse snap data answers → snap.item = m.items := by
      rintro snap data answers rfl
      exact reading.current snap data answers mem_cons_self
    rcases mem_append.mp mem with pushed | old
    · have granted : .completeArbitrationGrant due ∈ effect.acts := mem_append_left _ pushed
      cases perform_pushes found granted with
      | blockingGrant => cases plain
      | answerGrant snap data answers =>
        obtain ⟨p,won,_,answeredAt⟩ := handleArbitrationResponse_grants (Option.some.inj found) granted
        intro blocking item answered
        cases (answered_some won).symm.trans answered
        exact answeredAt.trans (current snap data answers rfl)
    · exact flow.answered (alone due old) current (reading.started due (.tail _ old))

theorem Reading.of_silent {code : List Act} (silent : ∀ act ∈ code, act.role = none) : Reading m code where
  current _ _ _ mem := nomatch silent _ mem
  started _ mem := nomatch silent _ mem

theorem step_reading {label : Label} (sessions : 0 < system.shared.nextSession) (loops : Loops system)
    (reading : system.Shaped sequential fun _ => Reading system.shared) (ran : step cfg system label = some next) :
    next.Shaped sequential fun _ => Reading next.shared := by
  refine @Machine.shaped_step _ _ _ _ _ _ (program cfg) system next label (fun shared _ => Reading shared) ?_ ?_ reading ran
  · intro event effect name _ began
    obtain ⟨_,_,answers,grants⟩ := launch_acts sessions began
    refine ⟨⟨?_,?_⟩,?_,?_⟩
    · intro snap data answered mem
      exact absurd (mem_append_left _ mem) (answers snap data answered)
    · intro due mem
      exact absurd (mem_append_left _ mem) (grants due)
    · rw [(launch_book began).1]
      exact nofun
    · intro thread mem distinct before
      have kept : effect.shared.stream.items = system.shared.stream.items →
          effect.shared.stream.answered = system.shared.stream.answered → Reading effect.shared thread.code := by
        intro (items : effect.shared.items = system.shared.items) answered
        refine ⟨?_,?_⟩ <;> rw [items]
        · exact before.current
        · rw [answered]
          exact before.started
      rcases launch_stream began with same | connected | ⟨loop,observed⟩
      · exact kept (by rw [same]) (by rw [same])
      · exact kept (by rw [connected]) (by rw [connected])
      · have other : thread.name ≠ .readLoop := by
          intro busy
          have free := distinct (busy.trans loop.symm)
          rw [loop] at free
          cases free
        exact .of_silent ((loops.shaped.shapes thread mem).others other)
  · intro choice act rest effect name _ mem found
    have flow := perform_flow found
    obtain ⟨_,_,(items : effect.shared.items = system.shared.items)⟩ := flow.fixed
    have inside : act ∈ system.acts := mem_flatMap.mpr ⟨_,mem,.head _⟩
    have alone : ∀ due, .completeArbitrationGrant due ∈ system.acts → act.role ≠ some .selecting := by
      intro due granting selecting
      cases readers_agree loops act inside _ granting _ .answering selecting rfl
    have own : Reading system.shared (act :: rest) := reading.shapes _ mem
    refine ⟨perform_reading (loops.plain act inside) own ?_ found,?_,?_⟩
    · intro due old
      exact alone due (mem_flatMap.mpr ⟨_,mem,mem_cons_of_mem _ old⟩)
    · intro thread forked
      rcases perform_forks found forked with ⟨session,waiter,rfl⟩ | ⟨selection,gen,rfl⟩
      · exact ⟨.of_silent (by simp [Act.role]),rfl⟩
      · exact ⟨.of_silent (by simp [Act.role]),rfl⟩
    · intro thread present _ before
      refine ⟨?_,?_⟩ <;> rw [items]
      · exact before.current
      · intro due granting
        refine flow.answered (alone due (mem_flatMap.mpr ⟨thread,present,granting⟩)) ?_ (before.started due granting)
        rintro snap data answers rfl
        exact own.current snap data answers mem_cons_self

end Readers

section Run
variable {cfg : Config} {system next : System} {label : Label}

theorem step_blocking (blocking : system.shared.transport = .blocking)
    (marked : ∀ flag item, system.shared.stream.answered = some (flag,item) → flag = true) (ran : step cfg system label = some next) :
    next.shared.transport = .blocking ∧ ∀ flag item, next.shared.stream.answered = some (flag,item) → flag = true := by
  refine Machine.acts_step (fun shared _ => shared.transport = .blocking ∧
    ∀ flag item, shared.stream.answered = some (flag,item) → flag = true) (fun _ _ _ _ => id) ?_ ?_ ⟨blocking,marked⟩ ran
  · intro event effect name _ began
    have kept : effect.shared.stream.transport = system.shared.stream.transport ∧
        effect.shared.stream.answered = system.shared.stream.answered := by
      rcases launch_stream began with same | connected | ⟨_,observed⟩
      · rw [same]
        exact ⟨rfl,rfl⟩
      · rw [connected]
        exact ⟨rfl,rfl⟩
      · rw [observed]
        exact ⟨rfl,rfl⟩
    rw [kept.2]
    exact ⟨kept.1.trans blocking,marked⟩
  · intro choice act others effect _ _ _ ⟨held,before⟩ found
    have flow := perform_flow found
    refine ⟨flow.fixed.1.trans held,?_⟩
    generalize effect.shared.stream = later at flow
    cases flow with
    | unselect | lose | start | grant => nofun
    | select =>
      intro flag item found
      cases found
      exact decide_eq_true held
    | answer snap data answers marks item won =>
      intro flag shown found
      cases found
      exact before _ _ won
    | _ => exact before

theorem step_told (told : Told system.shared system.acts)
    (current : ∀ due, system.performs label = some (.completeArbitrationGrant due) →
      ∀ item, system.shared.stream.answered = some (false,item) → item = system.shared.items)
    (ran : step cfg system label = some next) : Told next.shared next.acts := by
  refine Machine.acts_step Told ?_ ?_ ?_ told ran
  · intro shared first second same held
    exact {held with
      carried := fun act mem => held.carried act (same.mem_iff.mpr mem)
      asked := fun session initiator mem => held.asked session initiator (same.mem_iff.mpr mem)}
  · intro event effect name _ began
    exact launch_told told began
  · intro choice act others effect _ performs _ held found
    refine perform_told held ?_ found
    rintro due rfl
    exact current due performs

theorem told_initially (transport : Transport) : Told (initially transport).shared [] :=
  ⟨Nat.one_pos,forall_mem_nil _,fun _ _ mem => absurd mem not_mem_nil,fun _ _ mem => absurd mem not_mem_nil,
    forall_mem_nil _,fun _ _ _ _ _ mem => absurd mem not_mem_nil⟩

theorem run_told {transport : Transport} {labels : List Label} {final : System}
    (run : Run (step cfg) anyStep (initially transport) labels final) : Told final.shared final.acts := by
  by_cases blocking : transport = .blocking
  · have invariant := run.invariant (fun system => Told system.shared system.acts ∧ system.shared.transport = .blocking ∧
      ∀ flag item, system.shared.stream.answered = some (flag,item) → flag = true) ?_ ⟨told_initially transport,blocking,nofun⟩
    · exact invariant.1
    · intro system label next ⟨told,held,marked⟩ _ ran
      refine ⟨step_told told ?_ ran,step_blocking held marked ran⟩
      intro _ _ item won
      cases marked false item won
  · have invariant := run.invariant (fun system => Told system.shared system.acts ∧ Loops system ∧
      system.Shaped sequential fun _ => Reading system.shared) ?_
      ⟨told_initially transport,loops_initially blocking,forall_mem_nil _,List.Pairwise.nil⟩
    · exact invariant.1
    · intro system label next ⟨told,loops,reading⟩ _ ran
      refine ⟨step_told told ?_ ran,step_loops loops ran,step_reading told.sessions loops reading ran⟩
      intro due performs item won
      obtain ⟨name,rest,mem⟩ := Machine.performs_mem performs
      exact (reading.shapes _ mem).started due mem_cons_self false item won

end Run

/-- In every run, the STARTED that an answer in the stream brings, and the FAILED of a bid that loses to
another one of the same SYN while its session's buffer has room, are queued before every frame for an item
observed later. -/
theorem outcome_precedes_stream (cfg : Config) (transport : Transport) (labels : List Label) (final : System)
    (run : Run (step cfg) anyStep (initially transport) labels final) (outcome : Outcome) (session waiter item : Nat)
    (inline : outcome = .started ∨ outcome = .lostLocally)
    (decided : .decided outcome session waiter item ∈ final.shared.journal) :
    Explained final.shared.journal session waiter item := by
  have own : outcome.inline = true := by rcases inline with rfl | rfl <;> rfl
  have kept : .decided outcome session waiter item ∈ final.shared.stream.entries := mem_filter.mpr ⟨decided,rfl⟩
  exact .of_filter (fun _ => rfl) ((run_told run).told outcome session waiter item own kept).1

def grantedThenSymbol : List Label :=
  grantedStart ++ [.run 1 {},.run 1 {},.run 1 {},.run 1 {},
    .start (.symbol none (some (0x15,false)) false),.run 1 {},.run 1 {},.run 1 {}]

theorem granted_started_precedes_symbol : ∃ final,
    Run (step defaultConfig) anyStep (initially .requester) grantedThenSymbol final ∧
      .decided .started 1 0 2 ∈ final.shared.journal ∧ .delivered 1 3 ∈ final.shared.journal ∧
      Explained final.shared.journal 1 0 2 := by
  refine Exists.imp (fun final (found : _ ∧ _ ∧ _) => ⟨found.1,found.2.1,found.2.2,?_⟩) (Run.exists_of_execute _ (by decide +kernel))
  exact outcome_precedes_stream defaultConfig .requester _ final found.1 .started 1 0 2 (.inl rfl) found.2.1

def overflowAtLoss : List Label :=
  [.start .connect,.run 0 {},.start .connect,.run 0 {},.start (.sessionStart 1 0x31),.run 0 {},.run 0 {},
   .start (.sessionStart 2 0x33),.run 1 {},.run 1 {},
   .start (.symbol none (some (symbolSyn,false)) false),.run 2 {},.run 2 {},.run 2 {},
   .run 2 {full := [2]},.run 2 {},.run 2 {},.run 2 {},
   .start (.symbol none (some (0x31,false)) false),.run 2 {},.run 2 {},.run 2 {}]

def symbolBeforeCommit : List Label :=
  grantedStart.take 5 ++
  [.start (.symbol none (some (symbolSyn,false)) false),.run 1 {},.run 1 {},.run 1 {},.run 1 {},.run 1 {},.run 1 {},.run 1 {},
   .start (.symbol none (some (0x15,false)) false),.run 2 {},.run 2 {},.run 2 {}]

def symbolBeforeFailed : List Label :=
  grantedStart.take 13 ++
  [.start (.response false 0x10 0),.run 1 {},.run 1 {},.run 1 {},.run 1 {},.run 1 {},.run 1 {},.run 1 {},.run 1 {},.run 1 {},
   .start (.symbol none (some (0x15,false)) false),.run 1 {},.run 1 {},.run 1 {}]

def shownEarly (outcome : Outcome) (session waiter item later : Nat) (system : System) : Prop :=
  .decided outcome session waiter item ∈ system.shared.journal ∧ .delivered session later ∈ system.shared.journal ∧
    .reported session waiter ∉ system.shared.journal.takeWhile (· ≠ .delivered session later)

instance (outcome : Outcome) (session waiter item later : Nat) : DecidablePred (shownEarly outcome session waiter item later) :=
  fun _ => inferInstanceAs (Decidable (_ ∧ _ ∧ _))

theorem outcomes_reported_late :
    (∃ final, Run (step defaultConfig) anyStep (initially .requester) overflowAtLoss final ∧
      .decided .overflowed 2 1 1 ∈ final.shared.journal ∧ ¬Explained final.shared.journal 2 1 1) ∧
    (∃ final, Run (step defaultConfig) anyStep (initially .blocking) symbolBeforeCommit final ∧
      .decided .called 1 0 1 ∈ final.shared.journal ∧ ¬Explained final.shared.journal 1 0 1) ∧
    ∃ final, Run (step defaultConfig) anyStep (initially .requester) symbolBeforeFailed final ∧
      .decided .lost 1 0 2 ∈ final.shared.journal ∧ ¬Explained final.shared.journal 1 0 2 := by
  refine ⟨?_,?_,?_⟩
  · refine Exists.imp (fun final (found : _ ∧ shownEarly .overflowed 2 1 1 2 final) => ⟨found.1,found.2.1,?_⟩)
      (Run.exists_of_execute _ (by decide +kernel))
    exact Explained.fails found.2.2.1 (by decide) found.2.2.2
  · refine Exists.imp (fun final (found : _ ∧ shownEarly .called 1 0 1 2 final) => ⟨found.1,found.2.1,?_⟩)
      (Run.exists_of_execute _ (by decide +kernel))
    exact Explained.fails found.2.2.1 (by decide) found.2.2.2
  · refine Exists.imp (fun final (found : _ ∧ shownEarly .lost 1 0 2 3 final) => ⟨found.1,found.2.1,?_⟩)
      (Run.exists_of_execute _ (by decide +kernel))
    exact Explained.fails found.2.2.1 (by decide) found.2.2.2

end EbusGateway.Mux
