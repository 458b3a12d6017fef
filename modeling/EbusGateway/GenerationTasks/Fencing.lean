import EbusGateway.GenerationTasks.Drain

/-! No effect of a fenced generation, no overlap of generations.
-/
namespace EbusGateway.GenerationTasks
open Library List

def Act.inside : Act → Option (Nat × Kind)
  | .taskBody run _ => some (run,.task)
  | .reported run _ => some (run,.report)
  | .effectEnd run _ => some (run,.effect)
  | .helperEnd run _ => some (run,.helper)
  | _ => none

def Run.Closed (run : Run) (kind : Kind) : Prop := run.joined = true ∨ run.serialized = true ∧ kind.gated = true

def Note.Closes : Note → Nat → Kind → Prop
  | .silenced generation, i, kind => i = generation ∧ kind.gated = true
  | .began generation _, i, _ => i < generation
  | .ended _ _, _, _ => False

def Over (journal : List Note) (i : Nat) (kind : Kind) : Prop := journal.count (.began i kind) = journal.count (.ended i kind)

structure Journal (r : Runner) (acts : List Act) : Prop where
  balance : ∀ i kind, r.journal.count (.began i kind) = r.journal.count (.ended i kind)
    + acts.countP fun act => act.inside = some (i,kind)
  closed : ∀ note ∈ r.journal, ∀ i kind, note.Closes i kind → (r.runs i).Closed kind
  order : ∀ before note after, r.journal = before ++ note :: after → ∀ i kind, note.Closes i kind →
    Over before i kind ∧ .began i kind ∉ after

section
variable {r next : Runner} {act new : Act} {acts others : List Act} {i : Nat} {kind : Kind} {f : Run → Run}

theorem Act.inside_unit (inside : act.inside = some (i,kind)) : act.unit = some i := by
  cases act <;> cases inside <;> rfl

theorem Act.inside_gate (inside : act.inside = some (i,kind)) (gated : kind.gated = true) : act.gate = some i := by
  cases act <;> cases inside <;> first | rfl | cases gated

theorem Drained.gone (drained : Drained r acts) (closed : (r.runs i).Closed kind) : ∀ act ∈ acts, act.inside ≠ some (i,kind) := by
  intro act mem inside
  rcases closed with joined | ⟨serialized,gated⟩
  · exact drained.idle ((drained.sound i).joined joined).2 act mem (Act.inside_unit inside)
  · have := ((drained.fine act mem).open (Act.inside_gate inside gated)).2
    cases this.symm.trans serialized

namespace Journal

theorem perm (same : acts.Perm others) (journal : Journal r acts) : Journal r others :=
  ⟨fun i kind => (same.countP_eq _) ▸ journal.balance i kind,journal.closed,journal.order⟩

theorem ends (journal : Journal r acts) (drained : Drained r acts) (closed : (r.runs i).Closed kind) : Over r.journal i kind := by
  have balance := journal.balance i kind
  rwa [countP_eq_zero.mpr fun act mem => by simpa using drained.gone closed act mem] at balance

theorem noted (journal : Journal r acts) (drained : Drained r acts) {note : Note}
    (runs : ∀ i kind, (r.runs i).Closed kind → (next.runs i).Closed kind)
    (same : next.journal = r.journal ++ [note]) (began : ∀ i kind, note = .began i kind → ¬ (r.runs i).Closed kind)
    (closes : ∀ i kind, note.Closes i kind → (r.runs i).Closed kind)
    (balance : ∀ i kind, next.journal.count (.began i kind) = next.journal.count
      (.ended i kind) + others.countP fun act => act.inside = some (i,kind)) :
    Journal next others := by
  refine ⟨balance,fun recent mem i kind closing => ?_,fun before mid after split i kind closing => ?_⟩
  · rw [same] at mem
    rcases mem_append.mp mem with old | fresh
    · exact runs i kind (journal.closed recent old i kind closing)
    · cases mem_singleton.mp fresh
      exact runs i kind (closes i kind closing)
  · rw [same] at split
    obtain rfl | ⟨init,last,rfl⟩ := eq_nil_or_concat after
    · obtain ⟨earlier,equal⟩ := append_inj' split rfl
      cases equal
      cases earlier
      exact ⟨journal.ends drained (closes i kind closing),not_mem_nil⟩
    rw [concat_eq_append,← cons_append,← append_assoc] at split
    obtain ⟨earlier,equal⟩ := append_inj' split rfl
    cases equal
    obtain ⟨gone,none⟩ := journal.order before mid init earlier i kind closing
    refine ⟨gone,fun mem => ?_⟩
    rw [concat_eq_append] at mem
    rcases mem_append.mp mem with old | fresh
    · exact none old
    · refine began i kind (mem_singleton.mp fresh).symm (journal.closed mid ?_ i kind closing)
      rw [earlier]
      exact mem_append_right _ mem_cons_self

section
variable (journal : Journal r (act :: others))
include journal

theorem go (code : List Act) (same : next.journal = r.journal)
    (runs : ∀ i kind, (r.runs i).Closed kind → (next.runs i).Closed kind)
    (outside : act.inside = none) (quiet : ∀ new ∈ code, new.inside = none) :
    Journal next (code ++ others) := by
  refine ⟨fun i kind => ?_,?_,?_⟩
  · have before := journal.balance i kind
    rw [countP_cons_of_neg (by simp [outside])] at before
    have none : code.countP (fun act => act.inside = some (i,kind)) = 0 :=
      countP_eq_zero.mpr fun new mem => by simp [quiet new mem]
    rw [same,before,countP_append,none,Nat.zero_add]
  · rw [same]
    exact fun note mem i kind closing => runs i kind (journal.closed note mem i kind closing)
  · rw [same]
    exact journal.order

theorem begin (drained : Drained r (act :: others)) (outside : act.inside = none)
    (inside : new.inside = some (i,kind)) (open_ : ¬ (r.runs i).Closed kind) (within : i < r.count) (runs : next.runs = r.runs)
    (same : next.journal = r.journal ++ [.began i kind]) : Journal next (new :: others) := by
  refine journal.noted drained (fun _ _ => runs ▸ id) same ?_ (fun e other earlier => ?_) fun j other => ?_
  · rintro _ _ ⟨⟩
    exact open_
  · exact .inl (drained.past e (Nat.lt_of_le_of_lt earlier within))
  · have before := journal.balance j other
    rw [countP_cons_of_neg (by simp [outside])] at before
    rw [same,count_append,count_append,before,countP_cons]
    by_cases here : i = j ∧ kind = other
    · obtain ⟨rfl,rfl⟩ := here
      simp [inside]
      omega
    · simp [inside,here]

theorem finish (drained : Drained r (act :: others)) (inside : act.inside = some (i,kind))
    (outside : new.inside = none) (runs : next.runs = r.runs)
    (same : next.journal = r.journal ++ [.ended i kind]) : Journal next (new :: others) := by
  refine journal.noted drained (fun _ _ => runs ▸ id) same nofun (fun _ _ closing => closing.elim) fun j other => ?_
  have before := journal.balance j other
  rw [countP_cons] at before
  rw [same,count_append,count_append,before,countP_cons_of_neg (by simp [outside])]
  by_cases here : i = j ∧ kind = other
  · obtain ⟨rfl,rfl⟩ := here
    simp [inside]
    omega
  · simp [inside,here]

end

theorem silence (journal : Journal r acts) (drained : Drained r acts) (generations : List Nat)
    (closed : ∀ i ∈ generations, ∀ kind, kind.gated = true → (r.runs i).Closed kind) :
    Journal (r.note (generations.map .silenced)) acts := by
  induction generations generalizing r with
  | nil =>
    rw [map_nil,Runner.note,append_nil]
    exact journal
  | cons i generations ih =>
    have first : Journal (r.note [.silenced i]) acts := by
      refine journal.noted drained (fun _ _ => id) rfl nofun ?_ fun j other => ?_
      · rintro j kind ⟨rfl,gated⟩
        exact closed j mem_cons_self kind gated
      · simpa [Runner.note,count_append] using journal.balance j other
    have split : r.note ((i :: generations).map .silenced) = (r.note [.silenced i]).note (generations.map .silenced) := by
      simp [Runner.note]
    rw [split]
    refine ih first {drained with} ?_
    exact fun j mem => closed j (.tail _ mem)

theorem drop (journal : Journal r (act :: others)) (outside : act.inside = none) : Journal r others :=
  journal.go [] rfl (fun _ _ => id) outside (forall_mem_nil _)

end Journal

theorem executions_outside (run : Nat) (began : List Nat) : ∀ act ∈ (executions run began).flatMap (·.code), act.inside = none := by
  intro act mem
  simp only [executions,flatMap_map,mem_flatMap,mem_singleton] at mem
  obtain ⟨task,_,rfl⟩ := mem
  rfl

theorem Runner.update_closed (serialized : (r.runs i).serialized = true → (f (r.runs i)).serialized = true)
    (joined : (r.runs i).joined = true → (f (r.runs i)).joined = true) :
    ∀ j kind, (r.runs j).Closed kind → ((r.update i f).runs j).Closed kind := by
  intro j kind closed
  by_cases same : j = i
  · subst same
    have here : (r.update j f).runs j = f (r.runs j) := Function.update_self _ _ _
    rw [here]
    exact closed.imp joined fun ⟨was,gated⟩ => ⟨serialized was,gated⟩
  · have other : (r.update i f).runs j = r.runs j := Function.update_of_ne same _ _
    rw [other]
    exact closed

theorem Journal.alter (journal : Journal r (act :: others)) (code : List Act) (outside : act.inside = none)
    (quiet : ∀ new ∈ code, new.inside = none) (serialized : (r.runs i).serialized = true → (f (r.runs i)).serialized = true)
    (joined : (r.runs i).joined = true → (f (r.runs i)).joined = true) : Journal (r.update i f) (code ++ others) :=
  journal.go code rfl (Runner.update_closed serialized joined) outside quiet

theorem Journal.returned (journal : Journal r (act :: others)) (drained : Drained r (act :: others)) {task : Nat} {state : TaskState}
    {seen : Nat → Bool} (unit : act.unit = some i) (outside : act.inside = none) :
    Journal (r.finish i task state seen).1 ((executions i (r.finish i task state seen).2).flatMap (·.code) ++ others) := by
  unfold Runner.finish
  simp only
  refine journal.alter _ outside (executions_outside _ _) (fun was => ?_) fun joined => ?_
  · exact (Run.launchAll_fields _ _ _).2.2.1.trans was
  · cases (drained.unjoined unit).symm.trans joined

variable {choice : Choice} {effect : Outcome}

theorem perform_journal (ran : perform choice act r = some effect)
    (drained : Drained r (act :: others)) (journal : Journal r (act :: others)) :
    Journal effect.shared (effect.acts ++ others) := by
  have fine := drained.head
  have stays : ∀ i kind, (r.runs i).Closed kind → (r.runs i).Closed kind := fun _ _ => id
  cases act
  all_goals simp only [perform] at ran
  case admitKey key =>
    split at ran
    · cases ran
      exact journal.drop rfl
    rename_i run found
    cases ran
    refine journal.go _ rfl (fun j kind closed => ?_) rfl (executions_outside _ _)
    by_cases new : j = r.count
    · rw [new,drained.fresh r.count le_rfl] at closed
      rcases closed with joined | ⟨serialized,_⟩
      · cases joined
      · cases serialized
    · have other : (r.install run).runs j = r.runs j := Function.update_of_ne new _ _
      exact other.symm ▸ closed
  case withdraw key =>
    split at ran
    all_goals cases ran
    · rename_i foreign
      refine (journal.drop rfl).silence drained.drop _ fun i mem kind gated => .inl ?_
      obtain ⟨inside,mine⟩ := mem_filter.mp mem
      have within := mem_range.mp inside
      refine drained.past i ?_
      by_contra last
      have current : r.current = some i := by
        rw [drained.current,if_neg (by omega)]
        exact congrArg some (by omega)
      rw [Runner.owner,current,Option.filter_some,if_pos mine] at foreign
      cases foreign
    · exact journal.go [_] rfl stays rfl (forall_mem_singleton.mpr rfl)
  case raise | enter | goEnter =>
    cases ran
    dsimp only
    exact journal.alter [_] rfl (forall_mem_singleton.mpr rfl) id id
  case cancel run purpose =>
    cases ran
    dsimp only
    refine journal.alter _ rfl ?_ id id
    split <;> simp [Effect.acts,Act.inside]
  case awaitFence run purpose =>
    split at ran
    · cases ran
    split at ran
    · cases ran
      dsimp only
      split
      · rename_i locked
        refine (journal.drop rfl).silence drained.drop [run] ?_
        exact forall_mem_singleton.mpr fun kind gated => .inr ⟨(drained.sound run).locked locked,gated⟩
      · exact journal.drop rfl
    · cases ran
      exact journal.go [_] rfl stays rfl (forall_mem_singleton.mpr rfl)
  case join run purpose =>
    split at ran
    · cases ran
    split at ran
    all_goals cases ran
    · exact journal.drop rfl
    · exact journal.drop rfl
    · dsimp only
      split
      · rename_i joined
        refine (journal.drop rfl).silence drained.drop [run] ?_
        exact forall_mem_singleton.mpr fun kind gated => .inl joined
      · exact journal.drop rfl
    · rw [Effect.acts_code]
      split
      · exact journal.go [_] rfl stays rfl (forall_mem_singleton.mpr rfl)
      · exact journal.drop rfl
  case serialize run =>
    cases ran
    dsimp only
    refine journal.alter [.unlockGate run] rfl (forall_mem_singleton.mpr rfl) (fun _ => rfl) fun was => ?_
    simp [Run.settle,was]
  case closeLocked run =>
    cases ran
    dsimp only
    exact journal.alter [] rfl (forall_mem_nil _) id id
  case runTask | helperRun =>
    cases ran
    refine journal.begin drained rfl rfl ?_ fine rfl rfl
    rintro (joined | ⟨_,gated⟩)
    · cases (drained.unjoined rfl).symm.trans joined
    · cases gated
  case taskBody | reported | effectEnd | helperEnd =>
    cases ran
    exact journal.finish drained rfl rfl rfl rfl
  case report run task =>
    split at ran
    · cases ran
    split at ran
    · rename_i live
      cases ran
      refine journal.begin drained rfl rfl ?_ fine rfl rfl
      rintro (joined | ⟨serialized,_⟩)
      · cases (drained.unjoined rfl).symm.trans joined
      · cases (live_open (drained.sound run) live).symm.trans serialized
    · cases ran
      exact journal.go [_] rfl stays rfl (forall_mem_singleton.mpr rfl)
  case finish run task state =>
    cases ran
    exact journal.returned drained rfl rfl
  case effect run unit =>
    cases ran
    refine journal.begin drained rfl rfl ?_ fine.1 rfl rfl
    rintro (joined | ⟨serialized,_⟩)
    · cases (drained.unjoined rfl).symm.trans joined
    · cases fine.2.symm.trans serialized
  case leave run unit gated =>
    have joined : (r.runs run).joined = false := drained.unjoined rfl
    cases ran
    rw [Effect.acts_code]
    dsimp only
    refine journal.alter _ rfl ?_ id (clash · joined)
    cases gated
    · exact forall_mem_nil _
    · exact forall_mem_singleton.mpr rfl
  -- the others note nothing and change no run
  all_goals
    repeat' split at ran
    all_goals cases ran
    all_goals first
      | exact journal.go [] rfl stays rfl (forall_mem_nil _)
      | exact journal.go [_] rfl stays rfl (forall_mem_singleton.mpr rfl)

end

structure Kept (r : Runner) (acts : List Act) : Prop where
  gate : Gate r acts
  drained : Drained r acts
  journal : Journal r acts

theorem Kept.perm {r : Runner} {acts others : List Act} (same : acts.Perm others) (kept : Kept r acts) : Kept r others :=
  ⟨kept.gate.perm same,kept.drained.perm same,kept.journal.perm same⟩

theorem Kept.add {r : Runner} {act : Act} {acts : List Act} (kept : Kept r acts)
    (shares : act.shares = false) (excludes : act.excludes = false)
    (unit : act.unit = none) (inside : act.inside = none) (fine : Fine r act) : Kept r (act :: acts) := by
  obtain ⟨gate,drained,journal⟩ := kept
  refine ⟨⟨?_,?_,gate.apart⟩,{drained with active := fun i => ?_, fine := forall_mem_cons.mpr ⟨fine,drained.fine⟩},
    fun i kind => ?_,journal.closed,journal.order⟩
  · rw [countP_cons_of_neg (by simp [shares])]
    exact gate.readers
  · exact (countP_cons_of_neg (by simp [excludes])).trans gate.writer
  · rw [units_cons,units_none unit,Nat.zero_add]
    exact drained.active i
  · rw [countP_cons_of_neg (by simp [inside])]
    exact journal.balance i kind

theorem step_kept {system later : System} {move : Move Event Choice} (kept : Kept system.shared system.acts)
    (stepped : step system move = some later) : Kept later.shared later.acts := by
  apply Machine.acts_step Kept (fun _ _ _ => Kept.perm) ?_ ?_ kept stepped
  · intro event effect name _ began
    cases event with
    | commit run task | callback run task | go run task | goJoin run task =>
      simp only [program,launch] at began
      split at began
      · rename_i within
        cases began
        exact kept.add rfl rfl rfl rfl within
      · cases began
    | admitKey key | fence key | withdraw key | sync key admitted | close =>
      cases began
      exact kept.add rfl rfl rfl rfl trivial
  · intro choice act others effect _ _ _ before ran
    exact ⟨perform_gate ran before.gate,perform_drained ran before.gate before.drained,
      perform_journal ran before.drained before.journal⟩

theorem newRunner_kept {config : Config} {runner : Runner} (accepted : newRunner config = some runner) : Kept runner [] := by
  obtain ⟨_,frozen⟩ := Option.ite_none_left_eq_some.mp accepted
  obtain ⟨tasks,_,rfl⟩ := Option.map_eq_some_iff.mp frozen
  refine ⟨⟨rfl,rfl,nofun⟩,⟨rfl,nofun,fun _ _ => rfl,fun _ => ⟨nofun,nofun,nofun⟩,fun _ => rfl,forall_mem_nil _⟩,?_,?_,?_⟩
  · exact fun _ _ => rfl
  · exact fun _ mem => nomatch mem
  · intro before note after split
    simp at split

theorem run_kept {config : Config} {runner : Runner} (accepted : newRunner config = some runner)
    {labels : List (Move Event Choice)} {system : System}
    (run : Library.Run step anyStep (created runner) labels system) : Kept system.shared system.acts :=
  run.invariant (fun system => Kept system.shared system.acts) (fun _ _ _ kept _ stepped =>
    step_kept kept stepped) (newRunner_kept accepted)

/-- In every interleaving, once a generation is silenced all its effects and failure reports are over and none
begins, and where something of a generation begins everything of the earlier ones is over and nothing of them
begins. -/
theorem generations_apart {config : Config} {runner : Runner}
    (accepted : newRunner config = some runner) {labels : List (Move Event Choice)}
    {system : System} (run : Library.Run step anyStep (created runner) labels system) :
    (∀ before generation after, system.shared.journal = before ++ .silenced generation :: after →
      ∀ kind, kind = .effect ∨ kind = .report →
        before.count (.began generation kind) = before.count (.ended generation kind) ∧ .began generation kind ∉ after) ∧
    ∀ before generation kind after, system.shared.journal = before ++ .began generation kind :: after →
      ∀ earlier < generation, ∀ other,
        before.count (.began earlier other) = before.count (.ended earlier other) ∧ .began earlier other ∉ after := by
  have order := (run_kept accepted run).journal.order
  refine ⟨fun before generation after split kind gated => order before _ after split generation kind ⟨rfl,?_⟩,
    fun before generation kind after split earlier less other => order before _ after split earlier other less⟩
  rcases gated with rfl | rfl
  all_goals rfl

def scanAndPoll : Config := {tasks := [{name := "scan"},{name := "poll", requires := ["scan"]}]}

theorem scan_and_poll_accepted : (newRunner scanAndPoll).isSome = true := by decide +kernel

def scanRunner : Runner := (newRunner scanAndPoll).get scan_and_poll_accepted

def firstKey : Key := ⟨⟨"ebus.primary","source","epoch",1,0⟩,1⟩

def secondKey : Key := ⟨⟨"ebus.primary","source","epoch",2,0⟩,2⟩

def fencedDuringEffect : List (Move Event Choice) :=
  [.start (.admitKey firstKey),.run 0 {},.run 1 {},.run 1 {},.start (.commit 0 "scan"),.run 2 {},.run 2 {},.run 2 {},
    .start (.fence firstKey),.run 3 {},.run 3 {},.run 3 {},.run 2 {},.run 2 {},.run 2 {},
    .run 4 {},.run 4 {},.run 4 {},.run 4 {},.run 3 {},
    .run 1 {fails := true},.run 1 {},.run 1 {},.start (.admitKey secondKey),.run 5 {},.run 6 {},.run 6 {}]

def fencedJournal : List Note := [.began 0 .task,.began 0 .effect,.ended 0 .effect,.silenced 0,.ended 0 .task,.began 1 .task]

theorem fenced_during_effect_apart : ∃ system, newRunner scanAndPoll = some scanRunner ∧
    Library.Run step anyStep (created scanRunner) fencedDuringEffect system ∧ system.shared.journal = fencedJournal ∧
    .began 0 .effect ∉ [Note.ended 0 .task,.began 1 .task] ∧
    (fencedJournal.take 5).count (.began 0 .task) = (fencedJournal.take 5).count (.ended 0 .task) := by
  have accepted : newRunner scanAndPoll = some scanRunner := (Option.some_get scan_and_poll_accepted).symm
  refine Exists.imp (fun _ (found : _ ∧ _) => ⟨accepted,found.1,found.2,?_⟩) (Run.exists_of_execute _ (by decide +kernel))
  obtain ⟨run,journal⟩ := found
  obtain ⟨silent,apart⟩ := generations_apart accepted run
  constructor
  · exact (silent [.began 0 .task,.began 0 .effect,.ended 0 .effect] 0 [.ended 0 .task,.began 1 .task] journal .effect (.inl rfl)).2
  · exact (apart [.began 0 .task,.began 0 .effect,.ended 0 .effect,.silenced 0,.ended 0 .task] 1 .task [] journal 0 Nat.one_pos .task).1

end EbusGateway.GenerationTasks
