import EbusGateway.GenerationTasks.Gate

/-! The drain of a run: it is joined when it is fenced, the gate was held alone after that and nothing runs in it
any more; and only then may the next one be admitted.
-/
namespace EbusGateway.GenerationTasks
open Library List

namespace Act

def unit : Act → Option Nat
  | .execute run _ | .runTask run _ | .taskBody run _ | .taskEnd run _ _ | .report run _ | .reported run _ | .finish run _ _ => some run
  | .effect run _ | .effectEnd run _ | .leave run _ _ => some run
  | .goRelease run _ _ | .helper run _ _ | .helperRun run _ | .helperEnd run _ => some run
  | _ => none

end Act

structure Run.Sound (run : Run) : Prop where
  locked : run.locked = true → run.serialized = true
  fenced : run.serialized = true → run.fenced = true
  joined : run.joined = true → run.serialized = true ∧ run.active = 0

def Fine (r : Runner) : Act → Prop
  | .syncCheck run _ _ | .syncAdmit run _ _ => ∀ i, run = some i → i < r.count
  | .raise run _ | .commit run _ | .go run _ _ => run < r.count
  | .cancel run _ | .awaitFence run _ | .join run _ | .lockGate run | .serialize run => run < r.count ∧ (r.runs run).fenced = true
  | .unlockGate run | .closeLocked run => run < r.count ∧ (r.runs run).serialized = true
  | .enter run _ | .goEnter run _ _ | .release run | .effect run _ | .effectEnd run _ |
    .goRelease run _ _ | .reported run _ | .leave run _ true =>
    run < r.count ∧ (r.runs run).serialized = false
  | .execute run _ | .runTask run _ | .taskBody run _ | .taskEnd run _ _ | .report run _ | .finish run _ _ => run < r.count
  | .helper run _ _ | .helperRun run _ | .helperEnd run _ | .leave run _ false => run < r.count
  | _ => True

def units (acts : List Act) (i : Nat) : Nat := acts.countP fun act => act.unit = some i

structure Drained (r : Runner) (acts : List Act) : Prop where
  current : r.current = if r.count = 0 then none else some (r.count - 1)
  past : ∀ i, i + 1 < r.count → (r.runs i).joined = true
  fresh : ∀ i, r.count ≤ i → r.runs i = {}
  sound : ∀ i, (r.runs i).Sound
  active : ∀ i, (r.runs i).active = units acts i
  fine : ∀ act ∈ acts, Fine r act

section
variable {r next : Runner} {act new : Act} {acts others : List Act} {i : Nat} {admitted : Bool}

theorem Fine.open (fine : Fine r act) (gate : act.gate = some i) : i < r.count ∧ (r.runs i).serialized = false := by
  cases act with
  | leave run unit gated =>
    cases gated with
    | true =>
      cases gate
      exact fine
    | false => cases gate
  | enter run unit | goEnter run unit _ | release run | effect run unit | effectEnd run unit
  | goRelease run unit _ | reported run task =>
    cases gate
    exact fine
  | _ => cases gate

theorem Fine.counted (fine : Fine r act) (unit : act.unit = some i) : i < r.count := by
  cases act with
  | leave run name gated =>
    cases unit
    cases gated with
    | true => exact fine.1
    | false => exact fine
  | effect run unit | effectEnd run unit | goRelease run unit _ | reported run task =>
    cases unit
    exact fine.1
  | execute run task | runTask run task | taskBody run task | taskEnd run task _ | report run task
  | finish run task _ | helper run unit _ | helperRun run unit | helperEnd run unit =>
    cases unit
    exact fine
  | _ => cases unit

theorem Fine.later (fine : Fine r act) (count : r.count ≤ next.count)
    (fenced : ∀ i < r.count, (r.runs i).fenced = true → (next.runs i).fenced = true)
    (serialized : ∀ i < r.count, (r.runs i).serialized = true → (next.runs i).serialized = true)
    (closed : ∀ i < r.count, act.gate = some i → (r.runs i).serialized = false →
      (next.runs i).serialized = false) : Fine next act := by
  cases act with
  | syncCheck run key admitted | syncAdmit run key admitted => exact fun i same => (fine i same).trans_le count
  | raise run _ | commit run _ | go run _ _ => exact Nat.lt_of_lt_of_le fine count
  | cancel run _ | awaitFence run _ | join run _ | lockGate run
  | serialize run => exact ⟨fine.1.trans_le count,fenced run fine.1 fine.2⟩
  | unlockGate run | closeLocked run => exact ⟨fine.1.trans_le count,serialized run fine.1 fine.2⟩
  | enter run _ | goEnter run _ _ | release run | effect run _ | effectEnd run _ | goRelease run _ _ | reported run _ =>
    exact ⟨fine.1.trans_le count,closed run fine.1 rfl fine.2⟩
  | leave run unit gated =>
    cases gated with
    | true => exact ⟨fine.1.trans_le count,closed run fine.1 rfl fine.2⟩
    | false => exact Nat.lt_of_lt_of_le fine count
  | execute run _ | runTask run _ | taskBody run _ | taskEnd run _ _ | report run _
  | finish run _ _ | helper run _ _ | helperRun run _ | helperEnd run _ =>
    exact Nat.lt_of_lt_of_le fine count
  | admitKey _ | fence _ | withdraw _ | sync _ _ | close => trivial

theorem units_append (acts others : List Act) (i : Nat) : units (acts ++ others) i = units acts i + units others i := countP_append

theorem units_cons (act : Act) (acts : List Act) (i : Nat) :
    units (act :: acts) i = units [act] i + units acts i := units_append [act] acts i

theorem units_none (none : act.unit = none) (i : Nat) : units [act] i = 0 := by simp [units,none]

theorem units_here (unit : act.unit = some i) : units [act] i = 1 := by simp [units,unit]

theorem units_other {j : Nat} (unit : act.unit = some i) (apart : j ≠ i) : units [act] j = 0 := by
  simpa [units,unit] using apart.symm

namespace Drained

theorem perm (same : acts.Perm others) (drained : Drained r acts) : Drained r others :=
  {drained with
    active := fun i => (drained.active i).trans (same.countP_eq _), fine := fun act mem => drained.fine act (same.mem_iff.mpr mem)}

theorem head (drained : Drained r (act :: others)) : Fine r act := drained.fine act mem_cons_self

theorem last (drained : Drained r acts) (current : r.current = some i) : r.count = i + 1 := by
  rw [drained.current] at current
  split at current
  · cases current
  · cases current
    omega

section
variable (drained : Drained r (act :: others)) {f : Run → Run}
include drained

theorem go (code : List Act) (runs : next.runs = r.runs) (count : next.count = r.count)
    (current : next.current = r.current) (same : ∀ i, units code i = units [act] i) (fine : ∀ new ∈ code, Fine next new) :
    Drained next (code ++ others) := by
  refine ⟨?_,?_,?_,?_,fun i => ?_,fun new mem => ?_⟩
  · rw [current,count]
    exact drained.current
  · rw [runs,count]
    exact drained.past
  · rw [runs,count]
    exact drained.fresh
  · rw [runs]
    exact drained.sound
  · rw [runs,drained.active,units_append,same,units_cons]
  · rcases mem_append.mp mem with recent | old
    · exact fine new recent
    · refine (drained.fine new (.tail _ old)).later count.ge ?_ ?_ ?_
      all_goals
        rw [runs]
        first | exact fun _ _ same => same | exact fun _ _ _ same => same

theorem move (fine : Fine next new) (runs : next.runs = r.runs := by rfl)
    (count : next.count = r.count := by rfl) (current : next.current = r.current := by rfl) (same : new.unit = act.unit := by rfl) :
    Drained next (new :: others) :=
  drained.go [new] runs count current (fun i => by simp [units,same]) (forall_mem_singleton.mpr fine)

theorem drop (runs : next.runs = r.runs := by rfl) (count : next.count = r.count := by rfl)
    (current : next.current = r.current := by rfl) (none : act.unit = none := by rfl) : Drained next others :=
  drained.go [] runs count current (fun i => (units_none none i).symm) (forall_mem_nil _)

theorem alter (code : List Act) (within : i < r.count)
    (sound : (f (r.runs i)).Sound) (fenced : (r.runs i).fenced = true → (f (r.runs i)).fenced = true)
    (serialized : (r.runs i).serialized = true → (f (r.runs i)).serialized = true)
    (closed : ∀ other ∈ others, other.gate = some i → (r.runs i).serialized = false → (f (r.runs i)).serialized = false)
    (joined : (r.runs i).joined = true → (f (r.runs i)).joined = true)
    (active : (f (r.runs i)).active = units code i + units others i) (elsewhere : ∀ j, j ≠ i → units code j = units [act] j)
    (fine : ∀ new ∈ code, Fine (r.update i f) new) : Drained (r.update i f) (code ++ others) := by
  have here : (r.update i f).runs i = f (r.runs i) := Function.update_self _ _ _
  have other {j : Nat} (apart : j ≠ i) : (r.update i f).runs j = r.runs j := Function.update_of_ne apart _ _
  refine ⟨drained.current,fun j before => ?_,fun j beyond => ?_,fun j => ?_,fun j => ?_,fun new mem => ?_⟩
  · have was := drained.past j before
    by_cases equal : j = i
    · subst equal
      rw [here]
      exact joined was
    · rw [other equal]
      exact was
  · have apart : j ≠ i := (Nat.lt_of_lt_of_le within beyond).ne'
    rw [other apart]
    exact drained.fresh j beyond
  · by_cases equal : j = i
    · subst equal
      rw [here]
      exact sound
    · rw [other equal]
      exact drained.sound j
  · rw [units_append]
    by_cases equal : j = i
    · subst equal
      rw [here]
      exact active
    · rw [other equal,drained.active,units_cons,elsewhere j equal]
  · rcases mem_append.mp mem with recent | old
    · exact fine new recent
    · refine (drained.fine new (.tail _ old)).later le_rfl (fun j _ => ?_) (fun j _ => ?_) fun j _ gate => ?_
      all_goals
        by_cases equal : j = i
        · subst equal
          rw [here]
          first | exact fenced | exact serialized | exact closed new old gate
        · rw [other equal]
          exact id

theorem mark (code : List Act) (within : i < r.count)
    (sound : (f (r.runs i)).Sound) (fenced : (r.runs i).fenced = true → (f (r.runs i)).fenced = true)
    (serialized : (f (r.runs i)).serialized = (r.runs i).serialized) (joined : (f (r.runs i)).joined = (r.runs i).joined)
    (active : (f (r.runs i)).active = (r.runs i).active) (none : act.unit = none) (uncounted : ∀ j, units code j = 0)
    (fine : ∀ new ∈ code, Fine (r.update i f) new) : Drained (r.update i f) (code ++ others) := by
  refine drained.alter code within sound fenced (fun was => serialized.trans was) (fun _ _ _ was => serialized.trans was)
    (fun was => joined.trans was) ?_ (fun j _ => ?_) fine
  · rw [active,drained.active,units_cons,units_none none,uncounted]
  · rw [uncounted,units_none none]

end

theorem all_joined (drained : Drained r acts) (joined : ∀ i, r.current = some i → (r.runs i).joined = true) (within : i < r.count) :
    (r.runs i).joined = true := by
  by_cases before : i + 1 < r.count
  · exact drained.past i before
  refine joined i ?_
  rw [drained.current,if_neg (by omega)]
  exact congrArg some (by omega)

theorem idle (drained : Drained r acts) (none : (r.runs i).active = 0) : ∀ act ∈ acts, act.unit ≠ some i := by
  rw [drained.active] at none
  intro act mem
  simpa using countP_eq_zero.mp none act mem

theorem unjoined (drained : Drained r (act :: others)) (unit : act.unit = some i) : (r.runs i).joined = false := by
  refine Bool.eq_false_iff.mpr fun joined => ?_
  exact drained.idle ((drained.sound i).joined joined).2 act mem_cons_self unit

end Drained

namespace Run

theorem launchAll_fields (tasks : List Spec) (began : List Nat) (run : Run) :
    (run.launchAll tasks began).active = run.active + began.length ∧ (run.launchAll tasks began).fenced = run.fenced ∧
      (run.launchAll tasks began).serialized = run.serialized ∧ (run.launchAll tasks began).joined = run.joined ∧
      (run.launchAll tasks began).locked = run.locked := by
  induction began generalizing run with
  | nil => exact ⟨rfl,rfl,rfl,rfl,rfl⟩
  | cons i began ih =>
    obtain ⟨active,fenced,serialized,joined,locked⟩ := ih (run.launch i ((tasks[i]?.map (·.name)).getD ""))
    refine ⟨active.trans ?_,fenced,serialized,joined,locked⟩
    rw [length_cons]
    change run.active + 1 + began.length = _
    omega

theorem exit_sound {run : Run} (sound : run.Sound) (unit : String) (unjoined : run.joined = false) : (run.exit unit).Sound := by
  refine {sound with joined := fun joined => ?_}
  have settled : run.fenced && run.serialized && decide (run.active - 1 = 0) = true := by simpa [exit,settle,unjoined] using joined
  simp only [Bool.and_eq_true,decide_eq_true_eq] at settled
  exact ⟨settled.1.2,settled.2⟩

theorem enter_sound {run : Run} (sound : run.Sound) (unit : String)
    (unserialized : run.serialized = false) : (run.enter unit).Sound := by
  refine {sound with joined := fun joined => ?_}
  cases unserialized.symm.trans (sound.joined joined).1

end Run

theorem executions_units (run : Nat) (began : List Nat) (j : Nat) :
    units ((executions run began).flatMap (·.code)) j = if j = run then began.length else 0 := by
  induction began with
  | nil => simp [executions,units]
  | cons task began ih =>
    have split : (executions run (task :: began)).flatMap (·.code) = .execute run task
      :: (executions run began).flatMap (·.code) := rfl
    rw [split,units_cons,ih]
    by_cases same : j = run
    · subst same
      rw [units_here rfl]
      simp [Nat.add_comm]
    · rw [units_other rfl same]
      simp [same]

theorem executions_fine (run : Nat) (began : List Nat) (within : run < r.count) :
    ∀ act ∈ (executions run began).flatMap (·.code), Fine r act := by
  intro act mem
  simp only [executions,flatMap_map,mem_flatMap,mem_singleton] at mem
  obtain ⟨task,_,rfl⟩ := mem
  exact within

theorem Runner.admission_cases {key : Key} {run : Run} (found : r.admission key admitted = some run) :
    (∀ i, r.current = some i → (r.runs i).joined = true) ∧ run.active = (Run.roots r.tasks).length ∧ run.serialized = false ∧
      run.joined = false ∧ run.locked = false := by
  obtain ⟨_,found⟩ := Option.ite_none_left_eq_some.mp found
  obtain ⟨joined,found⟩ := Option.ite_none_left_eq_some.mp found
  obtain ⟨_,same⟩ := Option.ite_none_left_eq_some.mp found
  cases same
  obtain ⟨active,_,serialized,unjoined,locked⟩ := Run.launchAll_fields r.tasks (Run.roots r.tasks)
    {key := key, states := List.replicate r.tasks.length .pending}
  refine ⟨fun i current => ?_,active.trans (Nat.zero_add _),serialized,unjoined,locked⟩
  rw [current] at joined
  simp only [Option.any_some,Bool.or_eq_true,not_or,Bool.not_eq_true',Bool.not_eq_false,decide_eq_true_eq] at joined
  exact joined.2

section
variable (drained : Drained r (act :: others)) {name : String}
include drained

theorem Drained.install (none : act.unit = none) {run : Run} {code : List Act}
    (joined : ∀ i, r.current = some i → (r.runs i).joined = true) (sound : run.Sound) (active : run.active = units code r.count)
    (elsewhere : ∀ j, j ≠ r.count → units code j = 0)
    (fine : ∀ new ∈ code, Fine (r.install run) new) : Drained (r.install run) (code ++ others) := by
  have here : (r.install run).runs r.count = run := Function.update_self _ _ _
  have other {j : Nat} (apart : j ≠ r.count) : (r.install run).runs j = r.runs j := Function.update_of_ne apart _ _
  refine ⟨?_,fun j before => ?_,fun j beyond => ?_,fun j => ?_,fun j => ?_,fun new mem => ?_⟩
  · simp [Runner.install]
  · have within : j < r.count := Nat.lt_of_succ_lt_succ before
    rw [other within.ne]
    exact drained.all_joined joined within
  · have beyond : r.count < j := beyond
    rw [other beyond.ne']
    exact drained.fresh j beyond.le
  · by_cases equal : j = r.count
    · rw [equal,here]
      exact sound
    · rw [other equal]
      exact drained.sound j
  · have before := drained.active j
    rw [units_cons,units_none none,Nat.zero_add] at before
    rw [units_append]
    by_cases equal : j = r.count
    · rw [equal] at before ⊢
      rw [here,active,← before,drained.fresh r.count le_rfl]
      exact (Nat.add_zero _).symm
    · rw [other equal,before,elsewhere j equal,Nat.zero_add]
  · rcases mem_append.mp mem with recent | old
    · exact fine new recent
    · refine (drained.fine new (.tail _ old)).later (Nat.le_succ _) (fun j within => ?_) (fun j within => ?_) fun j within _ => ?_
      all_goals
        rw [other within.ne]
        exact id

theorem Drained.finish {task : Nat} {state : TaskState} {seen : Nat → Bool} (unit : act.unit = some i) :
    Drained (r.finish i task state seen).1 ((executions i (r.finish i task state seen).2).flatMap (·.code) ++ others) := by
  have unjoined := drained.unjoined unit
  have within := drained.head.counted unit
  have before := drained.active i
  rw [units_cons,units_here unit] at before
  unfold Runner.finish
  simp only
  generalize Run.advance seen 0 r.tasks ((r.runs i).states.set task state) = result
  obtain ⟨states,began⟩ := result
  obtain ⟨active,fenced,serialized,joined,locked⟩ := Run.launchAll_fields r.tasks began {r.runs i with states := states}
  have sound : ({r.runs i with states := states}.launchAll r.tasks began).Sound := by
    refine ⟨?_,?_,fun again => ?_⟩
    · rw [locked,serialized]
      exact (drained.sound i).locked
    · rw [serialized,fenced]
      exact (drained.sound i).fenced
    · cases unjoined.symm.trans (joined.symm.trans again)
  refine drained.alter _ within (Run.exit_sound sound _ (joined.trans unjoined)) (fun was =>
    fenced.trans was) (fun was => serialized.trans was)
    (fun _ _ _ was => serialized.trans was) (fun was => (nomatch unjoined.symm.trans was)) ?_ (fun j apart => ?_)
    (executions_fine i began within)
  · rw [executions_units,if_pos rfl]
    change ({r.runs i with states := states}.launchAll r.tasks began).active - 1 = _
    rw [active]
    change (r.runs i).active + began.length - 1 = began.length + units others i
    omega
  · rw [executions_units,if_neg apart,units_other unit apart]

theorem Drained.enter (none : act.unit = none) (unit : new.unit = some i) (within : i < r.count)
    (unserialized : (r.runs i).serialized = false) (fine : Fine (r.update i (·.enter name)) new) :
    Drained (r.update i (·.enter name)) (new :: others) := by
  refine drained.alter [new] within (Run.enter_sound (drained.sound i) name unserialized) id id
    (fun _ _ _ was => was) id ?_ (fun j apart => ?_)
    (forall_mem_singleton.mpr fine)
  · change (r.runs i).active + 1 = _
    rw [drained.active,units_cons,units_none none,units_here unit,Nat.zero_add,Nat.add_comm]
  · rw [units_other unit apart,units_none none]

theorem Drained.leave (code : List Act) (unit : act.unit = some i) (uncounted : ∀ j, units code j = 0)
    (fine : ∀ new ∈ code, Fine (r.update i (·.exit name)) new) : Drained (r.update i (·.exit name)) (code ++ others) := by
  have unjoined := drained.unjoined unit
  refine drained.alter code (drained.head.counted unit) (Run.exit_sound (drained.sound i) name unjoined) id id (fun _ _ _ was => was)
    (fun was => (nomatch unjoined.symm.trans was)) ?_ (fun j apart => ?_) fine
  · change (r.runs i).active - 1 = _
    rw [drained.active,units_cons,units_here unit,uncounted]
    omega
  · rw [uncounted,units_other unit apart]

end

variable {choice : Choice} {effect : Outcome}

theorem live_open {run : Run} (sound : run.Sound) (live : run.live admitted = true) : run.serialized = false := by
  refine Bool.eq_false_iff.mpr fun serialized => ?_
  simp [Run.live,sound.fenced serialized] at live

theorem perform_drained (ran : perform choice act r = some effect) (gate : Gate r (act :: others))
    (drained : Drained r (act :: others)) :
    Drained effect.shared (effect.acts ++ others) := by
  have fine := drained.head
  cases act
  all_goals simp only [perform] at ran
  case admitKey key =>
    split at ran
    · cases ran
      exact drained.drop
    rename_i run found
    cases ran
    obtain ⟨joined,active,serialized,unjoined,locked⟩ := Runner.admission_cases found
    have sound : run.Sound := ⟨(clash · locked),(clash · serialized),(clash · unjoined)⟩
    refine drained.install rfl joined sound ?_ (fun j apart => ?_) (executions_fine _ _ (Nat.lt_succ_self _))
    · rw [active]
      exact ((executions_units _ _ _).trans (if_pos rfl)).symm
    · exact (executions_units _ _ _).trans (if_neg apart)
  case fence | withdraw | close =>
    split at ran
    all_goals cases ran
    · exact drained.drop
    · rename_i run found
      first
        | exact drained.move (drained.last found).ge
        | exact drained.move (drained.last (Option.filter_eq_some_iff.mp found).1).ge
  case sync key admitted =>
    cases ran
    exact drained.move fun i current => (drained.last current).ge
  case syncCheck run key admitted =>
    split at ran
    · rename_i i found
      cases ran
      obtain ⟨same,_⟩ := Option.filter_eq_some_iff.mp found
      exact drained.move (fine i same)
    · cases ran
      rw [Effect.acts_code]
      split
      · exact drained.move fine
      · exact drained.drop
  case raise run purpose =>
    have sound := drained.sound run
    have fenced : ((r.update run fun run => {run with fenced := true}).runs run).fenced = true := by simp [Runner.update]
    have raised : Drained (r.update run fun run => {run with fenced := true}) ([.cancel run purpose] ++ others) :=
      drained.mark [.cancel run purpose] fine ⟨sound.locked,fun _ => rfl,sound.joined⟩ (fun _ => rfl) rfl rfl rfl rfl (fun _ => rfl)
        (forall_mem_singleton.mpr ⟨fine,fenced⟩)
    cases ran
    exact raised
  case cancel run purpose =>
    have sound := drained.sound run
    have fenced : ((r.update run fun run => {run with cancelled := true, fencing := true}).runs run).fenced = true := by
      simpa [Runner.update] using fine.2
    cases ran
    dsimp only
    split
    · exact drained.mark [_] fine.1 {sound with} id rfl rfl rfl rfl (fun _ => rfl)
        (forall_mem_singleton.mpr ⟨fine.1,fenced⟩)
    · refine drained.mark [_,_] fine.1 {sound with} id rfl rfl rfl rfl (fun _ => rfl) ?_
      exact forall_mem_cons.mpr ⟨⟨fine.1,fenced⟩,forall_mem_singleton.mpr ⟨fine.1,fenced⟩⟩
  case join run purpose =>
    split at ran
    · cases ran
    split at ran
    all_goals cases ran
    · exact drained.drop
    · exact drained.drop
    · dsimp only
      split
      all_goals exact drained.drop
    · rw [Effect.acts_code]
      split
      · refine drained.move ?_
        rintro i ⟨⟩
        exact fine.1
      · exact drained.drop
  case serialize run =>
    have held := (gate.writer.alone rfl).1
    have shared : ∀ other ∈ others, other.gate = none := by
      intro other mem
      have none := gate.readers.symm.trans (gate.apart held)
      simpa [Act.shares] using countP_eq_zero.mp none other (.tail _ mem)
    have sound := drained.sound run
    cases ran
    change Drained (r.update run fun run => {run with serialized := true}.settle) ([.unlockGate run] ++ others)
    refine drained.alter [.unlockGate run] fine.1 ⟨fun _ => rfl,fun _ => fine.2,fun joined => ⟨rfl,?_⟩⟩ id (fun _ => rfl)
      (fun other mem gated => absurd (gated.symm.trans (shared other mem)) (Option.some_ne_none _))
        (fun was => ?_) ?_ (fun _ _ => rfl) ?_
    · simp only [Run.settle,Bool.or_eq_true,Bool.and_eq_true,decide_eq_true_eq] at joined
      rcases joined with before | ⟨_,none⟩
      · exact (sound.joined before).2
      · exact none
    · simp [Run.settle,was]
    · change (r.runs run).active = _
      rw [drained.active,units_cons,units_none rfl,units_none rfl]
    · refine forall_mem_singleton.mpr ⟨fine.1,?_⟩
      simp [Runner.update,Run.settle]
  case closeLocked run =>
    have sound := drained.sound run
    cases ran
    change Drained (r.update run fun run => {run with locked := true}) ([] ++ others)
    exact drained.mark [] fine.1 ⟨fun _ => fine.2,sound.fenced,sound.joined⟩ id rfl rfl rfl rfl (fun _ => rfl) (forall_mem_nil _)
  case report run task | commit run unit | go run unit unconditional =>
    split at ran
    · cases ran
    split at ran
    · rename_i live
      cases ran
      exact drained.move ⟨fine,live_open (drained.sound run) live⟩
    cases ran
    first
      | exact drained.move fine
      | exact drained.drop
  case finish run task state =>
    cases ran
    exact drained.finish rfl
  case enter | goEnter =>
    cases ran
    exact drained.enter rfl rfl fine.1 fine.2 ⟨fine.1,by simpa [Runner.update,Run.enter] using fine.2⟩
  case leave run unit gated =>
    cases ran
    rw [Effect.acts_code]
    cases gated with
    | true =>
      refine drained.leave [.release run] rfl (fun _ => rfl) (forall_mem_singleton.mpr ⟨fine.1,?_⟩)
      simpa [Runner.update,Run.exit,Run.settle] using fine.2
    | false => exact drained.leave [] rfl (fun _ => rfl) (forall_mem_nil _)
  -- the others change no run and pass on what they know of theirs
  all_goals
    repeat' split at ran
    all_goals cases ran
    all_goals first
      | exact drained.drop
      | exact drained.move fine
      | exact drained.move fine.1
      | exact drained.move trivial

end

end EbusGateway.GenerationTasks
