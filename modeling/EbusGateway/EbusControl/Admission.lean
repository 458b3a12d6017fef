import EbusGateway.EbusControl.Epochs

/-! The mapping of generations. A hold is alone, an epoch never returns, and a dispatch finishes before the
stop that fenced its epoch goes on.
-/
namespace EbusGateway.EbusControl
open Library List

section
variable {b next : Bridge} {act : Act} {others : List Act} {i : Nat}

theorem Fine.changed (fine : Fine b act) (quiet : act.holds = false) (count : next.count = b.count)
    (current : next.current = b.current)
    (journal : next.journal = b.journal) (keys : ∀ i, (next.epochs i).key = (b.epochs i).key)
    (fenced : ∀ i, (next.epochs i).fenced = (b.epochs i).fenced) : Fine next act := by
  refine fine.later count.ge (fun i _ => keys i) (fun i _ was => (fenced i).trans was) (fun _ => ⟨count,current⟩)
    (fun holds => (nomatch quiet.symm.trans holds)) fun i _ _ fresh => ?_
  rw [journal]
  exact fresh

namespace Bridge
variable {held : Held} {activated : Handle}

theorem record_fine {mapping : Mapping} (fine : Fine b act) (quiet : act.holds = false) : Fine (b.record i mapping) act := by
  refine fine.changed quiet rfl rfl rfl (fun j => ?_) fun j => ?_
  all_goals
    by_cases same : j = i
    · simp [record,update,same]
    · simp [record,update,same]

theorem holdRecord_fine (fine : Fine b act) (quiet : act.holds = false) : Fine (b.holdRecord held) act := by
  unfold holdRecord
  split
  · exact fine
  · exact record_fine fine quiet

theorem holdActivated_fine (fine : Fine b act) (quiet : act.holds = false) : Fine (b.holdActivated held activated) act := by
  have changed : Fine (b.update held.epoch fun epoch => {epoch with handle := activated, generation := held.generation + 1}) act := by
    refine fine.changed quiet rfl rfl rfl (fun j => ?_) fun j => ?_
    all_goals
      by_cases same : j = held.epoch
      · simp [update,same]
      · simp [update,same]
  unfold holdActivated
  simp only
  split <;> split
  · exact changed
  · exact fine
  · exact record_fine changed quiet
  · exact record_fine fine quiet

end Bridge

theorem Fine.install {key : Key} {handle : Handle} {history : List (String × Nat)} (fine : Fine b act) (quiet : act.binds = false) :
    Fine {b.install key handle with history := history} act := by
  have old {i : Nat} (within : i < b.count) : (b.install key handle).epochs i = b.epochs i := Function.update_of_ne within.ne _ _
  refine fine.later (Nat.le_succ _) (fun i within => congrArg Epoch.key (old within)) (fun i within was => ?_)
    (fun binds => (nomatch quiet.symm.trans binds)) (fun _ =>
      ⟨rfl,rfl,fun i within => congrArg Epoch.mapped (old within)⟩) fun _ _ _ fresh => fresh
  exact (congrArg Epoch.fenced (old within)).trans was

theorem Fine.resume {after : Next} {success : Bool} (succeeds : Succeeds b after) : ∀ act ∈ resume after success, Fine b act := by
  cases after with
  | done => exact forall_mem_nil _
  | refuse => exact forall_mem_singleton.mpr trivial
  | succeed key pred =>
    unfold EbusControl.resume
    dsimp only
    split
    · exact forall_mem_singleton.mpr succeeds
    · exact forall_mem_singleton.mpr trivial

theorem Bound.gone (bound : Bound b others) : Bound (EbusControl.holdOn b none).shared
    ((EbusControl.holdOn b none).acts ++ others) := by
  have keeps : Keeps b {b with holding := false} := ⟨rfl,rfl,rfl,rfl,rfl,rfl,fun _ => .refl _⟩
  exact ⟨keeps.shape bound.shape,fun act mem => keeps.fine (bound.fine act mem)⟩

theorem Bound.holdOn {new : Option Act} (bound : Bound b (act :: others)) (fine : ∀ act, new = some act → Fine b act) :
    Bound (holdOn b new).shared ((holdOn b new).acts ++ others) := by
  cases new with
  | none => exact bound.drop ⟨rfl,rfl,rfl,rfl,rfl,rfl,fun _ => .refl _⟩
  | some new => exact bound.one (.refl b) (fine new rfl)

variable {choice : Choice} {effect : Outcome}

theorem perform_bound (ran : perform choice act b = some effect) (locks : Locks b (act :: others)) (bound : Bound b (act :: others)) :
    Bound effect.shared (effect.acts ++ others) := by
  have fine := bound.head
  have shape := bound.shape
  cases act
  all_goals simp only [perform] at ran
  case prepare | admitSource | start | admitSuccessor | unlockOp | observeClose | dispatch | retireWait | started | stopWithReport | nativeObservation =>
    repeat' split at ran
    all_goals cases ran
    all_goals
      try split
      all_goals first
        | exact bound.drop ⟨rfl,rfl,rfl,rfl,rfl,rfl,fun _ => .refl _⟩
        | exact bound.one ⟨rfl,rfl,rfl,rfl,rfl,rfl,fun _ => .refl _⟩ trivial
        | exact bound.one ⟨rfl,rfl,rfl,rfl,rfl,rfl,fun _ => .refl _⟩ fine
        | exact bound.drop (b.recoveryHandover_keeps ..)
        | exact bound.drop (b.stopped_keeps ..)
        | (dsimp only; exact bound.drop (.update b _ fun _ => ⟨rfl,fun fenced => fenced⟩))
        | exact Effect.acts_code .. ▸ bound.go _ (.refl b) (Fine.resume fine.2)
  case bind key =>
    split at ran
    · cases ran
    rename_i free
    have free : b.opMu = false := by simpa using free
    obtain same | ⟨epoch,same⟩ | ⟨same,gen,empty⟩ | ⟨pred,within,same,succeeds⟩ := Bridge.bind_cases shape key
    all_goals
      rw [same] at ran
      cases ran
    · exact bound.drop (.refl b)
    · exact bound.drop (.refl b)
    · have none : ∀ {p : Nat → Prop} (i : Nat), i < b.count → p i := fun i within => absurd within (by omega)
      refine ⟨shape.install gen none none shape.history,fun act mem => ?_⟩
      rcases mem_append.mp mem with new | old
      · cases mem_singleton.mp new
        exact Nat.lt_succ_self b.count
      · have quiet := (free ▸ locks.binds).none_selected act (.tail _ old)
        exact (bound.fine act (.tail _ old)).install quiet
    · exact bound.one ⟨rfl,rfl,rfl,rfl,rfl,rfl,fun _ => .refl _⟩ ⟨within,succeeds⟩
  case retire epoch after =>
    split at ran
    · cases ran
      rw [Effect.acts_code]
      exact bound.go _ (.refl b) (Fine.resume fine.2)
    split at ran
    all_goals cases ran
    · exact bound.one (.refl b) fine
    · have keeps : Keeps b (b.update epoch fun epoch => {epoch with retiring := true}) :=
        .update b epoch fun _ => ⟨rfl,fun fenced => fenced⟩
      exact bound.one keeps (keeps.fine fine)
  case retireCall epoch handle after =>
    split at ran
    all_goals cases ran
    · have keeps : Keeps b (b.update epoch fun epoch => {epoch with retired := true}) :=
        .update b epoch fun _ => ⟨rfl,fun fenced => fenced⟩
      exact bound.one keeps (keeps.fine fine)
    · exact bound.one (.refl b) fine
  case retireEnd epoch success after =>
    cases ran
    rw [Effect.acts_code]
    have keeps : Keeps b (b.update epoch fun epoch => {epoch with retiring := false}) :=
      .update b epoch fun _ => ⟨rfl,fun fenced => fenced⟩
    have later : Fine _ (.retireEnd epoch success after) := keeps.fine fine
    exact bound.go _ keeps (Fine.resume later.2)
  case succeed key pred handle =>
    have alone := (locks.binds.alone rfl).2
    have opened : Bound (b.succeeded key pred handle) (.dispatch b.count :: others) := by
      refine ⟨Bridge.succeeded_shape shape fine,forall_mem_cons.mpr ⟨Nat.lt_succ_self b.count,fun act mem => ?_⟩⟩
      exact (bound.fine act (.tail _ mem)).install (alone act mem)
    obtain same | ⟨next,same,keeps⟩ := b.succeed_cases key pred handle
    all_goals
      rw [same] at ran
      cases ran
    · exact opened.one ⟨rfl,rfl,rfl,rfl,rfl,rfl,fun _ => .refl _⟩ opened.head
    · refine opened.one keeps ⟨?_,trivial⟩
      exact keeps.count ▸ Nat.lt_succ_self b.count
  case check epoch revision =>
    obtain same | ⟨next,same,keeps,unfenced⟩ := b.checkDispatch_cases epoch revision
    all_goals
      rw [same] at ran
      cases ran
    · exact bound.one ⟨rfl,rfl,rfl,rfl,rfl,rfl,fun _ => .refl _⟩ fine
    · refine bound.one keeps (keeps.fine ⟨fine,fun passed => ?_⟩)
      obtain ⟨i,within,named,fenced⟩ := shape.passed _ passed
      cases shape.names i within epoch fine named
      cases unfenced.symm.trans fenced
  case startAsync epoch =>
    have noted : Bound {b with journal := b.journal ++ [.started (b.epochs epoch).key.epoch], dispatchMu := false} (.watch epoch :: others) := by
      refine ⟨shape.note rfl rfl ?_ ?_,forall_mem_cons.mpr ⟨fine.1,fun act mem => ?_⟩⟩
      · rintro name ⟨⟩
        exact fine.2
      · rintro name ⟨⟩
      · refine (bound.fine act (.tail _ mem)).later le_rfl (fun _ _ => rfl) (fun _ _ was => was) (fun _ => ⟨rfl,rfl⟩)
          (fun _ => ⟨rfl,rfl,fun _ _ => rfl⟩) fun i _ _ fresh => ?_
        simpa using fresh
    cases ran
    refine noted.one (.refl _) ?_
    split
    · exact fine.1
    split
    · exact fine.1
    · exact fine.1
  case watch epoch =>
    split at ran
    · cases ran
      exact bound.one (.refl b) fine
    split at ran
    · cases ran
      exact bound.drop (b.recoveryHandover_keeps epoch choice.snapshot)
    cases ran
    refine bound.one (.refl b) ?_
    obtain same | same | same := watched_cases epoch (b.epochs epoch).native choice.snapshot choice.cancelled
    all_goals
      rw [same]
      exact fine
  case failStart epoch =>
    cases ran
    have keeps : Keeps b (b.failStart epoch) := .update b epoch fun _ => ⟨rfl,fun _ => rfl⟩
    exact bound.one keeps (keeps.fine fine)
  case ensureNativeStop epoch retire =>
    have keeps := b.ensureNativeStop_keeps epoch
    generalize b.ensureNativeStop epoch = result at keeps ran
    obtain ⟨next,runs⟩ := result
    cases ran
    have within : epoch < next.count := keeps.count ▸ fine
    refine bound.go _ keeps ?_
    cases runs <;> cases retire <;> simp [Effect.acts,Fine,Succeeds,within]
  case stop corr =>
    split at ran
    · cases ran
      exact bound.drop (.refl b)
    rename_i key _
    obtain ⟨next,same,keeps⟩ | ⟨i,within,same⟩ := Bridge.stop_cases shape key
    all_goals
      rw [same] at ran
      cases ran
    · exact bound.drop keeps
    · exact bound.one (b.fence_keeps i) ⟨within,b.fence_fenced i⟩
  case awaitDispatchIdle epoch =>
    split at ran
    · cases ran
    rename_i free
    have free : b.dispatchMu = false := by simpa using free
    cases ran
    refine ⟨shape.note rfl rfl ?_ ?_,forall_mem_cons.mpr ⟨fine.1,fun act mem => ?_⟩⟩
    · rintro name ⟨⟩
    · rintro name ⟨⟩
      exact ⟨epoch,fine.1,rfl,fine.2⟩
    · have quiet := (free ▸ locks.dispatches).none_selected act (.tail _ mem)
      refine (bound.fine act (.tail _ mem)).later le_rfl (fun _ _ => rfl) (fun _ _ was => was) (fun _ => ⟨rfl,rfl⟩)
        (fun _ => ⟨rfl,rfl,fun _ _ => rfl⟩) fun i same => ?_
      subst same
      cases quiet
  case hold hold =>
    cases ran
    refine bound.holdOn fun act goes => ?_
    obtain ⟨held,admitted,rfl⟩ := Option.map_eq_some_iff.mp goes
    obtain ⟨rfl,reads⟩ := Bridge.holdAdmission_reads shape admitted
    exact ⟨reads,fine⟩
  case holdGate | holdFence =>
    cases ran
    refine bound.holdOn fun act goes => ?_
    split at goes
    all_goals cases goes
    exact fine
  case holdSource held =>
    cases ran
    refine bound.holdOn fun act goes => ?_
    obtain ⟨replacement,rfl | rfl⟩ | ⟨first,rfl,gen⟩ := live_cases goes
    · exact ⟨fine,replacement⟩
    · exact ⟨fine,replacement⟩
    · exact ⟨fine,first,gen⟩
  case holdActivate held =>
    cases ran
    refine bound.holdOn fun act goes => ?_
    obtain ⟨_,same⟩ := Option.ite_none_right_eq_some.mp goes
    cases same
    exact ⟨fine.1,fine.2,rfl,rfl⟩
  case holdActivated held activated =>
    cases ran
    have alone := (locks.holds.alone rfl).2
    refine Bound.gone ⟨Bridge.holdActivated_shape shape fine,fun act mem => ?_⟩
    exact Bridge.holdActivated_fine (bound.fine act (.tail _ mem)) (alone act mem)
  case holdRecord held =>
    cases ran
    have alone := (locks.holds.alone rfl).2
    refine Bound.gone ⟨Bridge.holdRecord_shape shape fine,fun act mem => ?_⟩
    exact Bridge.holdRecord_fine (bound.fine act (.tail _ mem)) (alone act mem)

theorem Bound.begin {hold : Hold} (bound : Bound b others) (quiet : ∀ act ∈ others, act.holds = false)
    (above : b.constructed.all (· < hold.native) = true) :
    Bound {b with holding := true, constructed := some hold.native} (.hold hold :: others) := by
  obtain ⟨shape,fine⟩ := bound
  have below : ∀ mapping ∈ b.recorded, mapping.native < hold.native := by
    intro mapping mem
    obtain ⟨last,constructed,le⟩ := shape.below mapping mem
    rw [constructed] at above
    exact le.trans_lt (by simpa using above)
  refine ⟨{shape with below := fun mapping mem => ⟨_,rfl,(below mapping mem).le⟩},forall_mem_cons.mpr ⟨⟨rfl,below⟩,fun act mem => ?_⟩⟩
  exact (fine act mem).later le_rfl (fun _ _ => rfl) (fun _ _ was => was) (fun _ => ⟨rfl,rfl⟩)
    (fun holds => (nomatch (quiet act mem).symm.trans holds)) fun _ _ _ fresh => fresh

end

theorem launch_bound {b : Bridge} {acts : List Act} {event : Event} {effect : Outcome} {name : Unit}
    (holds : Locks b acts ∧ Bound b acts)
    (began : launch event b = some (effect,name)) :
    Locks effect.shared (effect.acts ++ acts) ∧ Bound effect.shared (effect.acts ++ acts) := by
  obtain ⟨locks,bound⟩ := holds
  have joins {act : Act} (binds : act.binds = false) (dispatches : act.dispatches = false)
    (quiet : act.holds = false) (fine : Fine b act) :
      Locks b (act :: acts) ∧ Bound b (act :: acts) := by
    refine ⟨⟨?_,?_,?_⟩,bound.shape,forall_mem_cons.mpr ⟨fine,bound.fine⟩⟩
    · exact (countP_cons_of_neg (by simp [binds])).trans locks.binds
    · exact (countP_cons_of_neg (by simp [dispatches])).trans locks.dispatches
    · exact (countP_cons_of_neg (by simp [quiet])).trans locks.holds
  cases event with
  | hold hold =>
    simp only [launch] at began
    split at began
    · cases began
    rename_i free
    simp only [Bool.or_eq_true,not_or,Bool.not_eq_true,Bool.not_eq_true',Bool.not_eq_false] at free
    cases began
    have quiet := (free.1 ▸ locks.holds).none_selected
    refine ⟨⟨?_,?_,?_⟩,bound.begin quiet free.2⟩
    · exact (countP_cons_of_neg (by simp [Act.binds])).trans locks.binds
    · exact (countP_cons_of_neg (by simp [Act.dispatches])).trans locks.dispatches
    · have none : acts.countP Act.holds = 0 := (free.1 ▸ locks.holds :)
      exact (countP_cons_of_pos rfl).trans (congrArg (· + 1) none)
  | prepare | start _ | stop _ | observeClose _ | nativeObservation _ =>
    cases began
    exact joins rfl rfl rfl trivial

theorem step_bound {system later : System} {move : Move Event Choice}
    (holds : Locks system.shared system.acts ∧ Bound system.shared system.acts) (stepped : step system move = some later) :
    Locks later.shared later.acts ∧ Bound later.shared later.acts := by
  apply Machine.acts_step (fun b acts => Locks b acts ∧ Bound b acts) (fun _ _ _ same holds =>
    ⟨holds.1.perm same,holds.2.perm same⟩) ?_ ?_ holds stepped
  · intro event effect name _ began
    exact launch_bound holds began
  · intro choice act others effect _ _ _ before ran
    exact ⟨perform_locks ran before.1,perform_bound ran before.1 before.2⟩

theorem Shape.create (source : String) : Shape {source := source} where
  epochs := nofun
  current := rfl
  names := nofun
  past := nofun
  history := nofun
  below := forall_mem_nil _
  increasing := List.Pairwise.nil
  log := rfl
  passed _ mem := nomatch mem
  order before name after split := by simp at split

theorem run_bound {source : String} {labels : List (Move Event Choice)} {system : System}
    (run : Run step anyStep (created source) labels system) :
    Bound system.shared system.acts := by
  have first : Locks (created source).shared (created source).acts ∧ Bound (created source).shared (created source).acts :=
    ⟨⟨rfl,rfl,rfl⟩,.create source,forall_mem_nil _⟩
  exact (run.invariant (fun system => Locks system.shared system.acts ∧ Bound system.shared system.acts)
    (fun _ _ _ holds _ stepped => step_bound holds stepped) first).2

namespace Shape
variable {b : Bridge} {i : Nat} {snap : Snapshot} {key : Key} (shape : Shape b)
include shape

theorem named (within : i < b.count) : ∀ mapping ∈ (b.epochs i).mappings, mapping.key.epoch = (b.epochs i).key.epoch := by
  intro mapping mem
  have key := mem_map_of_mem (f := (·.key)) mem
  rw [(shape.epochs i within).keys] at key
  obtain ⟨gen,_,same⟩ := mem_map.mp key
  rw [← same]

theorem recorded_filter (within : i < b.count) :
    b.recorded.filter (·.key.epoch = (b.epochs i).key.epoch) = (b.epochs i).mappings := by
  have each (j : Nat) (inside : j < b.count) :
      (b.epochs j).mappings.filter (·.key.epoch = (b.epochs i).key.epoch) = if j = i then (b.epochs i).mappings else [] := by
    split
    · rename_i same
      subst same
      exact filter_eq_self.mpr fun mapping mem => by simpa using shape.named inside mapping mem
    rename_i different
    refine filter_eq_nil_iff.mpr fun mapping mem => ?_
    rw [shape.named inside mapping mem]
    simpa using fun equal => different (shape.names j inside i within equal)
  have upTo (n : Nat) (le : n ≤ b.count) : ((List.range n).flatMap fun j =>
    (b.epochs j).mappings).filter (·.key.epoch = (b.epochs i).key.epoch) =
      if i < n then (b.epochs i).mappings else [] := by
    induction n with
    | zero => rfl
    | succ n ih =>
      rw [range_succ,flatMap_append,filter_append,ih (by omega),flatMap_singleton,each n le]
      by_cases before : i < n
      · rw [if_pos before,if_neg (by omega),if_pos (by omega),append_nil]
      · rw [if_neg before,nil_append]
        exact if_congr (by omega) rfl rfl
  rw [shape.log,upTo b.count le_rfl,if_pos within]

theorem recorded_unnamed {name : String} (unnamed : ∀ i < b.count, (b.epochs i).key.epoch ≠ name) :
    b.recorded.filter (·.key.epoch = name) = [] := by
  refine filter_eq_nil_iff.mpr fun mapping mem => ?_
  rw [shape.log] at mem
  obtain ⟨j,inside,among⟩ := mem_flatMap.mp mem
  have within := mem_range.mp inside
  rw [shape.named within mapping among]
  simpa using unnamed j within

theorem recorded_generations (name : String) :
    (b.recorded.filter (·.key.epoch = name)).map (·.key.generation) = List.range' 1
    (b.recorded.filter (·.key.epoch = name)).length := by
  by_cases named : ∃ i < b.count, (b.epochs i).key.epoch = name
  · obtain ⟨i,within,rfl⟩ := named
    rw [shape.recorded_filter within]
    have keys := congrArg (List.map Key.generation) (shape.epochs i within).keys
    rw [map_map,map_map] at keys
    exact keys.trans (map_id _)
  · rw [shape.recorded_unnamed fun i within equal => named ⟨i,within,equal⟩]
    rfl

theorem admitted_cases (admitted : b.admitted snap key = true) :
    ∃ i, b.current = some i ∧ i < b.count ∧ (b.epochs i).fenced = false ∧ (b.epochs i).native ≠ 0 ∧
      key = {(b.epochs i).key with generation := (b.epochs i).generation} ∧
        b.publicationHandle snap key = some (b.epochs i).handle := by
  unfold Bridge.admitted at admitted
  unfold Bridge.publicationHandle
  cases found : b.admittedKey snap with
  | none =>
    rw [found] at admitted
    cases admitted
  | some result =>
    rw [found] at admitted
    obtain ⟨i,current,shown⟩ := Option.bind_eq_some_iff.mp found
    obtain ⟨live,shown⟩ := Option.ite_none_left_eq_some.mp shown
    obtain ⟨_,shown⟩ := Option.ite_none_left_eq_some.mp shown
    obtain ⟨_,same⟩ := Option.ite_none_left_eq_some.mp shown
    cases same
    simp only [Bool.or_eq_true,not_or,decide_eq_true_eq,Bool.not_eq_true] at live
    have same : {(b.epochs i).key with generation := (b.epochs i).generation} = key := by simpa using admitted
    refine ⟨i,current,(shape.last current).ge,live.1.1,live.1.2,same.symm,?_⟩
    rw [Option.filter_some,if_pos (by simpa using same)]
    rfl

theorem admitted_latest (admitted : b.admitted snap key = true) :
    ∃ i, b.current = some i ∧ (b.epochs i).fenced = false ∧ (b.epochs i).mappings.getLast?.map (·.key) = some key ∧
      ∃ handle, b.publicationHandle snap key = some handle ∧
        handle.epoch = (b.epochs i).opened.epoch ∧ handle.generation = key.generation := by
  obtain ⟨i,current,within,unfenced,native,rfl,handle⟩ := shape.admitted_cases admitted
  have ordered := shape.epochs i within
  obtain ⟨some,length,gen⟩ := ordered.latest unfenced native
  refine ⟨i,current,unfenced,?_,_,handle,ordered.hub,gen⟩
  rw [← List.getLast?_map,ordered.keys,length]
  obtain ⟨n,succ⟩ := Nat.exists_eq_succ_of_ne_zero (fun zero => some (length_eq_zero_iff.mp zero))
  rw [succ,List.range'_concat,map_append,map_singleton,List.getLast?_concat]
  simp [Nat.add_comm]

end Shape

/-- In every interleaving the native generations recorded increase and the driver generations of an epoch count
from one; an admitted key is the latest mapping of the current epoch, which is not fenced, and its handle is of the
hub epoch opened for it and of its generation; and after a stop has fenced an epoch and seen the dispatch idle no
start is issued for it and no key of it is admitted. -/
theorem generations_mapped {source : String} {labels : List (Move Event Choice)} {system : System}
    (run : Run step anyStep (created source) labels system) :
    system.shared.recorded.Pairwise (·.native < ·.native) ∧
    (∀ epoch, (system.shared.recorded.filter (·.key.epoch = epoch)).map (·.key.generation) =
      List.range' 1 (system.shared.recorded.filter (·.key.epoch = epoch)).length) ∧
    (∀ snapshot key, system.shared.admitted snapshot key = true →
      ∃ i, system.shared.current = some i ∧ (system.shared.epochs i).fenced = false ∧
        (system.shared.epochs i).mappings.getLast?.map (·.key) = some key ∧
        ∃ handle, system.shared.publicationHandle snapshot key = some handle ∧
          handle.epoch = (system.shared.epochs i).opened.epoch ∧ handle.generation = key.generation) ∧
    (∀ before epoch after, system.shared.journal = before ++ .passed epoch :: after → .started epoch ∉ after) ∧
    ∀ epoch, .passed epoch ∈ system.shared.journal → ∀ snapshot key,
      system.shared.admitted snapshot key = true → key.epoch ≠ epoch := by
  have shape := (run_bound run).shape
  refine ⟨shape.increasing,shape.recorded_generations,fun _ _ => shape.admitted_latest,shape.order,
    fun epoch passed snapshot key admitted => ?_⟩
  obtain ⟨i,within,named,fenced⟩ := shape.passed epoch passed
  obtain ⟨j,_,inside,unfenced,_,rfl,_⟩ := shape.admitted_cases admitted
  rintro rfl
  cases shape.names i within j inside named
  cases fenced.symm.trans unfenced

def openedEpoch : List (Move Event Choice) :=
  [.start .prepare,.run 0 {},.run 0 {handle := ⟨"h1",1,1⟩},.start (.start {epoch := "a"}),.run 1 {},
    .run 1 {},.run 1 {},.run 1 {},.run 1 {}]

def openingHold : List (Move Event Choice) :=
  [.start (.hold ⟨1,7,false⟩),.run 2 {},.run 2 {},.run 2 {info := some ⟨"h1",1,true⟩},.run 2 {}]

def replacementHold : List (Move Event Choice) :=
  [.start (.hold ⟨4,8,true⟩),.run 3 {},.run 3 {},.run 3 {info := some ⟨"h1",1,true⟩},.run 3 {},.run 3 {handle := ⟨"",0,2⟩},.run 3 {}]

def stoppedEpoch : List (Move Event Choice) :=
  [.start (.stop {epoch := "a"}),.run 4 {},.run 4 {},.run 4 {},.run 5 {},.run 6 {},.run 6 {},.run 6 {}]

def successorEpoch : List (Move Event Choice) :=
  [.start (.start {epoch := "b"}),.run 7 {},.run 7 {},.run 7 {},.run 7 {handle := ⟨"h2",1,3⟩},.run 7 {},.run 7 {},.run 7 {},.run 7 {},
    .start (.hold ⟨5,9,false⟩),.run 8 {},.run 8 {},.run 8 {info := some ⟨"h2",1,true⟩},.run 8 {}]

def replacedAndSucceeded : List (Move Event Choice) := openedEpoch ++ openingHold ++ replacementHold ++ stoppedEpoch ++ successorEpoch

theorem replaced_and_succeeded_mapped : ∃ system, Run step anyStep (created "s") replacedAndSucceeded system ∧
    system.shared.recorded.map
    (fun mapping => (mapping.key.epoch,mapping.key.generation,mapping.native)) = [("a",1,1),
      ("a",2,4),("b",1,5)] ∧
    .passed "a" ∈ system.shared.journal ∧ system.shared.admitted
    {observed := .running, generation := 5} ⟨"ebus.primary","s","b",1,0⟩ = true ∧
    ∀ snapshot key, system.shared.admitted snapshot key = true → key.epoch ≠ "a" := by
  refine Exists.imp (fun system (found : _ ∧ _ ∧ .passed "a" ∈ system.shared.journal ∧ _) =>
    ⟨found.1,found.2.1,found.2.2.1,found.2.2.2,?_⟩) (Run.exists_of_execute _ (by decide +kernel))
  exact (generations_mapped found.1).2.2.2.2 "a" found.2.2.1

end EbusGateway.EbusControl
