import EbusGateway.EbusControl.Admission

/-! The handover of a start to the manager's recovery: the watch may hand it over while the start waits between
two looks at the bridge, and a start that has made up its mind to fail does not look again.
-/
namespace EbusGateway.EbusControl
open Library List

inductive StartResult
  | running
  | recovering
  | failed
  | cancelled
deriving DecidableEq

/-- The bridge with what its starts return: `joins` are the starts that wait for the opening start of their epoch.
`stopped` are the epochs fenced by a stop, `requested` those for which a native stop was asked. -/
structure Traced where
  bridge : Bridge
  joins : List Nat := []
  opening : List (Nat × StartResult) := []
  joined : List (Nat × StartResult) := []
  stopped : List Nat := []
  requested : List Nat := []

def awaitStart (cancelled : Bool) (epoch : Epoch) : Option StartResult :=
  if cancelled then some .cancelled
  else if !epoch.startDone then none
  else if epoch.startFailed || epoch.fenced then some .failed
  else some (if epoch.recovering then .recovering else .running)

namespace Traced

def note (t : Traced) (choice : Choice) : Act → Traced
  | .bind key =>
    match t.bridge.bind key with
    | (_,.join epoch) => {t with joins := t.joins ++ [epoch]}
    | _ => t
  | .watch epoch =>
    if (t.bridge.epochs epoch).fenced || t.bridge.current ≠ some epoch then t
    else if (t.bridge.recoveryHandover epoch choice.snapshot).2 then
      {t with opening := t.opening ++ [(epoch,.recovering)]}
    else t
  | .started epoch =>
    if (t.bridge.epochs epoch).fenced then t
    else {t with opening := t.opening ++ [(epoch,if (t.bridge.epochs epoch).recovering then .recovering else .running)]}
  | .failStart epoch => {t with opening := t.opening ++ [(epoch,.failed)]}
  | .ensureNativeStop epoch _ => {t with requested := t.requested ++ [epoch]}
  | .stop corr =>
    match (t.bridge.key corr).bind fun key => (t.bridge.stop key).2 with
    | some epoch => {t with stopped := t.stopped ++ [epoch]}
    | none => t
  | _ => t

def embed (t : Traced) (effect : Outcome) : Effect Unit Act Traced :=
  {shared := {t with bridge := effect.shared}, code := effect.code, forked := effect.forked}

def perform (choice : Choice) (act : Act) (t : Traced) : Option (Effect Unit Act Traced) :=
  (EbusControl.perform choice act t.bridge).map (t.note choice act).embed

end Traced

inductive TracedEvent
  | bridge (event : Event)
  | joinReturns (index : Nat) (cancelled : Bool)

def Traced.launch (event : TracedEvent) (t : Traced) : Option (Effect Unit Act Traced × Unit) :=
  match event with
  | .bridge event => (EbusControl.launch event t.bridge).map fun launched => (t.embed launched.1,())
  | .joinReturns index cancelled =>
    t.joins[index]?.bind fun epoch =>
      (awaitStart cancelled (t.bridge.epochs epoch)).map fun result =>
        ({shared := {t with joins := t.joins.eraseIdx index, joined := t.joined ++ [(epoch,result)]}},())

def tracedProgram : Program Unit Act Traced TracedEvent Choice := ⟨fun _ => false,Traced.launch,Traced.perform⟩

abbrev TracedSystem := Machine Unit Act Traced

def tracedStep : TracedSystem → Move TracedEvent Choice → Option TracedSystem := Machine.step tracedProgram

namespace Act

def opens (epoch : Nat) : Act → Bool
  | .dispatch i | .check i _ | .startAsync i | .watch i | .started i | .failStart i => i = epoch
  | _ => false

def unsettled (epoch : Nat) : Act → Bool
  | .dispatch i | .check i _ | .startAsync i | .failStart i => i = epoch
  | _ => false

def succeeds (epoch : Nat) : Next → Bool
  | .succeed _ pred => pred = epoch
  | _ => false

def stops (epoch : Nat) : Act → Bool
  | .ensureNativeStop i _ | .awaitDispatchIdle i => i = epoch
  | .retire _ next | .retireWait _ next | .retireCall _ _ next | .retireEnd _ _ next => succeeds epoch next
  | .admitSuccessor _ pred | .succeed _ pred _ => pred = epoch
  | _ => false

theorem opens_of_unsettled {act : Act} {epoch : Nat} (unsettled : act.unsettled epoch = true) :
    act.opens epoch = true := by
  cases act
  all_goals first | exact unsettled | cases unsettled

theorem unopened {act : Act} {property : Nat → Prop} (quiet : ∀ epoch, act.opens epoch = false) :
    ∀ epoch, act.opens epoch = true → property epoch :=
  fun epoch opens => clash opens (quiet epoch)

end Act

structure Handed (t : Traced) (acts : List Act) (epoch : Nat) : Prop where
  unfenced : (t.bridge.epochs epoch).fenced = false
  settled : ∀ act ∈ acts, act.unsettled epoch = false
  opening : ∀ result, (epoch,result) ∈ t.opening → result = .recovering
  joined : ∀ result, (epoch,result) ∈ t.joined → result = .recovering ∨ result = .cancelled

def Attends (t : Traced) (acts : List Act) (epoch : Nat) : Prop :=
  (t.bridge.epochs epoch).fenced = true ∨ (∃ result, (epoch,result) ∈ t.opening) ∨ ∃ act ∈ acts, act.opens epoch = true

structure Handovers (t : Traced) (acts : List Act) : Prop where
  alone : ∀ epoch, acts.countP (·.opens epoch) ≤ 1
  attended : ∀ epoch < t.bridge.count, Attends t acts epoch
  failed : ∀ epoch, (t.bridge.epochs epoch).startFailed = true → (t.bridge.epochs epoch).fenced = true
  past : ∀ epoch, epoch + 1 < t.bridge.count → (t.bridge.epochs epoch).fenced = true
  stopping : ∀ epoch, (∃ act ∈ acts, act.stops epoch = true) ∨ epoch ∈ t.requested →
    (t.bridge.epochs epoch).fenced = true
  requests : ∀ epoch ∈ t.requested, epoch < t.bridge.count
  joins : ∀ epoch ∈ t.joins, epoch < t.bridge.count
  returned : ∀ epoch result, (epoch,result) ∈ t.opening → epoch < t.bridge.count ∧
    (t.bridge.epochs epoch).startDone = true
  early : ∀ epoch result, (epoch,result) ∈ t.joined → epoch < t.bridge.count ∧
    (result = .cancelled ∨ (t.bridge.epochs epoch).startDone = true)
  handed : ∀ epoch, (t.bridge.epochs epoch).recovering = true →
    (epoch < t.bridge.count ∧ (t.bridge.epochs epoch).startDone = true) ∧ (epoch ∈ t.stopped ∨ Handed t acts epoch)

def Epoch.phase (epoch : Epoch) : Bool × Bool × Bool × Bool :=
  (epoch.recovering,epoch.startDone,epoch.startFailed,epoch.fenced)

section
variable {t next : Traced} {act : Act} {others : List Act} {i : Nat}

structure Undisturbed (b next : Bridge) : Prop where
  count : next.count = b.count
  phase : ∀ epoch, (next.epochs epoch).phase = (b.epochs epoch).phase

namespace Undisturbed
variable {b next third : Bridge} {epoch : Nat}

theorem refl (b : Bridge) : Undisturbed b b := ⟨rfl,fun _ => rfl⟩

theorem update (b : Bridge) (i : Nat) {f : Epoch → Epoch} (same : ∀ epoch, (f epoch).phase = epoch.phase) :
    Undisturbed b (b.update i f) := by
  refine ⟨rfl,fun epoch => ?_⟩
  by_cases here : epoch = i
  · subst here
    simpa only [Bridge.update,Function.update_self] using same _
  · simp only [Bridge.update,Function.update_of_ne here]

theorem trans (first : Undisturbed b next) (second : Undisturbed next third) : Undisturbed b third :=
  ⟨second.count.trans first.count,fun epoch => (second.phase epoch).trans (first.phase epoch)⟩

section
variable (still : Undisturbed b next)
include still

theorem recovering : (next.epochs epoch).recovering = (b.epochs epoch).recovering :=
  congrArg (·.1) (still.phase epoch)

theorem startDone : (next.epochs epoch).startDone = (b.epochs epoch).startDone :=
  congrArg (·.2.1) (still.phase epoch)

theorem startFailed : (next.epochs epoch).startFailed = (b.epochs epoch).startFailed :=
  congrArg (·.2.2.1) (still.phase epoch)

theorem fenced : (next.epochs epoch).fenced = (b.epochs epoch).fenced :=
  congrArg (·.2.2.2) (still.phase epoch)

end

end Undisturbed

namespace Handovers

variable {acts : List Act}

theorem perm (same : acts.Perm others) (held : Handovers t acts) : Handovers t others := {held with
  alone epoch := by
    rw [← same.countP_eq]
    exact held.alone epoch
  attended epoch within := (held.attended epoch within).imp_right (Or.imp_right fun ⟨act,due,opens⟩ =>
    ⟨act,same.mem_iff.mp due,opens⟩)
  stopping epoch ended := by
    refine held.stopping epoch (ended.imp_left fun ⟨act,due,stops⟩ => ⟨act,same.mem_iff.mpr due,stops⟩)
  handed epoch recovering := by
    obtain ⟨done,stopped | handed⟩ := held.handed epoch recovering
    · exact ⟨done,.inl stopped⟩
    · exact ⟨done,.inr {handed with settled := fun act due => handed.settled act (same.mem_iff.mpr due)}⟩}

section
variable (held : Handovers t (act :: others)) {b : Bridge}
include held

theorem keep (code : List Act) (still : Undisturbed t.bridge b)
    (opens : ∀ epoch, code.countP (·.opens epoch) ≤ (act.opens epoch).toNat)
    (stops : ∀ epoch, ∀ new ∈ code, new.stops epoch = true → (t.bridge.epochs epoch).fenced = true)
    (settled : ∀ epoch, (t.bridge.epochs epoch).recovering = true → Handed t (act :: others) epoch → ∀ new ∈ code,
      new.unsettled epoch = false)
    (attends : ∀ epoch, act.opens epoch = true → Attends t code epoch := by exact Act.unopened fun _ => rfl) :
    Handovers {t with bridge := b} (code ++ others) where
  alone epoch := by
    have before := held.alone epoch
    have now := opens epoch
    rw [countP_cons] at before
    rw [countP_append]
    cases opens : act.opens epoch
    all_goals
      simp only [opens,Bool.toNat_true,Bool.toNat_false,if_true,Bool.false_eq_true,if_false] at before now
      omega
  attended epoch within := by
    rw [Attends,still.fenced]
    rcases held.attended epoch (still.count ▸ within) with fenced | returned | ⟨due,mem,opened⟩
    · exact .inl fenced
    · exact .inr (.inl returned)
    · rcases mem_cons.mp mem with rfl | old
      · exact (attends epoch opened).imp_right (Or.imp_right fun ⟨new,pushed,opens⟩ =>
          ⟨new,mem_append_left _ pushed,opens⟩)
      · exact .inr (.inr ⟨due,mem_append_right _ old,opened⟩)
  failed epoch := by
    rw [still.startFailed,still.fenced]
    exact held.failed epoch
  past epoch before := by
    rw [still.fenced]
    exact held.past epoch (still.count ▸ before)
  stopping epoch ended := by
    rw [still.fenced]
    rcases ended with ⟨other,due,stopsOne⟩ | requested
    · rcases mem_append.mp due with new | old
      · exact stops epoch other new stopsOne
      · exact held.stopping epoch (.inl ⟨other,mem_cons_of_mem _ old,stopsOne⟩)
    · exact held.stopping epoch (.inr requested)
  requests epoch requested := still.count ▸ held.requests epoch requested
  joins epoch joined := still.count ▸ held.joins epoch joined
  returned epoch result logged := by
    rw [still.count,still.startDone]
    exact held.returned epoch result logged
  early epoch result logged := by
    rw [still.count,still.startDone]
    exact held.early epoch result logged
  handed epoch recovering := by
    rw [still.recovering] at recovering
    obtain ⟨⟨within,done⟩,stopped | handed⟩ := held.handed epoch recovering
    · exact ⟨⟨still.count ▸ within,still.startDone.trans done⟩,.inl stopped⟩
    · refine ⟨⟨still.count ▸ within,still.startDone.trans done⟩,
        .inr ⟨still.fenced.trans handed.unfenced,?_,handed.opening,handed.joined⟩⟩
      exact forall_mem_append.mpr ⟨settled epoch recovering handed,fun other old => handed.settled other (.tail _ old)⟩

theorem beside (code : List Act) (still : Undisturbed t.bridge b)
    (aside : ∀ new ∈ code, ∀ epoch, new.opens epoch = false ∧ (new.stops epoch = true → act.stops epoch = true))
    (gone : ∀ epoch, act.opens epoch = true → Attends t [] epoch := by exact Act.unopened fun _ => rfl) :
    Handovers {t with bridge := b} (code ++ others) := by
  refine held.keep code still (fun epoch => ?_) (fun epoch new pushed stops => ?_) (fun epoch _ _ new pushed => ?_)
    fun epoch mine =>
    (gone epoch mine).imp_right (Or.imp_right fun ⟨_,empty,_⟩ => nomatch empty)
  · rw [countP_eq_zero.mpr fun new pushed => by simp [(aside new pushed epoch).1]]
    exact Nat.zero_le _
  · exact held.stopping epoch (.inl ⟨act,.head _,(aside new pushed epoch).2 stops⟩)
  · exact Bool.eq_false_iff.mpr fun unsettled => clash (Act.opens_of_unsettled unsettled) (aside new pushed epoch).1

theorem drop (gone : ∀ epoch, act.opens epoch = true → Attends t [] epoch := by exact Act.unopened fun _ => rfl) :
    Handovers t others :=
  held.beside [] (.refl _) (forall_mem_nil _) gone

theorem go (i : Nat) (new : Act) (still : Undisturbed t.bridge b)
    (settled : new.unsettled i = true → (t.bridge.epochs i).recovering = true → ¬ Handed t (act :: others) i)
    (mine : ∀ epoch, act.opens epoch = decide (i = epoch) := by exact fun _ => rfl)
    (opens : ∀ epoch, new.opens epoch = decide (i = epoch) := by exact fun _ => rfl)
    (quiet : ∀ epoch, new.stops epoch = false := by
      exact fun _ => rfl) : Handovers {t with bridge := b} ([new] ++ others) := by
  refine held.keep [new] still (fun epoch => ?_) (fun epoch pushed mem stops => ?_)
    (fun epoch is handed pushed mem => ?_) fun epoch one => ?_
  · by_cases same : i = epoch
    · subst same
      simp [mine,opens]
    · simp [opens,same]
  · cases mem_singleton.mp mem
    exact clash stops (quiet epoch)
  · cases mem_singleton.mp mem
    refine Bool.eq_false_iff.mpr fun unsettled => ?_
    have same : i = epoch := of_decide_eq_true ((opens epoch).symm.trans (Act.opens_of_unsettled unsettled))
    subst same
    exact settled unsettled is handed
  · exact .inr (.inr ⟨new,.head _,(opens epoch).trans ((mine epoch).symm.trans one)⟩)

end

theorem change (held : Handovers t acts) (i : Nat) {b : Bridge} (count : b.count = t.bridge.count)
    (apart : ∀ epoch, epoch ≠ i → (b.epochs epoch).phase = (t.bridge.epochs epoch).phase)
    (fenced : (t.bridge.epochs i).fenced = true → (b.epochs i).fenced = true)
    (done : (t.bridge.epochs i).startDone = true → (b.epochs i).startDone = true)
    (failed : (b.epochs i).startFailed = true → (b.epochs i).fenced = true)
    (handed : (b.epochs i).recovering = true → (i < b.count ∧ (b.epochs i).startDone = true) ∧
      (i ∈ t.stopped ∨ Handed {t with bridge := b} acts i)) :
    Handovers {t with bridge := b} acts := by
  have fencedAll (epoch : Nat) (before : (t.bridge.epochs epoch).fenced = true) : (b.epochs epoch).fenced = true := by
    by_cases same : epoch = i
    · subst same
      exact fenced before
    · exact (congrArg (·.2.2.2) (apart epoch same)).trans before
  have doneAll (epoch : Nat) (before : (t.bridge.epochs epoch).startDone = true) :
    (b.epochs epoch).startDone = true := by
    by_cases same : epoch = i
    · subst same
      exact done before
    · exact (congrArg (·.2.1) (apart epoch same)).trans before
  have failedAll (epoch : Nat) (before : (b.epochs epoch).startFailed = true) : (b.epochs epoch).fenced = true := by
    by_cases same : epoch = i
    · subst same
      exact failed before
    · exact fencedAll epoch (held.failed epoch ((congrArg (·.2.2.1) (apart epoch same)).symm.trans before))
  refine ⟨held.alone,fun epoch within => (held.attended epoch (count ▸ within)).imp_left (fencedAll epoch),failedAll,
    fun epoch before => fencedAll epoch (held.past epoch (count ▸ before)),fun epoch ended =>
      fencedAll epoch (held.stopping epoch ended),count ▸ held.requests,count ▸ held.joins,
    fun epoch result logged => ?_,fun epoch result logged => ?_,fun epoch recovering => ?_⟩
  · obtain ⟨within,before⟩ := held.returned epoch result logged
    exact ⟨count ▸ within,doneAll epoch before⟩
  · obtain ⟨within,before⟩ := held.early epoch result logged
    exact ⟨count ▸ within,before.imp_right (doneAll epoch)⟩
  · by_cases same : epoch = i
    · subst same
      exact handed recovering
    · obtain ⟨⟨within,before⟩,kept⟩ := held.handed epoch ((congrArg (·.1) (apart epoch same)).symm.trans recovering)
      refine ⟨⟨count ▸ within,doneAll epoch before⟩,kept.imp_right fun handed => {handed with unfenced := ?_}⟩
      exact (congrArg (·.2.2.2) (apart epoch same)).trans handed.unfenced

theorem returns (held : Handovers t acts) (result : StartResult) (within : i < t.bridge.count)
    (done : (t.bridge.epochs i).startDone = true)
    (recovering : result ≠ .recovering → (t.bridge.epochs i).recovering = true → ¬ Handed t acts i) :
    Handovers {t with opening := t.opening ++ [(i,result)]} acts := {held with
  attended epoch within := (held.attended epoch within).imp_right (Or.imp_left fun ⟨result,logged⟩ =>
    ⟨result,mem_append_left _ logged⟩)
  returned epoch logged mem := by
    rcases mem_append.mp mem with old | new
    · exact held.returned epoch logged old
    · cases mem_singleton.mp new
      exact ⟨within,done⟩
  handed epoch is := by
    refine (held.handed epoch is).imp_right (Or.imp_right fun handed => {handed with opening := fun logged mem => ?_})
    rcases mem_append.mp mem with old | new
    · exact handed.opening logged old
    · cases mem_singleton.mp new
      by_contra other
      exact recovering other is handed}

theorem ends (held : Handovers t (act :: others)) (result : StartResult)
    (mine : ∀ epoch, act.opens epoch = decide (i = epoch))
    (within : i < t.bridge.count) (done : (t.bridge.epochs i).startDone = true)
    (recovering : result ≠ .recovering → (t.bridge.epochs i).recovering = true → ¬ Handed t (act :: others) i) :
    Handovers {t with opening := t.opening ++ [(i,result)]} others :=
  (held.returns result within done recovering).drop fun epoch opens =>
    .inr (.inl ⟨result,of_decide_eq_true ((mine epoch).symm.trans opens) ▸ mem_append_right _ mem_cons_self⟩)

section
variable (held : Handovers t acts)
include held

theorem handOver (within : i < t.bridge.count) (unfenced : (t.bridge.epochs i).fenced = false)
    (undone : (t.bridge.epochs i).startDone = false) (settled : ∀ act ∈ acts, act.unsettled i = false) :
    Handovers {t with bridge := t.bridge.update i fun epoch => {epoch with recovering := true, startDone := true}}
      acts := by
  refine held.change i rfl (fun epoch apart => ?_) (fun before => ?_) (fun _ => ?_) (fun before => ?_) fun _ =>
    ⟨⟨within,?_⟩,.inr ⟨?_,settled,fun result logged => ?_,fun result logged => ?_⟩⟩
  · simp only [Bridge.update,Function.update_of_ne apart]
  · exact clash before unfenced
  · simp [Bridge.update]
  · exact clash (held.failed i (by simpa [Bridge.update] using before)) unfenced
  · simp [Bridge.update]
  · simpa [Bridge.update] using unfenced
  · exact clash (held.returned i result logged).2 undone
  · exact .inr ((held.early i result logged).2.resolve_right fun before => clash before undone)

theorem fence (i : Nat) : Handovers {t with stopped := t.stopped ++ [i], bridge := t.bridge.fence i} acts := by
  have stopped : Handovers {t with stopped := t.stopped ++ [i]} acts :=
    {held with handed := fun epoch is => (held.handed epoch is).imp_right (Or.imp (mem_append_left _) fun handed =>
      {handed with})}
  refine stopped.change i rfl (fun epoch apart => ?_) (fun _ => t.bridge.fence_fenced i) (fun before => ?_)
    (fun _ => t.bridge.fence_fenced i) fun is => ⟨?_,.inl (mem_append_right _ mem_cons_self)⟩
  · simp only [Bridge.fence,Bridge.update,Function.update_of_ne apart]
  · simpa [Bridge.fence,Bridge.update] using before
  · have before : (t.bridge.epochs i).recovering = true := by simpa [Bridge.fence,Bridge.update] using is
    simpa [Bridge.fence,Bridge.update] using (held.handed i before).1

theorem request (within : i < t.bridge.count) (fenced : (t.bridge.epochs i).fenced = true) :
    Handovers {t with requested := t.requested ++ [i]} acts := {held with
  stopping epoch ended := by
    rcases ended with due | requested
    · exact held.stopping epoch (.inl due)
    · rcases mem_append.mp requested with old | new
      · exact held.stopping epoch (.inr old)
      · exact mem_singleton.mp new ▸ fenced
  requests := forall_mem_append.mpr ⟨held.requests,fun epoch new => mem_singleton.mp new ▸ within⟩
  handed epoch is := (held.handed epoch is).imp_right (Or.imp_right fun handed => {handed with})}

end

theorem install (held : Handovers t (act :: others)) {b : Bridge} (code : List Act)
    (count : b.count = t.bridge.count + 1)
    (apart : ∀ epoch, epoch ≠ t.bridge.count → b.epochs epoch = t.bridge.epochs epoch)
    (fresh : (b.epochs t.bridge.count).recovering = false ∧ (b.epochs t.bridge.count).startFailed = false)
    (pred : ∀ epoch, epoch + 1 = t.bridge.count → (t.bridge.epochs epoch).fenced = true)
    (known : ∀ due ∈ others, ∀ epoch, due.opens epoch = true ∨ due.stops epoch = true → epoch < t.bridge.count)
    (opens : ∀ epoch, code.countP (·.opens epoch) ≤ (decide (epoch = t.bridge.count)).toNat)
    (quiet : ∀ epoch, ∀ new ∈ code, new.stops epoch = false) (aside : ∀ epoch, act.opens epoch = false)
    (attends : Attends {t with bridge := b} code t.bridge.count) : Handovers {t with bridge := b} (code ++ others) := by
  have kept := held.drop fun epoch mine => clash mine (aside epoch)
  have old {epoch : Nat} (within : epoch < t.bridge.count) : b.epochs epoch = t.bridge.epochs epoch :=
    apart epoch within.ne
  have later {epoch : Nat} (within : epoch < t.bridge.count) : epoch < b.count := count ▸ Nat.lt_succ_of_lt within
  refine ⟨fun epoch => ?_,fun epoch within => ?_,fun epoch failed => ?_,fun epoch before => ?_,fun epoch ended => ?_,
    fun epoch requested => later (kept.requests epoch requested),
    fun epoch joined => later (kept.joins epoch joined),fun epoch result logged => ?_,fun epoch result logged => ?_,
    fun epoch recovering => ?_⟩
  · rw [countP_append]
    by_cases new : epoch = t.bridge.count
    · subst new
      have none : others.countP (·.opens t.bridge.count) = 0 := countP_eq_zero.mpr fun due mem opened =>
        Nat.lt_irrefl _ (known due mem _ (.inl opened))
      have one := opens t.bridge.count
      simp only [decide_true,Bool.toNat_true] at one
      omega
    · have none := opens epoch
      have before := kept.alone epoch
      simp only [new,decide_false,Bool.toNat_false] at none
      omega
  · rcases Nat.lt_or_eq_of_le (Nat.le_of_lt_succ (lt_of_lt_of_eq within count)) with earlier | rfl
    · rw [Attends,old earlier]
      exact (kept.attended epoch earlier).imp_right (Or.imp_right fun ⟨due,mem,opened⟩ =>
        ⟨due,mem_append_right _ mem,opened⟩)
    · exact attends.imp_right (Or.imp_right fun ⟨new,pushed,opened⟩ => ⟨new,mem_append_left _ pushed,opened⟩)
  · have other : epoch ≠ t.bridge.count := fun same => by
      subst same
      exact clash failed fresh.2
    dsimp only at failed ⊢
    rw [apart epoch other] at failed ⊢
    exact kept.failed epoch failed
  · have within : epoch + 1 ≤ t.bridge.count := Nat.le_of_lt_succ (lt_of_lt_of_eq before count)
    dsimp only
    rw [old within]
    exact (Nat.lt_or_eq_of_le within).elim (kept.past epoch) (pred epoch)
  · rcases ended with ⟨due,mem,stops⟩ | requested
    · rcases mem_append.mp mem with new | before
      · exact clash stops (quiet epoch due new)
      · dsimp only
        rw [old (known due before epoch (.inr stops))]
        exact kept.stopping epoch (.inl ⟨due,before,stops⟩)
    · dsimp only
      rw [old (kept.requests epoch requested)]
      exact kept.stopping epoch (.inr requested)
  · obtain ⟨within,done⟩ := kept.returned epoch result logged
    dsimp only
    rw [old within]
    exact ⟨later within,done⟩
  · obtain ⟨within,done⟩ := kept.early epoch result logged
    dsimp only
    rw [old within]
    exact ⟨later within,done⟩
  · have other : epoch ≠ t.bridge.count := fun same => by
      subst same
      exact clash recovering fresh.1
    dsimp only at recovering ⊢
    rw [apart epoch other] at recovering ⊢
    obtain ⟨⟨within,done⟩,stopped | handed⟩ := kept.handed epoch recovering
    · exact ⟨⟨later within,done⟩,.inl stopped⟩
    refine ⟨⟨later within,done⟩,.inr ⟨?_,forall_mem_append.mpr ⟨fun new pushed => ?_,handed.settled⟩,handed.opening,
      handed.joined⟩⟩
    · dsimp only
      rw [apart epoch other]
      exact handed.unfenced
    · refine Bool.eq_false_iff.mpr fun unsettled => ?_
      have one : 0 < code.countP (·.opens epoch) := countP_pos_iff.mpr ⟨new,pushed,Act.opens_of_unsettled unsettled⟩
      have none := opens epoch
      simp only [other,decide_false,Bool.toNat_false] at none
      omega

theorem unhanded (unsettled : act.unsettled i = true) : ¬ Handed t (act :: others) i := fun handed =>
  clash unsettled (handed.settled act mem_cons_self)

theorem settled (held : Handovers t (act :: others)) (mine : act.opens i = true) :
    ∀ other ∈ others, other.unsettled i = false := by
  have none : ∀ other ∈ others, other.opens i = false := by simpa [countP_cons,mine] using held.alone i
  exact fun other due => Bool.eq_false_iff.mpr fun unsettled =>
    clash (Act.opens_of_unsettled unsettled) (none other due)

end Handovers

namespace Bridge

theorem recoveryHandover_cases (b : Bridge) (i : Nat) (snap : Snapshot) :
    (b.recoveryHandover i snap = (b,true) ∧ (b.epochs i).recovering = true) ∨
    (b.recoveryHandover i snap = (b,false) ∧ (b.epochs i).recovering = false) ∨
    (b.recoveryHandover i snap = (b.update i fun epoch => {epoch with recovering := true, startDone := true},true) ∧
      (b.epochs i).recovering = false ∧ (b.epochs i).fenced = false ∧ (b.epochs i).startDone = false) := by
  unfold recoveryHandover
  simp only
  split
  · rename_i is
    exact .inl ⟨rfl,is⟩
  rename_i fresh
  have fresh : (b.epochs i).recovering = false := by simpa using fresh
  split
  · exact .inr (.inl ⟨rfl,fresh⟩)
  rename_i live
  simp only [Bool.or_eq_true,not_or,Bool.not_eq_true] at live
  split
  · exact .inr (.inl ⟨rfl,fresh⟩)
  · exact .inr (.inr ⟨rfl,fresh,live.1.1.1.2,live.2⟩)

theorem bind_join {b next : Bridge} {key : Key} {epoch : Nat} (joined : b.bind key = (next,.join epoch)) :
    b.current = some epoch := by
  unfold bind at joined
  repeat' split at joined
  all_goals cases joined
  rename_i found _
  exact (Option.filter_eq_some_iff.mp found).1

theorem stop_fences (b : Bridge) (key : Key) :
    (∃ names, b.stop key = ({b with tombstones := names},none)) ∨ ∃ i, b.stop key = (b.fence i,some i) := by
  unfold stop
  split
  · exact .inl ⟨_,rfl⟩
  · exact .inr ⟨_,rfl⟩

theorem bind_successor {b next : Bridge} {key : Key} {pred : Nat} (bound : b.bind key = (next,.successor pred)) :
    (b.epochs pred).fenced = true := by
  unfold bind at bound
  repeat' split at bound
  all_goals cases bound
  rename_i gone
  simp only [Bool.or_eq_true,Bool.not_eq_true',not_or,Bool.not_eq_false] at gone
  exact gone.1

end Bridge

def Act.concerns : Act → Bool
  | .bind _ | .succeed .. | .dispatch _ | .check .. | .startAsync _ | .watch _ | .started _ |
    .failStart _ | .ensureNativeStop .. | .stop _ | .awaitDispatchIdle _ | .nativeObservation _ => true
  | _ => false

namespace Bridge

theorem record_undisturbed (b : Bridge) (i : Nat) (mapping : Mapping) : Undisturbed b (b.record i mapping) :=
  ⟨rfl,(Undisturbed.update b i (f := fun epoch =>
    {epoch with native := mapping.native, mappings := epoch.mappings ++ [mapping]}) fun _ => rfl).phase⟩

theorem holdRecord_undisturbed (b : Bridge) (held : Held) : Undisturbed b (b.holdRecord held) := by
  unfold holdRecord
  split
  · exact .refl b
  · exact b.record_undisturbed _ _

theorem holdActivated_undisturbed (b : Bridge) (held : Held) (activated : Handle) :
    Undisturbed b (b.holdActivated held activated) := by
  have next : Undisturbed b (if b.current = some held.epoch then
      b.update held.epoch fun epoch => {epoch with handle := activated, generation := held.generation + 1} else b) := by
    split
    · exact .update b _ fun _ => rfl
    · exact .refl b
  unfold holdActivated
  simp only
  split
  · exact next
  · exact next.trans (record_undisturbed _ _ _)

end Bridge

theorem resume_aside (after : Next) (success : Bool) (epoch : Nat) :
    ∀ new ∈ resume after success, new.opens epoch = false ∧
    (new.stops epoch = true → Act.succeeds epoch after = true) := by
  intro new mem
  cases after with
  | done => exact nomatch (mem : new ∈ [])
  | succeed key pred =>
    cases success
    all_goals cases mem_singleton.mp mem
    · exact ⟨rfl,(absurd · Bool.false_ne_true)⟩
    · exact ⟨rfl,id⟩
  | refuse =>
    cases mem_singleton.mp mem
    exact ⟨rfl,(absurd · Bool.false_ne_true)⟩

variable {b : Bridge} {choice : Choice} {effect : Outcome} {acts : List Act}

theorem Act.holds_aside (holds : act.holds = true) (epoch : Nat) :
    act.opens epoch = false ∧ act.stops epoch = false := by
  cases act
  all_goals first | exact ⟨rfl,rfl⟩ | cases holds

theorem perform_aside (ran : perform choice act b = some effect) (other : act.concerns = false) :
    Undisturbed b effect.shared ∧ ∀ new ∈ effect.acts, ∀ epoch, new.opens epoch = false ∧
    (new.stops epoch = true → act.stops epoch = true) := by
  have held {b next : Bridge} {new : Option Act} {act : Act} (still : Undisturbed b next) (holds : ∀ act,
    new = some act → act.holds = true) :
      Undisturbed b (holdOn next new).shared ∧
        ∀ act' ∈ (holdOn next new).acts, ∀ epoch, act'.opens epoch = false ∧
          (act'.stops epoch = true → act.stops epoch = true) := by
    cases new with
    | none => exact ⟨⟨still.count,still.phase⟩,forall_mem_nil _⟩
    | some new =>
      refine ⟨still,forall_mem_singleton.mpr fun epoch => ?_⟩
      obtain ⟨opens,stops⟩ := Act.holds_aside (holds new rfl) epoch
      exact ⟨opens,fun stopping => clash stopping stops⟩
  cases act with
  | prepare | admitSource | start | unlockOp | observeClose =>
    simp only [perform] at ran
    repeat' split at ran
    all_goals cases ran
    all_goals
      refine ⟨⟨rfl,fun _ => rfl⟩,?_⟩
      try split
    all_goals first
      | exact forall_mem_nil _
      | exact forall_mem_singleton.mpr fun _ => ⟨rfl,(absurd · Bool.false_ne_true)⟩
  | retire i after | retireWait i after | retireCall i _ after | retireEnd i _ after =>
    simp only [perform] at ran
    repeat' split at ran
    all_goals cases ran
    all_goals
      refine ⟨?_,?_⟩
      · first
          | exact .refl b
          | (dsimp only; refine .update b i fun _ => ?_; rfl)
      · first
          | exact forall_mem_singleton.mpr fun _ => ⟨rfl,id⟩
          | exact Effect.acts_code .. ▸ fun new mem epoch => resume_aside after _ epoch new mem
  | admitSuccessor key pred =>
    cases ran
    rw [Effect.acts_code]
    refine ⟨.refl b,?_⟩
    split
    · exact forall_mem_singleton.mpr fun _ => ⟨rfl,id⟩
    · exact forall_mem_singleton.mpr fun _ => ⟨rfl,(absurd · Bool.false_ne_true)⟩
  | stopWithReport i =>
    cases ran
    have closed : Undisturbed b (b.update i fun epoch =>
        {epoch with closeClass := some choice.closeClass, closed := epoch.closed || choice.closeClass.isProven}) := .update b i fun _ => rfl
    exact ⟨⟨closed.count,closed.phase⟩,forall_mem_nil _⟩
  | hold hold =>
    cases ran
    refine held (.refl b) fun act goes => ?_
    obtain ⟨_,_,rfl⟩ := Option.map_eq_some_iff.mp goes
    rfl
  | holdSource read =>
    cases ran
    exact held (.refl b) fun act goes => live_holds goes
  | holdGate | holdFence | holdActivate =>
    cases ran
    refine held (.refl b) fun act goes => ?_
    split at goes
    all_goals cases goes
    rfl
  | holdActivated read activated =>
    cases ran
    exact held (b.holdActivated_undisturbed read activated) fun _ goes => absurd goes.symm (Option.some_ne_none _)
  | holdRecord read =>
    cases ran
    exact held (b.holdRecord_undisturbed read) fun _ goes => absurd goes.symm (Option.some_ne_none _)
  | bind | succeed | dispatch | check | startAsync | watch | started | failStart |
    ensureNativeStop | stop | awaitDispatchIdle | nativeObservation =>
    cases other

theorem Fine.known (fine : Fine b act) (shape : Shape b) (concerns : act.opens i = true ∨ act.stops i = true) :
    i < b.count := by
  have pred {key : Key} {j : Nat} (succeeds : Succeeds b (.succeed key j)) (same : j = i) : i < b.count :=
    (shape.last (same ▸ succeeds.2.1)).ge
  have after {next : Next} (succeeds : Succeeds b next) (same : Act.succeeds i next = true) : i < b.count := by
    cases next with
    | done | refuse => cases same
    | succeed key j => exact pred succeeds (of_decide_eq_true same)
  rcases concerns with opens | stops
  · cases act with
    | dispatch | check | watch | started | failStart => exact of_decide_eq_true opens ▸ fine
    | startAsync => exact of_decide_eq_true opens ▸ fine.1
    | _ => cases opens
  · cases act with
    | ensureNativeStop => exact of_decide_eq_true stops ▸ fine
    | awaitDispatchIdle => exact of_decide_eq_true stops ▸ fine.1
    | retire | retireWait | retireCall | retireEnd => exact after fine.2 stops
    | admitSuccessor | succeed => exact pred fine (of_decide_eq_true stops)
    | _ => cases stops

/-- The observation hands a start over only when it has not made up its mind to fail. -/
def inTime (b : Bridge) (acts : List Act) : Act → Bool
  | .nativeObservation snapshot =>
    b.current.all fun epoch => (b.epochs epoch).startDone || !(b.recoveryHandover epoch snapshot).2 || acts.all
      fun act => !act.unsettled epoch
  | _ => true

theorem inTime_perm {b : Bridge} {first second : List Act} (same : first.Perm second)
    (timely : inTime b first act = true) : inTime b second act = true := by
  cases act
  case nativeObservation snap =>
    simp only [inTime,same.all_eq] at timely ⊢
    exact timely
  all_goals rfl

theorem note_aside (other : act.concerns = false) : t.note choice act = t := by
  cases act
  all_goals first | rfl | cases other

theorem opens_concerns (other : act.concerns = false) (epoch : Nat) : act.opens epoch = false := by
  cases act
  all_goals first | rfl | cases other

theorem dispatch_opens (i epoch : Nat) : [Act.dispatch i].countP (·.opens epoch) ≤ (decide (epoch = i)).toNat := by
  by_cases same : epoch = i
  · subst same
    simp [Act.opens]
  · simp [Act.opens,Ne.symm same]

theorem perform_handovers (ran : perform choice act t.bridge = some effect) (bound : Bound t.bridge (act :: others))
    (timely : inTime t.bridge (act :: others) act = true) (held : Handovers t (act :: others)) :
    Handovers {t.note choice act with bridge := effect.shared} (effect.acts ++ others) := by
  have fine := bound.head
  have shape := bound.shape
  have known : ∀ due ∈ others, ∀ epoch, due.opens epoch = true ∨ due.stops epoch = true → epoch < t.bridge.count :=
    fun due mem epoch => (bound.fine due (.tail _ mem)).known shape
  by_cases other : act.concerns = false
  · obtain ⟨still,aside⟩ := perform_aside ran other
    rw [note_aside other]
    exact held.beside _ still aside fun epoch opens => clash opens (opens_concerns other epoch)
  cases act
  all_goals simp only [perform] at ran
  case bind key =>
    split at ran
    · cases ran
    obtain same | ⟨epoch,same⟩ | ⟨same,_,empty⟩ | ⟨pred,within,same,_⟩ := Bridge.bind_cases shape key
    all_goals
      rw [same] at ran
      cases ran
      simp only [Traced.note,same]
    · exact held.drop
    · have kept := held.drop
      refine {kept with joins := ?_, handed := fun epoch is => ?_}
      · exact forall_mem_append.mpr ⟨kept.joins,forall_mem_singleton.mpr (shape.last (Bridge.bind_join same)).ge⟩
      · exact (kept.handed epoch is).imp_right (Or.imp_right fun handed => {handed with})
    · refine held.install [.dispatch t.bridge.count] rfl (fun epoch different => Function.update_of_ne different _ _) ?_
        (fun epoch last => absurd last (by omega)) known (fun epoch => ?_) (fun epoch => forall_mem_singleton.mpr rfl)
        (fun _ => rfl) (.inr (.inr ⟨_,.head _,decide_eq_true rfl⟩))
      · simp [Bridge.install,newEpoch]
      · exact dispatch_opens _ epoch
    · refine held.keep [.retire pred (.succeed key pred)] ⟨rfl,fun _ => rfl⟩ (fun _ => Nat.zero_le _) (fun epoch => ?_)
        (fun epoch _ _ => forall_mem_singleton.mpr rfl)
      exact forall_mem_singleton.mpr fun stops => of_decide_eq_true stops ▸ Bridge.bind_successor same
  case succeed key pred handle =>
    obtain ⟨_,current,_⟩ := fine
    have fenced := held.stopping pred (.inl ⟨_,.head _,decide_eq_true rfl⟩)
    have last (epoch : Nat) (last : epoch + 1 = t.bridge.count) : (t.bridge.epochs epoch).fenced = true := by
      have same : epoch = pred := Nat.succ.inj (last.trans (shape.last current))
      exact same ▸ fenced
    simp only [Bridge.succeed] at ran
    split at ran
    all_goals
      rename_i found
      split at found
      all_goals cases found
      cases ran
    · refine held.install [.retire t.bridge.count .refuse] rfl (fun epoch different => ?_) ?_ last known
        (fun _ => Nat.zero_le _)
        (fun epoch => forall_mem_singleton.mpr rfl) (fun _ => rfl) (.inl ?_)
      · simp [Bridge.update,Bridge.fence,Bridge.install,Function.update_of_ne different]
      · simp [Bridge.update,Bridge.fence,Bridge.install,newEpoch]
      · simp [Bridge.update,Bridge.fence]
    · refine held.install [.dispatch t.bridge.count] rfl (fun epoch different => Function.update_of_ne different _ _) ?_
        last known (fun epoch => ?_)
        (fun epoch => forall_mem_singleton.mpr rfl)
        (fun _ => rfl) (.inr (.inr ⟨_,.head _,decide_eq_true rfl⟩))
      · simp [Bridge.install,newEpoch]
      · exact dispatch_opens _ epoch
  case dispatch i =>
    split at ran
    · cases ran
    · cases ran
      exact held.go i (.check i _) ⟨rfl,fun _ => rfl⟩ fun _ _ => Handovers.unhanded (decide_eq_true rfl)
  case check i revision =>
    simp only [Bridge.checkDispatch] at ran
    split at ran
    all_goals
      rename_i found
      split at found
      all_goals cases found
      cases ran
    · have still : Undisturbed t.bridge (t.bridge.update i fun epoch =>
        {epoch with dispatched := true, dispatchRevision := revision}) :=
        .update _ _ fun _ => rfl
      exact held.go i (.startAsync i) still fun _ _ => Handovers.unhanded (decide_eq_true rfl)
    · exact held.go i (.failStart i) ⟨rfl,fun _ => rfl⟩ fun _ _ => Handovers.unhanded (decide_eq_true rfl)
  case startAsync i =>
    cases ran
    rw [Effect.acts_code]
    have unhanded (_ : (t.bridge.epochs i).recovering = true) : ¬ Handed t (.startAsync i :: others) i :=
      Handovers.unhanded (decide_eq_true rfl)
    split
    · exact held.go i (.watch i) ⟨rfl,fun _ => rfl⟩ (absurd · Bool.false_ne_true)
    split
    · exact held.go i (.dispatch i) ⟨rfl,fun _ => rfl⟩ fun _ => unhanded
    · exact held.go i (.failStart i) ⟨rfl,fun _ => rfl⟩ fun _ => unhanded
  case watch i =>
    have settled : ∀ other ∈ Act.watch i :: others, other.unsettled i = false :=
      forall_mem_cons.mpr ⟨rfl,held.settled (decide_eq_true rfl)⟩
    simp only [Bool.or_eq_true,decide_eq_true_eq] at ran
    simp only [Traced.note,Bool.or_eq_true,decide_eq_true_eq]
    split at ran
    · rename_i gone
      cases ran
      rw [if_pos gone]
      refine held.go i (.failStart i) (.refl _) fun _ _ handed => ?_
      rcases gone with fenced | current
      · exact clash fenced handed.unfenced
      refine clash (held.past i ?_) handed.unfenced
      have last := shape.current
      have within : i < t.bridge.count := fine
      rw [if_neg (by omega)] at last
      rw [last] at current
      have different : t.bridge.count - 1 ≠ i := fun same => current (congrArg some same)
      omega
    · rename_i live
      rw [if_neg live]
      obtain ⟨same,is⟩ | ⟨same,fresh⟩ | ⟨same,_,unfenced,undone⟩ := t.bridge.recoveryHandover_cases i choice.snapshot
      all_goals
        rw [same] at ran ⊢
        cases ran
      · exact held.ends .recovering (fun _ => rfl) fine (held.handed i is).1.2 fun other => absurd rfl other
      · obtain fails | waits | starts := watched_cases i (t.bridge.epochs i).native choice.snapshot choice.cancelled
        · rw [fails]
          exact held.go i (.failStart i) (.refl _) fun _ is => clash is fresh
        · rw [waits]
          exact held.go i (.watch i) (.refl _) (absurd · Bool.false_ne_true)
        · rw [starts]
          exact held.go i (.started i) (.refl _) (absurd · Bool.false_ne_true)
      · refine (held.handOver fine unfenced undone settled).ends .recovering (fun _ => rfl) fine ?_ fun other =>
          absurd rfl other
        simp [Bridge.update]
  case started i =>
    simp only [Traced.note]
    split at ran
    · rename_i fenced
      cases ran
      rw [if_pos fenced]
      exact held.go i (.watch i) (.refl _) (absurd · Bool.false_ne_true)
    rename_i unfenced
    rw [if_neg unfenced]
    split at ran
    · rename_i is
      cases ran
      rw [if_pos is]
      exact held.ends .recovering (fun _ => rfl) fine (held.handed i is).1.2 fun other => absurd rfl other
    rename_i fresh
    cases ran
    rw [if_neg fresh]
    have done : Handovers {t with bridge := t.bridge.update i fun epoch => {epoch with startDone := true}}
      (.started i :: others) := by
      refine held.change i rfl (fun epoch apart => ?_) (fun before => ?_) (fun _ => ?_) (fun failed => ?_) fun is => ?_
      · simp only [Bridge.update,Function.update_of_ne apart]
      · simpa [Bridge.update] using before
      · simp [Bridge.update]
      · simpa [Bridge.update] using held.failed i (by simpa [Bridge.update] using failed)
      · exact absurd (by simpa [Bridge.update] using is) fresh
    refine done.ends .running (fun _ => rfl) fine ?_ fun _ is => ?_
    · simp [Bridge.update]
    · exact absurd (by simpa [Bridge.update] using is) fresh
  case failStart i =>
    cases ran
    have fenced : ((t.bridge.failStart i).epochs i).fenced = true := by simp [Bridge.failStart,Bridge.update]
    have done : ((t.bridge.failStart i).epochs i).startDone = true := by simp [Bridge.failStart,Bridge.update]
    have changed : Handovers {t with bridge := t.bridge.failStart i} (.failStart i :: others) := by
      refine held.change i rfl (fun epoch apart => ?_) (fun _ => fenced) (fun _ => done) (fun _ => fenced) fun is =>
        ⟨⟨fine,done⟩,.inl ?_⟩
      · simp only [Bridge.failStart,Bridge.update,Function.update_of_ne apart]
      · have before : (t.bridge.epochs i).recovering = true := by simpa [Bridge.failStart,Bridge.update] using is
        exact (held.handed i before).2.resolve_right (Handovers.unhanded (decide_eq_true rfl))
    refine Handovers.returns (t := {t with bridge := t.bridge.failStart i})
      (changed.keep [.ensureNativeStop i false] (.refl _) (fun _ => Nat.zero_le _)
      (fun epoch => ?_) (fun epoch _ _ => forall_mem_singleton.mpr rfl) fun epoch mine =>
        .inl ?_) .failed fine done fun _ _ handed => ?_
    · exact forall_mem_singleton.mpr fun stops => of_decide_eq_true stops ▸ fenced
    · exact of_decide_eq_true mine ▸ fenced
    · exact clash fenced handed.unfenced
  case ensureNativeStop i retire =>
    have fenced := held.stopping i (.inl ⟨_,.head _,decide_eq_true rfl⟩)
    have still : Undisturbed t.bridge (t.bridge.ensureNativeStop i).1 := by
      unfold Bridge.ensureNativeStop
      split
      · exact .refl _
      · exact ⟨rfl,fun _ => rfl⟩
    generalize t.bridge.ensureNativeStop i = result at still ran
    obtain ⟨next,runs⟩ := result
    cases ran
    refine Handovers.request (t := {t with bridge := next}) (held.beside _ still ?_) (still.count ▸ fine)
      (still.fenced.trans fenced)
    cases runs <;> cases retire
    all_goals simp [Effect.acts,Act.opens,Act.stops,Act.succeeds]
  case stop corr =>
    simp only [Traced.note]
    split at ran
    · rename_i unknown
      cases ran
      rw [unknown]
      exact held.drop
    rename_i key found
    rw [found,Option.bind_some]
    obtain ⟨names,same⟩ | ⟨i,same⟩ := t.bridge.stop_fences key
    all_goals
      rw [same] at ran ⊢
      cases ran
    · exact held.beside [] ⟨rfl,fun _ => rfl⟩ (forall_mem_nil _)
    · refine Handovers.keep (t := {t with stopped := t.stopped ++ [i], bridge := t.bridge.fence i}) (held.fence i)
        [.awaitDispatchIdle i] (.refl _)
        (fun _ => Nat.zero_le _) (fun epoch => ?_) (fun epoch _ _ => forall_mem_singleton.mpr rfl)
      exact forall_mem_singleton.mpr fun stops => of_decide_eq_true stops ▸ t.bridge.fence_fenced i
  case awaitDispatchIdle i =>
    split at ran
    · cases ran
    · cases ran
      exact held.beside [.ensureNativeStop i true] ⟨rfl,fun _ => rfl⟩ (forall_mem_singleton.mpr fun _ => ⟨rfl,id⟩)
  case nativeObservation snap =>
    split at ran
    · cases ran
      exact held.drop
    rename_i i current
    split at ran
    · cases ran
      exact held.drop
    rename_i live
    simp only [Bool.or_eq_true,not_or,Bool.not_eq_true] at live
    cases ran
    simp only [inTime,current,Option.all_some,live.2,Bool.false_or] at timely
    obtain ⟨same,_⟩ | ⟨same,_⟩ | ⟨same,_,unfenced,undone⟩ := t.bridge.recoveryHandover_cases i snap
    all_goals rw [same] at timely ⊢
    · exact held.drop
    · exact held.drop
    · refine held.drop.handOver (shape.last current).ge unfenced undone fun act due => ?_
      simpa using all_eq_true.mp timely act (.tail _ due)
  case prepare | admitSource | start | retire | retireWait | retireCall | retireEnd | admitSuccessor | unlockOp | stopWithReport | hold | holdGate | holdSource |
      holdFence | holdActivate | holdActivated | holdRecord | observeClose =>
    exact absurd rfl other

theorem Handovers.enter (held : Handovers t acts) {b : Bridge} (still : Undisturbed t.bridge b)
    (aside : ∀ epoch, act.opens epoch = false ∧ act.stops epoch = false) :
    Handovers {t with bridge := b} (act :: acts) := by
  have unsettled (epoch : Nat) : act.unsettled epoch = false :=
    Bool.eq_false_iff.mpr fun unsettled => clash (Act.opens_of_unsettled unsettled) (aside epoch).1
  have entered : Handovers t (act :: acts) := by
    refine {held with
      alone := fun epoch => ?_, attended := fun epoch within => (held.attended epoch within).imp_right (Or.imp_right ?_)
      stopping := fun epoch ended => ?_
      handed := fun epoch is => (held.handed epoch is).imp_right (Or.imp_right fun handed => ?_)}
    · rw [countP_cons_of_neg (by simp [(aside epoch).1])]
      exact held.alone epoch
    · exact fun ⟨due,mem,opened⟩ => ⟨due,mem_cons_of_mem _ mem,opened⟩
    · rcases ended with ⟨due,mem,stops⟩ | requested
      · rcases mem_cons.mp mem with rfl | old
        · exact clash stops (aside epoch).2
        · exact held.stopping epoch (.inl ⟨due,old,stops⟩)
      · exact held.stopping epoch (.inr requested)
    · exact {handed with settled := forall_mem_cons.mpr ⟨unsettled epoch,handed.settled⟩}
  exact entered.beside [act] still (forall_mem_singleton.mpr fun epoch => ⟨(aside epoch).1,id⟩)
    fun epoch opens => clash opens (aside epoch).1

theorem Handovers.joinReturns {index : Nat} {cancelled : Bool} {result : StartResult} (held : Handovers t acts)
    (joined : t.joins[index]? = some i) (awaited : awaitStart cancelled (t.bridge.epochs i) = some result) :
    Handovers {t with joins := t.joins.eraseIdx index, joined := t.joined ++ [(i,result)]} acts := by
  have within := held.joins i (mem_of_getElem? joined)
  have results : result = .cancelled ∨ ((t.bridge.epochs i).startDone = true ∧
      ((t.bridge.epochs i).startFailed = true ∨ (t.bridge.epochs i).fenced = true ∨
        ((t.bridge.epochs i).recovering = true → result = .recovering))) := by
    unfold awaitStart at awaited
    grind
  refine {held with
    joins := fun epoch mem => held.joins epoch (mem_of_mem_eraseIdx mem), early := fun epoch logged mem => ?_
    handed := fun epoch is => ?_}
  · rcases mem_append.mp mem with old | new
    · exact held.early epoch logged old
    · cases mem_singleton.mp new
      exact ⟨within,results.imp_right And.left⟩
  · refine (held.handed epoch is).imp_right (Or.imp_right fun handed => {handed with joined := fun logged mem => ?_})
    rcases mem_append.mp mem with old | new
    · exact handed.joined logged old
    cases mem_singleton.mp new
    rcases results with cancelled | ⟨_,failed | fenced | recovers⟩
    · exact .inr cancelled
    · exact clash (held.failed _ failed) handed.unfenced
    · exact clash fenced handed.unfenced
    · exact .inl (recovers is)

end

def handsOverInTime (system : TracedSystem) (move : Move TracedEvent Choice) : Prop :=
  (system.performs move).all (inTime system.shared.bridge system.acts) = true

instance (system : TracedSystem) (move : Move TracedEvent Choice) : Decidable (handsOverInTime system move) :=
  inferInstanceAs (Decidable (_ = true))

structure Kept (t : Traced) (acts : List Act) : Prop where
  locks : Locks t.bridge acts
  bound : Bound t.bridge acts
  handovers : Handovers t acts

theorem launch_aside {event : Event} {b : Bridge} {effect : Outcome} {name : Unit}
    (began : launch event b = some (effect,name)) :
    Undisturbed b effect.shared ∧ ∃ act, effect.acts = [act] ∧ ∀ epoch, act.opens epoch = false ∧
      act.stops epoch = false := by
  cases event with
  | hold hold =>
    simp only [launch] at began
    split at began
    · cases began
    · cases began
      exact ⟨⟨rfl,fun _ => rfl⟩,_,rfl,fun _ => ⟨rfl,rfl⟩⟩
  | prepare | start _ | stop _ | observeClose _ | nativeObservation _ =>
    cases began
    exact ⟨.refl b,_,rfl,fun _ => ⟨rfl,rfl⟩⟩

variable {system : TracedSystem}

theorem step_kept {next : TracedSystem} {move : Move TracedEvent Choice} (kept : Kept system.shared system.acts)
    (allowed : handsOverInTime system move) (stepped : tracedStep system move = some next) :
    Kept next.shared next.acts := by
  refine Machine.acts_step Kept (fun _ _ _ same kept =>
    ⟨kept.locks.perm same,kept.bound.perm same,kept.handovers.perm same⟩) ?_ ?_ kept stepped
  · intro event effect name _ began
    cases event with
    | bridge event =>
      obtain ⟨⟨inner,_⟩,started,same⟩ := Option.map_eq_some_iff.mp began
      cases same
      obtain ⟨locks,bound⟩ := launch_bound ⟨kept.locks,kept.bound⟩ started
      obtain ⟨still,act,only,aside⟩ := launch_aside started
      refine ⟨locks,bound,?_⟩
      have entered := kept.handovers.enter still aside
      rw [← singleton_append,← only] at entered
      exact entered
    | joinReturns index cancelled =>
      obtain ⟨epoch,joined,returned⟩ := Option.bind_eq_some_iff.mp began
      obtain ⟨result,awaited,same⟩ := Option.map_eq_some_iff.mp returned
      cases same
      exact ⟨kept.locks,kept.bound,kept.handovers.joinReturns joined awaited⟩
  · intro choice act others effect _ performs split before ran
    obtain ⟨inner,done,rfl⟩ := Option.map_eq_some_iff.mp ran
    rw [handsOverInTime,performs] at allowed
    exact ⟨perform_locks done before.locks,perform_bound done before.locks before.bound,
      perform_handovers done before.bound (inTime_perm split allowed) before.handovers⟩

structure Recovers (system : TracedSystem) (epoch : Nat) : Prop where
  unfenced : (system.shared.bridge.epochs epoch).fenced = false
  unstopped : epoch ∉ system.shared.requested
  returns : (epoch,.recovering) ∈ system.shared.opening ∨ ∃ act ∈ system.acts, act.opens epoch = true ∧
    ∀ choice, ∃ effect, Traced.perform choice act system.shared = some effect ∧
      (epoch,.recovering) ∈ effect.shared.opening ∧ effect.acts = []
  opening : ∀ result, (epoch,result) ∈ system.shared.opening → result = .recovering
  joined : ∀ result, (epoch,result) ∈ system.shared.joined → result = .recovering ∨ result = .cancelled

theorem Kept.recovers {epoch : Nat} (kept : Kept system.shared system.acts)
    (handed : Handed system.shared system.acts epoch)
    (recovering : (system.shared.bridge.epochs epoch).recovering = true) : Recovers system epoch := by
  have within := (kept.handovers.handed epoch recovering).1.1
  have unfenced := Bool.eq_false_iff.mp handed.unfenced
  refine ⟨handed.unfenced,fun requested => unfenced (kept.handovers.stopping epoch (.inr requested)),?_,handed.opening,
    handed.joined⟩
  rcases kept.handovers.attended epoch within with fenced | ⟨result,logged⟩ | ⟨act,due,opens⟩
  · exact absurd fenced unfenced
  · exact .inl (handed.opening result logged ▸ logged)
  refine .inr ⟨act,due,opens,fun choice => ?_⟩
  have settled := handed.settled act due
  cases act with
  | dispatch | check | startAsync | failStart => exact clash opens settled
  | watch i =>
    cases of_decide_eq_true opens
    have current : system.shared.bridge.current = some epoch := by
      have last : system.shared.bridge.count = epoch + 1 := by
        by_contra other
        exact unfenced (kept.handovers.past epoch (by omega))
      rw [kept.bound.shape.current,last]
      rfl
    refine ⟨_,Option.map_eq_some_iff.mpr ⟨{shared := system.shared.bridge},?_,rfl⟩,?_,rfl⟩
    · simp [perform,Bridge.recoveryHandover,handed.unfenced,current,recovering]
    · simp [Traced.embed,Traced.note,Bridge.recoveryHandover,handed.unfenced,current,recovering]
  | started i =>
    cases of_decide_eq_true opens
    refine ⟨_,Option.map_eq_some_iff.mpr ⟨{shared := system.shared.bridge},?_,rfl⟩,?_,rfl⟩
    · simp [perform,handed.unfenced,recovering]
    · simp [Traced.embed,Traced.note,handed.unfenced,recovering]
  | _ => cases opens

def tracedCreated (source : String) : TracedSystem := ⟨{bridge := {source := source}},[]⟩

/-- In every interleaving in which no start is handed over that has made up its mind to fail, a start that was handed over
recovers: unless a stop has fenced its epoch, the epoch is not fenced, no native stop is asked for it, and the start returns as
recovering. A start that joined it may also return because its own context ended. -/
theorem handed_over_recovers {source : String} {labels : List (Move TracedEvent Choice)} {system : TracedSystem}
    (run : Run tracedStep handsOverInTime (tracedCreated source) labels system) {epoch : Nat}
    (recovering : (system.shared.bridge.epochs epoch).recovering = true) :
    epoch ∈ system.shared.stopped ∨ Recovers system epoch := by
  have first : Kept (tracedCreated source).shared (tracedCreated source).acts := by
    refine ⟨⟨rfl,rfl,rfl⟩,⟨.create source,forall_mem_nil _⟩,fun _ => Nat.zero_le _,nofun,nofun,nofun,
      fun epoch ended => ?_,forall_mem_nil _,
      forall_mem_nil _,nofun,nofun,nofun⟩
    rcases ended with ⟨_,empty,_⟩ | empty
    all_goals exact nomatch empty
  have kept := run.invariant (fun system => Kept system.shared system.acts) (fun _ _ _ kept allowed stepped =>
    step_kept kept allowed stepped) first
  exact (kept.handovers.handed epoch recovering).2.imp_right fun handed => kept.recovers handed recovering

def dispatched : List (Move TracedEvent Choice) :=
  [.start (.bridge .prepare),.run 0 {},.run 0 {},.start (.bridge (.start {epoch := "a"})),.run 1 {},.run 1 {},.run 1 {},
    .run 1 {},.run 1 {}]

def scheduled : Snapshot :=
  {observed := .backoff, reason := .retryScheduled, revision := 1, retry := some ⟨1,true,true⟩}

/-- The start's context ends, the manager watch hands it over, and it fails all the same. -/
theorem handed_over_fails : ∃ system, Run tracedStep anyStep (tracedCreated "s")
      (dispatched ++ [.run 1 {cancelled := true},.start (.bridge (.nativeObservation scheduled)),.run 2 {},
        .run 1 {},.run 1 {}]) system ∧
    (system.shared.bridge.epochs 0).recovering = true ∧ (system.shared.bridge.epochs 0).fenced = true ∧
      system.shared.opening = [(0,.failed)] ∧
      system.shared.requested = [0] ∧ system.shared.stopped = [] :=
  Run.exists_of_execute _ (by decide +kernel)

theorem handed_over_in_time : ∃ system, Run tracedStep handsOverInTime (tracedCreated "s")
      (dispatched ++ [.run 1 {},.start (.bridge (.nativeObservation scheduled)),.run 2 {},.run 1 {cancelled := true}])
        system ∧
    (system.shared.bridge.epochs 0).recovering = true ∧ (0 ∈ system.shared.stopped ∨ Recovers system 0) := by
  refine Exists.imp (fun _ found => and_assoc.mp ⟨found,?_⟩) (Run.exists_of_executeWhere _ (by decide +kernel))
  exact handed_over_recovers found.1 found.2

end EbusGateway.EbusControl
