import EbusGateway.EbusControl.Locks

/-! The epochs of the bridge: opened one after the other under the succession lock, each with mappings that count
from one, and what a pending action may rely on.
-/
namespace EbusGateway.EbusControl
open Library List
open DriverManager (CloseClass)

/-- The mappings of an epoch count from one, and the latest is the one in force. -/
structure Ordered (epoch : Epoch) : Prop where
  opens : epoch.key.generation = 1
  hub : epoch.handle.epoch = epoch.opened.epoch
  keys : epoch.mappings.map (·.key) = (List.range' 1 epoch.mappings.length).map fun generation =>
    {epoch.key with generation := generation}
  fresh : epoch.native = 0 → epoch.mappings = [] ∧ epoch.generation = 1
  latest : epoch.fenced = false → epoch.native ≠ 0 →
    epoch.mappings ≠ [] ∧ epoch.generation = epoch.mappings.length ∧ epoch.handle.generation = epoch.generation

def Epoch.mapped (epoch : Epoch) : Key × Handle × Handle × Nat × Nat × List Mapping :=
  (epoch.key,epoch.opened,epoch.handle,epoch.generation,epoch.native,epoch.mappings)

/-- Nothing that a mapping depends on has changed, and a fence stays. -/
structure Same (before after : Epoch) : Prop where
  mapped : after.mapped = before.mapped
  fenced : before.fenced = true → after.fenced = true

theorem Same.refl (epoch : Epoch) : Same epoch epoch := ⟨rfl,id⟩

theorem Same.trans {first second third : Epoch} (earlier : Same first second) (later : Same second third) : Same first third :=
  ⟨later.mapped.trans earlier.mapped,later.fenced ∘ earlier.fenced⟩

theorem Same.key {before after : Epoch} (same : Same before after) : after.key = before.key := congrArg (·.1) same.mapped

theorem Ordered.same {before after : Epoch} (ordered : Ordered before) (same : Same before after) : Ordered after := by
  obtain ⟨mapped,fenced⟩ := same
  simp only [Epoch.mapped,Prod.mk.injEq] at mapped
  obtain ⟨key,opened,handle,gen,native,mappings⟩ := mapped
  refine ⟨?_,?_,?_,?_,?_⟩
  · rw [key]
    exact ordered.opens
  · rw [handle,opened]
    exact ordered.hub
  · rw [key,mappings]
    exact ordered.keys
  · rw [native,mappings,gen]
    exact ordered.fresh
  · rw [native,mappings,gen,handle]
    intro unfenced
    refine ordered.latest (Bool.eq_false_iff.mpr fun before => ?_)
    cases unfenced.symm.trans (fenced before)

/-- The epochs are opened one after the other, and native generations grow over all of them. -/
structure Shape (b : Bridge) : Prop where
  epochs : ∀ i < b.count, Ordered (b.epochs i)
  current : b.current = if b.count = 0 then none else some (b.count - 1)
  names : ∀ i < b.count, ∀ j < b.count, (b.epochs i).key.epoch = (b.epochs j).key.epoch → i = j
  past : ∀ i, i + 1 < b.count → (b.history.lookup (b.epochs i).key.epoch).isSome = true
  history : ∀ name i, b.history.lookup name = some i → i < b.count
  below : ∀ mapping ∈ b.recorded, ∃ last, b.constructed = some last ∧ mapping.native ≤ last
  increasing : b.recorded.Pairwise (·.native < ·.native)
  log : b.recorded = (List.range b.count).flatMap fun i => (b.epochs i).mappings
  passed : ∀ name, .passed name ∈ b.journal → ∃ i < b.count, (b.epochs i).key.epoch = name ∧ (b.epochs i).fenced = true
  order : ∀ before name after, b.journal = before ++ .passed name :: after → .started name ∉ after

/-- What a hold has read of its epoch is still so. -/
structure Reads (b : Bridge) (held : Held) : Prop where
  epoch : held.epoch < b.count
  handle : held.handle = (b.epochs held.epoch).handle
  generation : held.generation = (b.epochs held.epoch).generation
  replacement : held.replacement = decide ((b.epochs held.epoch).native ≠ 0)
  positive : held.hold.native ≠ 0

/-- The native generation of a hold is above all that are recorded. -/
structure Above (b : Bridge) (hold : Hold) : Prop where
  constructed : b.constructed = some hold.native
  recorded : ∀ mapping ∈ b.recorded, mapping.native < hold.native

def Succeeds (b : Bridge) : Next → Prop
  | .succeed key pred => key.generation = 1 ∧ b.current = some pred ∧ ∀ i < b.count, (b.epochs i).key.epoch ≠ key.epoch
  | _ => True

/-- What a pending action may rely on. -/
def Fine (b : Bridge) : Act → Prop
  | .retire i next | .retireWait i next | .retireCall i _ next | .retireEnd i _ next => i < b.count ∧ Succeeds b next
  | .admitSuccessor key pred | .succeed key pred _ => Succeeds b (.succeed key pred)
  | .dispatch i | .check i _ | .watch i | .started i | .failStart i | .ensureNativeStop i _ | .stopWithReport i => i < b.count
  | .startAsync i => i < b.count ∧ .passed (b.epochs i).key.epoch ∉ b.journal
  | .awaitDispatchIdle i => i < b.count ∧ (b.epochs i).fenced = true
  | .hold hold => Above b hold
  | .holdGate held | .holdSource held => Reads b held ∧ Above b held.hold
  | .holdFence held | .holdActivate held => (Reads b held ∧ Above b held.hold) ∧ held.replacement = true
  | .holdActivated held activated =>
    (Reads b held ∧ Above b held.hold) ∧ held.replacement = true ∧
      activated.epoch = held.handle.epoch ∧ activated.generation = held.generation + 1
  | .holdRecord held => (Reads b held ∧ Above b held.hold) ∧ held.replacement = false ∧ held.handle.generation = held.generation
  | _ => True

section
variable {b next third : Bridge} {act : Act} {others : List Act} {i : Nat} {handle : Handle} {epoch : Epoch} {mapping : Mapping}

theorem Fine.later (fine : Fine b act) (count : b.count ≤ next.count) (keys : ∀ i < b.count, (next.epochs i).key = (b.epochs i).key)
    (fenced : ∀ i < b.count, (b.epochs i).fenced = true → (next.epochs i).fenced = true)
    (succession : act.binds = true → next.count = b.count ∧ next.current = b.current)
    (hold : act.holds = true → next.constructed = b.constructed ∧ next.recorded = b.recorded ∧
      ∀ i < b.count, (next.epochs i).mapped = (b.epochs i).mapped)
    (start : ∀ i, act = .startAsync i → i < b.count → .passed (b.epochs i).key.epoch ∉ b.journal →
      .passed (b.epochs i).key.epoch ∉ next.journal) :
    Fine next act := by
  have succeeds (after : Next) (binds : after ≠ .done → act.binds = true) (succeeds : Succeeds b after) : Succeeds next after := by
    cases after with
    | done => trivial
    | refuse => trivial
    | succeed key pred =>
      obtain ⟨same,current⟩ := succession (binds nofun)
      obtain ⟨gen,is,fresh⟩ := succeeds
      refine ⟨gen,current.trans is,fun i within => ?_⟩
      rw [same] at within
      rw [keys i within]
      exact fresh i within
  have above {hold' : Hold} (holds : act.holds = true) (above : Above b hold') : Above next hold' := by
    obtain ⟨constructed,recorded,_⟩ := hold holds
    exact ⟨constructed.trans above.constructed,recorded ▸ above.recorded⟩
  have reads {held : Held} (holds : act.holds = true) (reads : Reads b held) : Reads next held := by
    obtain ⟨_,_,mapped⟩ := hold holds
    have same := mapped held.epoch reads.epoch
    simp only [Epoch.mapped,Prod.mk.injEq] at same
    obtain ⟨_,_,handle,gen,native,_⟩ := same
    refine ⟨reads.epoch.trans_le count,?_,?_,?_,reads.positive⟩
    · rw [handle]
      exact reads.handle
    · rw [gen]
      exact reads.generation
    · rw [native]
      exact reads.replacement
  cases act with
  | retire i after | retireWait i after | retireCall i _ after | retireEnd i _ after =>
    exact ⟨fine.1.trans_le count,succeeds after (fun other => by simpa [Act.binds] using other) fine.2⟩
  | admitSuccessor key pred | succeed key pred _ => exact succeeds (.succeed key pred) (fun _ => rfl) fine
  | dispatch i | check i _ | watch i | started i | failStart i | ensureNativeStop i _
  | stopWithReport i => exact Nat.lt_of_lt_of_le fine count
  | startAsync i =>
    refine ⟨fine.1.trans_le count,?_⟩
    rw [keys i fine.1]
    exact start i rfl fine.1 fine.2
  | awaitDispatchIdle i => exact ⟨fine.1.trans_le count,fenced i fine.1 fine.2⟩
  | hold hold => exact above rfl fine
  | holdGate held | holdSource held => exact ⟨reads rfl fine.1,above rfl fine.2⟩
  | holdFence | holdActivate | holdActivated | holdRecord => exact ⟨⟨reads rfl fine.1.1,above rfl fine.1.2⟩,fine.2⟩
  | prepare | admitSource | start _ | bind _ | unlockOp | stop _ | observeClose _ | nativeObservation _ => trivial

/-- A change of no consequence for the mappings. -/
structure Keeps (b next : Bridge) : Prop where
  count : next.count = b.count
  current : next.current = b.current
  history : next.history = b.history
  constructed : next.constructed = b.constructed
  recorded : next.recorded = b.recorded
  journal : next.journal = b.journal
  same : ∀ i, Same (b.epochs i) (next.epochs i)

namespace Keeps

theorem refl (b : Bridge) : Keeps b b := ⟨rfl,rfl,rfl,rfl,rfl,rfl,fun _ => .refl _⟩

theorem trans (earlier : Keeps b next) (later : Keeps next third) : Keeps b third :=
  ⟨later.count.trans earlier.count,later.current.trans earlier.current,later.history.trans earlier.history,
    later.constructed.trans earlier.constructed,later.recorded.trans earlier.recorded,later.journal.trans earlier.journal,
    fun i => (earlier.same i).trans (later.same i)⟩

theorem update (b : Bridge) (i : Nat) {f : Epoch → Epoch} (same : ∀ epoch, Same epoch (f epoch)) : Keeps b (b.update i f) := by
  refine ⟨rfl,rfl,rfl,rfl,rfl,rfl,fun j => ?_⟩
  by_cases here : j = i
  · subst here
    simpa only [Bridge.update,Function.update_self] using same _
  · simpa only [Bridge.update,Function.update_of_ne here] using .refl _

theorem fine (keeps : Keeps b next) (fine : Fine b act) : Fine next act := by
  refine fine.later keeps.count.ge (fun i _ => (keeps.same i).key) (fun i _ =>
    (keeps.same i).fenced) (fun _ => ⟨keeps.count,keeps.current⟩)
    (fun _ => ⟨keeps.constructed,keeps.recorded,fun i _ => (keeps.same i).mapped⟩) fun i _ _ fresh => ?_
  rw [keeps.journal]
  exact fresh

theorem shape (keeps : Keeps b next) (shape : Shape b) : Shape next := by
  obtain ⟨count,current,history,constructed,recorded,journal,same⟩ := keeps
  have key (i : Nat) := (same i).key
  refine ⟨?_,?_,?_,?_,?_,?_,?_,?_,?_,?_⟩
  · intro i within
    exact (shape.epochs i (count ▸ within)).same (same i)
  · rw [current,count]
    exact shape.current
  · intro i first j second equal
    rw [key,key] at equal
    exact shape.names i (count ▸ first) j (count ▸ second) equal
  · intro i within
    rw [history,key]
    exact shape.past i (count ▸ within)
  · rw [history,count]
    exact shape.history
  · rw [recorded,constructed]
    exact shape.below
  · rw [recorded]
    exact shape.increasing
  · have mappings (i : Nat) : (next.epochs i).mappings = (b.epochs i).mappings := congrArg (·.2.2.2.2.2) (same i).mapped
    simp only [recorded,count,mappings]
    exact shape.log
  · rw [journal,count]
    intro name mem
    obtain ⟨i,within,named,fenced⟩ := shape.passed name mem
    exact ⟨i,within,(congrArg Key.epoch (key i)).trans named,(same i).fenced fenced⟩
  · rw [journal]
    exact shape.order

end Keeps

structure Bound (b : Bridge) (acts : List Act) : Prop where
  shape : Shape b
  fine : ∀ act ∈ acts, Fine b act

namespace Bound

theorem perm {acts : List Act} (same : acts.Perm others) (bound : Bound b acts) : Bound b others :=
  ⟨bound.shape,fun act mem => bound.fine act (same.mem_iff.mpr mem)⟩

section
variable (bound : Bound b (act :: others))
include bound

theorem go (code : List Act) (keeps : Keeps b next) (fine : ∀ act ∈ code, Fine next act) : Bound next (code ++ others) := by
  refine ⟨keeps.shape bound.shape,fun act mem => ?_⟩
  rcases mem_append.mp mem with new | old
  · exact fine act new
  · exact keeps.fine (bound.fine act (.tail _ old))

theorem one {new : Act} (keeps : Keeps b next) (fine : Fine next new) : Bound next ([new] ++ others) :=
  bound.go [new] keeps (forall_mem_singleton.mpr fine)

theorem drop (keeps : Keeps b next) : Bound next others := bound.go [] keeps (forall_mem_nil _)

theorem head : Fine b act := bound.fine act mem_cons_self

end

end Bound

section
variable (shape : Shape b)
include shape

theorem Shape.last (current : b.current = some i) : b.count = i + 1 := by
  rw [shape.current] at current
  split at current
  · cases current
  · cases current
    omega

/-- A new epoch is opened. -/
theorem Shape.install {key : Key} {history : List (String × Nat)} (gen : key.generation = 1)
    (fresh : ∀ i < b.count, (b.epochs i).key.epoch ≠ key.epoch)
    (past : ∀ i < b.count, (history.lookup (b.epochs i).key.epoch).isSome = true)
    (known : ∀ name i, history.lookup name = some i → i < b.count) : Shape {b.install key handle with history := history} := by
  have old {i : Nat} (within : i < b.count) : (b.install key handle).epochs i = b.epochs i := Function.update_of_ne within.ne _ _
  have new : (b.install key handle).epochs b.count = {newEpoch key handle with launched := true} := Function.update_self _ _ _
  have cases_lt {i : Nat} (within : i < b.count + 1) : i < b.count ∨ i = b.count := by omega
  refine ⟨?_,?_,?_,?_,?_,shape.below,shape.increasing,?_,?_,shape.order⟩
  · intro i within
    dsimp only
    rcases cases_lt within with before | rfl
    · rw [old before]
      exact shape.epochs i before
    · rw [new]
      exact ⟨gen,rfl,rfl,fun _ => ⟨rfl,gen⟩,fun _ some => absurd rfl some⟩
  · simp [Bridge.install]
  · intro i first j second equal
    dsimp only at equal
    rcases cases_lt first with before | rfl <;> rcases cases_lt second with before' | rfl
    · rw [old before,old before'] at equal
      exact shape.names i before j before' equal
    · rw [old before,new] at equal
      exact absurd equal (fresh i before)
    · rw [old before',new] at equal
      exact absurd equal.symm (fresh j before')
    · rfl
  · intro i within
    dsimp only
    have before : i < b.count := Nat.lt_of_succ_lt_succ within
    rw [old before]
    exact past i before
  · intro name i found
    exact (known name i found).trans (Nat.lt_succ_self _)
  · have same : ∀ i ∈ List.range b.count, ((b.install key handle).epochs i).mappings = (b.epochs i).mappings := by
      intro i within
      rw [old (mem_range.mp within)]
    change b.recorded = (List.range (b.count + 1)).flatMap fun i => ((b.install key handle).epochs i).mappings
    rw [range_succ,flatMap_append,flatMap_congr same,flatMap_singleton,new,← shape.log]
    exact (append_nil _).symm
  · intro name mem
    obtain ⟨i,within,named,fenced⟩ := shape.passed name mem
    refine ⟨i,within.trans (Nat.lt_succ_self _),?_⟩
    dsimp only
    rw [old within]
    exact ⟨named,fenced⟩

theorem Shape.note {note : Note} {dispatchMu : Bool} (journal : next.journal = b.journal ++ [note])
    (same : next = {b with journal := b.journal ++ [note], dispatchMu := dispatchMu})
    (started : ∀ name, note = .started name → .passed name ∉ b.journal)
    (passed : ∀ name, note = .passed name → ∃ i < b.count, (b.epochs i).key.epoch = name ∧
      (b.epochs i).fenced = true) : Shape next := by
  subst same
  refine {shape with passed := fun name mem => ?_, order := ?_}
  · rcases mem_append.mp mem with old | new
    · exact shape.passed name old
    · exact passed name (mem_singleton.mp new).symm
  · intro before name after split mem
    obtain rfl | ⟨init,last,rfl⟩ := eq_nil_or_concat after
    · cases mem
    rw [concat_eq_append,← cons_append,← append_assoc] at split
    obtain ⟨earlier,equal⟩ := append_inj' split rfl
    cases equal
    rw [concat_eq_append] at mem
    rcases mem_append.mp mem with old | new
    · exact shape.order before name init earlier old
    · refine started name (mem_singleton.mp new).symm ?_
      rw [earlier]
      exact mem_append_right _ mem_cons_self

/-- A mapping is recorded in the current epoch. -/
theorem Shape.change (current : b.current = some i) {new : List Mapping} (key : epoch.key = (b.epochs i).key)
    (fenced : epoch.fenced = (b.epochs i).fenced) (ordered : Ordered epoch) (mappings : epoch.mappings = (b.epochs i).mappings ++ new)
    (constructed : ∀ mapping ∈ new, b.constructed = some mapping.native)
    (increasing : (b.recorded ++ new).Pairwise (·.native < ·.native)) :
    Shape {b with epochs := Function.update b.epochs i epoch, recorded := b.recorded ++ new} := by
  have count := shape.last current
  have other {j : Nat} (different : j ≠ i) : Function.update b.epochs i epoch j = b.epochs j := Function.update_of_ne different _ _
  have here : Function.update b.epochs i epoch i = epoch := Function.update_self _ _ _
  have keys (j : Nat) : (Function.update b.epochs i epoch j).key = (b.epochs j).key := by
    by_cases same : j = i
    · rw [same,here,key]
    · rw [other same]
  refine ⟨?_,shape.current,?_,?_,shape.history,?_,increasing,?_,?_,shape.order⟩
  · intro j within
    dsimp only
    by_cases same : j = i
    · rw [same,here]
      exact ordered
    · rw [other same]
      exact shape.epochs j within
  · intro j first k second
    dsimp only
    rw [keys,keys]
    exact shape.names j first k second
  · intro j within
    dsimp only
    rw [keys]
    exact shape.past j within
  · intro mapping mem
    rcases mem_append.mp mem with old | recent
    · exact shape.below mapping old
    · exact ⟨_,constructed mapping recent,le_rfl⟩
  · have same : ∀ j ∈ List.range i, (Function.update b.epochs i epoch j).mappings = (b.epochs j).mappings := by
      intro j within
      rw [other (mem_range.mp within).ne]
    change b.recorded ++ new = (List.range b.count).flatMap fun j => (Function.update b.epochs i epoch j).mappings
    rw [shape.log,count,range_succ,flatMap_append,flatMap_append,flatMap_congr same,flatMap_singleton,
      flatMap_singleton,here,mappings,append_assoc]
  · intro name mem
    obtain ⟨j,within,named,was⟩ := shape.passed name mem
    refine ⟨j,within,(congrArg Key.epoch (keys j)).trans named,?_⟩
    dsimp only
    by_cases same : j = i
    · rw [same,here,fenced,← same]
      exact was
    · rw [other same]
      exact was

end

namespace Bridge

/-- A start is refused, joins the current epoch, opens the first one or succeeds the last. -/
theorem bind_cases (shape : Shape b) (key : Key) : b.bind key = (b,.refused) ∨ (∃ epoch, b.bind key = (b,.join epoch)) ∨
    (b.bind key = (b.install key b.initial,.first b.count) ∧ key.generation = 1 ∧ b.count = 0) ∨
    ∃ pred < b.count, b.bind key = (b,.successor pred) ∧ Succeeds b (.succeed key pred) := by
  unfold bind
  split
  · exact .inl rfl
  split
  · exact .inl rfl
  rename_i _ unknown
  split
  · split
    · exact .inl rfl
    · exact .inr (.inl ⟨_,rfl⟩)
  rename_i other
  split
  · exact .inl rfl
  rename_i gen
  simp only [Bool.or_eq_true,not_or,decide_eq_true_eq,ne_eq,not_not,Option.not_isSome_iff_eq_none] at unknown gen
  split
  · rename_i none
    refine .inr (.inr (.inl ⟨rfl,gen.2,?_⟩))
    have current := shape.current
    rw [none] at current
    by_contra some
    rw [if_neg some] at current
    cases current
  · rename_i pred current
    split
    · exact .inl rfl
    have count := shape.last current
    refine .inr (.inr (.inr ⟨pred,by omega,rfl,gen.2,current,fun i within equal => ?_⟩))
    by_cases last : i = pred
    · rw [current,Option.filter_some] at other
      simp [← last,equal] at other
    · have known := shape.past i (by omega)
      rw [equal,unknown.2] at known
      cases known

theorem recoveryHandover_keeps (b : Bridge) (i : Nat) (snapshot : Snapshot) : Keeps b (b.recoveryHandover i snapshot).1 := by
  unfold recoveryHandover
  simp only
  split
  · exact .refl b
  split
  · exact .refl b
  split
  · exact .refl b
  dsimp only
  refine .update b i fun _ => ?_
  exact ⟨rfl,fun fenced => fenced⟩

theorem checkDispatch_cases (b : Bridge) (i revision : Nat) : b.checkDispatch i revision = (b,false) ∨
    ∃ next, b.checkDispatch i revision = (next,true) ∧ Keeps b next ∧ (b.epochs i).fenced = false := by
  unfold checkDispatch
  split
  · exact .inl rfl
  · rename_i live
    simp only [Bool.or_eq_true,not_or,Bool.not_eq_true] at live
    exact .inr ⟨_,rfl,.update b i fun _ => ⟨rfl,fun fenced => fenced⟩,live.1⟩

theorem fence_keeps (b : Bridge) (i : Nat) : Keeps b (b.fence i) := .update b i fun _ => ⟨rfl,fun _ => rfl⟩

theorem fence_fenced (b : Bridge) (i : Nat) : ((b.fence i).epochs i).fenced = true := by simp [fence,update]

theorem stop_cases (shape : Shape b) (key : Key) :
    (∃ next, b.stop key = (next,none) ∧ Keeps b next) ∨ ∃ i < b.count, b.stop key = (b.fence i,some i) := by
  unfold stop
  split
  · exact .inl ⟨_,rfl,⟨rfl,rfl,rfl,rfl,rfl,rfl,fun _ => .refl _⟩⟩
  rename_i i found
  refine .inr ⟨i,?_,rfl⟩
  obtain mine | ⟨_,past⟩ := Option.or_eq_some_iff.mp found
  · obtain ⟨current,_⟩ := Option.filter_eq_some_iff.mp mine
    exact (shape.last current).ge
  · exact shape.history _ _ past

theorem ensureNativeStop_keeps (b : Bridge) (i : Nat) : Keeps b (b.ensureNativeStop i).1 := by
  unfold ensureNativeStop
  split
  · exact .refl b
  · exact ⟨rfl,rfl,rfl,rfl,rfl,rfl,fun _ => .refl _⟩

theorem stopped_keeps (b : Bridge) (i : Nat) (closeClass : CloseClass) : Keeps b (b.stopped i closeClass) := by
  have closed : Keeps b (b.update i fun epoch =>
    {epoch with closeClass := some closeClass, closed := epoch.closed || closeClass.isProven}) :=
    .update b i fun _ => ⟨rfl,fun fenced => fenced⟩
  exact closed.trans ⟨rfl,rfl,rfl,rfl,rfl,rfl,fun _ => .refl _⟩

def succeeded (b : Bridge) (key : Key) (pred : Nat) (handle : Handle) : Bridge :=
  {b.install key handle with history := ((b.epochs pred).key.epoch,pred) :: b.history}

theorem succeed_cases (b : Bridge) (key : Key) (pred : Nat) (handle : Handle) :
    b.succeed key pred handle = (b.succeeded key pred handle,false) ∨
    ∃ next, b.succeed key pred handle = (next,true) ∧ Keeps (b.succeeded key pred handle) next := by
  unfold succeed
  simp only
  split
  · refine .inr ⟨_,rfl,((b.succeeded key pred handle).fence_keeps b.count).trans (.update _ _ fun _ => ?_)⟩
    exact ⟨rfl,fun fenced => fenced⟩
  · exact .inl rfl

theorem succeeded_shape (shape : Shape b) {key : Key} {pred : Nat} {handle : Handle} (succeeds : Succeeds b (.succeed key pred)) :
    Shape (b.succeeded key pred handle) := by
  obtain ⟨gen,current,fresh⟩ := succeeds
  have count := shape.last current
  refine shape.install gen fresh (fun i within => ?_) fun name i found => ?_
  · rw [lookup_cons]
    split
    · rfl
    rename_i different
    refine shape.past i ?_
    have other : i ≠ pred := by
      rintro rfl
      simp at different
    omega
  · rw [lookup_cons] at found
    split at found
    · cases found
      omega
    · exact shape.history name i found

theorem holdAdmission_reads (shape : Shape b) {hold : Hold} {held : Held} (admitted : b.holdAdmission hold = some held) :
    held.hold = hold ∧ Reads b held := by
  obtain ⟨i,current,admitted⟩ := Option.bind_eq_some_iff.mp admitted
  obtain ⟨live,admitted⟩ := Option.ite_none_left_eq_some.mp admitted
  obtain ⟨_,same⟩ := Option.ite_none_left_eq_some.mp admitted
  cases same
  simp only [Bool.or_eq_true,not_or,decide_eq_true_eq] at live
  exact ⟨rfl,(shape.last current).ge,rfl,rfl,rfl,live.2⟩

end Bridge

theorem Ordered.record {generation native : Nat} (ordered : Ordered epoch)
    (hub : handle.epoch = epoch.opened.epoch) (key : mapping.key = {epoch.key with generation := generation})
    (next : generation = epoch.mappings.length + 1) (same : handle.generation = generation) (positive : native ≠ 0) :
    Ordered {epoch with handle := handle, generation := generation, native := native, mappings := epoch.mappings ++ [mapping]} := by
  refine ⟨ordered.opens,hub,?_,fun zero => absurd zero positive,fun _ _ => ⟨by simp,by simpa using next,same⟩⟩
  simp only [map_append,map_singleton,length_append,length_singleton,List.range'_concat,ordered.keys,key,next]
  simp only [Nat.one_mul,Nat.add_comm 1]

theorem Above.increasing {hold : Hold} (above : Above b hold) (shape : Shape b) (native : mapping.native = hold.native) :
    (b.recorded ++ [mapping]).Pairwise (·.native < ·.native) := by
  refine pairwise_append.mpr ⟨shape.increasing,pairwise_singleton _ _,fun old mem new equal => ?_⟩
  cases mem_singleton.mp equal
  rw [native]
  exact above.recorded old mem

namespace Bridge
variable {held : Held} {activated : Handle}

theorem holdActivated_shape (shape : Shape b) (fine : Fine b (.holdActivated held activated)) :
    Shape (b.holdActivated held activated) := by
  obtain ⟨⟨reads,above⟩,replacement,hub,generation⟩ := fine
  have native : (b.epochs held.epoch).native ≠ 0 := by simpa [replacement] using reads.replacement
  have ordered := shape.epochs held.epoch reads.epoch
  have hub : activated.epoch = (b.epochs held.epoch).opened.epoch := by
    rw [hub,reads.handle]
    exact ordered.hub
  unfold holdActivated
  by_cases current : b.current = some held.epoch
  · simp only [current,if_true,ne_eq,not_true_eq_false,decide_false,Bool.false_or]
    split
    · rename_i fenced
      have changed : Shape {b with
          epochs := Function.update b.epochs held.epoch
            {b.epochs held.epoch with handle := activated, generation := held.generation + 1}
          recorded := b.recorded ++ []} := shape.change current rfl rfl
        ⟨ordered.opens,hub,ordered.keys,fun zero => absurd zero native,fun unfenced => (nomatch fenced.symm.trans unfenced)⟩
        (append_nil _).symm (forall_mem_nil _) (by simpa using shape.increasing)
      rw [append_nil] at changed
      exact changed
    · rename_i unfenced
      have unfenced : (b.epochs held.epoch).fenced = false := by simpa using unfenced
      obtain ⟨_,length,_⟩ := ordered.latest unfenced native
      have next : held.generation + 1 = (b.epochs held.epoch).mappings.length + 1 := by rw [reads.generation,length]
      simp only [record,update,Function.update_self,Function.update_idem]
      refine Shape.change shape current rfl rfl ?_ rfl ?_ (above.increasing shape rfl)
      · exact ordered.record hub rfl next generation reads.positive
      · exact forall_mem_singleton.mpr above.constructed
  · simp only [current,if_false,ne_eq,not_false_eq_true,decide_true,Bool.true_or,if_true]
    exact shape

theorem holdRecord_shape (shape : Shape b) (fine : Fine b (.holdRecord held)) : Shape (b.holdRecord held) := by
  obtain ⟨⟨reads,above⟩,_,gen⟩ := fine
  have ordered := shape.epochs held.epoch reads.epoch
  unfold holdRecord
  split
  · exact shape
  rename_i live
  simp only [Bool.or_eq_true,not_or,decide_eq_true_eq,ne_eq,not_not] at live
  obtain ⟨empty,one⟩ := ordered.fresh live.2
  have next : (b.epochs held.epoch).generation = (b.epochs held.epoch).mappings.length + 1 := by
    rw [empty]
    exact one
  refine Shape.change shape live.1.1 rfl rfl ?_ rfl ?_ (above.increasing shape rfl)
  · refine ordered.record ordered.hub ?_ next ?_ reads.positive
    · rw [reads.generation]
    · rw [← reads.handle,gen,reads.generation]
  · exact forall_mem_singleton.mpr above.constructed

end Bridge

end

end EbusGateway.EbusControl
