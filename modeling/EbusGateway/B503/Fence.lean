import EbusGateway.B503.Session

/-! The fences. The emission of an enable leaves a fence behind that no path removes: the pending operation,
then its cleanup obligation, then the restart.
-/
namespace EbusGateway.B503
open Library List

namespace Act

def operation : Act → Option (Nat × OperationKind)
  | .refresh operation _ | .stopIdleTimer operation | .dispatch operation | .admission operation =>
    some (operation.id,operation.caller.kind)
  | .send operation | .release operation _ | .finish operation _ => some (operation.id,operation.caller.kind)
  | .expiryRefresh id _ _ | .expiryDropped id _ _ => some (id,.disable)
  | _ => none

def silent : Act → Option Nat
  | .release _ true | .finish _ true => none
  | act => act.operation.map (·.1)

def sends : Act → Option (Nat × OperationKind)
  | .send operation => some (operation.id,operation.caller.kind)
  | _ => none

end Act

inductive Fence (m : Manager) (id : Nat) : Prop
  | restarted (again : m.restarted = true)
  | cleanup (obligation : Cleanup) (held : m.cleanup = some obligation) (source : obligation.source = some id)
  | pending (operation : Pending) (held : m.pendingOperation = some operation) (mine : operation.id = id)
    (emitted : operation.emitted = true) (enabling : m.state = .enabling)

structure Standing (m : Manager) : Prop where
  enabling : m.state = .enabling → m.cleanup = none ∧ m.restarted = false ∧
    ∃ pending, m.pendingOperation = some pending ∧ pending.kind = .enable
  owner : m.mutexHeld = true → ∀ pending, m.pendingOperation = some pending → pending.kind = .enable → m.state = .enabling
  restarted : m.restarted = true → m.state = .disabled ∧ m.pendingOperation = none ∧ m.mutexHeld = false

def Hot (m : Manager) (acts : List Act) (id : Nat) : Prop :=
  (∃ frame ∈ m.frames, frame.kind = .enable ∧ frame.operation = id) ∨ ∃ act ∈ acts, act.sends = some (id,.enable)

structure Guarded (m : Manager) (acts : List Act) : Prop where
  standing : Standing m
  mintedPending : ∀ pending, m.pendingOperation = some pending → pending.id < m.minted
  mintedActs : ∀ act ∈ acts, ∀ id kind, act.operation = some (id,kind) → id < m.minted
  mintedFrames : ∀ frame ∈ m.frames, frame.operation < m.minted
  mintedWithdrawn : ∀ id ∈ m.withdrawn, id < m.minted
  kinds : ∀ act ∈ acts, ∀ id kind, act.operation = some (id,kind) →
    ∀ pending, m.pendingOperation = some pending → pending.id = id → pending.kind = kind
  once : (m.frames.map (·.operation) ++ acts.filterMap Act.silent).Nodup
  fenced : ∀ id, Hot m acts id → Fence m id
  one : ∀ id other, Hot m acts id → Hot m acts other → id = other
  kept : ∀ frame ∈ m.frames, frame.operation ∉ m.withdrawn
  allowed : ∀ act ∈ acts, ∀ id kind, act.sends = some (id,kind) → id ∉ m.withdrawn
  invalidated : ∀ pending, m.pendingOperation = some pending → pending.id ∈ m.withdrawn → pending.invalidated = true
  emitted : ∀ pending, m.pendingOperation = some pending →
    (∃ frame ∈ m.frames, frame.operation = pending.id) ∨
      (∃ act ∈ acts, ∃ kind, act.sends = some (pending.id,kind)) → pending.emitted = true

variable {act : Act}

theorem Act.silent_none (plain : act.operation = none) : act.silent = none := by
  cases act <;> first | rfl | cases plain

theorem Act.sends_operation {id : Nat} {kind : OperationKind} (sends : act.sends = some (id,kind)) :
    act.operation = some (id,kind) ∧ act.silent = some id := by
  cases act <;> cases sends
  exact ⟨rfl,rfl⟩

theorem Act.silent_operation {id : Nat} (silent : act.silent = some id) : ∃ kind, act.operation = some (id,kind) := by
  unfold Act.silent at silent
  split at silent
  · cases silent
  · cases silent
  · obtain ⟨⟨_,kind⟩,found,rfl⟩ := Option.map_eq_some_iff.mp silent
    exact ⟨kind,found⟩

def Inherits (m : Manager) (pending : Pending) : Prop :=
  ∃ before, m.pendingOperation = some before ∧ before.id = pending.id ∧ before.kind = pending.kind ∧
    before.emitted = pending.emitted ∧
    (before.invalidated = true → pending.invalidated = true)

structure Moves (m next : Manager) : Prop where
  minted : m.minted ≤ next.minted
  frames : next.frames = m.frames
  withdrawn : next.withdrawn = m.withdrawn
  pending : ∀ pending, next.pendingOperation = some pending → Inherits m pending ∨ pending.id = m.minted ∧ m.minted < next.minted

inductive Continues (m next : Manager) (act new : Act) : Prop
  | plain (none : new.operation = none)
  | same (operation : new.operation = act.operation) (silent : new.silent = act.silent)
  | fresh (kind : OperationKind) (operation : new.operation = some (m.minted,kind)) (room : m.minted < next.minted)
    (kinds : ∀ pending, next.pendingOperation = some pending → pending.id = m.minted → pending.kind = kind)

namespace Guarded
variable {m next : Manager} {act new : Act} {acts others : List Act}

theorem fewer (safe : Guarded m acts) (inside : others ⊆ acts)
    (once : (m.frames.map (·.operation) ++ others.filterMap Act.silent).Nodup) :
    Guarded m others := by
  have hot {id : Nat} (hot : Hot m others id) : Hot m acts id := hot.imp_right fun ⟨act,mem,sends⟩ => ⟨act,inside mem,sends⟩
  exact {safe with
    mintedActs := fun act mem => safe.mintedActs act (inside mem)
    kinds := fun act mem => safe.kinds act (inside mem)
    once := once
    fenced := fun id found => safe.fenced id (hot found)
    one := fun id other first second => safe.one id other (hot first) (hot second)
    allowed := fun act mem => safe.allowed act (inside mem)
    emitted := fun due held found => safe.emitted due held <| found.imp_right fun ⟨act,mem,sends⟩ => ⟨act,inside mem,sends⟩ }

theorem perm (same : acts.Perm others) (safe : Guarded m acts) : Guarded m others :=
  safe.fewer same.symm.subset (((same.filterMap _).append_left _).nodup_iff.mp safe.once)

theorem unused (safe : Guarded m acts) : m.minted ∉ m.frames.map (·.operation) ++ acts.filterMap Act.silent := by
  rw [mem_append,not_or]
  constructor
  · intro mem
    obtain ⟨frame,inside,same⟩ := mem_map.mp mem
    exact absurd (safe.mintedFrames frame inside) (same ▸ Nat.lt_irrefl _)
  · intro mem
    obtain ⟨act,inside,silent⟩ := mem_filterMap.mp mem
    obtain ⟨kind,op⟩ := Act.silent_operation silent
    exact Nat.lt_irrefl _ (safe.mintedActs act inside _ _ op)

theorem drop (safe : Guarded m (act :: others)) : Guarded m others :=
  safe.fewer (subset_cons_self _ _) (safe.once.sublist (List.Sublist.append_left ((sublist_cons_self act others).filterMap _) _))

theorem move (safe : Guarded m acts) (moves : Moves m next) (standing : Standing next)
    (fence : ∀ id, Hot m acts id → Fence m id → Fence next id) : Guarded next acts := by
  obtain ⟨minted,frames,withdrawn,due⟩ := moves
  have hot {id : Nat} (found : Hot next acts id) : Hot m acts id := by
    rw [Hot,frames] at found
    exact found
  exact {
    standing := standing
    mintedPending := fun op held => by
      rcases due op held with ⟨before,was,same,_⟩ | ⟨same,room⟩
      · exact same ▸ (safe.mintedPending before was).trans_le minted
      · exact same ▸ room
    mintedActs := fun act mem id kind op => (safe.mintedActs act mem id kind op).trans_le minted
    mintedFrames := fun frame mem => (safe.mintedFrames frame (frames ▸ mem)).trans_le minted
    mintedWithdrawn := fun id mem => (safe.mintedWithdrawn id (withdrawn ▸ mem)).trans_le minted
    kinds := fun act mem id kind op found held mine => by
      rcases due found held with ⟨before,was,same,kinds,_⟩ | ⟨same,_⟩
      · exact kinds ▸ safe.kinds act mem id kind op before was (same.trans mine)
      · exact absurd (safe.mintedActs act mem id kind op) (by omega)
    once := frames ▸ safe.once
    fenced := fun id found => fence id (hot found) (safe.fenced id (hot found))
    one := fun id other first second => safe.one id other (hot first) (hot second)
    kept := fun frame mem => withdrawn ▸ safe.kept frame (frames ▸ mem)
    allowed := fun act mem id kind sends => withdrawn ▸ safe.allowed act mem id kind sends
    invalidated := fun op held mem => by
      rcases due op held with ⟨before,was,same,_,_,stays⟩ | ⟨same,_⟩
      · exact stays (safe.invalidated before was (same ▸ withdrawn ▸ mem))
      · exact absurd (safe.mintedWithdrawn _ (withdrawn ▸ mem)) (by omega)
    emitted := fun op held found => by
      rcases due op held with ⟨before,was,same,_,emits,_⟩ | ⟨same,_⟩
      · rw [frames,← same] at found
        exact emits ▸ safe.emitted before was found
      · exfalso
        rcases found with ⟨frame,mem,mine⟩ | ⟨act,mem,kind,sends⟩
        · exact absurd (safe.mintedFrames frame (frames ▸ mem)) (by omega)
        · exact absurd (safe.mintedActs act mem _ _ (Act.sends_operation sends).1) (by omega) }

theorem go (safe : Guarded m (act :: others)) (moves : Moves m next) (standing : Standing next)
    (fence : ∀ id, Hot m (act :: others) id → Fence m id → Fence next id)
    (continues : Continues m next act new) (quiet : new.sends = none) :
    Guarded next (new :: others) := by
  have rest := safe.move moves standing fence
  have hot {id : Nat} (found : Hot next (new :: others) id) : Hot next (act :: others) id := by
    refine found.imp_right fun ⟨other,mem,sends⟩ => ⟨other,?_,sends⟩
    rcases mem_cons.mp mem with rfl | inside
    · cases quiet.symm.trans sends
    · exact mem_cons_of_mem _ inside
  have minted : ∀ id kind, new.operation = some (id,kind) → id < next.minted := by
    intro id kind op
    cases continues with
    | plain none => cases none.symm.trans op
    | same same => exact rest.mintedActs act mem_cons_self id kind (same.symm.trans op)
    | fresh _ found room =>
      cases found.symm.trans op
      exact room
  have kinds : ∀ id kind, new.operation = some (id,kind) →
      ∀ due, next.pendingOperation = some due → due.id = id → due.kind = kind := by
    intro id kind op
    cases continues with
    | plain none => cases none.symm.trans op
    | same same => exact rest.kinds act mem_cons_self id kind (same.symm.trans op)
    | fresh _ found _ kinds =>
      cases found.symm.trans op
      exact kinds
  have once : (next.frames.map (·.operation) ++ (new :: others).filterMap Act.silent).Nodup := by
    cases continues with
    | plain none =>
      rw [filterMap_cons_none (Act.silent_none none)]
      exact rest.drop.once
    | same _ same =>
      have once := rest.once
      rwa [filterMap_cons,← same,← filterMap_cons] at once
    | fresh kind op room =>
      cases silent : new.silent with
      | none =>
        rw [filterMap_cons_none silent]
        exact rest.drop.once
      | some id =>
        obtain ⟨_,found⟩ := Act.silent_operation silent
        cases found.symm.trans op
        rw [filterMap_cons_some silent,nodup_middle,nodup_cons,moves.frames]
        exact ⟨safe.drop.unused,moves.frames ▸ rest.drop.once⟩
  exact {rest with
    mintedActs := forall_mem_cons.mpr ⟨minted,rest.drop.mintedActs⟩
    kinds := forall_mem_cons.mpr ⟨kinds,rest.drop.kinds⟩
    once := once
    fenced := fun id found => rest.fenced id (hot found)
    one := fun id other first second => rest.one id other (hot first) (hot second)
    allowed := forall_mem_cons.mpr ⟨fun id kind sends => (nomatch quiet.symm.trans sends),rest.drop.allowed⟩
    emitted := fun due held found => rest.emitted due held <| found.imp_right fun ⟨other,mem,kind,sends⟩ => by
      rcases mem_cons.mp mem with rfl | inside
      · cases quiet.symm.trans sends
      · exact ⟨other,mem_cons_of_mem _ inside,kind,sends⟩ }

end Guarded

structure Settles (m next : Manager) : Prop extends Moves m next where
  state : next.state ≠ .enabling
  restarted : next.restarted = false
  cleanup : ∀ obligation, m.cleanup = some obligation → ∃ later, next.cleanup = some later ∧ later.source = obligation.source
  mutex : next.mutexHeld = true → m.mutexHeld = true
  kind : ∀ pending, next.pendingOperation = some pending → pending.kind = .enable →
    ∃ before, m.pendingOperation = some before ∧ before.kind = .enable

structure Tame (m : Manager) : Prop where
  state : m.state ≠ .enabling
  restarted : m.restarted = false

theorem Standing.running {m : Manager} {due : Pending} (standing : Standing m) (held : m.pendingOperation = some due) :
    m.restarted = false := by
  refine Bool.eq_false_iff.mpr fun again => ?_
  cases held.symm.trans (standing.restarted again).2.1

namespace Settles
variable {m next : Manager} {id : Nat}

theorem standing (settles : Settles m next) (tame : Tame m) (standing : Standing m) : Standing next := by
  refine ⟨fun enabling => absurd enabling settles.state,fun held due found kind => ?_,fun again => ?_⟩
  · obtain ⟨before,was,kind⟩ := settles.kind due found kind
    exact absurd (standing.owner (settles.mutex held) before was kind) tame.state
  · cases settles.restarted.symm.trans again

theorem fence (settles : Settles m next) (tame : Tame m) (fence : Fence m id) : Fence next id := by
  cases fence with
  | restarted again => cases tame.restarted.symm.trans again
  | cleanup obligation held source =>
    obtain ⟨later,now,same⟩ := settles.cleanup obligation held
    exact .cleanup later now (same.trans source)
  | pending op held mine emitted enabling => exact absurd enabling tame.state

end Settles

theorem Moves.refl (m : Manager) : Moves m m := ⟨le_rfl,rfl,rfl,fun due held => .inl ⟨due,held,rfl,rfl,rfl,id⟩⟩

namespace Guarded
variable {m next : Manager} {act new : Act} {others : List Act} (safe : Guarded m (act :: others))
include safe

theorem settle (tame : Tame m) (settles : Settles m next) (continues : Continues m next act new)
    (quiet : new.sends = none) : Guarded next (new :: others) :=
  safe.go settles.toMoves (settles.standing tame safe.standing) (fun _ _ => settles.fence tame) continues quiet

theorem stay (continues : Continues m m act new) (quiet : new.sends = none) : Guarded m (new :: others) :=
  safe.go (.refl m) safe.standing (fun _ _ fence => fence) continues quiet

end Guarded

structure Untouched (m next : Manager) : Prop where
  state : next.state = m.state
  pending : next.pendingOperation = m.pendingOperation
  sources : next.cleanup.map (·.source) = m.cleanup.map (·.source)
  mutex : next.mutexHeld = m.mutexHeld
  restarted : next.restarted = m.restarted
  minted : next.minted = m.minted
  frames : next.frames = m.frames
  withdrawn : next.withdrawn = m.withdrawn

namespace Untouched
variable {m next : Manager} {act new : Act} {others : List Act} {id : Nat} (untouched : Untouched m next)
include untouched

theorem moves : Moves m next :=
  ⟨untouched.minted.ge,untouched.frames,untouched.withdrawn,fun due held => .inl ⟨due,untouched.pending ▸ held,rfl,rfl,rfl,id⟩⟩

theorem cleanup {obligation : Cleanup} (held : m.cleanup = some obligation) :
    ∃ later, next.cleanup = some later ∧ later.source = obligation.source := by
  have sources := untouched.sources
  rw [held] at sources
  obtain ⟨later,now,same⟩ := Option.map_eq_some_iff.mp sources
  exact ⟨later,now,same⟩

theorem standing (standing : Standing m) : Standing next := by
  obtain ⟨state,due,sources,mutex,restarted,_⟩ := untouched
  refine ⟨fun enabling => ?_,fun held => ?_,fun again => ?_⟩
  · obtain ⟨none,running,held⟩ := standing.enabling (state ▸ enabling)
    refine ⟨?_,restarted.trans running,due ▸ held⟩
    rw [none] at sources
    exact Option.map_eq_none_iff.mp sources
  · rw [due,state]
    exact standing.owner (mutex ▸ held)
  · rw [due,state,mutex]
    exact standing.restarted (restarted ▸ again)

theorem fence (fence : Fence m id) : Fence next id := by
  cases fence with
  | restarted again => exact .restarted (untouched.restarted.trans again)
  | cleanup obligation held source =>
    obtain ⟨later,now,same⟩ := untouched.cleanup held
    exact .cleanup later now (same.trans source)
  | pending op held mine emitted enabling =>
    exact .pending op (untouched.pending.trans held) mine emitted (untouched.state.trans enabling)

theorem guarded (safe : Guarded m others) : Guarded next others :=
  safe.move untouched.moves (untouched.standing safe.standing) fun _ _ => untouched.fence

end Untouched

def Manager.view (m : Manager) : State × Option Pending × Option Cleanup × Bool × Bool × Nat × List Frame × List Nat :=
  (m.state,m.pendingOperation,m.cleanup,m.mutexHeld,m.restarted,m.minted,m.frames,m.withdrawn)

theorem Tame.settles {m : Manager} (tame : Tame m) : Settles m m :=
  ⟨.refl m,tame.state,tame.restarted,fun obligation held => ⟨obligation,held,rfl⟩,id,fun due held kind => ⟨due,held,kind⟩⟩

namespace Settles
variable {m next other : Manager} (settles : Settles m next) {due : Pending}
include settles

theorem of_view (same : other.view = next.view) : Settles m other := by
  simp only [Manager.view,Prod.mk.injEq] at same
  obtain ⟨state,due,cleanup,mutex,restarted,minted,frames,withdrawn⟩ := same
  refine ⟨⟨?_,?_,?_,?_⟩,?_,?_,?_,?_,?_⟩
  · exact minted ▸ settles.minted
  · exact frames.trans settles.frames
  · exact withdrawn.trans settles.withdrawn
  · rw [due,minted]
    exact settles.pending
  · exact state ▸ settles.state
  · exact restarted.trans settles.restarted
  · rw [cleanup]
    exact settles.cleanup
  · exact mutex ▸ settles.mutex
  · rw [due]
    exact settles.kind

theorem gone : Settles m {next with pendingOperation := none} :=
  {settles with pending := nofun, kind := nofun}

theorem turn (state : State) (other : state ≠ .enabling) : Settles m {next with state := state} :=
  {settles with state := other}

theorem free : Settles m {next with mutexHeld := false} :=
  {settles with mutex := nofun}

theorem toDisabled : Settles m next.toDisabled :=
  (settles.turn .disabled nofun).free.of_view rfl

theorem releaseOwner : Settles m next.releaseOwner := settles.free.of_view rfl

theorem armIdleTimer : Settles m next.armIdleTimer := by
  unfold Manager.armIdleTimer
  split
  · exact settles.of_view rfl
  · exact settles

theorem marked {mark : Cleanup → Cleanup} (source : ∀ obligation, (mark obligation).source = obligation.source) :
    Settles m {next with cleanup := next.cleanup.map mark} := by
  refine {settles with cleanup := fun obligation held => ?_}
  obtain ⟨later,now,same⟩ := settles.cleanup obligation held
  exact ⟨mark later,congrArg (Option.map mark) now,(source later).trans same⟩

theorem createCleanup {target : UInt8} {epoch : Nat} {source : Option Nat} : Settles m (next.createCleanup target epoch source) := by
  unfold Manager.createCleanup
  split
  · exact settles
  rename_i none
  refine {settles with
    minted := settles.minted.trans (Nat.le_succ _), pending := fun pending held => ?_
    state := nofun, cleanup := fun obligation held => ?_}
  · exact (settles.pending pending held).imp_right fun ⟨same,room⟩ => ⟨same,room.trans (Nat.lt_succ_self _)⟩
  · obtain ⟨later,now,_⟩ := settles.cleanup obligation held
    rw [now] at none
    exact absurd rfl none

theorem rehome (held : next.pendingOperation = some pending) (transport : TransportKey) :
    Settles m {next with pendingOperation := some {pending with transport := transport}} := by
  refine {settles with pending := ?_, kind := ?_}
  · rintro _ ⟨⟩
    exact settles.pending pending held
  · rintro _ ⟨⟩
    exact settles.kind pending held

theorem begin (id : pending.id = m.minted)
    (kind : pending.kind ≠ .enable) : Settles m {next with pendingOperation := some pending, minted := m.minted + 1} := by
  refine {settles with minted := Nat.le_succ _, pending := ?_, kind := ?_}
  · rintro _ ⟨⟩
    exact .inr ⟨id,Nat.lt_succ_self _⟩
  · rintro _ ⟨⟩ enable
    exact absurd enable kind

end Settles

end EbusGateway.B503
