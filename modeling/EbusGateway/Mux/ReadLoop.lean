import EbusGateway.Mux.Barrier

/-! Where the transport does not block, everything that selects a bid, handles an answer, grants or clears
is done by readLoop, which does one of these at a time.
-/
namespace EbusGateway.Mux
open Library List

inductive Role
  | selecting
  | answering
  | clearing
deriving DecidableEq

def Act.role : Act → Option Role
  | .onRawSymbol .. | .onLogicalReceived .. | .tryGrantAndStart .. | .callRequestStart .. | .failRequestStart .. => some .selecting
  | .snapshotResponse .. | .handleArbitrationResponse .. | .completeArbitrationGrant .. => some .answering
  | .resetState | .reconnectState => some .clearing
  | _ => none

def Act.calling : Act → Bool
  | .startBlocking .. | .callStartArbitration .. | .blockingStarted .. => true
  | _ => false

structure Reader (m : State) (name : Name) (code : List Act) : Prop where
  others : name ≠ .readLoop → ∀ act ∈ code, act.role = none
  role : ∃ role, ∀ act ∈ code, act.role = none ∨ act.role = some role
  closing : .closeState ∈ code → m.upstreamClosed = true ∨ code = closeCode

structure Loops (system : System) : Prop where
  other : system.shared.transport ≠ .blocking
  plain : ∀ act ∈ system.acts, act.calling = false
  shaped : system.Shaped sequential (Reader system.shared)

section Shapes
variable {cfg : Config} {choice : Choice} {m : State} {system next : System} {effect : Step}
    {name : Name} {act : Act} {rest : List Act} {event : Event} {label : Label}

theorem Pushes.calling_kept {new : Act} (pushes : Pushes m act new) (other : m.transport ≠ .blocking) (plain : act.calling = false) :
    new.calling = false := by
  cases pushes with
  | block _ _ blocking => exact absurd blocking other
  | blockingStart | blockingCall => cases plain
  | _ => rfl

theorem Pushes.role_kept {new : Act} (pushes : Pushes m act new) (plain : act.calling = false) :
    new.role = none ∨ new.role = act.role := by
  cases pushes with
  | request | requestFailed | handle | answerGrant | rawLogical | logicalGrant => exact .inr rfl
  | blockingGrant => cases plain
  | _ => exact .inl rfl

theorem handleArbitrationResponse_grants {snapshot : ResponseSnapshot} {data : UInt8} {answers : Nat} {pending : PendingStart}
    (ran : handleArbitrationResponse cfg choice m snapshot data answers = effect)
    (mem : .completeArbitrationGrant pending ∈ effect.acts) :
    ∃ p, effect.shared.pendingStart = some p ∧ p.responseReceived = true ∧ p.answeredAt = snapshot.item := by
  unfold handleArbitrationResponse at ran
  extract_lets cleared after at ran
  split at ran
  · simp [← ran,Effect.acts,after] at mem
  split at ran
  · simp [← ran,Effect.acts,after] at mem
  extract_lets request logged retired _ armed at ran
  split at ran
  · split at ran
    · split at ran <;> simp [← ran,Effect.acts,after] at mem
    · split at ran
      · simp [← ran,Effect.acts,after] at mem
      · rw [← ran]
        exact ⟨_,rfl,rfl,rfl⟩
  · split at ran <;> simp [← ran,Effect.acts,after] at mem

theorem Pushes.never_closes (pushes : Pushes m act .closeState) : False := by cases pushes

theorem perform_closed (found : perform cfg choice act m = some effect) (closed : m.upstreamClosed = true ∨ act = .closeUpstream) :
    effect.shared.upstreamClosed = true := by
  rcases closed with closed | rfl
  · have kept : ∀ later, Shift m.barrier act later → later.closed = true := by
      intro later shift
      cases shift with
      | close => rfl
      | _ => exact closed
    exact kept _ (perform_shift found)
  · cases found
    rfl

theorem Reader.perform (reader : Reader m name (act :: rest)) (plain : act.calling = false)
    (found : Mux.perform cfg choice act m = some effect) : Reader effect.shared name (effect.code ++ rest) := by
  have roles : ∀ new ∈ effect.code, new.role = none ∨ new.role = act.role :=
    fun new mem => (perform_pushes found (mem_append_left _ mem)).role_kept plain
  refine ⟨?_,?_,?_⟩
  · intro other new mem
    have silent := reader.others other
    rcases mem_append.mp mem with pushed | old
    · exact (roles new pushed).elim id fun same => same.trans (silent act mem_cons_self)
    · exact silent new (.tail _ old)
  · obtain ⟨role,all⟩ := reader.role
    refine ⟨role,fun new mem => ?_⟩
    rcases mem_append.mp mem with pushed | old
    · exact (roles new pushed).elim .inl fun same => same ▸ all act mem_cons_self
    · exact all new (.tail _ old)
  · intro mem
    refine .inl (perform_closed found ?_)
    rcases mem_append.mp mem with pushed | old
    · exact (perform_pushes found (mem_append_left _ pushed)).never_closes.elim
    · refine (reader.closing (.tail _ old)).imp_right fun code => ?_
      cases code
      rfl

theorem launch_reader (began : launch event m = some (effect,name)) : Reader effect.shared name effect.code := by
  have quiet : (∀ act ∈ effect.code, act.role = none) → .closeState ∉ effect.code → Reader effect.shared name effect.code :=
    fun silent open_ => ⟨fun _ => silent,⟨.selecting,fun act mem => .inl (silent act mem)⟩,fun closes => absurd closes open_⟩
  cases event
  all_goals simp only [launch] at began
  case symbol raw logical dropped =>
    cases began
    refine ⟨fun other => absurd rfl other,⟨.selecting,?_⟩,?_⟩
    · unfold symbolCode
      split
      · simp [Act.role]
      · split <;> simp [Act.role]
    · unfold symbolCode
      split
      · simp
      · split <;> simp
  case response started data answers =>
    cases began
    exact ⟨fun other => absurd rfl other,⟨.answering,by simp [Act.role]⟩,by simp⟩
  case resetted answersLater =>
    cases began
    exact ⟨fun other => absurd rfl other,⟨.clearing,by simp [handleReset,Act.role]⟩,by simp [handleReset]⟩
  case disconnected =>
    cases began
    exact ⟨fun other => absurd rfl other,⟨.clearing,by simp [reconnect,Act.role]⟩,by simp [reconnect]⟩
  case close =>
    split at began
    · cases began
    · cases began
      exact ⟨fun _ => by simp [closeCode,Act.role],⟨.clearing,by simp [closeCode,Act.role]⟩,fun _ => .inr rfl⟩
  all_goals try split at began
  all_goals cases began
  all_goals exact quiet (by simp [cancelCode,Act.role]) (by simp [cancelCode])

theorem step_readers (loops : Loops system) (ran : step cfg system label = some next) :
    next.Shaped sequential (Reader next.shared) := by
  refine @Machine.shaped_step _ _ _ _ _ _ (program cfg) system next label Reader ?_ ?_ loops.shaped ran
  · intro event effect name _ began
    refine ⟨launch_reader began,?_,?_⟩
    · rw [(launch_book began).1]
      exact nofun
    · intro thread _ _ before
      have closed : effect.shared.upstreamClosed = system.shared.upstreamClosed := congrArg Barrier.closed (launch_barrier began)
      exact ⟨before.others,before.role,closed ▸ before.closing⟩
  · intro choice act rest effect name _ mem found
    have plain : act.calling = false := loops.plain act (mem_flatMap.mpr ⟨_,mem,.head _⟩)
    refine ⟨(loops.shaped.shapes _ mem).perform plain found,?_,?_⟩
    · intro thread forked
      rcases perform_forks found forked with ⟨session,waiter,rfl⟩ | ⟨selection,gen,rfl⟩
      all_goals exact ⟨⟨fun _ => by simp [Act.role],⟨.selecting,by simp [Act.role]⟩,by simp⟩,rfl⟩
    · intro thread _ _ before
      exact ⟨before.others,before.role,fun closes => (before.closing closes).imp_left fun closed =>
        perform_closed found (.inl closed)⟩

theorem launch_plain (began : launch event m = some (effect,name)) : ∀ new ∈ effect.acts, new.calling = false := by
  cases event
  all_goals simp only [launch] at began
  case symbol raw logical dropped =>
    cases began
    simp only [Effect.acts_code]
    unfold symbolCode
    split
    · simp [Act.calling]
    · split <;> simp [Act.calling]
  all_goals try split at began
  all_goals cases began
  all_goals simp [Effect.acts,cancelCode,closeCode,handleReset,reconnect,Act.calling]

theorem step_loops (loops : Loops system) (ran : step cfg system label = some next) : Loops next := by
  have kept : next.shared.transport ≠ .blocking ∧ ∀ act ∈ next.acts, act.calling = false := by
    refine Machine.acts_step (fun shared acts => shared.transport ≠ .blocking ∧ ∀ act ∈ acts, act.calling = false) ?_ ?_ ?_
      ⟨loops.other,loops.plain⟩ ran
    · intro shared first second same ⟨other,plain⟩
      exact ⟨other,fun act mem => plain act (same.mem_iff.mpr mem)⟩
    · intro event effect name _ began
      have same : effect.shared.transport = system.shared.transport := congrArg Barrier.transport (launch_barrier began)
      refine ⟨same ▸ loops.other,fun act mem => ?_⟩
      exact (mem_append.mp mem).elim (launch_plain began act) (loops.plain act)
    · intro choice act others effect _ _ _ ⟨other,plain⟩ found
      have same : effect.shared.transport = system.shared.transport := (perform_shift found).transport
      refine ⟨same ▸ other,fun new mem => ?_⟩
      rcases mem_append.mp mem with pushed | old
      · exact (perform_pushes found pushed).calling_kept other (plain act mem_cons_self)
      · exact plain new (.tail _ old)
  exact ⟨kept.1,kept.2,step_readers loops ran⟩

theorem loops_initially {transport : Transport} (other : transport ≠ .blocking) : Loops (initially transport) :=
  ⟨other,forall_mem_nil _,forall_mem_nil _,List.Pairwise.nil⟩

theorem readers_agree (loops : Loops system) :
    ∀ first ∈ system.acts, ∀ second ∈ system.acts, ∀ mine theirs, first.role = some mine →
      second.role = some theirs → theirs = mine := by
  intro first mem second inside mine theirs own other
  obtain ⟨one,oneIn,oneCode⟩ := mem_flatMap.mp mem
  obtain ⟨two,twoIn,twoCode⟩ := mem_flatMap.mp inside
  have reads : ∀ thread ∈ system.threads, ∀ act ∈ thread.code, ∀ role, act.role = some role → thread.name = .readLoop := by
    intro thread present act code role has
    by_contra otherwise
    cases has.symm.trans ((loops.shaped.shapes thread present).others otherwise act code)
  have oneName := reads one oneIn first oneCode mine own
  have twoName := reads two twoIn second twoCode theirs other
  have same : one = two := loops.shaped.alone oneIn twoIn (oneName.trans twoName.symm) (by rw [oneName]; rfl)
  subst same
  obtain ⟨role,all⟩ := (loops.shaped.shapes one oneIn).role
  have mineRole := (all first oneCode).resolve_left (by simp [own])
  have theirsRole := (all second twoCode).resolve_left (by simp [other])
  exact (Option.some.inj (other.symm.trans theirsRole)).trans (Option.some.inj (own.symm.trans mineRole)).symm

theorem closing_closed (loops : Loops system)
    (performs : system.performs label = some .closeState) :
    system.shared.upstreamClosed = true := by
  obtain ⟨name,rest,mem⟩ := Machine.performs_mem performs
  rcases (loops.shaped.shapes _ mem).closing mem_cons_self with closed | code
  · exact closed
  · cases code

end Shapes

end EbusGateway.Mux
