import EbusGateway.Mux.ReadLoop

/-! Answers of the adapter carry no request identity. A request withdrawn before its answer leaves one
answer to absorb, and nothing is selected before it has passed.
-/
namespace EbusGateway.Mux
open Library List

structure Counted (b : Barrier) : Prop where
  one : b.absorb ≤ 1
  passed : b.selected.isSome = true → b.absorb = 0

theorem Counted.shift {b later : Barrier} {act : Act} (counted : Counted b) (shift : Shift b act later) : Counted later := by
  obtain ⟨one,passed⟩ := counted
  cases shift with
  | keep => exact ⟨one,passed⟩
  | absorbed _ consuming => exact ⟨(Nat.sub_le _ _).trans one,fun some_ => by simp [passed some_]⟩
  | retire _ won => exact ⟨by simp [passed won],nofun⟩
  | drop => exact ⟨one,nofun⟩
  | answered => exact ⟨one,nofun⟩
  | granted => exact ⟨one,nofun⟩
  | clear => exact ⟨Nat.zero_le 1,nofun⟩
  | reset => exact ⟨Nat.zero_le 1,fun _ => rfl⟩
  | select bids id free zero => exact ⟨one,fun _ => zero⟩
  | call => exact ⟨one,passed⟩
  | applies _ _ _ id received won absorb found zero outcome =>
    rcases outcome with ⟨rfl,bound⟩ | ⟨rfl,rfl⟩
    · exact ⟨bound,nofun⟩
    · exact ⟨Nat.zero_le 1,fun _ => rfl⟩
  | started _ _ id received found => exact ⟨one,fun _ => passed (by rw [found]; rfl)⟩
  | close => exact ⟨one,passed⟩

def Act.requests : Act → List Nat
  | .callRequestStart selection | .failRequestStart selection _ => [selection.request.id]
  | _ => []

def Act.answers : Act → List Nat
  | .snapshotResponse _ _ answers | .handleArbitrationResponse _ _ answers => [answers]
  | _ => []

def due (closed : Bool) (outstanding : List Nat) (acts : List Act) : List Nat :=
  (if closed then [] else outstanding ++ acts.flatMap Act.requests) ++ acts.flatMap Act.answers

def Barrier.due (b : Barrier) (acts : List Act) : List Nat := Mux.due b.closed b.outstanding acts

def Act.forwarding : Act → Bool
  | .tryGrantAndStart .. | .callRequestStart .. | .snapshotResponse .. => true
  | _ => false

structure Awaited (b : Barrier) (acts : List Act) : Prop where
  requester : b.transport = .requester
  plain : ∀ act ∈ acts, act.blocking = false
  single : (b.due acts).length ≤ 1
  matched : ∀ id ∈ b.due acts, b.selected = some (id,false) ∨ b.selected = none ∧ (b.closed = true ∨ b.absorb = 1)
  received : ∀ pending, .completeArbitrationGrant pending ∈ acts → ∀ id received, b.selected = some (id,received) → received = true
  cleared : ∀ act ∈ acts, act.role = some .clearing → b.outstanding = []
  ended : b.closed = true → b.outstanding = []
  applied : ∀ pair ∈ b.applied, pair.1 = pair.2

section Due
variable {b : Barrier} {act : Act} {acts others pushed : List Act}

theorem due_perm {first second : List Act} (same : first.Perm second) : (b.due first).Perm (b.due second) := by
  unfold Barrier.due due
  refine List.Perm.append ?_ (same.flatMap_right _)
  split
  · exact .refl _
  · exact (same.flatMap_right _).append_left _

theorem due_sublist (b : Barrier) (act : Act) (others : List Act) : (b.due others).Sublist (b.due (act :: others)) := by
  unfold Barrier.due due
  simp only [flatMap_cons]
  refine List.Sublist.append ?_ (sublist_append_right _ _)
  split
  · exact .refl _
  · exact (sublist_append_right _ _).append_left _

theorem due_silent (b : Barrier) (others : List Act) (silent : ∀ act ∈ pushed, act.requests = [] ∧ act.answers = []) :
    b.due (pushed ++ others) = b.due others := by
  have requests : pushed.flatMap Act.requests = [] := flatMap_eq_nil_iff.mpr fun act mem => (silent act mem).1
  have answers : pushed.flatMap Act.answers = [] := flatMap_eq_nil_iff.mpr fun act mem => (silent act mem).2
  simp [Barrier.due,due,requests,answers]

theorem due_length (b : Barrier) (act : Act) (others : List Act) : (b.due (act :: others)).length =
      (b.due others).length + (if b.closed then 0 else act.requests.length) + act.answers.length := by
  unfold Barrier.due due
  split <;> simp <;> omega

theorem mem_due_cons {id : Nat} : id ∈ b.due (act :: others) ↔ id ∈ b.due others ∨
    b.closed = false ∧ id ∈ act.requests ∨ id ∈ act.answers := by
  cases closed : b.closed <;> simp only [Barrier.due,due,closed,flatMap_cons,mem_append] <;> grind

theorem due_consumed (single : (b.due (act :: others)).length ≤ 1)
    (consumes : act.answers ≠ [] ∨ b.closed = false ∧ act.requests ≠ []) : b.due others = [] := by
  rw [due_length] at single
  rcases consumes with answers | ⟨live,requests⟩
  · have positive := length_pos_iff.mpr answers
    exact length_eq_zero_iff.mp (by omega)
  · have positive := length_pos_iff.mpr requests
    simp only [live,Bool.false_eq_true,if_false] at single
    exact length_eq_zero_iff.mp (by omega)

theorem answers_role (answers : act.answers ≠ []) : act.role = some .answering := by
  cases act with
  | snapshotResponse | handleArbitrationResponse => rfl
  | _ => exact absurd rfl answers

theorem requests_role (requests : act.requests ≠ []) : act.role = some .selecting := by
  cases act with
  | callRequestStart | failRequestStart => rfl
  | _ => exact absurd rfl requests

theorem due_idle (outstanding : b.outstanding = []) (idle : ∀ act ∈ acts, act.role ≠ some .selecting ∧ act.role ≠ some .answering) :
    b.due acts = [] := by
  have requests : acts.flatMap Act.requests = [] := by
    refine flatMap_eq_nil_iff.mpr fun act mem => ?_
    by_contra some_
    exact (idle act mem).1 (requests_role some_)
  have answers : acts.flatMap Act.answers = [] := by
    refine flatMap_eq_nil_iff.mpr fun act mem => ?_
    by_contra some_
    exact (idle act mem).2 (answers_role some_)
  simp [Barrier.due,due,outstanding,requests,answers]

end Due

namespace Awaited
variable {b later : Barrier} {act : Act} {others pushed : List Act} {selection : Selection}

theorem fewer {first second : List Act} (awaited : Awaited b first) (inside : second ⊆ first)
    (due : (b.due second).Subperm (b.due first)) :
    Awaited b second := {awaited with
  plain act mem := awaited.plain act (inside mem)
  single := due.length_le.trans awaited.single
  matched id mem := awaited.matched id (due.subset mem)
  received pending mem := awaited.received pending (inside mem)
  cleared act mem := awaited.cleared act (inside mem)}

theorem perm {first second : List Act} (same : first.Perm second) (awaited : Awaited b first) : Awaited b second :=
  awaited.fewer same.symm.subset (due_perm same).symm.subperm

theorem tail (awaited : Awaited b (act :: others)) : Awaited b others :=
  awaited.fewer (subset_cons_self _ _) (due_sublist b act others).subperm

theorem push (awaited : Awaited b others) (silent : ∀ new ∈ pushed, new.requests = [] ∧ new.answers = [] ∧ new.blocking = false ∧
      (new.role = some .clearing → b.outstanding = []))
    (grants : ∀ due, .completeArbitrationGrant due ∈ pushed → ∀ id received, b.selected = some (id,received) → received = true) :
    Awaited b (pushed ++ others) := by
  have same : b.due (pushed ++ others) = b.due others := due_silent b others fun new mem => ⟨(silent new mem).1,(silent new mem).2.1⟩
  refine ⟨awaited.requester,?_,?_,?_,?_,?_,awaited.ended,awaited.applied⟩
  · intro other mem
    exact (mem_append.mp mem).elim (fun new => (silent other new).2.2.1) (awaited.plain other)
  · rw [same]
    exact awaited.single
  · rw [same]
    exact awaited.matched
  · intro due mem
    exact (mem_append.mp mem).elim (grants due) (awaited.received due)
  · intro other mem
    exact (mem_append.mp mem).elim (fun new => (silent other new).2.2.2) (awaited.cleared other)

theorem consumed (awaited : Awaited b (act :: others)) (consuming : act.consuming = true) : b.due others = [] ∨ b.closed = true := by
  have plain := awaited.plain act mem_cons_self
  cases act
  case failRequestStart selection err =>
    cases closed : b.closed with
    | true => exact .inr rfl
    | false => exact .inl (due_consumed awaited.single (.inr ⟨closed,by simp [Act.requests]⟩))
  case handleArbitrationResponse snapshot data answers =>
    exact .inl (due_consumed awaited.single (.inl (by simp [Act.answers])))
  all_goals exact clash consuming plain

theorem unselect (awaited : Awaited b others) (absorb : Nat)
    (matched : ∀ id ∈ b.due others, b.closed = true ∨ absorb = 1) :
    Awaited {b with selected := none, absorb := absorb} others := {awaited with
  matched id mem := .inr ⟨rfl,matched id mem⟩
  received _ _ _ _ found := by cases found}

theorem shift (awaited : Awaited b (act :: others)) (counted : Counted b)
    (shift : Shift b act later) (forwarding : act.forwarding = false)
    (agree : ∀ other ∈ others, ∀ mine theirs, act.role = some mine → other.role = some theirs → theirs = mine)
    (closing : act = .closeState → b.closed = true)
    (kept : act = .fireAbsorbReset → later.absorb = b.absorb) : Awaited later others := by
  have rest := awaited.tail
  cases shift with
  | keep => exact rest
  | absorbed _ consuming =>
    refine {rest with matched := ?_}
    intro id (mem : id ∈ b.due others)
    rcases awaited.consumed consuming with none_ | closed
    · cases none_ ▸ mem
    · exact (rest.matched id mem).imp_right fun ⟨free,_⟩ => ⟨free,.inl closed⟩
  | retire _ won => exact rest.unselect _ fun _ _ => .inr (by rw [counted.passed won])
  | drop _ consuming =>
    refine rest.unselect b.absorb fun id mem => .inl ?_
    rcases awaited.consumed consuming with none_ | closed
    · cases none_ ▸ mem
    · exact closed
  | answered session id won =>
    refine rest.unselect b.absorb fun id mem => ?_
    rcases rest.matched id mem with other | ⟨free,held⟩
    · simp [won] at other
    · exact held
  | granted pending =>
    refine rest.unselect b.absorb fun id mem => ?_
    rcases rest.matched id mem with won | ⟨free,held⟩
    · cases awaited.received pending mem_cons_self id false won
    · exact held
  | clear _ clearing =>
    refine rest.unselect 0 fun id mem => .inl ?_
    by_cases close : act = .closeState
    · exact closing close
    have role : act.role = some .clearing := by
      rcases clearing with rfl | rfl | rfl
      · rfl
      · rfl
      · exact absurd rfl close
    have outstanding := awaited.cleared act mem_cons_self role
    have idle : ∀ other ∈ others, other.role ≠ some .selecting ∧ other.role ≠ some .answering := by
      intro other inside
      constructor <;>
      · intro theirs
        cases agree other inside _ _ role theirs
    cases due_idle outstanding idle ▸ mem
  | reset positive => exact absurd (kept rfl).symm (Nat.ne_of_gt positive)
  | select => cases forwarding
  | call => cases forwarding
  | applies snapshot data answers id received won absorb found passed outcome =>
    have none_ : b.due others = [] := due_consumed awaited.single (.inl (by simp [Act.answers]))
    refine {rest with matched := ?_, received := ?_, applied := ?_}
    · intro other (mem : other ∈ b.due others)
      cases none_ ▸ mem
    · intro _ _ other flag selected_
      rcases outcome with ⟨rfl,_⟩ | ⟨rfl,_⟩
      · cases selected_
      · cases selected_
        rfl
    · intro pair mem
      rcases mem_append.mp mem with old | new
      · exact rest.applied pair old
      cases mem_singleton.mp new
      have mine : answers ∈ b.due (.handleArbitrationResponse snapshot data answers :: others) := by
        simp [Barrier.due,due,Act.answers]
      rcases awaited.matched answers mine with selected_ | ⟨free,_⟩
      · cases found.symm.trans selected_
        rfl
      · cases found.symm.trans free
  | started => cases awaited.plain _ mem_cons_self
  | close =>
    have fewer : Barrier.due {b with outstanding := [], closed := true} others ⊆ b.due others := by
      intro id mem
      exact mem_append_right _ (by simpa [Barrier.due,due] using mem)
    refine {rest with single := ?_, matched := ?_, cleared := fun _ _ _ => rfl, ended := fun _ => rfl}
    · refine Nat.le_trans ?_ rest.single
      simp [Barrier.due,due]
    · intro id mem
      exact (rest.matched id (fewer mem)).imp_right fun ⟨free,_⟩ => ⟨free,.inl rfl⟩

theorem forward (awaited : Awaited b (act :: others)) (requests : pushed.flatMap Act.requests = act.requests)
    (answers : pushed.flatMap Act.answers = act.answers)
    (quiet : ∀ new ∈ pushed, new.blocking = false ∧ new.role ≠ some .clearing ∧ ∀ pending, new ≠ .completeArbitrationGrant pending) :
    Awaited b (pushed ++ others) := by
  have same : b.due (pushed ++ others) = b.due (act :: others) := by
    simp [Barrier.due,due,requests,answers]
  have rest := awaited.tail
  refine ⟨awaited.requester,?_,?_,?_,?_,?_,awaited.ended,awaited.applied⟩
  · intro other mem
    exact (mem_append.mp mem).elim (fun new => (quiet other new).1) (rest.plain other)
  · rw [same]
    exact awaited.single
  · rw [same]
    exact awaited.matched
  · intro pending mem
    exact (mem_append.mp mem).elim (fun new => absurd rfl ((quiet _ new).2.2 pending)) (rest.received pending)
  · intro other mem clearing
    exact (mem_append.mp mem).elim (fun new => absurd clearing (quiet other new).2.1) fun old => rest.cleared other old clearing

theorem select {bids : Option Bids} (awaited : Awaited b (.tryGrantAndStart bids :: others))
    (free : b.selected = none) (passed : b.absorb = 0)
    (agree : ∀ other ∈ others, ∀ theirs, other.role = some theirs → theirs = .selecting) :
    Awaited {b with selected := some (selection.request.id,false)} (.callRequestStart selection :: others) := by
  have rest := awaited.tail
  have none_ : b.due others = [] := by
    refine eq_nil_iff_forall_not_mem.mpr fun id mem => ?_
    rcases rest.matched id mem with selected | ⟨_,closed | absorb⟩
    · cases free.symm.trans selected
    · simp only [Barrier.due,due,closed,if_true,nil_append,mem_flatMap] at mem
      obtain ⟨other,inside,answer⟩ := mem
      cases agree other inside _ (answers_role (ne_nil_of_mem answer))
    · cases passed.symm.trans absorb
  have only : ∀ id ∈ b.due (.callRequestStart selection :: others), id = selection.request.id := by
    intro id mem
    rw [mem_due_cons,none_] at mem
    rcases mem with nothing | ⟨_,mine⟩ | nothing
    · cases nothing
    · exact mem_singleton.mp mine
    · cases nothing
  refine ⟨rest.requester,?_,?_,?_,?_,?_,rest.ended,rest.applied⟩
  · exact forall_mem_cons.mpr ⟨rfl,rest.plain⟩
  · show (b.due _).length ≤ 1
    rw [due_length,none_]
    split <;> simp [Act.requests,Act.answers]
  · intro id mem
    exact .inl (by rw [only id mem])
  · intro pending mem
    have inside := (mem_cons.mp mem).resolve_left nofun
    cases agree _ inside .answering rfl
  · intro other mem clearing
    rcases mem_cons.mp mem with rfl | inside
    · cases clearing
    · exact rest.cleared other inside clearing

theorem call (awaited : Awaited b (.callRequestStart selection :: others)) (live : b.closed = false)
    (agree : ∀ other ∈ others, ∀ theirs, other.role = some theirs → theirs = .selecting) :
    Awaited {b with outstanding := b.outstanding ++ [selection.request.id]} others := by
  have rest := awaited.tail
  have same : Barrier.due {b with outstanding := b.outstanding ++ [selection.request.id]} others =
      b.due (.callRequestStart selection :: others) := by
    simp [Barrier.due,due,live,Act.requests,Act.answers]
  refine ⟨rest.requester,rest.plain,?_,?_,rest.received,?_,?_,rest.applied⟩
  · rw [same]
    exact awaited.single
  · rw [same]
    exact awaited.matched
  · intro other inside clearing
    cases agree other inside _ clearing
  · intro closed
    cases live.symm.trans closed

theorem forget (awaited : Awaited b others) : Awaited {b with outstanding := []} others := by
  have fewer : (Barrier.due {b with outstanding := []} others).Sublist (b.due others) := by
    unfold Barrier.due due
    refine List.Sublist.append_right ?_ _
    split
    · exact .refl _
    · exact sublist_append_right _ _
  refine {awaited with
    single := fewer.length_le.trans awaited.single, matched := ?_, cleared := fun _ _ _ => rfl, ended := fun _ => rfl}
  exact fun id mem => awaited.matched id (fewer.subset mem)

theorem answer {answers : Nat} (pushed : List Act) (awaited : Awaited b others) (asked : answers ∈ b.outstanding)
    (quiet : ∀ new ∈ pushed, new.requests = [] ∧ new.blocking = false ∧ new.role ≠ some .clearing ∧
      ∀ pending, new ≠ .completeArbitrationGrant pending) (carried : pushed.flatMap Act.answers = [answers]) :
    b.outstanding = [answers] ∧ Awaited {b with outstanding := []} (pushed ++ others) := by
  have live : b.closed = false := by
    cases closed : b.closed with
    | false => rfl
    | true => exact absurd asked (by simp [awaited.ended closed])
  have single := awaited.single
  have positive := length_pos_of_mem asked
  simp only [Barrier.due,due,live,Bool.false_eq_true,if_false,length_append] at single
  have requests : others.flatMap Act.requests = [] := length_eq_zero_iff.mp (by omega)
  have answered : others.flatMap Act.answers = [] := length_eq_zero_iff.mp (by omega)
  have outstanding : b.outstanding = [answers] := by
    obtain ⟨only,equal⟩ := length_eq_one_iff.mp (show b.outstanding.length = 1 by omega)
    rw [equal] at asked
    rw [equal,mem_singleton.mp asked]
  have none_ : pushed.flatMap Act.requests = [] := flatMap_eq_nil_iff.mpr fun new mem => (quiet new mem).1
  have same : Barrier.due {b with outstanding := []} (pushed ++ others) = b.due others := by
    simp [Barrier.due,due,live,requests,answered,none_,carried,outstanding]
  refine ⟨outstanding,awaited.requester,?_,?_,?_,?_,fun _ _ _ => rfl,fun _ => rfl,awaited.applied⟩
  · intro other mem
    exact (mem_append.mp mem).elim (fun new => (quiet other new).2.1) (awaited.plain other)
  · rw [same]
    exact awaited.single
  · rw [same]
    exact awaited.matched
  · intro pending mem
    exact (mem_append.mp mem).elim (fun new => absurd rfl ((quiet _ new).2.2.2 pending)) (awaited.received pending)

end Awaited

section Actions
variable {cfg : Config} {choice : Choice} {m : State} {effect : Step} {act new : Act} {others : List Act}

theorem Pushes.nonblocking (pushes : Pushes m act new) (requester : m.transport = .requester) (plain : act.blocking = false) :
    new.blocking = false := by
  cases pushes with
  | block _ _ blocking => cases requester.symm.trans blocking
  | unsupported _ _ unsupported => cases requester.symm.trans unsupported
  | blockingFail | blockingStart | closing | blockingCall => cases plain
  | _ => rfl

theorem Pushes.silent (pushes : Pushes m act new) (forwarding : act.forwarding = false) :
    new.requests = [] ∧ new.answers = [] ∧ new.role ≠ some .clearing := by
  cases pushes with
  | request | requestFailed | handle => cases forwarding
  | _ => exact ⟨rfl,rfl,nofun⟩

theorem perform_grants {due : PendingStart} (plain : act.blocking = false) (found : perform cfg choice act m = some effect)
    (mem : .completeArbitrationGrant due ∈ effect.acts) {id : Nat} {received : Bool}
    (won : effect.shared.barrier.selected = some (id,received)) : received = true := by
  cases perform_pushes found mem with
  | blockingGrant => cases plain
  | answerGrant snapshot data answers =>
    obtain ⟨p,pendingStart,answered,_⟩ := handleArbitrationResponse_grants (Option.some.inj found) mem
    cases (selected_some pendingStart).symm.trans won
    exact answered

theorem perform_awaited (awaited : Awaited m.barrier (act :: others)) (counted : Counted m.barrier)
    (agree : ∀ other ∈ others, ∀ mine theirs, act.role = some mine → other.role = some theirs → theirs = mine)
    (closing : act = .closeState → m.upstreamClosed = true)
    (kept : act = .fireAbsorbReset → effect.shared.barrier.absorb = m.barrier.absorb)
    (found : perform cfg choice act m = some effect) : Awaited effect.shared.barrier (effect.acts ++ others) := by
  have requester : m.transport = .requester := awaited.requester
  have plain := awaited.plain act mem_cons_self
  cases forwarding : act.forwarding with
  | false =>
    refine (awaited.shift counted (perform_shift found) forwarding agree closing kept).push ?_ ?_
    · intro new mem
      have pushes := perform_pushes found mem
      obtain ⟨requests,answers,role⟩ := pushes.silent forwarding
      exact ⟨requests,answers,pushes.nonblocking requester plain,fun clearing => absurd clearing role⟩
    · intro due mem id received
      exact perform_grants plain found mem
  | true =>
    cases act
    case tryGrantAndStart bids =>
      cases found
      rcases tryGrantAndStart_barrier choice m bids with ⟨nothing,same⟩ | ⟨selection,acts,free,passed,won⟩
      · rw [nothing,same]
        exact awaited.tail
      · rw [acts,requester,won]
        exact awaited.select free passed fun other inside theirs => agree other inside _ theirs rfl
    case callRequestStart selection =>
      cases found
      unfold callRequestStart
      split
      · rename_i accepted
        have live : m.upstreamClosed = false := by
          cases closed : m.upstreamClosed with
          | false => rfl
          | true => simp [closed] at accepted
        refine (awaited.call live fun other inside theirs => agree other inside _ theirs rfl).push ?_ ?_
        · simp [Effect.acts,Act.requests,Act.answers,Act.blocking,Act.role]
        · simp [Effect.acts]
      · exact awaited.forward rfl rfl (by simp [Effect.acts,Act.blocking,Act.role])
    case snapshotResponse started data answers =>
      cases found
      exact awaited.forward rfl rfl (by simp [Effect.acts,snapshotResponse,Act.blocking,Act.role])
    all_goals cases forwarding

end Actions

def Event.answering : Event → Bool
  | .response .. | .resetted .. | .disconnected => true
  | _ => false

/-- The adapter as it is assumed to be: it answers a forwarded request at most once and in order, and none
from before a RESETTED. -/
def orderlyEvent (m : State) : Event → Bool
  | .response _ _ answers => m.outstanding.contains answers
  | .resetted answersLater => !answersLater
  | _ => true

def keepsAbsorb (choice : Choice) (m : State) : Act → Bool
  | .fireAbsorbReset => m.pendingStartAbsorb = 0 || m.pendingAbsorbResetDueAt.any (choice.now < ·)
  | _ => true

def orderly (system : System) : Label → Bool
  | .start event => orderlyEvent system.shared event
  | .run index choice => (system.performs (.run index choice : Label)).all (keepsAbsorb choice system.shared)

def Orderly (system : System) (label : Label) : Prop := orderly system label = true

instance (system : System) (label : Label) : Decidable (Orderly system label) :=
  inferInstanceAs (Decidable (orderly system label = true))

section Launch
variable {m : State} {effect : Step} {name : Name} {event : Event} {acts : List Act}

theorem launch_silent (began : launch event m = some (effect,name)) (ordinary : event.answering = false) :
    effect.shared.outstanding = m.outstanding ∧ ∀ new ∈ effect.acts, new.requests = [] ∧ new.answers = [] ∧
      new.blocking = false ∧ ∀ role, new.role = some role → role = .selecting := by
  have silent : effect.shared.outstanding = m.outstanding ∧ effect.acts.all (fun new =>
      new.requests.isEmpty && (new.answers.isEmpty && (!new.blocking && new.role.all (· = .selecting)))) = true := by
    cases event
    all_goals simp only [Event.answering,Bool.true_eq_false] at ordinary
    all_goals simp only [launch] at began
    case symbol raw logical dropped =>
      cases began
      refine ⟨rfl,?_⟩
      simp only [Effect.acts_code]
      unfold symbolCode
      split
      · rfl
      · split <;> rfl
    all_goals try split at began
    all_goals cases began
    all_goals exact ⟨rfl,rfl⟩
  simpa only [all_eq_true,Bool.and_eq_true,List.isEmpty_iff,Bool.not_eq_true',Option.all_eq_true,decide_eq_true_eq] using silent

theorem launch_awaited (awaited : Awaited m.barrier acts) (legal : orderlyEvent m event = true)
    (began : launch event m = some (effect,name)) : Awaited effect.shared.barrier (effect.acts ++ acts) := by
  rw [launch_barrier began]
  cases ordinary : event.answering with
  | false =>
    obtain ⟨same,silent⟩ := launch_silent began ordinary
    rw [same]
    refine awaited.push ?_ ?_
    · intro new mem
      obtain ⟨requests,answers,plain,role⟩ := silent new mem
      exact ⟨requests,answers,plain,fun clearing => by cases role _ clearing⟩
    · intro due mem
      cases (silent _ mem).2.2.2 _ rfl
  | true =>
    cases event
    case response started data answers =>
      cases began
      have asked : answers ∈ m.outstanding := contains_iff_mem.mp legal
      obtain ⟨outstanding,onward⟩ :=
        awaited.answer [.reconcileArbitrationClassifier false,
          .snapshotResponse started data answers] asked
        (by simp [Act.requests,Act.blocking,Act.role]) rfl
      have gone : (m.observe.answer answers).outstanding = [] := by
        have only : m.observe.outstanding = [answers] := outstanding
        simp [State.answer,only]
      rw [gone]
      exact onward
    case resetted answersLater =>
      cases answersLater with
      | true => cases legal
      | false =>
        cases began
        refine awaited.forget.push ?_ ?_
        · simp [Effect.acts,handleReset,Act.requests,Act.answers,Act.blocking]
        · simp [Effect.acts,handleReset]
    case disconnected =>
      cases began
      refine awaited.forget.push ?_ ?_
      · simp [Effect.acts,reconnect,Act.requests,Act.answers,Act.blocking]
      · simp [Effect.acts,reconnect]
    all_goals cases ordinary

end Launch

structure Unanswered (b : Barrier) (acts : List Act) : Prop where
  other : b.transport ≠ .requester
  outstanding : b.outstanding = []
  applied : b.applied = []
  quiet : ∀ act ∈ acts, act.answers = [] ∧ ∀ selection, act ≠ .callRequestStart selection

namespace Unanswered
variable {cfg : Config} {choice : Choice} {m : State} {effect : Step} {name : Name} {event : Event}
    {act : Act} {acts others : List Act}

theorem perform (unanswered : Unanswered m.barrier (act :: others)) (found : Mux.perform cfg choice act m = some effect) :
    Unanswered effect.shared.barrier (effect.acts ++ others) := by
  obtain ⟨other,outstanding,applied,quiet⟩ := unanswered
  obtain ⟨answers,calls⟩ := quiet act mem_cons_self
  have kept : ∀ later, Shift m.barrier act later →
      later.transport = m.barrier.transport ∧ later.outstanding = [] ∧ later.applied = [] := by
    intro later shift
    cases shift with
    | call selection => exact absurd rfl (calls selection)
    | applies => cases answers
    | close => exact ⟨rfl,rfl,applied⟩
    | _ => exact ⟨rfl,outstanding,applied⟩
  obtain ⟨transport,none_,nothing⟩ := kept _ (perform_shift found)
  refine ⟨transport ▸ other,none_,nothing,?_⟩
  intro new mem
  rcases mem_append.mp mem with pushed | old
  · cases perform_pushes found pushed with
    | request _ _ requester => exact absurd requester other
    | handle => cases answers
    | _ => exact ⟨rfl,nofun⟩
  · exact quiet new (.tail _ old)

theorem launch (unanswered : Unanswered m.barrier acts) (legal : orderlyEvent m event = true)
    (began : Mux.launch event m = some (effect,name)) : Unanswered effect.shared.barrier (effect.acts ++ acts) := by
  obtain ⟨other,outstanding,applied,quiet⟩ := unanswered
  have started : effect.shared.outstanding = [] ∧
      ∀ new ∈ effect.acts, new.answers = [] ∧ ∀ selection, new ≠ .callRequestStart selection := by
    have empty : m.outstanding = [] := outstanding
    cases ordinary : event.answering with
    | false =>
      obtain ⟨same,silent⟩ := launch_silent began ordinary
      refine ⟨same.trans empty,fun new mem => ⟨(silent new mem).2.1,?_⟩⟩
      rintro selection rfl
      cases (silent _ mem).1
    | true =>
      cases event
      case response started data answers => simp [orderlyEvent,empty] at legal
      case resetted answersLater =>
        cases began
        exact ⟨by simp [empty],by simp [Effect.acts,handleReset,Act.answers]⟩
      case disconnected =>
        cases began
        exact ⟨rfl,by simp [Effect.acts,reconnect,Act.answers]⟩
      all_goals cases ordinary
  rw [launch_barrier began]
  exact ⟨other,started.1,applied,fun act mem => (mem_append.mp mem).elim (started.2 act) (quiet act)⟩

end Unanswered

section Run
variable {cfg : Config} {system next : System} {label : Label} {transport : Transport} {labels : List Label} {final : System}

theorem step_counted (counted : Counted system.shared.barrier)
    (ran : step cfg system label = some next) : Counted next.shared.barrier := by
  refine Machine.acts_step (fun shared _ => Counted shared.barrier) (fun _ _ _ _ => id) ?_ ?_ counted ran
  · intro event effect name _ began
    rw [launch_barrier began]
    exact ⟨counted.one,counted.passed⟩
  · intro choice act others effect _ _ _ _ found
    exact counted.shift (perform_shift found)

theorem run_counted (run : Run (step cfg) anyStep (initially transport) labels final) : Counted final.shared.barrier :=
  run.invariant (fun system => Counted system.shared.barrier) (fun _ _ _ counted _ ran => step_counted counted ran)
    ⟨Nat.zero_le 1,fun _ => rfl⟩

theorem keepsAbsorb_kept {choice : Choice} {m : State} {act : Act} {effect : Step} (legal : keepsAbsorb choice m act = true)
    (found : perform cfg choice act m = some effect) (timer : act = .fireAbsorbReset) :
    effect.shared.barrier.absorb = m.barrier.absorb := by
  subst timer
  cases found
  simp only [keepsAbsorb] at legal
  simp only [fireAbsorbReset,legal,if_true]

structure Attributes (system : System) : Prop where
  counted : Counted system.shared.barrier
  loops : Loops system
  awaited : Awaited system.shared.barrier system.acts

theorem step_attributes (attributes : Attributes system) (legal : Orderly system label)
    (ran : step cfg system label = some next) : Attributes next := by
  obtain ⟨counted,loops,awaited⟩ := attributes
  refine ⟨step_counted counted ran,step_loops loops ran,?_⟩
  refine Machine.acts_step (fun shared acts => Awaited shared.barrier acts) (fun _ _ _ same => Awaited.perm same) ?_ ?_ awaited ran
  · intro event effect name start began
    subst start
    exact launch_awaited awaited legal began
  · intro choice act others effect performing performs split held found
    have agree := readers_agree loops
    have inside : ∀ other ∈ act :: others, other ∈ system.acts := fun other => split.mem_iff.mpr
    refine perform_awaited held counted ?_ ?_ ?_ found
    · intro other mem
      exact agree act (inside act mem_cons_self) other (inside other (.tail _ mem))
    · rintro rfl
      exact closing_closed loops performs
    · obtain ⟨index,rfl⟩ := performing
      rw [Orderly,orderly,performs] at legal
      exact keepsAbsorb_kept legal found

theorem step_unanswered (unanswered : Unanswered system.shared.barrier system.acts) (legal : Orderly system label)
    (ran : step cfg system label = some next) : Unanswered next.shared.barrier next.acts := by
  refine Machine.acts_step (fun shared acts => Unanswered shared.barrier acts) ?_ ?_ ?_ unanswered ran
  · intro _ _ _ same ⟨other,outstanding,applied,quiet⟩
    exact ⟨other,outstanding,applied,fun act mem => quiet act (same.mem_iff.mpr mem)⟩
  · intro event effect name start began
    subst start
    exact unanswered.launch legal began
  · intro choice act others effect _ _ _ held found
    exact held.perform found

theorem run_applied (run : Run (step cfg) Orderly (initially transport) labels final) :
    ∀ pair ∈ final.shared.barrier.applied, pair.1 = pair.2 := by
  by_cases requester : transport = .requester
  · subst requester
    have awaited : Awaited (initially .requester).shared.barrier [] :=
      ⟨rfl,forall_mem_nil _,Nat.zero_le 1,forall_mem_nil _,fun _ mem => absurd mem not_mem_nil,
        forall_mem_nil _,fun _ => rfl,forall_mem_nil _⟩
    have start : Attributes (initially .requester) :=
      ⟨⟨Nat.zero_le 1,fun _ => rfl⟩,loops_initially nofun,awaited⟩
    exact (run.invariant Attributes (fun _ _ _ attributes legal ran => step_attributes attributes legal ran) start).awaited.applied
  · have final := run.invariant (fun system => Unanswered system.shared.barrier system.acts)
      (fun _ _ _ unanswered legal ran => step_unanswered unanswered legal ran) ⟨requester,rfl,rfl,forall_mem_nil _⟩
    rw [final.applied]
    exact nofun

end Run

/-- In every run nothing is selected while an answer is to be absorbed, and at most one is; and with an
orderly adapter and a safety timer that never acts, an answer is applied only to the request it answers. -/
theorem absorb_barrier (cfg : Config) (transport : Transport) (labels : List Label) (final : System) :
    (Run (step cfg) anyStep (initially transport) labels final →
      (final.shared.pendingStart.isSome = true → final.shared.pendingStartAbsorb = 0) ∧ final.shared.pendingStartAbsorb ≤ 1) ∧
    (Run (step cfg) Orderly (initially transport) labels final →
      ∀ answers pending, .applied answers pending ∈ final.shared.journal → answers = pending) := by
  constructor
  · intro run
    obtain ⟨one,passed⟩ := run_counted run
    refine ⟨fun selected => passed ?_,one⟩
    show (final.shared.pendingStart.map _).isSome = true
    rw [Option.isSome_map]
    exact selected
  · intro run answers pending mem
    have inside : (answers,pending) ∈ final.shared.barrier.applied :=
      mem_filterMap.mpr ⟨.applied answers pending,mem_filter.mpr ⟨mem,rfl⟩,rfl⟩
    exact run_applied run _ inside

/-- A client is granted the bus by the answer to its own request. -/
theorem granted_answer_applied : ∃ final, Run (step defaultConfig) Orderly (initially .requester) grantedStart final ∧
    .applied 0 0 ∈ final.shared.journal ∧
    (∀ answers pending, .applied answers pending ∈ final.shared.journal → answers = pending) ∧
    (final.shared.pendingStart.isSome = true → final.shared.pendingStartAbsorb = 0) ∧ final.shared.pendingStartAbsorb ≤ 1 := by
  refine Exists.imp (fun final found => and_assoc.mp ⟨found,?_⟩) (Run.exists_of_executeWhere _ (by decide +kernel))
  have barrier := absorb_barrier defaultConfig .requester grantedStart final
  exact ⟨barrier.2 found.1,barrier.1 (found.1.weaken fun _ _ _ => trivial)⟩

def inOrder (system : System) : Label → Bool
  | .start (.resetted _) => true
  | label => orderly system label

def InOrder (system : System) (label : Label) : Prop := inOrder system label = true

instance (system : System) (label : Label) : Decidable (InOrder system label) :=
  inferInstanceAs (Decidable (inOrder system label = true))

def answeredAfterReset : List Label :=
  grantedStart.take 13 ++
  [.start (.resetted true),.run 1 {},.run 1 {},.run 1 {},.run 1 {},.run 1 {},.run 1 {},.run 1 {},
   .start (.sessionStart 1 0x33),.run 1 {},.run 1 {},
   .start (.symbol none (some (symbolSyn,false)) false),.run 2 {},.run 2 {},.run 2 {},.run 2 {},.run 2 {},.run 2 {},.run 2 {},
   .start (.response false 0x10 0),.run 2 {},.run 2 {},.run 2 {}]

/-- The adapter answers a request from before a RESETTED, and the answer is applied to the next one. -/
theorem stale_answer_applied : ∃ final, Run (step defaultConfig) InOrder (initially .requester) answeredAfterReset final ∧
    .applied 0 1 ∈ final.shared.journal :=
  Run.exists_of_executeWhere _ (by decide +kernel)

end EbusGateway.Mux
