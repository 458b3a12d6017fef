import Mathlib.Algebra.Order.Group.Multiset
import Mathlib.Data.List.Pairwise
import Mathlib.Data.List.Perm.Basic
import Mathlib.Tactic.Abel

/-! Interleaved goroutines. A goroutine is the list of atomic actions it still has to perform: a
critical section, a channel operation, a call of the outside world. An action changes the shared state, may
put further actions in front of the rest and may start goroutines; actions of different goroutines interleave
in every way. An event starts a goroutine, a sequential one only while no other of its name runs.
-/
namespace EbusGateway.Library
open List

structure Thread (Name Act : Type) where
  name : Name
  code : List Act

structure Effect (Name Act Shared : Type) where
  shared : Shared
  code : List Act := []
  forked : List (Thread Name Act) := []

structure Machine (Name Act Shared : Type) where
  shared : Shared
  threads : List (Thread Name Act)

inductive Move (Event Choice : Type)
  | start (event : Event)
  | run (index : Nat) (choice : Choice)

structure Program (Name Act Shared Event Choice : Type) where
  sequential : Name → Bool
  launch : Event → Shared → Option (Effect Name Act Shared × Name)
  perform : Choice → Act → Shared → Option (Effect Name Act Shared)

namespace Machine
variable {Name Act Shared Event Choice : Type} [DecidableEq Name]

variable (machine : Machine Name Act Shared)

def acts : List Act := machine.threads.flatMap (·.code)

def busy (name : Name) : Bool := machine.threads.any (·.name == name)

def step (program : Program Name Act Shared Event Choice) (machine : Machine Name Act Shared) :
    Move Event Choice → Option (Machine Name Act Shared)
  | .start event =>
    match program.launch event machine.shared with
    | some (effect,name) =>
      if program.sequential name && machine.busy name then none
      else some ⟨effect.shared,machine.threads ++ ⟨name,effect.code⟩ :: effect.forked⟩
    | none => none
  | .run index choice =>
    match machine.threads[index]? with
    | some ⟨name,act :: rest⟩ =>
      (program.perform choice act machine.shared).map fun effect =>
        ⟨effect.shared,machine.threads.set index ⟨name,effect.code ++ rest⟩ ++ effect.forked⟩
    | some ⟨_,[]⟩ => some {machine with threads := machine.threads.eraseIdx index}
    | none => none

def performs : Move Event Choice → Option Act
  | .start _ => none
  | .run index _ => (machine.threads[index]?).bind (·.code.head?)

structure Shaped (sequential : Name → Bool) (shape : Name → List Act → Prop) (machine : Machine Name Act Shared) : Prop where
  shapes : ∀ thread ∈ machine.threads, shape thread.name thread.code
  unique : machine.threads.Pairwise fun first second => first.name = second.name → sequential first.name = false

structure Fits (sequential : Name → Bool) (shape : Shared → Name → List Act → Prop) (machine : Machine Name Act Shared)
    (effect : Effect Name Act Shared) (name : Name) (code : List Act) : Prop where
  own : shape effect.shared name code
  forks : ∀ thread ∈ effect.forked, shape effect.shared thread.name thread.code ∧ sequential thread.name = false
  others : ∀ thread ∈ machine.threads, (thread.name = name → sequential name = false) →
    shape machine.shared thread.name thread.code → shape effect.shared thread.name thread.code

end Machine

def Effect.acts {Name Act Shared : Type} (effect : Effect Name Act Shared) : List Act :=
  effect.code ++ effect.forked.flatMap (·.code)

theorem Effect.acts_code {Name Act Shared : Type} (shared : Shared) (code : List Act) :
    (⟨shared,code,[]⟩ : Effect Name Act Shared).acts = code := List.append_nil code

namespace Machine
variable {Name Act Shared Event Choice : Type} [DecidableEq Name]
variable {program : Program Name Act Shared Event Choice} {machine next : Machine Name Act Shared}
    {move : Move Event Choice} {index : Nat}

omit [DecidableEq Name] in
private theorem threads_split {threads : List (Thread Name Act)} {thread : Thread Name Act} (found : threads[index]? = some thread) :
    ∃ before after, threads = before ++ thread :: after ∧ index = before.length := by
  obtain ⟨inside,equal⟩ := List.getElem?_eq_some_iff.mp found
  refine ⟨threads.take index,threads.drop (index + 1),?_,?_⟩
  · rw [← equal,← drop_eq_getElem_cons inside,take_append_drop]
  · rw [length_take,Nat.min_eq_left (Nat.le_of_lt inside)]

/-- What a step is: an event starts a goroutine, an action is performed, or a finished goroutine goes
away. -/
theorem step_cases (moved : step program machine move = some next) :
    (∃ event effect name, move = .start event ∧ program.launch event machine.shared = some (effect,name) ∧
      (program.sequential name && machine.busy name) = false ∧
        next = ⟨effect.shared,machine.threads ++ ⟨name,effect.code⟩ :: effect.forked⟩) ∨
    (∃ choice before name act rest after effect, move = .run before.length choice ∧
      machine.threads = before ++ ⟨name,act :: rest⟩ :: after ∧
      program.perform choice act machine.shared = some effect ∧
      next = ⟨effect.shared,before ++ ⟨name,effect.code ++ rest⟩ :: after ++ effect.forked⟩) ∨
    (∃ before name after, machine.threads = before ++ ⟨name,[]⟩ :: after ∧ next = ⟨machine.shared,before ++ after⟩) := by
  cases move with
  | start event =>
    simp only [step] at moved
    split at moved
    · rename_i effect name launched
      split at moved
      · cases moved
      · rename_i idle
        cases moved
        exact .inl ⟨event,effect,name,rfl,launched,by simpa using idle,rfl⟩
    · cases moved
  | run index choice =>
    simp only [step] at moved
    split at moved
    · rename_i name act rest found
      obtain ⟨effect,ran,rfl⟩ := Option.map_eq_some_iff.mp moved
      obtain ⟨before,after,split,rfl⟩ := threads_split found
      refine .inr (.inl ⟨choice,before,name,act,rest,after,effect,rfl,split,ran,?_⟩)
      rw [split,set_append_right _ _ (Nat.le_refl _),Nat.sub_self,set_cons_zero]
    · rename_i name found
      cases moved
      obtain ⟨before,after,split,rfl⟩ := threads_split found
      refine .inr (.inr ⟨before,name,after,split,?_⟩)
      rw [split,eraseIdx_append_of_length_le (Nat.le_refl _),Nat.sub_self,eraseIdx_cons_zero]
    · cases moved

omit [DecidableEq Name] in
private theorem acts_append (shared : Shared) (first second : List (Thread Name Act)) :
    (⟨shared,first ++ second⟩ : Machine Name Act Shared).acts = first.flatMap (·.code) ++ second.flatMap (·.code) := flatMap_append

/-- A step that performs an action has the effect of that action on the shared state. -/
theorem performs_step {act : Act} {choice : Choice} (moved : step program machine (.run index choice) = some next)
    (ran : machine.performs (.run index choice : Move Event Choice) = some act) :
    ∃ effect, program.perform choice act machine.shared = some effect ∧ next.shared = effect.shared := by
  obtain ⟨⟨name,code⟩,found,head⟩ := Option.bind_eq_some_iff.mp ran
  cases code with
  | nil => cases head
  | cons first rest =>
    cases head
    simp only [step,found] at moved
    obtain ⟨effect,performs,rfl⟩ := Option.map_eq_some_iff.mp moved
    exact ⟨effect,performs,rfl⟩

omit [DecidableEq Name] in
/-- The action a step performs is the first of some goroutine. -/
theorem performs_mem {act : Act} (ran : machine.performs move = some act) : ∃ name rest, ⟨name,act :: rest⟩ ∈ machine.threads := by
  cases move with
  | start => cases ran
  | run index choice =>
    obtain ⟨⟨name,code⟩,found,head⟩ := Option.bind_eq_some_iff.mp ran
    obtain ⟨rest,rfl⟩ := List.head?_eq_some_iff.mp head
    exact ⟨name,rest,mem_of_getElem? found⟩

omit [DecidableEq Name] in
/-- Two goroutines of one sequential name are the same. -/
theorem Shaped.alone {sequential : Name → Bool} {shape : Name → List Act → Prop} (shaped : machine.Shaped sequential shape)
    {first second : Thread Name Act} (one : first ∈ machine.threads) (other : second ∈ machine.threads)
    (same : first.name = second.name) (single : sequential first.name = true) : first = second := by
  by_contra different
  have symmetric : Std.Symm fun first second : Thread Name Act => first.name = second.name → sequential first.name = false :=
    ⟨fun first second apart same => same ▸ apart same.symm⟩
  cases single.symm.trans (shaped.unique.forall one other different same)

/-- The step rule for a property of the shared state and the pending actions, in whatever order. -/
theorem acts_step (property : Shared → List Act → Prop)
    (closed : ∀ shared first second, first.Perm second → property shared first → property shared second)
    (launched : ∀ event effect name, move = .start event → program.launch event machine.shared = some (effect,name) →
      property effect.shared (effect.acts ++ machine.acts))
    (ran : ∀ choice act others effect, (∃ index, move = .run index choice) → machine.performs move = some act →
      machine.acts.Perm (act :: others) → property machine.shared (act :: others) →
      program.perform choice act machine.shared = some effect → property effect.shared (effect.acts ++ others))
    (holds : property machine.shared machine.acts) (moved : step program machine move = some next) :
    property next.shared next.acts := by
  obtain ⟨event,effect,name,rfl,found,_,rfl⟩ | ⟨choice,before,name,act,rest,after,effect,rfl,split,found,rfl⟩ |
    ⟨before,name,after,split,rfl⟩ := step_cases moved
  · apply closed _ _ _ _ (launched event effect name rfl found)
    rw [acts_append]
    exact perm_append_comm
  · have before_perm : machine.acts.Perm (act :: (before.flatMap (·.code) ++ rest ++ after.flatMap (·.code))) := by
      simp only [acts,split,flatMap_append,flatMap_cons,cons_append,append_assoc]
      exact perm_middle
    have head : machine.performs (.run before.length choice : Move Event Choice) = some act := by
      simp [performs,split]
    apply closed _ _ _ _ (ran choice act _ effect ⟨_,rfl⟩ head before_perm (closed _ _ _ before_perm holds) found)
    simp only [acts,Effect.acts,flatMap_append,flatMap_cons]
    rw [← Multiset.coe_eq_coe]
    simp only [← Multiset.coe_add]
    abel
  · have same : (⟨machine.shared,before ++ after⟩ : Machine Name Act Shared).acts = machine.acts := by
      simp [acts,split]
    rw [same]
    exact holds

/-- The step rule for shapes, which may depend on the shared state. -/
theorem shaped_step {shape : Shared → Name → List Act → Prop}
    (launched : ∀ event effect name, move = .start event → program.launch event machine.shared = some (effect,name) →
      Fits program.sequential shape machine effect name effect.code)
    (ran : ∀ choice act rest effect name, machine.performs move = some act → ⟨name,act :: rest⟩ ∈ machine.threads →
      program.perform choice act machine.shared = some effect →
        Fits program.sequential shape machine effect name (effect.code ++ rest))
    (shaped : machine.Shaped program.sequential (shape machine.shared)) (moved : step program machine move = some next) :
    next.Shaped program.sequential (shape next.shared) := by
  obtain ⟨shapes,unique⟩ := shaped
  obtain ⟨event,effect,name,rfl,found,idle,rfl⟩ | ⟨choice,before,name,act,rest,after,effect,rfl,split,found,rfl⟩ |
    ⟨before,name,after,split,rfl⟩ := step_cases moved
  · obtain ⟨own,forks,others⟩ := launched _ _ _ rfl found
    have distinct : ∀ thread ∈ machine.threads, thread.name = name → program.sequential name = false := by
      intro thread mem same
      have busy : machine.busy name = true := any_eq_true.mpr ⟨thread,mem,by simpa using same⟩
      simpa [busy] using idle
    constructor
    · intro thread mem
      simp only [mem_append,mem_cons] at mem
      rcases mem with old | rfl | forked
      · exact others thread old (distinct thread old) (shapes thread old)
      · exact own
      · exact (forks thread forked).1
    · refine pairwise_append.mpr ⟨unique,pairwise_cons.mpr ⟨?_,?_⟩,?_⟩
      · intro thread forked same
        exact same ▸ (forks thread forked).2
      · exact pairwise_of_forall_mem_list fun first mem second _ _ => (forks first mem).2
      · intro first old second new same
        rcases mem_cons.mp new with rfl | forked
        · exact same ▸ distinct first old same
        · exact same ▸ (forks second forked).2
  · have head : machine.performs (.run before.length choice : Move Event Choice) = some act := by simp [performs,split]
    have inside : ⟨name,act :: rest⟩ ∈ machine.threads := split ▸ mem_append_right _ mem_cons_self
    obtain ⟨own,forks,others⟩ := ran _ _ _ _ _ head inside found
    have keep : ∀ thread ∈ machine.threads, (thread.name = name → program.sequential name = false) →
        shape effect.shared thread.name thread.code := fun thread mem other => others thread mem other (shapes thread mem)
    rw [split] at unique keep
    rw [pairwise_append,pairwise_cons] at unique
    obtain ⟨first,⟨second,third⟩,cross⟩ := unique
    constructor
    · intro thread mem
      simp only [mem_append,mem_cons] at mem
      rcases mem with (earlier | rfl | later) | forked
      · refine keep thread (mem_append_left _ earlier) fun same => ?_
        exact same ▸ cross thread earlier ⟨name,act :: rest⟩ mem_cons_self same
      · exact own
      · exact keep thread (mem_append_right _ (.tail _ later)) fun same => second thread later same.symm
      · exact (forks thread forked).1
    · refine pairwise_append.mpr ⟨pairwise_append.mpr ⟨first,pairwise_cons.mpr ⟨second,third⟩,?_⟩,?_,?_⟩
      · intro thread mem other rest same
        rcases mem_cons.mp rest with rfl | last
        · exact cross thread mem _ mem_cons_self same
        · exact cross thread mem other (.tail _ last) same
      · exact pairwise_of_forall_mem_list fun first mem second _ _ => (forks first mem).2
      · intro first _ second forked same
        exact same ▸ (forks second forked).2
  · rw [split] at shapes unique
    constructor
    · intro thread mem
      rcases mem_append.mp mem with first | last
      · exact shapes thread (mem_append_left _ first)
      · exact shapes thread (mem_append_right _ (.tail _ last))
    · exact unique.sublist ((sublist_cons_self _ _).append_left _)

end Machine
end EbusGateway.Library
