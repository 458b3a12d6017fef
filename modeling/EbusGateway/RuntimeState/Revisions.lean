import EbusGateway.Library.Transition
import EbusGateway.RuntimeState.Control

/-! Desired revisions are never reused: every write of the control namespace leaves the revision of a driver
as it is or sets it past the mark, and a record that goes away moves the mark.
-/
namespace EbusGateway.RuntimeState
open Library List

inductive Event
  | bootstrap (configs : List ControlDriverConfig) (guid : Bool) (call : Call)
  | decide (method : ControlMethod) (request : ControlRequest) (planner : ControlPlanner) (call : Call)
  | commitWork (id : DriverId) (current reserved : Option ControlTransition) (call : Call)
  | advanceCatalog (call : Call)
  | commitRecovery (recovery : Option ControlRecovery) (call : Call)
  | readback (found : Readback)
  | close
  | restart (staged : Bool)

def Manager.perform (m : Manager) : Event → Manager
  | .bootstrap configs guid call => (m.bootstrapControl configs guid call).1
  | .decide method request planner call => (m.decideControl method request planner call).1
  | .commitWork id current reserved call => (m.commitControlWork id current reserved call).1
  | .advanceCatalog call => (m.advanceControlCatalog call).1
  | .commitRecovery recovery call => (m.commitControlRecovery recovery call).1
  | .readback found => m.resolveControlReadback found
  | .close => {m with closed := true}
  | .restart staged => m.restart staged

def step (m : Manager) (event : Event) : Option Manager := some (m.perform event)

namespace Namespace

structure Issued (ns : Namespace) : Prop where
  records : ∀ id r, ns.records.lookup id = some r → 0 < r.desiredRevision ∧ r.desiredRevision ≤ ns.mark
  failed : ∀ id f r, ns.failed.lookup id = some f → f.record = some r → 0 < r.desiredRevision

structure Follows (old new : Namespace) : Prop where
  mark : old.mark ≤ new.mark
  catalog : old.catalog ≤ new.catalog
  intact : ∀ id, old.failed.lookup id = none → new.failed.lookup id = none
  owned : ∀ id r, old.failed.lookup id = none → new.records.lookup id = some r →
    (∃ s, old.records.lookup id = some s ∧ s.desiredRevision = r.desiredRevision ∧ s.desiredState = r.desiredState) ∨
      old.mark < r.desiredRevision
  gone : ∀ id, old.failed.lookup id = none → new.records.lookup id = none → old.records.lookup id = none ∨ old.mark < new.mark

namespace Follows
variable {first second third : Namespace}

theorem refl (ns : Namespace) : Follows ns ns where
  mark := Nat.le_refl _
  catalog := Nat.le_refl _
  intact _ sound := sound
  owned _ r _ found := .inl ⟨r,found,rfl,rfl⟩
  gone _ _ absent := .inl absent

theorem trans (before : Follows first second) (after : Follows second third) : Follows first third where
  mark := Nat.le_trans before.mark after.mark
  catalog := Nat.le_trans before.catalog after.catalog
  intact id sound := after.intact id (before.intact id sound)
  owned id r sound found := by
    rcases after.owned id r (before.intact id sound) found with ⟨s,kept,revision,state⟩ | later
    · rcases before.owned id s sound kept with ⟨t,first,revision',state'⟩ | later
      · exact .inl ⟨t,first,revision'.trans revision,state'.trans state⟩
      · exact .inr (revision ▸ later)
    · exact .inr (Nat.lt_of_le_of_lt before.mark later)
  gone id sound absent := by
    rcases after.gone id (before.intact id sound) absent with already | moved
    · rcases before.gone id sound already with never | moved
      · exact .inl never
      · exact .inr (Nat.lt_of_lt_of_le moved after.mark)
    · exact .inr (Nat.lt_of_le_of_lt before.mark moved)

end Follows

theorem of_same {old new : Namespace} (mark : new.mark = old.mark) (catalog : old.catalog ≤ new.catalog)
    (failed : new.failed = old.failed) (records : new.records = old.records) : Follows old new ∧ (old.Issued → new.Issued) := by
  refine ⟨⟨Nat.le_of_eq mark.symm,catalog,fun _ sound => failed ▸ sound,fun _ r _ found => .inl ⟨r,records ▸ found,rfl,rfl⟩,
    fun _ _ absent => .inl (records ▸ absent)⟩,fun issued => ⟨?_,fun id f r found => issued.failed id f r (failed ▸ found)⟩⟩
  rw [mark,records]
  exact issued.records

variable {r : ControlDriverRecord}

theorem lookup_inserted {records : AList fun _ : DriverId => ControlDriverRecord} {id other : DriverId} {s : ControlDriverRecord}
    (found : (records.insert id r).lookup other = some s) : other = id ∧ s = r ∨ records.lookup other = some s := by
  by_cases same : other = id
  · subst same
    rw [AList.lookup_insert] at found
    exact .inl ⟨rfl,(Option.some.inj found).symm⟩
  · rw [AList.lookup_insert_ne same] at found
    exact .inr found

theorem insert_follows {old new : Namespace} {id : DriverId} (mark : old.mark ≤ new.mark) (catalog : old.catalog ≤ new.catalog)
    (failed : new.failed = old.failed) (records : new.records = old.records.insert id r)
    (own : (∃ s, old.records.lookup id = some s ∧ s.desiredRevision = r.desiredRevision ∧ s.desiredState = r.desiredState) ∨
      old.mark < r.desiredRevision ∧ r.desiredRevision ≤ new.mark) : Follows old new ∧ (old.Issued → new.Issued) := by
  refine ⟨⟨mark,catalog,fun _ sound => failed ▸ sound,fun other s _ found => ?_,fun other _ absent => ?_⟩,
    fun issued => ⟨fun other s found => ?_,fun other f s found => issued.failed other f s (failed ▸ found)⟩⟩
  · rcases lookup_inserted (records ▸ found) with ⟨rfl,rfl⟩ | kept
    · exact own.imp_right And.left
    · exact .inl ⟨s,kept,rfl,rfl⟩
  · rw [records,AList.lookup_eq_none,AList.mem_insert,not_or] at absent
    exact .inl (AList.lookup_eq_none.mpr absent.2)
  · rcases lookup_inserted (records ▸ found) with ⟨rfl,rfl⟩ | kept
    · rcases own with ⟨t,held,revision,_⟩ | ⟨later,bounded⟩
      · exact revision ▸ (issued.records other t held).imp_right (·.trans mark)
      · exact ⟨Nat.zero_lt_of_lt later,bounded⟩
    · exact (issued.records other s kept).imp_right (·.trans mark)

theorem lookup_eraseAll (ids : List DriverId) {β : Type} (all : AList fun _ : DriverId => β) (id : DriverId) :
    (ids.foldl (fun all id => all.erase id) all).lookup id = if id ∈ ids then none else all.lookup id := by
  induction ids generalizing all with
  | nil => rfl
  | cons first rest ih =>
    rw [foldl_cons,ih]
    by_cases inside : id ∈ rest
    · rw [if_pos inside,if_pos (.tail _ inside)]
    rw [if_neg inside]
    by_cases same : id = first
    · rw [same,AList.lookup_erase,if_pos mem_cons_self]
    · rw [AList.lookup_erase_ne same,if_neg (by simp [same,inside])]

theorem addCounter_some {v n sum : Nat} (added : addCounter v n = some sum) : sum = v + n := by
  unfold addCounter at added
  split at added
  · exact (Option.some.inj added).symm
  · cases added

theorem registered_follows {ns stage : Namespace} {prior : List DriverId} {configs : List ControlDriverConfig}
    (found : ns.registered prior configs = some stage) : Follows ns stage ∧ (ns.Issued → stage.Issued) := by
  unfold registered at found
  simp only at found
  split at found
  case h_2 => cases found
  case h_1 mark catalog counted counted' =>
    cases found
    have mark := addCounter_some counted
    have catalog := addCounter_some counted'
    refine ⟨⟨?_,?_,fun _ sound => sound,fun id r _ found => ?_,fun id _ absent => ?_⟩,
      fun issued => ⟨fun id r found => ?_,issued.failed⟩⟩
    · rw [mark]
      exact Nat.le_add_right _ _
    · rw [catalog]
      exact Nat.le_add_right _ _
    · dsimp only at found
      rw [lookup_eraseAll] at found
      split at found
      · cases found
      · exact .inl ⟨r,found,rfl,rfl⟩
    · dsimp only at absent ⊢
      rw [lookup_eraseAll] at absent
      split at absent
      next deleted =>
        right
        have some : 0 < (ns.removable configs).length := length_pos_of_mem deleted
        rw [mark,registrationChanges]
        omega
      next => exact .inl absent
    · dsimp only at found ⊢
      rw [lookup_eraseAll] at found
      split at found
      · cases found
      · obtain ⟨positive,bounded⟩ := issued.records id r found
        exact ⟨positive,by omega⟩

theorem empty_issued : ({} : Namespace).Issued where
  records id r found := by
    rw [show ({} : Namespace).records = ∅ from rfl,AList.lookup_empty] at found
    cases found
  failed id f r found := by
    rw [show ({} : Namespace).failed = ∅ from rfl,AList.lookup_empty] at found
    cases found

theorem seed_issued (configs : List ControlDriverConfig) : (seed configs).Issued := by
  suffices grown : ∀ stage : Namespace, stage.Issued → (configs.foldl (fun stage c =>
      {stage with
        mark := stage.mark + 1, catalog := stage.catalog + 1
        records := stage.records.insert c.driverId
          {desiredState := if c.enabled then .running else .stopped, desiredRevision := stage.mark + 1}}) stage).Issued from
    grown {} empty_issued
  induction configs with
  | nil => exact fun _ issued => issued
  | cons first rest ih =>
    intro stage issued
    have grown {new : Namespace} (change : stage.Follows new ∧ (stage.Issued → new.Issued)) := change.2 issued
    exact ih _ (grown (insert_follows (Nat.le_succ _) (Nat.le_succ _) rfl rfl (.inr ⟨Nat.lt_succ_self _,Nat.le_refl _⟩)))

theorem restored_lookup {ns : Namespace} {ids : List DriverId}
    (listed : ∀ id ∈ ids, ∃ f r, ns.failed.lookup id = some f ∧ f.record = some r)
    (records : AList fun _ : DriverId => ControlDriverRecord)
    (id : DriverId) : (ids.foldl (fun records id =>
      match (ns.failed.lookup id).bind (·.record) with
      | some r => records.insert id r
      | none => records) records).lookup id =
    if id ∈ ids then (ns.failed.lookup id).bind (·.record) else records.lookup id := by
  induction ids generalizing records with
  | nil => rfl
  | cons first rest ih =>
    obtain ⟨⟨f,r,found,held⟩,others⟩ := forall_mem_cons.mp listed
    rw [foldl_cons,ih others]
    have read : (ns.failed.lookup first).bind (·.record) = some r := by rw [found]; exact held
    rw [read]
    by_cases inside : id ∈ rest
    · rw [if_pos inside,if_pos (.tail _ inside)]
    rw [if_neg inside]
    by_cases same : id = first
    · rw [same,if_pos mem_cons_self,read]
      exact AList.lookup_insert _
    · rw [if_neg (by simp [same,inside])]
      exact AList.lookup_insert_ne same

theorem reload_follows (ns : Namespace) : Follows ns ns.reload ∧ (ns.Issued → ns.reload.Issued) := by
  set ripe := ns.failed.keys.filter fun id => ((ns.failed.lookup id).bind (·.record)).any (·.desiredRevision ≤ ns.mark)
    with ripe_eq
  have listed {id : DriverId} (inside : id ∈ ripe) :
      ∃ f r, ns.failed.lookup id = some f ∧ f.record = some r ∧ r.desiredRevision ≤ ns.mark := by
    obtain ⟨_,reached⟩ := mem_filter.mp (ripe_eq ▸ inside)
    obtain ⟨r,held,bounded⟩ := (Option.any_eq_true _ _).mp reached
    obtain ⟨f,found,same⟩ := Option.bind_eq_some_iff.mp held
    exact ⟨f,r,found,same,of_decide_eq_true bounded⟩
  have unripe {id : DriverId} (sound : ns.failed.lookup id = none) : id ∉ ripe := by
    intro inside
    obtain ⟨f,_,found,_⟩ := listed inside
    cases sound.symm.trans found
  have records (id : DriverId) : ns.reload.records.lookup id =
      if id ∈ ripe then (ns.failed.lookup id).bind (·.record) else ns.records.lookup id :=
    restored_lookup (fun id inside => by
      obtain ⟨f,r,found,held,_⟩ := listed inside
      exact ⟨f,r,found,held⟩) ns.records id
  have failed (id : DriverId) : ns.reload.failed.lookup id = if id ∈ ripe then none else ns.failed.lookup id :=
    lookup_eraseAll ripe ns.failed id
  refine ⟨⟨Nat.le_refl _,Nat.le_refl _,fun id sound => ?_,fun id r sound found => ?_,fun id sound absent => ?_⟩,
    fun issued => ⟨fun id r found => ?_,fun id f r found held => ?_⟩⟩
  · rw [failed,if_neg (unripe sound)]
    exact sound
  · rw [records,if_neg (unripe sound)] at found
    exact .inl ⟨r,found,rfl,rfl⟩
  · rw [records,if_neg (unripe sound)] at absent
    exact .inl absent
  · rw [records] at found
    split at found
    next inside =>
      obtain ⟨f,s,known,held,bounded⟩ := listed inside
      rw [known,Option.bind_some,held] at found
      cases found
      exact ⟨issued.failed id f r known held,bounded⟩
    next => exact issued.records id r found
  · rw [failed] at found
    split at found
    · cases found
    · exact issued.failed id f r found held

end Namespace

namespace Manager

structure Sound (m : Manager) : Prop where
  control : ∀ ns, m.control = some ns → ns.Issued
  ambiguous : ∀ stage, m.ambiguous = some stage → stage.Issued
  follows : ∀ ns stage, m.control = some ns → m.ambiguous = some stage → ns.Follows stage

inductive Writes (m : Manager) : Manager → Prop
  | kept {next : Manager} (control : next.control = m.control) (ambiguous : next.ambiguous = m.ambiguous) : Writes m next
  | staged {next : Manager} (stage : Namespace) (idle : m.ambiguous = none) (issued : m.Sound → stage.Issued)
      (follows : ∀ ns, m.control = some ns → ns.Follows stage)
      (written : next.control = some stage ∧ next.ambiguous = none ∨ next.control = m.control ∧ next.ambiguous = some stage) :
      Writes m next

theorem Writes.sound {m next : Manager} (writes : m.Writes next) (sound : m.Sound) :
    next.Sound ∧ ∀ ns, m.control = some ns → ∃ ns', next.control = some ns' ∧ ns.Follows ns' := by
  cases writes with
  | kept control ambiguous =>
    refine ⟨⟨fun ns found => sound.control ns (control ▸ found),fun st found => sound.ambiguous st (ambiguous ▸ found),
      fun ns st found found' => sound.follows ns st (control ▸ found) (ambiguous ▸ found')⟩,fun ns found => ?_⟩
    exact ⟨ns,control.trans found,.refl ns⟩
  | staged stage idle issued follows written =>
    rcases written with ⟨control,none⟩ | ⟨control,some⟩
    · refine ⟨⟨fun ns found => ?_,fun st found => ?_,fun ns st _ found => ?_⟩,fun ns found => ⟨stage,control,follows ns found⟩⟩
      · cases control.symm.trans found
        exact issued sound
      · cases none.symm.trans found
      · cases none.symm.trans found
    · refine ⟨⟨fun ns found => sound.control ns (control ▸ found),fun st found => ?_,fun ns st found found' => ?_⟩,
        fun ns found => ⟨ns,control.trans found,.refl ns⟩⟩
      · cases some.symm.trans found
        exact issued sound
      · cases some.symm.trans found'
        exact follows ns (control ▸ found)

section
variable {m : Manager} {stage : Namespace} {ns : Namespace} {call : Call}

theorem staged_over (control : m.control = some ns) (change : ns.Follows stage ∧ (ns.Issued → stage.Issued)) :
    (m.Sound → stage.Issued) ∧ ∀ ns, m.control = some ns → ns.Follows stage := by
  refine ⟨fun sound => change.2 (sound.control ns control),fun other found => ?_⟩
  cases control.symm.trans found
  exact change.1

theorem commitControl_writes (write : Write) (idle : m.ambiguous = none) (issued : m.Sound → stage.Issued)
    (follows : ∀ ns, m.control = some ns → ns.Follows stage) : m.Writes (m.commitControl stage write).1 := by
  unfold commitControl
  split
  · exact .kept rfl rfl
  cases write with
  | committed => exact .staged stage idle issued follows (.inl ⟨rfl,idle⟩)
  | failed => exact .kept rfl rfl
  | ambiguous => exact .staged stage idle issued follows (.inr ⟨rfl,rfl⟩)

theorem stageWrite_writes (call : Call) {staged : Except ControlError Namespace}
    (written : ∀ stage, staged = .ok stage → m.ambiguous = none ∧ (m.Sound → stage.Issued) ∧
      ∀ ns, m.control = some ns → ns.Follows stage) : m.Writes (m.stageWrite call staged).1 := by
  unfold stageWrite
  split
  · exact .kept rfl rfl
  split
  · exact .kept rfl rfl
  · obtain ⟨idle,issued,follows⟩ := written _ rfl
    exact commitControl_writes call.write idle issued follows

theorem writable_ok (ok : m.writable call = .ok ns) : m.control = some ns ∧ m.ambiguous = none := by
  unfold writable at ok
  split at ok
  · cases ok
  split at ok
  · cases ok
  split at ok
  · cases ok
  split at ok
  · cases ok
  · next idle =>
    cases ok
    exact ⟨‹_›,by simpa using idle⟩

theorem writable_writes (call : Call) (change : Namespace → Except ControlError Namespace)
    (changes : ∀ ns stage, m.control = some ns → change ns = .ok stage → ns.Follows stage ∧ (ns.Issued → stage.Issued)) :
    m.Writes (m.stageWrite call (m.writable call >>= change)).1 := by
  refine stageWrite_writes call fun stage staged => ?_
  cases opened : m.writable call with
  | error =>
    rw [opened] at staged
    cases staged
  | ok ns =>
    rw [opened] at staged
    obtain ⟨control,idle⟩ := writable_ok opened
    exact ⟨idle,staged_over control (changes ns stage control staged)⟩

theorem commitControlWork_writes (id : DriverId) (current reserved : Option ControlTransition) (call : Call) :
    m.Writes (m.commitControlWork id current reserved call).1 := by
  refine writable_writes call _ fun ns stage control staged => ?_
  split at staged
  · cases staged
  split at staged
  · cases staged
  · next r found _ _ =>
    cases staged
    exact Namespace.insert_follows (Nat.le_refl _) (Nat.le_refl _) rfl rfl (.inl ⟨r,found,rfl,rfl⟩)

theorem advanceControlCatalog_writes (call : Call) : m.Writes (m.advanceControlCatalog call).1 := by
  refine writable_writes call _ fun ns stage _ staged => ?_
  split at staged
  · cases staged
  · next _ _ counted =>
    cases staged
    exact Namespace.of_same rfl (Namespace.addCounter_some counted ▸ Nat.le_succ _) rfl rfl

theorem commitControlRecovery_writes (recovery : Option ControlRecovery) (call : Call) :
    m.Writes (m.commitControlRecovery recovery call).1 := by
  refine writable_writes call _ fun ns stage _ staged => ?_
  split at staged
  · cases staged
  · cases staged
    exact Namespace.of_same rfl (Nat.le_refl _) rfl rfl

theorem decided_follows {method : ControlMethod} {id : DriverId} {plan : ControlPlan} {revision : Nat}
    (planned : decided ns method id plan = .ok (stage,revision)) :
    revision = ns.mark + 1 ∧ stage.mark = revision ∧ stage.currentView id = ⟨method.desired,revision⟩ ∧
      ns.Follows stage ∧ (ns.Issued → stage.Issued) := by
  unfold decided at planned
  simp only at planned
  split at planned
  · cases planned
  split at planned
  · next counted counted' =>
    split at planned
    · cases planned
    · cases planned
    · cases planned
    · cases planned
      have mark := Namespace.addCounter_some counted
      have catalog := Namespace.addCounter_some counted'
      refine ⟨mark,rfl,?_,Namespace.insert_follows ?_ ?_ rfl rfl (.inr ⟨?_,Nat.le_refl _⟩)⟩
      · unfold Namespace.currentView
        rw [AList.lookup_insert]
      · exact mark ▸ Nat.le_succ _
      · exact catalog ▸ Nat.le_succ _
      · exact mark ▸ Nat.lt_succ_self _
  · cases planned

theorem decideRefusal_none {req : ControlRequest} (passed : m.decideRefusal req call = none) :
    req.expectedRevision ≠ 0 ∧ m.ambiguous = none ∧ ∃ ns, m.control = some ns ∧ ns.failed.lookup req.driverId = none := by
  unfold decideRefusal at passed
  split at passed
  · cases passed
  rename_i nonzero
  split at passed
  · next refused =>
    rw [passed] at refused
    cases refused
  rename_i taken
  refine ⟨nonzero,?_⟩
  unfold precheckControl at taken
  split at taken
  · cases taken rfl
  split at taken
  · cases taken rfl
  rename_i ns control
  split at taken
  · next closed =>
    rw [admissionClosed,if_pos closed] at taken
    cases taken rfl
  split at taken
  · cases taken rfl
  rename_i sound
  split at taken
  · cases taken rfl
  · next idle => exact ⟨by simpa using idle,ns,control,by simpa using sound⟩

theorem decideControl_cases (method : ControlMethod) (req : ControlRequest) (planner : ControlPlanner) (call : Call) :
    (∃ error, (m.decideControl method req planner call).2 = .error error ∧ ((m.decideControl method req planner call).1 = m ∨
        ∃ ns stage revision plan, m.control = some ns ∧ m.ambiguous = none ∧ call.write = .ambiguous ∧
          decided ns method req.driverId plan = .ok (stage,revision) ∧
          (m.decideControl method req planner call).1 = {m with ambiguous := some stage})) ∨
    (∃ ns, m.control = some ns ∧ ns.failed.lookup req.driverId = none ∧ req.expectedRevision ≠ 0 ∧
      req.expectedRevision = (ns.currentView req.driverId).desiredRevision ∧
      ((m.decideControl method req planner call).2 = .ok (ns.currentView req.driverId) ∧
        (m.decideControl method req planner call).1 = m ∨
        ∃ stage revision plan, m.ambiguous = none ∧ decided ns method req.driverId plan = .ok (stage,revision) ∧
          planner ⟨method,req.driverId,(ns.records.lookup req.driverId).isSome, (ns.records.lookup req.driverId).getD {}⟩ = .ok plan ∧
          (m.decideControl method req planner call).2 = .ok ⟨method.desired,revision⟩ ∧
          (m.decideControl method req planner call).1 = {m with control := some stage})) := by
  generalize outcome : m.decideControl method req planner call = result
  unfold decideControl at outcome
  split at outcome
  -- every refusal leaves the manager as it is
  all_goals try (subst outcome; exact .inl ⟨_,rfl,.inl rfl⟩)
  next ns passed control =>
    obtain ⟨nonzero,idle,ns',control',sound⟩ := decideRefusal_none passed
    cases control.symm.trans control'
    simp only at outcome
    split at outcome
    all_goals try (subst outcome; exact .inl ⟨_,rfl,.inl rfl⟩)
    next matched =>
      have expected := Decidable.of_not_not matched
      split at outcome
      · subst outcome
        exact .inr ⟨ns,control,sound,nonzero,expected,.inl ⟨rfl,rfl⟩⟩
      repeat' split at outcome
      all_goals try (subst outcome; exact .inl ⟨_,rfl,.inl rfl⟩)
      all_goals
        rename_i committed
        unfold commitControl at committed
        repeat' split at committed
        all_goals cases committed
        all_goals subst outcome
        all_goals first
          | exact .inl ⟨_,rfl,.inl rfl⟩
          | exact .inl ⟨_,rfl,.inr ⟨ns,_,_,_,control,idle,‹_›,‹decided .. = _›,rfl⟩⟩
          | exact .inr ⟨ns,control,sound,nonzero,expected,.inr ⟨_,_,_,idle,‹decided .. = _›,‹planner _ = _›,rfl,rfl⟩⟩

theorem decideControl_writes (method : ControlMethod) (req : ControlRequest) (planner : ControlPlanner) (call : Call) :
    m.Writes (m.decideControl method req planner call).1 := by
  rcases m.decideControl_cases method req planner call with
    ⟨_,_,same | ⟨ns,stage,revision,plan,control,idle,_,planned,written⟩⟩ |
    ⟨ns,control,_,_,_,⟨_,same⟩ | ⟨stage,revision,plan,idle,planned,_,_,written⟩⟩
  · rw [same]
    exact .kept rfl rfl
  · obtain ⟨issued,follows⟩ := staged_over control (decided_follows planned).2.2.2
    rw [written]
    exact .staged stage idle issued follows (.inr ⟨rfl,rfl⟩)
  · rw [same]
    exact .kept rfl rfl
  · obtain ⟨issued,follows⟩ := staged_over control (decided_follows planned).2.2.2
    rw [written]
    exact .staged stage idle issued follows (.inl ⟨rfl,idle⟩)

theorem Writes.configs {next : Manager} (writes : m.Writes next) (configs : AList fun _ : DriverId => Bool) :
    m.Writes {next with configs := configs} := by
  cases writes with
  | kept control ambiguous => exact .kept control ambiguous
  | staged stage idle issued follows written => exact .staged stage idle issued follows written

theorem bootstrapControl_writes (configs : List ControlDriverConfig) (guid : Bool) (call : Call) :
    m.Writes (m.bootstrapControl configs guid call).1 := by
  unfold bootstrapControl
  split
  · exact .kept rfl rfl
  rename_i sorted _
  split
  · exact .kept rfl rfl
  split
  · exact .kept rfl rfl
  simp only
  generalize outcome : (if m.ambiguous.isSome = true then (m,Except.error ControlError.readbackPending) else _ :
    Manager × Except ControlError Unit) = result
  have writes : m.Writes result.1 := by
    rw [← outcome]
    split
    · exact .kept rfl rfl
    rename_i idle
    have idle : m.ambiguous = none := by simpa using idle
    split
    · next missing =>
      split
      · exact .kept rfl rfl
      refine stageWrite_writes call fun stage staged => ?_
      cases staged
      exact ⟨idle,fun _ => Namespace.seed_issued _,fun ns found => by cases missing.symm.trans found⟩
    · next ns control =>
      split
      · exact .kept rfl rfl
      split
      · next stage registered =>
        refine stageWrite_writes call fun _ staged => ?_
        cases staged
        exact ⟨idle,staged_over control (Namespace.registered_follows registered)⟩
      · exact .kept rfl rfl
  split
  · exact writes.configs _
  split
  · exact writes.configs _
  · exact writes

theorem Sound.settled {control : Option Namespace} {configs : AList fun _ : DriverId => Bool} {closed : Bool}
    (issued : ∀ ns, control = some ns → ns.Issued) : Sound ⟨control,none,configs,closed⟩ where
  control := issued
  ambiguous stage held := by cases held
  follows ns stage _ held := by cases held

theorem resolveControlReadback_sound (sound : m.Sound) (found : Readback) : (m.resolveControlReadback found).Sound ∧
    ∀ ns, m.control = some ns → ∃ ns', (m.resolveControlReadback found).control = some ns' ∧ ns.Follows ns' := by
  unfold resolveControlReadback
  split
  · next stage held =>
    refine ⟨.settled fun ns same => ?_,fun ns found => ⟨stage,rfl,sound.follows ns stage found held⟩⟩
    exact Option.some.inj same ▸ sound.ambiguous stage held
  · exact ⟨.settled sound.control,fun ns found => ⟨ns,found,.refl ns⟩⟩
  · exact ⟨sound,fun ns found => ⟨ns,found,.refl ns⟩⟩

theorem perform_sound (sound : m.Sound) (event : Event) :
    (m.perform event).Sound ∧ ∀ ns, m.control = some ns → ∃ ns', (m.perform event).control = some ns' ∧ ns.Follows ns' := by
  cases event with
  | bootstrap configs guid call => exact (bootstrapControl_writes configs guid call).sound sound
  | decide method req planner call => exact (decideControl_writes method req planner call).sound sound
  | commitWork id current reserved call => exact (commitControlWork_writes id current reserved call).sound sound
  | advanceCatalog call => exact (advanceControlCatalog_writes call).sound sound
  | commitRecovery recovery call => exact (commitControlRecovery_writes recovery call).sound sound
  | close => exact (Writes.kept rfl rfl : m.Writes {m with closed := true}).sound sound
  | readback found => exact resolveControlReadback_sound sound found
  | restart staged =>
    have reloaded (kept : Option Namespace) (issued : ∀ ns, kept = some ns → ns.Issued) :
        Sound {control := kept.map (·.reload)} := by
      refine .settled fun ns found => ?_
      obtain ⟨old,held,rfl⟩ := Option.map_eq_some_iff.mp found
      exact (Namespace.reload_follows old).2 (issued old held)
    cases found : (if staged then m.ambiguous else none) with
    | none =>
      rw [perform,restart,found,Option.none_or]
      refine ⟨reloaded m.control sound.control,fun ns held => ⟨ns.reload,?_,(Namespace.reload_follows ns).1⟩⟩
      rw [held]
      rfl
    | some stage =>
      have held : m.ambiguous = some stage := by
        split at found
        · exact found
        · cases found
      rw [perform,restart,found,Option.some_or]
      refine ⟨reloaded (some stage) fun ns same => Option.some.inj same ▸ sound.ambiguous stage held,fun ns control => ?_⟩
      exact ⟨stage.reload,rfl,(sound.follows ns stage control held).trans (Namespace.reload_follows stage).1⟩

end

theorem run_follows {start final : Manager} {events : List Event} (run : Run step anyStep start events final) (sound : start.Sound) :
    final.Sound ∧ ∀ ns, start.control = some ns → ∃ ns', final.control = some ns' ∧ ns.Follows ns' := by
  refine run.invariant (fun m => m.Sound ∧ ∀ ns, start.control = some ns → ∃ ns', m.control = some ns' ∧ ns.Follows ns')
    (fun m event next holds _ ran => ?_) ⟨sound,fun ns found => ⟨ns,found,.refl ns⟩⟩
  cases ran
  obtain ⟨sound,followed⟩ := holds
  obtain ⟨later,steps⟩ := perform_sound sound event
  refine ⟨later,fun ns found => ?_⟩
  obtain ⟨middle,found,first⟩ := followed ns found
  obtain ⟨last,found,second⟩ := steps middle found
  exact ⟨last,found,first.trans second⟩

end Manager

namespace Namespace
variable {old new : Namespace} {id : DriverId}

theorem driverView_sound (ns : Namespace) (enabled : Bool) (sound : ns.failed.lookup id = none) :
    (ns.driverView id enabled).desiredRevision = (ns.currentView id).desiredRevision ∧
      (ns.driverView id enabled).desiredState = (ns.currentView id).desiredState := by
  unfold driverView currentView
  rw [sound,if_neg (by simp)]
  cases ns.records.lookup id <;> exact ⟨rfl,rfl⟩

theorem driverView_failed (ns : Namespace) (enabled : Bool) {f : FailedRecord} (failed : ns.failed.lookup id = some f) :
    (ns.driverView id enabled).desiredRevision = 0 ∧ (ns.driverView id enabled).desiredState = .stopped := by
  unfold driverView
  rw [failed,Option.isSome_some,if_pos rfl]
  exact ⟨rfl,rfl⟩

theorem currentView_le (issued : old.Issued) : (old.currentView id).desiredRevision ≤ old.mark := by
  unfold currentView
  cases found : old.records.lookup id with
  | none => exact Nat.le_refl _
  | some r => exact (issued.records id r found).2

theorem driverView_zero (issued : old.Issued) (enabled : Bool) (zero : (old.driverView id enabled).desiredRevision = 0) :
    (old.driverView id enabled).desiredState = .stopped := by
  cases failed : old.failed.lookup id with
  | some f => exact (driverView_failed old enabled failed).2
  | none =>
    obtain ⟨revision,state⟩ := driverView_sound old enabled failed
    rw [state]
    rw [revision] at zero
    unfold currentView at zero ⊢
    cases found : old.records.lookup id with
    | none => rfl
    | some r =>
      rw [found] at zero
      exact absurd zero (Nat.pos_iff_ne_zero.mp (issued.records id r found).1)

theorem Follows.currentView (follows : old.Follows new) (issued : old.Issued) (sound : old.failed.lookup id = none) :
    (old.currentView id).desiredRevision ≤ (new.currentView id).desiredRevision ∧
      ((new.currentView id).desiredRevision = (old.currentView id).desiredRevision →
        (new.currentView id).desiredState = (old.currentView id).desiredState) := by
  have bounded : (old.currentView id).desiredRevision ≤ old.mark := currentView_le issued
  cases found : new.records.lookup id with
  | some r =>
    have shown : new.currentView id = ⟨r.desiredState,r.desiredRevision⟩ := by rw [Namespace.currentView,found]
    rw [shown]
    rcases follows.owned id r sound found with ⟨s,kept,revision,state⟩ | later
    · have same : old.currentView id = ⟨s.desiredState,s.desiredRevision⟩ := by rw [Namespace.currentView,kept]
      rw [same]
      exact ⟨Nat.le_of_eq revision,fun _ => state.symm⟩
    · have after := Nat.lt_of_le_of_lt bounded later
      exact ⟨Nat.le_of_lt after,fun same => absurd same (Nat.ne_of_gt after)⟩
  | none =>
    have shown : new.currentView id = ⟨.stopped,new.mark⟩ := by rw [Namespace.currentView,found]
    rw [shown]
    rcases follows.gone id sound found with never | moved
    · have same : old.currentView id = ⟨.stopped,old.mark⟩ := by rw [Namespace.currentView,never]
      rw [same]
      exact ⟨follows.mark,fun _ => rfl⟩
    · have after := Nat.lt_of_le_of_lt bounded moved
      exact ⟨Nat.le_of_lt after,fun same => absurd same (Nat.ne_of_gt after)⟩

theorem Follows.driverView (follows : old.Follows new) (issued : old.Issued) (later : new.Issued) (first second : Bool)
    (same : (old.driverView id first).desiredRevision = (new.driverView id second).desiredRevision) :
    (old.driverView id first).desiredState = (new.driverView id second).desiredState := by
  cases failed : old.failed.lookup id with
  | some f =>
    obtain ⟨zero,stopped⟩ := driverView_failed old first failed
    rw [stopped,driverView_zero later second (same.symm.trans zero)]
  | none =>
    obtain ⟨revision,state⟩ := driverView_sound old first failed
    obtain ⟨revision',state'⟩ := driverView_sound new second (follows.intact id failed)
    rw [state,state']
    refine ((follows.currentView issued failed).2 ?_).symm
    rw [← revision',← revision,same]

end Namespace

theorem Manager.controlDriver_some {m : Manager} {id : DriverId} {view : ControlDriverView} (found : m.controlDriver id = some view) :
    ∃ ns enabled, m.control = some ns ∧ view = ns.driverView id enabled := by
  unfold controlDriver at found
  split at found
  · cases found
  split at found
  · next enabled ns _ control =>
    cases found
    exact ⟨ns,enabled,control,rfl⟩
  · cases found

/-- From any file: a changing decision returns the next revision after the mark, the mark and the catalog
revision never go back, a refused decision leaves the namespace and all but a staged one as they are and a
no-op leaves everything; the revision a driver shows determines its state over the whole history; and a
decision accepted with a revision read earlier finds the desired state as it was read, at every moment
between. -/
theorem revisions_determine_states (file : Option Namespace) (issued : ∀ ns, file = some ns → ns.Issued) {events : List Event}
    {m : Manager} (run : Run step anyStep {control := file} events m) :
    (∀ event ns, m.control = some ns →
      ∃ ns', (m.perform event).control = some ns' ∧ ns.mark ≤ ns'.mark ∧ ns.catalog ≤ ns'.catalog) ∧
    (∀ method request planner call,
      (∀ view, (m.decideControl method request planner call).2 = .ok view → view.desiredRevision ≠ request.expectedRevision →
        ∃ ns, m.control = some ns ∧ view.desiredRevision = ns.mark + 1) ∧
      (∀ view, (m.decideControl method request planner call).2 = .ok view → view.desiredRevision = request.expectedRevision →
        (m.decideControl method request planner call).1 = m) ∧
      (∀ error, (m.decideControl method request planner call).2 = .error error →
        (m.decideControl method request planner call).1 = m ∨
          call.write = .ambiguous ∧ ∃ stage, (m.decideControl method request planner call).1 = {m with ambiguous := some stage})) ∧
    (∀ onward later, Run step anyStep m onward later → ∀ id first second, m.controlDriver id = some first →
      later.controlDriver id = some second → first.desiredRevision = second.desiredRevision →
      first.desiredState = second.desiredState) ∧
    (∀ onward middle further later, Run step anyStep m onward middle → Run step anyStep middle further later →
      ∀ first method request planner call view, m.controlDriver request.driverId = some first →
        request.expectedRevision = first.desiredRevision →
        (later.decideControl method request planner call).2 = .ok view →
        ∀ ns enabled, middle.control = some ns → (ns.driverView request.driverId enabled).desiredState = first.desiredState) := by
  have sound : m.Sound := (Manager.run_follows run (.settled issued)).1
  refine ⟨fun event ns control => ?_,fun method request planner call => ?_,?_,?_⟩
  · obtain ⟨ns',found,follows⟩ := (Manager.perform_sound sound event).2 ns control
    exact ⟨ns',found,follows.mark,follows.catalog⟩
  · rcases m.decideControl_cases method request planner call with
      ⟨error,refused,kept⟩ | ⟨ns,control,_,_,expected,⟨shown,same⟩ | ⟨stage,revision,plan,_,planned,_,shown,_⟩⟩
    · have notOk : ∀ view, (m.decideControl method request planner call).2 ≠ .ok view := by
        rw [refused]
        exact fun _ => nofun
      refine ⟨fun view ok => absurd ok (notOk view),fun view ok => absurd ok (notOk view),fun _ _ => ?_⟩
      rcases kept with same | ⟨_,stage,_,_,_,_,write,_,written⟩
      · exact .inl same
      · exact .inr ⟨write,stage,written⟩
    · refine ⟨fun view ok different => ?_,fun _ _ _ => same,fun error failed => by cases shown.symm.trans failed⟩
      cases shown.symm.trans ok
      exact absurd expected.symm different
    · obtain ⟨next,_⟩ := Manager.decided_follows planned
      refine ⟨fun view ok _ => ?_,fun view ok equal => ?_,fun error failed => by cases shown.symm.trans failed⟩
      · cases shown.symm.trans ok
        exact ⟨ns,control,next⟩
      · cases shown.symm.trans ok
        have bounded : (ns.currentView request.driverId).desiredRevision ≤ ns.mark :=
          Namespace.currentView_le (sound.control ns control)
        have equal : revision = request.expectedRevision := equal
        omega
  · intro onward later reached id first second one two same
    obtain ⟨ns,enabled,control,rfl⟩ := Manager.controlDriver_some one
    obtain ⟨ns',enabled',control',rfl⟩ := Manager.controlDriver_some two
    obtain ⟨sound',followed⟩ := Manager.run_follows reached sound
    obtain ⟨last,found,follows⟩ := followed ns control
    cases control'.symm.trans found
    exact follows.driverView (sound.control ns control) (sound'.control ns' control') enabled enabled' same
  · intro onward middle further later reached reached' first method request planner call view one
      expected accepted ns' enabled' control'
    obtain ⟨ns,enabled,control,rfl⟩ := Manager.controlDriver_some one
    obtain ⟨soundMiddle,followed⟩ := Manager.run_follows reached sound
    obtain ⟨found,control'',follows⟩ := followed ns control
    cases control'.symm.trans control''
    obtain ⟨_,followed⟩ := Manager.run_follows reached' soundMiddle
    obtain ⟨last,controlLast,follows'⟩ := followed ns' control'
    rcases later.decideControl_cases method request planner call with
      ⟨_,refused,_⟩ | ⟨_,controlLater,_,nonzero,current,_⟩
    · cases refused.symm.trans accepted
    cases controlLast.symm.trans controlLater
    have issued := sound.control ns control
    cases failed : ns.failed.lookup request.driverId with
    | some f => exact absurd (expected.trans (Namespace.driverView_failed ns enabled failed).1) nonzero
    | none =>
      have failed' := follows.intact _ failed
      obtain ⟨revision,state⟩ := ns.driverView_sound enabled failed
      obtain ⟨_,state'⟩ := ns'.driverView_sound enabled' failed'
      obtain ⟨before,unchanged⟩ := follows.currentView issued failed
      obtain ⟨after,_⟩ := follows'.currentView (soundMiddle.control ns' control') failed'
      rw [state,state']
      exact unchanged (by omega)

/-- A driver seeded as running is stopped with revision two, and stays as it was read until then. -/
theorem seeded_driver_stops_at_two :
    ∃ m view, Run step anyStep {} [.bootstrap [⟨['d'],true⟩] true {}] m ∧ m.controlDriver ['d'] = some view ∧
      view.desiredState = .running ∧ view.desiredRevision = 1 ∧
      (m.decideControl .stop ⟨['d'],1⟩ (fun _ => .ok ⟨some {kind := .stop},none⟩) {}).2 = .ok ⟨.stopped,2⟩ ∧
      (∃ ns, m.control = some ns ∧ 2 = ns.mark + 1) ∧
      ∀ ns enabled, m.control = some ns → (ns.driverView ['d'] enabled).desiredState = .running := by
  obtain ⟨m,run,shown,stopped⟩ : ∃ m, Run step anyStep {} [.bootstrap [⟨['d'],true⟩] true {}] m ∧
      (m.controlDriver ['d']).any (fun view => view.desiredState = .running && view.desiredRevision = 1) = true ∧
      (m.decideControl .stop ⟨['d'],1⟩ (fun _ => .ok ⟨some {kind := .stop},none⟩) {}).2 = .ok ⟨.stopped,2⟩ :=
    Run.exists_of_execute _ (by decide +kernel)
  obtain ⟨view,found,read⟩ := (Option.any_eq_true _ _).mp shown
  rw [Bool.and_eq_true,decide_eq_true_eq,decide_eq_true_eq] at read
  obtain ⟨_,decisions,_,between⟩ := revisions_determine_states none (fun _ held => by cases held) run
  refine ⟨m,view,run,found,read.1,read.2,stopped,(decisions _ _ _ _).1 _ stopped (by decide),fun ns enabled control => ?_⟩
  rw [← read.1]
  exact between [] m [] m .refl .refl view .stop ⟨['d'],1⟩ _ {} _ found read.2.symm stopped ns enabled control

end EbusGateway.RuntimeState
