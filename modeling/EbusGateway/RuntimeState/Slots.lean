import EbusGateway.RuntimeState.Revisions

/-! The typed slots of a driver over accepted decisions and work updates: progress never falls and sequences
are issued once.
-/
namespace EbusGateway.RuntimeState
open Library List

def accept (m : Manager) : Event → Option Manager
  | .decide method request planner call =>
    match m.decideControl method request planner call with
    | (next,.ok _) => some next
    | _ => none
  | .commitWork id current reserved call =>
    match m.commitControlWork id current reserved call with
    | (next,.ok _) => some next
    | _ => none
  | _ => none

def Namespace.record (ns : Namespace) (id : DriverId) : ControlDriverRecord := (ns.records.lookup id).getD {}

def Manager.record (m : Manager) (id : DriverId) : ControlDriverRecord := m.control.elim {} (·.record id)

def ControlPlanner.Retains (planner : ControlPlanner) (stored : ControlDriverRecord) : Prop :=
  ∀ input plan, input.record = stored → planner input = .ok plan → ∀ t ∈ stored.reserved,
    plan.current = some t ∨ plan.reserved = some t

/-- The planner keeps the stored reserved transition in one of its plan's slots. -/
def Event.retains (m : Manager) : Event → Prop
  | .decide _ request planner _ => planner.Retains (m.record request.driverId)
  | _ => True

theorem refused_none {c : Prop} [Decidable c] {reason : String} {rest : Option String} :
    (if c then some reason else rest) = none ↔ ¬c ∧ rest = none := by
  split <;> simp_all

namespace ControlTransition

structure Progress (s t : ControlTransition) : Prop where
  identity : (s.sequence,s.desiredRevision,s.kind) = (t.sequence,t.desiredRevision,t.kind)
  phase : s.phase.rank ≤ t.phase.rank
  attempts : s.attemptsUsed ≤ t.attemptsUsed
  deadline : ∀ d ∈ s.deadlineUTC, ∃ e ∈ t.deadlineUTC, e ≤ d

namespace Progress
variable {s t u : ControlTransition}

theorem refl (t : ControlTransition) : Progress t t := ⟨rfl,Nat.le_refl _,Nat.le_refl _,fun d found => ⟨d,found,Nat.le_refl _⟩⟩

theorem sequence (progress : Progress s t) : s.sequence = t.sequence := congrArg Prod.fst progress.identity

theorem trans (first : Progress s t) (second : Progress t u) : Progress s u where
  identity := first.identity.trans second.identity
  phase := Nat.le_trans first.phase second.phase
  attempts := Nat.le_trans first.attempts second.attempts
  deadline d found := by
    obtain ⟨e,there,less⟩ := first.deadline d found
    obtain ⟨f,here,fewer⟩ := second.deadline e there
    exact ⟨f,here,Nat.le_trans fewer less⟩

theorem same_sequence (same : s.same t = true) : s.sequence = t.sequence := by
  simp only [ControlTransition.same,Bool.and_eq_true,decide_eq_true_eq] at same
  exact same.1.1

theorem of_regression (regresses : controlRegression s t = none) (same : s.same t = true) : Progress s t := by
  unfold controlRegression at regresses
  simp only [refused_none] at regresses
  obtain ⟨phase,attempts,removed,extended,_⟩ := regresses
  refine ⟨by simpa [ControlTransition.same,and_assoc] using same,by omega,by omega,fun d found => ?_⟩
  rw [found] at removed extended
  cases there : t.deadlineUTC with
  | none => simp [there] at removed
  | some e => exact ⟨e,rfl,by simpa [there] using extended⟩

end Progress

end ControlTransition
open ControlTransition (Progress)

namespace ControlDriverRecord

def slots (r : ControlDriverRecord) : List ControlTransition := r.current.toList ++ r.reserved.toList

structure Ordered (r : ControlDriverRecord) : Prop where
  issued : ∀ t ∈ r.slots, 0 < t.sequence ∧ t.sequence ≤ r.lifecycleSequence
  order : ∀ t ∈ r.current, ∀ u ∈ r.reserved, t.sequence < u.sequence

structure Later (r next : ControlDriverRecord) : Prop where
  sequence : r.lifecycleSequence ≤ next.lifecycleSequence
  slots : ∀ t ∈ next.slots, (∃ s ∈ r.slots, Progress s t) ∨ r.lifecycleSequence < t.sequence
  ordered : r.Ordered → next.Ordered

structure Advances (retains : Prop) (r next : ControlDriverRecord) : Prop extends Later r next where
  kept : retains → r.Ordered → ∀ s ∈ r.reserved, ∃ t ∈ next.slots, t.sequence = s.sequence

section
variable {r next last : ControlDriverRecord} {s t : ControlTransition} {retains : Prop}

theorem mem_slots : t ∈ r.slots ↔ r.current = some t ∨ r.reserved = some t := by
  simp [slots]

theorem Ordered.unique (ordered : r.Ordered) (left : s ∈ r.slots) (right : t ∈ r.slots) (same : s.sequence = t.sequence) : s = t := by
  rcases mem_slots.mp left with a | a <;> rcases mem_slots.mp right with b | b
  · exact Option.some.inj (a.symm.trans b)
  · exact absurd (ordered.order s a t b) (by omega)
  · exact absurd (ordered.order t b s a) (by omega)
  · exact Option.some.inj (a.symm.trans b)

theorem Later.refl (r : ControlDriverRecord) : Later r r := ⟨Nat.le_refl _,fun t inside => .inl ⟨t,inside,.refl t⟩,id⟩

theorem Later.trans (first : Later r next) (second : Later next last) : Later r last where
  sequence := Nat.le_trans first.sequence second.sequence
  slots t inside := by
    rcases second.slots t inside with ⟨s,there,progress⟩ | new
    · rcases first.slots s there with ⟨old,before,earlier⟩ | new
      · exact .inl ⟨old,before,earlier.trans progress⟩
      · exact .inr (progress.sequence ▸ new)
    · exact .inr (Nat.lt_of_le_of_lt first.sequence new)
  ordered := second.ordered ∘ first.ordered

theorem Later.entered (later : Later r next) (inside : t ∈ next.slots) (absent : ∀ s ∈ r.slots, s.sequence ≠ t.sequence) :
    r.lifecycleSequence < t.sequence :=
  (later.slots t inside).elim (fun ⟨s,there,progress⟩ => absurd progress.sequence (absent s there)) id

theorem Later.progress (later : Later r next) (ordered : r.Ordered) (before : s ∈ r.slots) (inside : t ∈ next.slots)
    (same : s.sequence = t.sequence) : Progress s t := by
  rcases later.slots t inside with ⟨old,there,progress⟩ | new
  · rwa [ordered.unique before there (same.trans progress.sequence.symm)]
  · have := (ordered.issued s before).2
    omega

theorem Advances.refl (retains : Prop) (r : ControlDriverRecord) : Advances retains r r :=
  ⟨.refl r,fun _ _ s stored => ⟨s,mem_slots.mpr (.inr stored),rfl⟩⟩

theorem Advances.desired (advances : Advances retains r next) (state : DesiredState) (revision : Nat) :
    Advances retains r {next with desiredState := state, desiredRevision := revision} :=
  ⟨⟨advances.sequence,advances.slots,fun ordered =>
    ⟨(advances.ordered ordered).issued,(advances.ordered ordered).order⟩⟩,advances.kept⟩

/-- What leaves the slots precedes all that is in them afterwards. -/
theorem Advances.leaves (advances : Advances retains r next) (retained : retains) (ordered : r.Ordered)
    (left : s ∈ r.slots) (gone : ∀ t ∈ next.slots, t.sequence ≠ s.sequence) (inside : t ∈ next.slots) : s.sequence < t.sequence := by
  rcases mem_slots.mp left with current | reserved
  · rcases advances.slots t inside with ⟨v,there,progress⟩ | new
    · have apart := gone t inside
      rw [← progress.sequence] at apart ⊢
      rcases mem_slots.mp there with same | later
      · cases current.symm.trans same
        exact absurd rfl apart
      · exact ordered.order s current v later
    · exact Nat.lt_of_le_of_lt (ordered.issued s left).2 new
  · obtain ⟨t,there,same⟩ := advances.kept retained ordered s reserved
    exact absurd same (gone t there)

end

section
variable {r updated : ControlDriverRecord} {current reserved : Option ControlTransition} {revision : Nat}

theorem ordered_of_valid (transitions : r.slots.findSome? validateTransition = none)
    (valid : validateRecordSlots r = none) : r.Ordered := by
  unfold validateRecordSlots at valid
  simp only [refused_none] at valid
  obtain ⟨_,_,sequences,order⟩ := valid
  refine ⟨fun t inside => ⟨?_,?_⟩,fun t current u reserved => ?_⟩
  · have valid := findSome?_eq_none_iff.mp transitions t inside
    unfold validateTransition at valid
    have nonzero := (refused_none.mp valid).1
    simp only [Bool.or_eq_true,decide_eq_true_eq] at nonzero
    omega
  · simp only [Bool.not_eq_true,any_eq_false,decide_eq_true_eq] at sequences
    exact Nat.le_of_not_lt (sequences t inside)
  · rw [Option.mem_def.mp current,Option.mem_def.mp reserved] at order
    simp only [refused_none] at order
    omega

theorem sameIdentity_iff {a b : Option ControlTransition} :
    sameIdentity a b = true ↔ ∃ t s, a = some t ∧ b = some s ∧ s.same t = true := by
  unfold sameIdentity
  split
  · simp only [ControlTransition.same,Bool.and_eq_true,decide_eq_true_eq,Option.some.injEq]
    grind
  · simp_all

theorem workInvalid_none (valid : workInvalid r current reserved = none) (retains : Prop) :
    Advances retains r {r with current := current, reserved := reserved} := by
  unfold workInvalid at valid
  simp only [refused_none] at valid
  obtain ⟨known,_,dropped,valid⟩ := valid
  split at valid
  · cases valid
  rename_i progress
  split at valid
  · cases valid
  rename_i transitions
  refine ⟨⟨Nat.le_refl _,fun t inside => .inl ?_,fun _ => ordered_of_valid transitions valid⟩,fun _ _ s stored => ?_⟩
  · simp only [Bool.not_eq_true,any_eq_false,Bool.and_eq_true,Bool.not_eq_true',not_and,Bool.not_eq_false] at known
    have forward := findSome?_eq_none_iff.mp progress t inside
    split at forward
    · next identity =>
      obtain ⟨_,s,⟨⟩,found,same⟩ := sameIdentity_iff.mp identity
      rw [found] at forward
      exact ⟨s,mem_slots.mpr (.inl found),.of_regression forward same⟩
    · next differs =>
      obtain ⟨_,s,⟨⟩,found,same⟩ := sameIdentity_iff.mp (known t inside (by simpa using differs))
      rw [found] at forward
      exact ⟨s,mem_slots.mpr (.inr found),.of_regression forward same⟩
  · rw [stored] at dropped
    simp only [Option.isSome_some,Bool.true_and,Bool.and_eq_true,Bool.not_eq_true',not_and,Bool.not_eq_false] at dropped
    by_cases promoted : sameIdentity current (some s) = true
    · obtain ⟨t,_,rfl,⟨⟩,same⟩ := sameIdentity_iff.mp promoted
      exact ⟨t,mem_slots.mpr (.inl rfl),(Progress.same_sequence same).symm⟩
    · obtain ⟨t,_,rfl,⟨⟩,same⟩ := sameIdentity_iff.mp (dropped (by simpa using promoted))
      exact ⟨t,mem_slots.mpr (.inr rfl),(Progress.same_sequence same).symm⟩

theorem allocate_ok {sequence sequence' : Nat} {slot out : Option ControlTransition}
    (allocated : allocate r revision sequence slot = .ok (out,sequence')) :
    sequence ≤ sequence' ∧ (∀ t ∈ out, t ∈ r.slots ∨ sequence < t.sequence ∧
      t.sequence ≤ sequence') ∧ ∀ s ∈ slot, s.sequence ≠ 0 → out = some s := by
  unfold allocate at allocated
  dsimp only [bind,Except.bind,pure,Except.pure,throw,throwThe,MonadExceptOf.throw] at allocated
  repeat' split at allocated
  all_goals cases allocated
  · exact ⟨Nat.le_refl _,nofun,nofun⟩
  · next t fresh _ _ counted _ =>
    cases Namespace.addCounter_some counted
    refine ⟨Nat.le_succ _,fun _ new => ?_,fun s given nonzero => ?_⟩
    · cases new
      exact .inr ⟨Nat.lt_succ_self _,Nat.le_refl _⟩
    · cases given
      exact absurd fresh nonzero
  · next retained _ _ =>
    refine ⟨Nat.le_refl _,fun t new => ?_,fun s given _ => given⟩
    cases new
    exact .inl (contains_iff_mem.mp retained)

theorem applyControlPlan_ok {plan : ControlPlan} {kind : TransitionKind}
    (applied : applyControlPlan r plan revision kind = .ok updated) :
    Advances (∀ t ∈ r.reserved, plan.current = some t ∨ plan.reserved = some t) r updated := by
  unfold applyControlPlan at applied
  dsimp only [bind,Except.bind,pure,Except.pure,throw,throwThe,MonadExceptOf.throw] at applied
  split at applied
  · cases applied
  split at applied
  · cases applied
  split at applied
  · cases applied
  rename_i first allocated _ second allocated'
  obtain ⟨grows,current,kept⟩ := allocate_ok allocated
  obtain ⟨grows',reserved,kept'⟩ := allocate_ok allocated'
  split at applied
  · cases applied
  have order : (∀ t ∈ first.1, ∀ u ∈ second.1, t.sequence < u.sequence) ∧
      updated = {r with lifecycleSequence := second.2, current := first.1, reserved := second.1} := by
    split at applied
    · next found found' =>
      split at applied
      · cases applied
      cases applied
      rw [found,found']
      refine ⟨fun t same u same' => ?_,rfl⟩
      cases same
      cases same'
      omega
    · next apart =>
      cases applied
      exact ⟨fun t found u found' => (apart t u found found').elim,rfl⟩
  obtain ⟨order,rfl⟩ := order
  have origin : ∀ t ∈ slots {r with lifecycleSequence := second.2, current := first.1, reserved := second.1},
      t ∈ r.slots ∨ r.lifecycleSequence < t.sequence ∧ t.sequence ≤ second.2 := by
    intro t inside
    rcases mem_slots.mp inside with found | found
    · exact (current t found).imp_right fun new => ⟨new.1,Nat.le_trans new.2 grows'⟩
    · exact (reserved t found).imp_right fun new => ⟨Nat.lt_of_le_of_lt grows new.1,new.2⟩
  refine ⟨⟨Nat.le_trans grows grows',fun t inside => ?_,fun ordered => ⟨fun t inside => ?_,order⟩⟩,
    fun retained ordered s stored => ?_⟩
  · exact (origin t inside).imp (fun old => ⟨t,old,.refl t⟩) And.left
  · rcases origin t inside with old | new
    · exact (ordered.issued t old).imp_right fun bound => Nat.le_trans bound (Nat.le_trans grows grows')
    · exact ⟨Nat.zero_lt_of_lt new.1,new.2⟩
  · have nonzero := Nat.ne_of_gt (ordered.issued s (mem_slots.mpr (.inr stored))).1
    refine ⟨s,mem_slots.mpr ?_,rfl⟩
    exact (retained s stored).imp (kept s · nonzero) (kept' s · nonzero)

end

end ControlDriverRecord
open ControlDriverRecord

theorem Namespace.advances_insert {ns stage : Namespace} {driver : DriverId} {r : ControlDriverRecord} {retains : Prop}
    (records : stage.records = ns.records.insert driver r) (advances : Advances retains (ns.record driver) r) (id : DriverId) :
    Advances retains (ns.record id) (stage.record id) := by
  unfold Namespace.record
  rw [records]
  by_cases same : id = driver
  · subst same
    rw [AList.lookup_insert]
    exact advances
  · rw [AList.lookup_insert_ne same]
    exact .refl ..

namespace Manager
variable {m next : Manager} {event : Event}

theorem decided_advances {ns stage : Namespace} {method : ControlMethod} {driver : DriverId} {plan : ControlPlan} {revision : Nat}
    (planned : decided ns method driver plan = .ok (stage,revision)) (id : DriverId) :
    Advances (∀ t ∈ (ns.record driver).reserved, plan.current = some t ∨ plan.reserved = some t)
    (ns.record id) (stage.record id) := by
  unfold decided at planned
  dsimp only at planned
  split at planned
  · cases planned
  split at planned
  · split at planned
    · cases planned
    · cases planned
    · cases planned
    · next applied =>
      cases planned
      exact Namespace.advances_insert rfl ((applyControlPlan_ok applied).desired ..) id
  · cases planned

theorem stageWrite_ok {call : Call} {staged : Except ControlError Namespace} (written : m.stageWrite call staged = (next,.ok ())) :
    ∃ stage, staged = .ok stage ∧ next.control = some stage := by
  unfold stageWrite commitControl at written
  repeat' split at written
  all_goals cases written
  exact ⟨_,rfl,rfl⟩

theorem accept_advances (taken : accept m event = some next) (id : DriverId) :
    Advances (event.retains m) (m.record id) (next.record id) := by
  unfold accept at taken
  split at taken
  · next method request planner call =>
    split at taken
    · next decision =>
      cases taken
      rcases m.decideControl_cases method request planner call with
        ⟨_,failed,_⟩ | ⟨ns,control,_,_,_,⟨_,same⟩ | ⟨stage,revision,plan,_,planned,answered,_,written⟩⟩
      · rw [decision] at failed
        cases failed
      · rw [decision] at same
        cases same
        exact .refl ..
      · rw [decision] at written
        cases written
        have advances := decided_advances planned id
        unfold Event.retains Manager.record
        rw [control]
        exact ⟨advances.toLater,fun retained => advances.kept (retained _ _ rfl answered)⟩
    · cases taken
  · next driver current reserved call =>
    split at taken
    · next work =>
      cases taken
      obtain ⟨stage,staged,written⟩ := stageWrite_ok work
      cases opened : m.writable call with
      | error =>
        rw [opened] at staged
        cases staged
      | ok ns =>
        rw [opened] at staged
        dsimp only [bind,Except.bind,pure,Except.pure] at staged
        split at staged
        · cases staged
        rename_i r found
        split at staged
        · cases staged
        rename_i valid
        cases staged
        unfold Manager.record
        rw [(writable_ok opened).1,written]
        refine Namespace.advances_insert rfl ?_ id
        rw [Namespace.record,found]
        exact workInvalid_none valid _
    · cases taken
  · cases taken

theorem execute_later {calls : List Event} (executed : execute accept m calls = some next) (id : DriverId) :
    Later (m.record id) (next.record id) := by
  induction calls generalizing m with
  | nil =>
    cases executed
    exact .refl _
  | cons event rest ih =>
    obtain ⟨middle,taken,executed⟩ := Option.bind_eq_some_iff.mp executed
    exact (accept_advances taken id).toLater.trans (ih executed)

end Manager

/-- Three states of a history in order, from records that the loader accepts, and a further call. -/
theorem slots_advance_in_order {start first second third : Manager} {before between after : List Event}
    {id : DriverId} (transitions : (start.record id).slots.findSome? validateTransition = none)
    (valid : validateRecordSlots (start.record id) = none)
    (one : execute accept start before = some first) (two : execute accept first between = some second)
    (three : execute accept second after = some third) :
    (∀ t ∈ (third.record id).current, ∀ u ∈ (third.record id).reserved, t.sequence < u.sequence) ∧
    (∀ t ∈ (third.record id).slots, (∀ s ∈ (second.record id).slots, s.sequence ≠ t.sequence) →
      ∀ s ∈ (first.record id).slots, s.sequence < t.sequence) ∧
    (∀ s ∈ (second.record id).slots, ∀ t ∈ (third.record id).slots, s.sequence = t.sequence → Progress s t) ∧
    ∀ event next, accept third event = some next → event.retains third →
      (∀ s ∈ (third.record id).reserved, ∃ t ∈ (next.record id).slots, t.sequence = s.sequence) ∧
      ∀ s ∈ (third.record id).slots, (∀ t ∈ (next.record id).slots, t.sequence ≠ s.sequence) →
        ∀ t ∈ (next.record id).slots, s.sequence < t.sequence := by
  have ordered := (Manager.execute_later one id).ordered (ordered_of_valid transitions valid)
  have between := Manager.execute_later two id
  have later := Manager.execute_later three id
  have ordered' := between.ordered ordered
  have ordered'' := later.ordered ordered'
  refine ⟨ordered''.order,fun t inside absent s there => ?_,fun s there t inside => later.progress ordered' there inside,
    fun event next accepted retained => ?_⟩
  · have new := later.entered inside absent
    have bound := (ordered.issued s there).2
    have grows := between.sequence
    omega
  · have advances := Manager.accept_advances accepted id
    exact ⟨advances.kept retained ordered'',fun s left gone t inside => advances.leaves retained ordered'' left gone inside⟩

def occupied : Manager := {
  control := some {
    mark := 2
    records := (∅ : AList fun _ : DriverId => ControlDriverRecord).insert ['d'] {
      desiredState := .running, desiredRevision := 2, lifecycleSequence := 2
      current := some {kind := .start, desiredRevision := 1, sequence := 1}
      reserved := some {kind := .restart, desiredRevision := 2, sequence := 2}}}
  configs := (∅ : AList fun _ : DriverId => Bool).insert ['d'] true}

def promotion : Event := .commitWork ['d'] (some {kind := .restart, desiredRevision := 2, sequence := 2, phase := .active}) none {}

theorem promotion_advances :
    ∃ third, execute accept occupied [promotion] = some third ∧
      ∀ s ∈ (occupied.record ['d']).slots, ∀ t ∈ (third.record ['d']).slots, s.sequence = t.sequence → Progress s t := by
  have idle : execute accept occupied [] = some occupied := rfl
  have run : execute accept occupied [promotion] = some _ := rfl
  exact ⟨_,run,(slots_advance_in_order (by decide) (by decide) idle idle run).2.2.1⟩

/-- A plan replaces both slots and drops the reserved transition. -/
theorem plan_drops_reserved :
    ∃ next, accept occupied (.decide .stop ⟨['d'],2⟩ (fun _ => .ok ⟨some {kind := .stop},none⟩) {}) = some next ∧
      ∃ s ∈ (occupied.record ['d']).reserved, ∀ t ∈ (next.record ['d']).slots, t.sequence ≠ s.sequence :=
  ⟨_,rfl,_,rfl,by decide⟩

end EbusGateway.RuntimeState
