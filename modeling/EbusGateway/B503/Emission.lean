import EbusGateway.B503.Fence

/-! No second enable. Every function of the manager leaves the fences standing, and a withdrawn operation is silent.
-/
namespace EbusGateway.B503
open Library List

inductive Quiet (m next : Manager) : Prop
  | untouched (untouched : Untouched m next)
  | settles (tame : Tame m) (settles : Settles m next)

theorem Untouched.refl (m : Manager) : Untouched m m := ⟨rfl,rfl,rfl,rfl,rfl,rfl,rfl,rfl⟩

namespace Manager

def begun (m : Manager) (target : UInt8) : Manager :=
  {m with
    state := .enabling, mutexHeld := true
    pendingOperation := some {id := m.minted + 1, kind := .enable, target := target, transport := m.transport}
    activeToken := some m.minted, activeTarget := target, refreshFailed := false, lastRefreshTransportDown := false
    minted := m.minted + 2}

variable {m : Manager} {operation epoch : Nat} {target : UInt8} {outcome : DispatchOutcome}

theorem pending_cases (m : Manager) (operation : Nat) : m.pendingOperation.filter (·.id = operation) = none ∨
    ∃ pending, m.pendingOperation.filter (·.id = operation) = some pending ∧
      m.pendingOperation = some pending ∧ pending.id = operation := by
  cases found : m.pendingOperation.filter (·.id = operation) with
  | none => exact .inl rfl
  | some pending =>
    obtain ⟨held,mine⟩ := Option.filter_eq_some_iff.mp found
    exact .inr ⟨pending,rfl,held,by simpa using mine⟩

theorem quiet_of_pending {next : Manager} (mine : ∀ pending, m.pendingOperation = some pending → pending.id = operation → Tame m)
    (foreign : m.pendingOperation.filter (·.id = operation) = none → next = m)
    (own : ∀ pending, m.pendingOperation.filter (·.id = operation) = some pending →
      m.pendingOperation = some pending → Tame m → Settles m next) :
    Quiet m next := by
  obtain none | ⟨pending,found,held,same⟩ := m.pending_cases operation
  · rw [foreign none]
    exact .untouched (.refl m)
  · have tame := mine pending held same
    exact .settles tame (own pending found held tame)

theorem consumeIdleExpiryAfterRead_settles {before : Manager} (settles : Settles before m) :
    Settles before (m.consumeIdleExpiryAfterRead target operation).1 := by
  unfold consumeIdleExpiryAfterRead
  split
  · exact settles
  simp only
  split
  · exact settles.of_view rfl
  · exact Settles.createCleanup (settles.of_view rfl : Settles before {m with idleExpiryPending := false}).toDisabled

section
variable (mine : ∀ pending, m.pendingOperation = some pending → pending.id = operation → Tame m) {transport : TransportKey}
include mine

theorem readEnd_quiet : Quiet m (m.readEnd operation target outcome).1 := by
  unfold readEnd
  refine quiet_of_pending mine (fun none => by rw [none]) fun pending found held tame => ?_
  rw [found]
  simp only
  split
  · exact (Settles.createCleanup tame.settles.gone.toDisabled).of_view rfl
  split
  · exact consumeIdleExpiryAfterRead_settles tame.settles.gone
  · exact Settles.armIdleTimer (tame.settles.gone.of_view rfl)

theorem disableEnd_quiet : Quiet m (m.disableEnd operation target outcome).1 := by
  unfold disableEnd
  refine quiet_of_pending mine (fun none => by rw [none]) fun pending found held tame => ?_
  rw [found]
  simp only
  split
  · exact Settles.armIdleTimer (tame.settles.gone.of_view rfl)
  refine Settles.marked (Settles.createCleanup (Settles.turn ?_ .disabled nofun)) fun _ => rfl
  split
  · exact tame.settles.gone.releaseOwner
  · exact tame.settles.gone

theorem cleanedUp_quiet : Quiet m (m.cleanedUp operation) := by
  unfold cleanedUp
  refine quiet_of_pending mine (fun none => ?_) fun pending found held tame => ?_
  · have same : m.pendingOperation.filter (·.id ≠ operation) = m.pendingOperation := by
      cases held : m.pendingOperation with
      | none => rfl
      | some pending =>
        rw [held,Option.filter_some] at none
        simpa [Option.filter_some] using none
    rw [same]
  · have gone : m.pendingOperation.filter (·.id ≠ operation) = none := by
      obtain ⟨_,same⟩ := Option.filter_eq_some_iff.mp found
      rw [held,Option.filter_some]
      simpa using same
    rw [gone]
    exact tame.settles.gone

theorem expiryEnd_quiet : Quiet m (m.expiryEnd operation target transport outcome) := by
  unfold expiryEnd
  refine quiet_of_pending mine (fun none => by rw [none]) fun pending found held tame => ?_
  rw [found]
  simp only
  split
  · refine Settles.marked (Settles.createCleanup (Settles.toDisabled ?_)) fun _ => rfl
    exact tame.settles.gone.of_view rfl
  · exact Settles.marked (Settles.createCleanup (tame.settles.gone.releaseOwner.turn .disabled nofun)) fun _ => rfl

theorem expiryDropped_quiet : Quiet m (m.expiryDropped operation target transport) := by
  have pending : m.isPending operation = (m.pendingOperation.filter (·.id = operation)).isSome := by
    unfold isPending
    cases m.pendingOperation with
    | none => rfl
    | some pending => by_cases same : pending.id = operation <;> simp [Option.filter_some,same]
  unfold expiryDropped
  rw [pending]
  refine quiet_of_pending mine (fun none => by rw [none]; rfl) fun pending found held tame => ?_
  rw [found]
  exact tame.settles.gone.toDisabled.createCleanup

theorem expiryRefreshed_quiet (attemptedEpoch : Nat) (target : UInt8) (answer : Except Failure TransportKey) :
    Quiet m (m.expiryRefreshed operation attemptedEpoch target answer).1 := by
  unfold expiryRefreshed
  refine quiet_of_pending mine (fun none => by rw [none]) fun pending found held tame => ?_
  rw [found]
  simp only
  split
  · exact tame.settles
  split
  · refine Settles.createCleanup (Settles.toDisabled ?_)
    exact tame.settles.gone.of_view rfl
  · rename_i key _
    exact ((tame.settles.rehome held key).turn .active nofun).of_view rfl

end

section
variable (standing : Standing m)
include standing

theorem refreshedOwner_quiet (operation attemptedEpoch : Nat) (target : UInt8) (answer : Except Failure TransportKey) :
    Quiet m (m.refreshedOwner operation attemptedEpoch target answer).1 := by
  unfold refreshedOwner
  simp only
  obtain none | ⟨pending,found,held,_⟩ := m.pending_cases operation
  · rw [none]
    exact .untouched (.refl m)
  rw [found]
  simp only
  split
  · exact .untouched (.refl m)
  rename_i refreshing
  simp only [Bool.or_eq_true,not_or,decide_eq_true_eq,ne_eq,not_not] at refreshing
  have tame : Tame m := ⟨by rw [refreshing.2]; nofun,standing.running held⟩
  refine .settles tame ?_
  split
  · refine Settles.createCleanup (Settles.toDisabled ?_)
    exact tame.settles.gone.of_view rfl
  split
  · rename_i key _
    refine Settles.armIdleTimer ?_
    have homed := (tame.settles.rehome held key).turn .active nofun
    exact (homed.marked fun obligation : Cleanup => (rfl : {obligation with transportEpoch := key.epoch}.source = _)).of_view rfl
  · refine Settles.gone (Settles.createCleanup (Settles.toDisabled ?_))
    exact tame.settles.of_view rfl

theorem attemptCleanup_cases (epoch : Nat) : m.attemptCleanup epoch = (m,none) ∨
    Tame m ∧ ∃ next target attempt, m.attemptCleanup epoch = (next,some (m.minted,target,attempt)) ∧
      Settles m next ∧ m.minted < next.minted ∧
      ∃ pending, next.pendingOperation = some pending ∧ pending.kind = .disable := by
  unfold attemptCleanup
  split
  · exact .inl rfl
  rename_i obligation held
  split
  · exact .inl rfl
  rename_i due
  simp only [Bool.or_eq_true,not_or,Bool.not_eq_true] at due
  have tame : Tame m := by
    refine ⟨fun enabling => ?_,due.1.1⟩
    cases held.symm.trans (standing.enabling enabling).1
  refine .inr ⟨tame,_,_,_,rfl,?_,Nat.lt_succ_self _,_,rfl,rfl⟩
  have marked : Settles m {m with cleanup := m.cleanup.map fun obligation : Cleanup =>
      {obligation with lastAttemptEpoch := epoch, lastAttempted := true, transportEpoch := epoch}} := tame.settles.marked fun _ => rfl
  rw [held] at marked
  exact marked.begin rfl nofun

theorem beginOwnerOperation_cases (target : UInt8) (key : Option SessionKey) {kind : OperationKind} (other : kind ≠ .enable) :
    (∃ failure, m.beginOwnerOperation target key kind = (m,.error failure)) ∨
    Tame m ∧ ∃ next attempted, m.beginOwnerOperation target key kind = (next,.ok
      (m.minted,attempted)) ∧ Settles m next ∧ m.minted < next.minted ∧
      ∃ pending, next.pendingOperation = some pending ∧ pending.kind = kind := by
  unfold beginOwnerOperation
  split
  · exact .inl ⟨_,rfl⟩
  split
  · exact .inl ⟨_,rfl⟩
  rename_i owned
  split
  · exact .inl ⟨_,rfl⟩
  split
  · exact .inl ⟨_,rfl⟩
  split
  · exact .inl ⟨_,rfl⟩
  simp only [Bool.or_eq_true,not_or,decide_eq_true_eq,ne_eq,not_not] at owned
  have active := owned.2
  have tame : Tame m := by
    refine ⟨by rw [active]; nofun,Bool.eq_false_iff.mpr fun again => ?_⟩
    cases active.symm.trans (standing.restarted again).1
  refine .inr ⟨tame,?_⟩
  have begun : Settles m {m with
      pendingOperation := some {id := m.minted, kind := kind, target := target, transport := m.transport}, minted := m.minted + 1} :=
    tame.settles.begin rfl other
  simp only
  split
  · exact ⟨_,_,rfl,begun,Nat.lt_succ_self _,_,rfl,rfl⟩
  · exact ⟨_,_,rfl,begun.turn .refreshing nofun,Nat.lt_succ_self _,_,rfl,rfl⟩

theorem idleTimerFired_cases (gen : Nat) : (∃ next, m.idleTimerFired gen = (next,.nothing) ∧ Untouched m next) ∨
    Tame m ∧ ((∃ next epoch, m.idleTimerFired gen = (next,.cleanup epoch) ∧ Settles m next) ∨
      ∃ next attempted target, m.idleTimerFired gen = (next,.refresh m.minted attempted target) ∧
        Settles m next ∧ m.minted < next.minted ∧
        ∃ pending, next.pendingOperation = some pending ∧ pending.kind = .disable) := by
  unfold idleTimerFired
  split
  · exact .inl ⟨m,rfl,rfl,rfl,rfl,rfl,rfl,rfl,rfl,rfl⟩
  rename_i current
  simp only [Bool.or_eq_true,not_or,decide_eq_true_eq,ne_eq,not_not] at current
  have active := current.2
  split
  · refine .inl ⟨_,rfl,?_⟩
    split <;> exact ⟨rfl,rfl,rfl,rfl,rfl,rfl,rfl,rfl⟩
  have tame : Tame m := by
    refine ⟨by rw [active]; nofun,Bool.eq_false_iff.mpr fun again => ?_⟩
    cases active.symm.trans (standing.restarted again).1
  refine .inr ⟨tame,?_⟩
  simp only
  split
  · have begun : Settles m {m with
        pendingOperation := some {id := m.minted, kind := .disable, target := m.activeTarget, transport := m.transport}
        minted := m.minted + 1} := tame.settles.begin rfl nofun
    exact .inr ⟨_,_,_,rfl,begun.turn .refreshing nofun,Nat.lt_succ_self _,_,rfl,rfl⟩
  · refine .inl ⟨_,_,rfl,Settles.createCleanup (Settles.toDisabled ?_)⟩
    exact {tame.settles with minted := Nat.le_succ _, pending := fun pending held => .inl ⟨pending,held,rfl,rfl,rfl,id⟩}

end

end Manager

variable {m : Manager}

theorem Guarded.tame {act : Act} {others : List Act} (guarded : Guarded m (act :: others)) {id : Nat} {kind : OperationKind}
    (operation : act.operation = some (id,kind)) (other : kind ≠ .enable) :
    ∀ pending, m.pendingOperation = some pending → pending.id = id → Tame m := by
  intro pending held mine
  have same := guarded.kinds act mem_cons_self id kind operation pending held mine
  refine ⟨fun enabling => ?_,guarded.standing.running held⟩
  obtain ⟨_,_,found,now,enable⟩ := guarded.standing.enabling enabling
  cases held.symm.trans now
  exact other (same.symm.trans enable)

namespace Standing
variable {m : Manager} {pending : Pending} {id : Nat}

theorem fence_pending (standing : Standing m) (enabling : m.state = .enabling)
    (held : m.pendingOperation = some pending) (fence : Fence m id) :
    pending.id = id ∧ pending.emitted = true := by
  obtain ⟨free,live,_⟩ := standing.enabling enabling
  cases fence with
  | restarted again => cases live.symm.trans again
  | cleanup obligation found => cases free.symm.trans found
  | pending operation found mine emitted =>
    cases held.symm.trans found
    exact ⟨mine,emitted⟩

theorem idle_open (standing : Standing m) (idle : m.state = .idle) (free : m.cleanup = none) : ¬ Fence m id := by
  intro fence
  cases fence with
  | restarted again => cases idle.symm.trans (standing.restarted again).1
  | cleanup obligation found => cases free.symm.trans found
  | pending _ _ _ _ enabling => cases idle.symm.trans enabling

theorem idle_tame (standing : Standing m) (idle : m.state = .idle) : Tame m := by
  refine ⟨by rw [idle]; nofun,Bool.eq_false_iff.mpr fun again => ?_⟩
  cases idle.symm.trans (standing.restarted again).1

end Standing

namespace Guarded
variable {m next : Manager} {act new : Act} {acts others : List Act} {id : Nat}

theorem quiet (guarded : Guarded m acts) (quiet : Quiet m next) : Guarded next acts := by
  cases quiet with
  | untouched untouched => exact untouched.guarded guarded
  | settles tame settles => exact guarded.move settles.toMoves (settles.standing tame guarded.standing) fun _ _ => settles.fence tame

theorem add (guarded : Guarded m others) (plain : new.operation = none) : Guarded m (new :: others) := by
  have sends (id : Nat) (kind : OperationKind) : new.sends ≠ some (id,kind) := by
    intro sends
    cases plain.symm.trans (Act.sends_operation sends).1
  have hot {id : Nat} (hot : Hot m (new :: others) id) : Hot m others id := by
    refine hot.imp_right fun ⟨act,mem,found⟩ => ⟨act,?_,found⟩
    rcases mem_cons.mp mem with rfl | inside
    · exact absurd found (sends _ _)
    · exact inside
  exact {guarded with
    mintedActs := forall_mem_cons.mpr ⟨fun id kind operation => (nomatch plain.symm.trans operation),guarded.mintedActs⟩
    kinds := forall_mem_cons.mpr ⟨fun id kind operation => (nomatch plain.symm.trans operation),guarded.kinds⟩
    once := by
      rw [filterMap_cons_none (Act.silent_none plain)]
      exact guarded.once
    fenced := fun id found => guarded.fenced id (hot found)
    one := fun id other first second => guarded.one id other (hot first) (hot second)
    allowed := forall_mem_cons.mpr ⟨fun id kind found => absurd found (sends id kind),guarded.allowed⟩
    emitted := fun pending held found => guarded.emitted pending held <| found.imp_right fun ⟨act,mem,kind,found⟩ => by
      rcases mem_cons.mp mem with same | inside
      · exact absurd (same ▸ found) (sends pending.id kind)
      · exact ⟨act,inside,kind,found⟩ }

theorem cold (guarded : Guarded m (act :: others)) (silent : act.silent = some id)
    (quiet : act.sends = none) : ¬ Hot m (act :: others) id := by
  have once := guarded.once
  rw [filterMap_cons_some silent,nodup_middle,nodup_cons] at once
  rintro (⟨frame,mem,_,rfl⟩ | ⟨other,mem,sends⟩)
  · exact once.1 (mem_append_left _ (mem_map_of_mem mem))
  · rcases mem_cons.mp mem with rfl | inside
    · cases quiet.symm.trans sends
    · exact once.1 (mem_append_right _ (mem_filterMap.mpr ⟨other,inside,(Act.sends_operation sends).2⟩))

theorem ended (guarded : Guarded m acts) (gone : next.pendingOperation = none)
    (state : next.state ≠ .enabling) (live : next.restarted = false)
    (minted : m.minted ≤ next.minted) (frames : next.frames = m.frames) (withdrawn : next.withdrawn = m.withdrawn)
    (fence : ∀ id, Hot m acts id → Fence m id → Fence next id) : Guarded next acts := by
  have gone (pending : Pending) : next.pendingOperation ≠ some pending := by
    intro held
    cases gone.symm.trans held
  refine guarded.move ⟨minted,frames,withdrawn,fun pending held => absurd held (gone pending)⟩ ⟨?_,?_,?_⟩ fence
  · exact fun enabling => absurd enabling state
  · exact fun _ pending held => absurd held (gone pending)
  · exact fun again => (nomatch live.symm.trans again)

theorem enable {target : UInt8} (guarded : Guarded m (act :: others)) (idle : m.state = .idle) (free : m.cleanup = none) :
    Guarded (m.begun target) (.dispatch ⟨m.minted + 1,target,.enable m.minted⟩ :: others) := by
  have standing := guarded.standing
  have tame := standing.idle_tame idle
  have settles : Settles m {m with minted := m.minted + 1} :=
    ⟨⟨Nat.le_succ _,rfl,rfl,fun pending held => .inl ⟨pending,held,rfl,rfl,rfl,id⟩⟩,tame.state,tame.restarted,tame.settles.cleanup,id,
      tame.settles.kind⟩
  have token := guarded.quiet (.settles tame settles)
  refine go token ⟨Nat.le_succ _,rfl,rfl,?_⟩ ⟨?_,?_,?_⟩ ?_ (.fresh .enable rfl (Nat.lt_succ_self _) ?_) rfl
  · rintro _ ⟨⟩
    exact .inr ⟨rfl,Nat.lt_succ_self _⟩
  · exact fun _ => ⟨free,tame.restarted,_,rfl,rfl⟩
  · exact fun _ _ _ _ => rfl
  · exact fun again => (nomatch tame.restarted.symm.trans again)
  · exact fun id _ fence => absurd fence (token.standing.idle_open idle free)
  · rintro _ ⟨⟩ _
    rfl

theorem enabled {operation : Operation} {emitted : Bool} {token : Nat} {native : NativeResult} {err : Option Failure}
    (guarded : Guarded m (.finish operation emitted :: others)) :
    Guarded (m.enabled operation.id token operation.target ⟨emitted,native,err⟩).1 others := by
  have standing := guarded.standing
  unfold Manager.enabled
  simp only
  obtain none | ⟨pending,found,held,mine⟩ := m.pending_cases operation.id
  · rw [none]
    exact guarded.drop
  rw [found]
  have running := standing.running held
  have own {id : Nat} (silent : emitted = false) (hot : Hot m (.finish operation emitted :: others) id) : id ≠ operation.id := by
    rintro rfl
    subst silent
    exact guarded.cold rfl rfl hot
  simp only
  generalize (if pending.transport.epoch < m.pendingEpoch then
    {m.transport with epoch := m.pendingEpoch} else m.transport) = transport
  split
  · rename_i settled
    have tame : Tame m := ⟨settled,running⟩
    split
    · rename_i silent
      have silent : emitted = false := by simpa using silent
      refine drop (ended guarded rfl ?_ running le_rfl rfl rfl fun id hot fence => ?_)
      · dsimp only
        split
        · nofun
        · exact settled
      · cases fence with
        | restarted again => cases running.symm.trans again
        | cleanup obligation found source =>
          refine .cleanup obligation ?_ source
          simp only [Manager.clearCleanupForOperation,found,Option.filter_some,source]
          simpa using own silent hot
        | pending _ _ _ _ enabling => exact absurd enabling settled
    · have gone : Settles m {m with pendingOperation := none, transport := transport} := tame.settles.gone.of_view rfl
      refine drop (quiet guarded (.settles tame (gone.marked fun obligation => ?_)))
      split <;> rfl
  · rename_i enabling
    have enabling : m.state = .enabling := by simpa using enabling
    obtain ⟨free,_⟩ := standing.enabling enabling
    split
    · rename_i silent
      have silent : emitted = false := by simpa using silent
      refine drop (ended guarded rfl nofun running le_rfl rfl rfl fun id hot fence => ?_)
      exact absurd ((standing.fence_pending enabling held fence).1.symm.trans mine) (own silent hot)
    have fence {next : Manager} {obligation : Cleanup} (now : next.cleanup = some obligation)
      (source : obligation.source = some operation.id)
        (id : Nat) (_ : Hot m (.finish operation emitted :: others) id) (fence : Fence m id) : Fence next id := by
      refine .cleanup obligation now (source.trans (congrArg some ?_))
      exact mine.symm.trans (standing.fence_pending enabling held fence).1
    simp only [Manager.createCleanup,free,Option.isSome_none,Bool.false_eq_true,if_false]
    split
    · unfold Manager.armIdleTimer
      split
      all_goals exact drop (ended guarded rfl nofun running (Nat.le_succ _) rfl rfl (fence rfl rfl))
    · exact drop (ended guarded rfl nofun running (Nat.le_succ _) rfl rfl (fence rfl rfl))

section
variable (guarded : Guarded m acts)
include guarded

theorem withdraw : Guarded m.invalidatePending acts := by
  have before {pending : Pending} (held : m.invalidatePending.pendingOperation = some pending) :
      ∃ was, m.pendingOperation = some was ∧ {was with invalidated := true} = pending := Option.map_eq_some_iff.mp held
  have withdrawn {id : Nat} (mem : id ∈ m.invalidatePending.withdrawn) :
      (∃ pending, m.pendingOperation = some pending ∧ pending.emitted = false ∧ pending.id = id) ∨ id ∈ m.withdrawn := by
    refine (mem_append.mp mem).imp_left fun inside => ?_
    obtain ⟨pending,found,same⟩ := mem_map.mp inside
    obtain ⟨held,silent⟩ := Option.filter_eq_some_iff.mp (Option.mem_toList.mp found)
    exact ⟨pending,held,by simpa using silent,same⟩
  exact {guarded with
    standing := by
      refine ⟨fun enabling => ?_,fun held pending found kind => ?_,fun again => ?_⟩
      · obtain ⟨free,live,pending,held,kind⟩ := guarded.standing.enabling enabling
        exact ⟨free,live,_,congrArg (Option.map _) held,kind⟩
      · obtain ⟨was,held',rfl⟩ := before found
        exact guarded.standing.owner held was held' kind
      · obtain ⟨disabled,none,free⟩ := guarded.standing.restarted again
        exact ⟨disabled,congrArg (Option.map _) none,free⟩
    mintedPending := fun pending found => by
      obtain ⟨was,held,rfl⟩ := before found
      exact guarded.mintedPending was held
    mintedWithdrawn := fun id mem => by
      rcases withdrawn mem with ⟨pending,held,_,rfl⟩ | inside
      · exact guarded.mintedPending pending held
      · exact guarded.mintedWithdrawn id inside
    kinds := fun act mem id kind operation pending found mine => by
      obtain ⟨was,held,rfl⟩ := before found
      exact guarded.kinds act mem id kind operation was held mine
    fenced := fun id hot => by
      cases guarded.fenced id hot with
      | restarted again => exact .restarted again
      | cleanup obligation held source => exact .cleanup obligation held source
      | pending operation held mine emitted enabling => exact .pending _ (congrArg (Option.map _) held) mine emitted enabling
    kept := fun frame mem inside => by
      rcases withdrawn inside with ⟨pending,held,silent,same⟩ | inside
      · cases silent.symm.trans (guarded.emitted pending held (.inl ⟨frame,mem,same.symm⟩))
      · exact guarded.kept frame mem inside
    allowed := fun act mem id kind sends inside => by
      rcases withdrawn inside with ⟨pending,held,silent,same⟩ | inside
      · cases silent.symm.trans (guarded.emitted pending held (.inr ⟨act,mem,kind,same ▸ sends⟩))
      · exact guarded.allowed act mem id kind sends inside
    invalidated := fun pending found _ => by
      obtain ⟨was,held,rfl⟩ := before found
      rfl
    emitted := fun pending found => by
      obtain ⟨was,held,rfl⟩ := before found
      exact guarded.emitted was held }

theorem unemitted {pending : Pending} (enabling : m.state = .enabling) (held : m.pendingOperation = some pending)
    (silent : pending.emitted = false) (fence : Fence m id) : False := by
  cases silent.symm.trans (guarded.standing.fence_pending enabling held fence).2

theorem disconnect : Guarded m.onTransportDisconnect acts := by
  unfold Manager.onTransportDisconnect
  split
  · exact guarded
  rename_i mutex
  have mutex : m.invalidatePending.mutexHeld = true := (by simpa using mutex : m.mutexHeld = true)
  simp only
  have guarded := guarded.withdraw
  generalize m.invalidatePending = m at *
  have standing := guarded.standing
  have live : m.restarted = false := by
    refine Bool.eq_false_iff.mpr fun again => ?_
    cases mutex.symm.trans (standing.restarted again).2.2
  split
  · rename_i pending found
    obtain ⟨held,fresh⟩ := Option.filter_eq_some_iff.mp found
    simp only [Bool.and_eq_true,decide_eq_true_eq,Bool.not_eq_true'] at fresh
    have enabling := standing.owner mutex pending held fresh.1
    exact ended guarded rfl nofun live le_rfl rfl rfl fun id _ fence => (guarded.unemitted enabling held fresh.2 fence).elim
  by_cases enabling : m.state = .enabling
  · obtain ⟨free,_,pending,held,kind⟩ := standing.enabling enabling
    have source : (m.pendingOperation.filter (·.kind = .enable)).map (·.id) = some pending.id := by
      rw [held,Option.filter_some]
      simp [kind]
    have free' : m.toDisabled.cleanup.isSome = false := by
      rw [Manager.toDisabled,free]
      rfl
    rw [source]
    simp only [Manager.createCleanup,free',Bool.false_eq_true,if_false]
    refine move guarded ⟨Nat.le_succ _,rfl,rfl,fun pending held => .inl ⟨pending,held,rfl,rfl,rfl,fun same => same⟩⟩
      ⟨nofun,nofun,fun again => (nomatch live.symm.trans again)⟩ fun id _ fence => ?_
    exact .cleanup _ rfl (congrArg some (standing.fence_pending enabling held fence).1)
  · have tame : Tame m := ⟨enabling,live⟩
    exact quiet guarded (.settles tame tame.settles.toDisabled.createCleanup)

theorem advance {epoch : Nat} : Guarded (m.onEpochAdvance epoch) acts := by
  unfold Manager.onEpochAdvance
  split
  · exact guarded
  simp only
  have guarded : Guarded {m with observedEpoch := epoch, lastRefreshTransportDown := false}.invalidatePending acts :=
    withdraw (quiet guarded (.untouched ⟨rfl,rfl,rfl,rfl,rfl,rfl,rfl,rfl⟩))
  generalize Manager.invalidatePending _ = m at *
  have standing := guarded.standing
  split
  · rename_i pending found
    obtain ⟨found,enabling⟩ := Option.filter_eq_some_iff.mp found
    have enabling : m.state = .enabling := by simpa using enabling
    obtain ⟨held,fresh⟩ := Option.filter_eq_some_iff.mp found
    simp only [Bool.and_eq_true,decide_eq_true_eq,Bool.not_eq_true'] at fresh
    exact ended guarded rfl nofun (standing.running held) le_rfl rfl rfl fun id _ fence =>
      (guarded.unemitted enabling held fresh.2 fence).elim
  · split
    all_goals exact quiet guarded (.untouched ⟨rfl,rfl,rfl,rfl,rfl,rfl,rfl,rfl⟩)

theorem restart {targets : List UInt8} : Guarded (m.resetForRestart targets) acts :=
  move guarded.withdraw ⟨le_rfl,rfl,rfl,nofun⟩ ⟨nofun,nofun,fun _ => ⟨rfl,rfl,rfl⟩⟩ fun _ _ _ => .restarted rfl

end

end Guarded

theorem Manager.admitPendingEmission_cases {next : Manager} {operation : Nat} {target : UInt8}
    (admitted : m.admitPendingEmission operation target = some next) :
    ∃ pending, m.pendingOperation = some pending ∧ pending.id = operation ∧ pending.invalidated = false ∧
      (pending.kind = .enable → m.state = .enabling) ∧ next = {m with pendingOperation := some {pending with emitted := true}} := by
  obtain ⟨pending,held,admitted⟩ := Option.bind_eq_some_iff.mp admitted
  split at admitted
  · cases admitted
  rename_i valid
  simp only [Bool.or_eq_true,not_or,Bool.not_eq_true,decide_eq_true_eq,ne_eq,not_not] at valid
  obtain ⟨allowed,same⟩ := Option.ite_none_right_eq_some.mp admitted
  refine ⟨pending,held,valid.1.2,valid.1.1,fun kind => ?_,(Option.some.inj same).symm⟩
  simpa [kind] using allowed

namespace Guarded
variable {m next : Manager} {others : List Act} {operation : Operation}

theorem admission (guarded : Guarded m (.admission operation :: others))
    (admitted : m.admitPendingEmission operation.id operation.target = some next) :
    Guarded {next with emissionMu := true} (.send operation :: others) := by
  obtain ⟨pending,held,mine,valid,enabling,rfl⟩ := Manager.admitPendingEmission_cases admitted
  have standing := guarded.standing
  have kind := guarded.kinds _ mem_cons_self _ _ rfl pending held mine
  have fence {id : Nat} (fence : Fence m id) : Fence
    {m with pendingOperation := some {pending with emitted := true}, emissionMu := true} id := by
    cases fence with
    | restarted again => exact .restarted again
    | cleanup obligation held source => exact .cleanup obligation held source
    | pending operation found mine emitted enabling =>
      cases held.symm.trans found
      exact .pending _ rfl mine rfl enabling
  -- only the admitted operation is newly hot, and only if it is an enable
  have hot {id : Nat} (hot : Hot {m with pendingOperation := some {pending with emitted := true}, emissionMu := true} (.send operation :: others) id) :
      Hot m (.admission operation :: others) id ∨ id = pending.id ∧ m.state = .enabling := by
    rcases hot with emitted | ⟨act,mem,sends⟩
    · exact .inl (.inl emitted)
    · rcases mem_cons.mp mem with rfl | inside
      · injection sends with same
        obtain ⟨same,enable⟩ := Prod.mk.inj same
        exact .inr ⟨same.symm.trans mine.symm,enabling (kind.trans enable)⟩
      · exact .inl (.inr ⟨act,mem_cons_of_mem _ inside,sends⟩)
  exact {guarded with
    standing := by
      refine ⟨fun enabling => ?_,fun mutex => ?_,fun again => ?_⟩
      · obtain ⟨free,live,was,found,enable⟩ := standing.enabling enabling
        cases held.symm.trans found
        exact ⟨free,live,_,rfl,enable⟩
      · rintro _ ⟨⟩ enable
        exact standing.owner mutex pending held enable
      · cases held.symm.trans (standing.restarted again).2.1
    mintedPending := by
      rintro _ ⟨⟩
      exact guarded.mintedPending pending held
    mintedActs := forall_mem_cons.mpr ⟨guarded.mintedActs (.admission operation) mem_cons_self,guarded.drop.mintedActs⟩
    kinds := by
      refine forall_mem_cons.mpr ⟨?_,?_⟩
      · rintro id kind operation _ ⟨⟩
        exact guarded.kinds (.admission _) mem_cons_self id kind operation pending held
      · rintro act mem id kind operation _ ⟨⟩
        exact guarded.drop.kinds act mem id kind operation pending held
    fenced := fun id found => by
      rcases hot found with before | ⟨rfl,enabling⟩
      · exact fence (guarded.fenced id before)
      · exact .pending _ rfl rfl rfl enabling
    one := fun id other first second => by
      rcases hot first with before | ⟨rfl,enabling⟩
      · rcases hot second with before' | ⟨rfl,enabling⟩
        · exact guarded.one id other before before'
        · exact (standing.fence_pending enabling held (guarded.fenced id before)).1.symm
      · rcases hot second with before' | ⟨rfl,_⟩
        · exact (standing.fence_pending enabling held (guarded.fenced other before')).1
        · rfl
    allowed := by
      refine forall_mem_cons.mpr ⟨?_,guarded.drop.allowed⟩
      rintro id kind ⟨⟩ inside
      cases valid.symm.trans (guarded.invalidated pending held (mine.symm ▸ inside))
    invalidated := by
      rintro _ ⟨⟩
      exact guarded.invalidated pending held
    emitted := by
      rintro _ ⟨⟩ _
      rfl }

theorem send (guarded : Guarded m (.send operation :: others)) :
    Guarded {m with frames := m.frames ++ [⟨operation.caller.kind,operation.target,operation.id⟩]}
    (.release operation true :: others) := by
  have frames {frame : Frame} (mem : frame ∈ m.frames ++ [⟨operation.caller.kind,operation.target,operation.id⟩]) :
      frame ∈ m.frames ∨ frame = ⟨operation.caller.kind,operation.target,operation.id⟩ := by simpa using mem
  have others' {id : Nat} {kind : OperationKind} (found : ∃ act ∈ .release operation true :: others, act.sends = some (id,kind)) :
      ∃ act ∈ .send operation :: others, act.sends = some (id,kind) := by
    obtain ⟨act,mem,sends⟩ := found
    rcases mem_cons.mp mem with rfl | inside
    · cases sends
    · exact ⟨act,mem_cons_of_mem _ inside,sends⟩
  have hot {id : Nat} (hot : Hot {m with frames := m.frames ++ [⟨operation.caller.kind,operation.target,operation.id⟩]}
      (.release operation true :: others) id) : Hot m (.send operation :: others) id := by
    rcases hot with ⟨frame,mem,kind,rfl⟩ | sends
    · rcases frames mem with before | rfl
      · exact .inl ⟨frame,before,kind,rfl⟩
      · exact .inr ⟨_,.head _,congrArg (fun kind => some (operation.id,kind)) kind⟩
    · exact .inr (others' sends)
  exact {guarded with
    standing := {guarded.standing with}
    mintedActs := forall_mem_cons.mpr ⟨guarded.mintedActs (.send operation) mem_cons_self,guarded.drop.mintedActs⟩
    mintedFrames := fun frame mem => by
      rcases frames mem with before | rfl
      · exact guarded.mintedFrames frame before
      · exact guarded.mintedActs (.send operation) mem_cons_self _ _ rfl
    kinds := forall_mem_cons.mpr ⟨guarded.kinds (.send operation) mem_cons_self,guarded.drop.kinds⟩
    once := by
      have once := guarded.once
      rw [filterMap_cons_some (rfl : (Act.send operation).silent = some operation.id)] at once
      rw [filterMap_cons_none rfl,map_append,append_assoc]
      exact once
    fenced := fun id found => by
      cases guarded.fenced id (hot found) with
      | restarted again => exact .restarted again
      | cleanup obligation held source => exact .cleanup obligation held source
      | pending operation held mine emitted enabling => exact .pending operation held mine emitted enabling
    one := fun id other first second => guarded.one id other (hot first) (hot second)
    kept := fun frame mem => by
      rcases frames mem with before | rfl
      · exact guarded.kept frame before
      · exact guarded.allowed (.send operation) mem_cons_self _ _ rfl
    allowed := forall_mem_cons.mpr ⟨nofun,guarded.drop.allowed⟩
    emitted := fun pending held found => by
      refine guarded.emitted pending held ?_
      rcases found with ⟨frame,mem,same⟩ | ⟨act,mem,kind,sends⟩
      · rcases frames mem with before | rfl
        · exact .inl ⟨frame,before,same⟩
        · exact .inr ⟨.send operation,.head _,_,congrArg (fun id => some (id,operation.caller.kind)) same⟩
      · obtain ⟨act,mem,sends⟩ := others' ⟨act,mem,sends⟩
        exact .inr ⟨act,mem,kind,sends⟩ }

end Guarded

theorem Manager.enable_cases (standing : Standing m) (target : UInt8) (entropy : Bool) :
    (∃ next failure, m.enable target entropy = (next,.error failure) ∧ Quiet m next) ∨
    m.state = .idle ∧ m.cleanup = none ∧ m.enable target entropy = (m.begun target,.ok (m.minted,m.minted + 1)) := by
  unfold Manager.enable
  split
  · exact .inl ⟨m,_,rfl,.untouched (.refl m)⟩
  rename_i free
  split
  · exact .inl ⟨m,_,rfl,.untouched (.refl m)⟩
  rename_i idle
  have idle : m.state = .idle := by simpa using idle
  split
  · have tame := standing.idle_tame idle
    exact .inl ⟨_,_,rfl,.settles tame (tame.settles.releaseOwner.turn .idle nofun)⟩
  · simp only [Bool.or_eq_true,not_or,Option.not_isSome_iff_eq_none] at free
    exact .inr ⟨idle,free.2,rfl⟩

theorem dispatching_operation (operation : Operation) :
    (dispatching operation).operation = some (operation.id,operation.caller.kind) ∧
    (dispatching operation).silent = some operation.id ∧
      (dispatching operation).sends = none := by
  unfold dispatching
  split <;> exact ⟨rfl,rfl,rfl⟩

section
variable {m next : Manager} {act : Act} {others : List Act} {choice : Choice} {effect : Outcome}

theorem Guarded.outcome {code : List Act} (guarded : Guarded m others) (plain : ∀ act ∈ code, act.operation = none) :
    Guarded m ((⟨m,code,[]⟩ : Outcome).acts ++ others) := by
  have acts : (⟨m,code,[]⟩ : Outcome).acts ++ others = code ++ others := by simp [Effect.acts]
  rw [acts]
  induction code with
  | nil => exact guarded
  | cons act code ih => exact (ih (fun other mem => plain other (.tail _ mem)) (by simp [Effect.acts])).add (plain act mem_cons_self)

theorem Guarded.begins {new : Act} {kind : OperationKind} (guarded : Guarded m (act :: others))
    (tame : Tame m) (settles : Settles m next)
    (room : m.minted < next.minted) (pending : ∃ pending, next.pendingOperation = some pending ∧ pending.kind = kind)
    (operation : new.operation = some (m.minted,kind)) (quiet : new.sends = none) : Guarded next (new :: others) := by
  refine guarded.settle tame settles (.fresh kind operation room fun found held _ => ?_) quiet
  obtain ⟨pending,now,kind⟩ := pending
  cases now.symm.trans held
  exact kind

theorem startOwner_guarded {target : UInt8} {key : Option SessionKey} {caller : Caller} (other : caller.kind ≠ .enable)
    (guarded : Guarded m (act :: others)) : Guarded (startOwner m target key caller).shared
    ((startOwner m target key caller).acts ++ others) := by
  unfold startOwner
  obtain ⟨failure,same⟩ | ⟨tame,next,attempted,same,settles,room,pending⟩ :=
    Manager.beginOwnerOperation_cases guarded.standing target key other
  · rw [same]
    exact guarded.drop
  rw [same]
  cases attempted with
  | none =>
    obtain ⟨operation,_,quiet⟩ := dispatching_operation ⟨m.minted,target,caller⟩
    exact guarded.begins tame settles room pending operation quiet
  | some attempted => exact Guarded.begins guarded tame settles room pending rfl rfl

theorem finish_guarded {operation : Operation} {emitted : Bool} {native : NativeResult} {err : Option Failure}
    (guarded : Guarded m (.finish operation emitted :: others)) :
    Guarded (finish m operation ⟨emitted,native,err⟩).shared ((finish m operation ⟨emitted,native,err⟩).acts ++ others) := by
  have tame (other : operation.caller.kind ≠ .enable) := guarded.tame rfl other
  have plain {α : Type} {list : List α} {next : α → Act} (plain : ∀ item,
    (next item).operation = none) : ∀ act ∈ list.map next, act.operation = none := by
    intro act mem
    obtain ⟨item,_,rfl⟩ := mem_map.mp mem
    exact plain item
  obtain ⟨id,target,caller⟩ := operation
  cases caller with
  | enable token => exact Guarded.outcome guarded.enabled (plain fun _ => rfl)
  | read => exact Guarded.outcome (guarded.quiet (Manager.readEnd_quiet (tame nofun))).drop (plain fun _ => rfl)
  | disable => exact Guarded.outcome (guarded.quiet (Manager.disableEnd_quiet (tame nofun))).drop (plain fun _ => rfl)
  | cleanup attempt epoch => exact (guarded.quiet (Manager.cleanedUp_quiet (tame nofun))).drop.add rfl
  | expiry transport => exact (guarded.quiet (Manager.expiryEnd_quiet (tame nofun))).drop

theorem perform_guarded (ran : perform choice act m = some effect) (guarded : Guarded m (act :: others)) :
    Guarded effect.shared (effect.acts ++ others) := by
  have standing := guarded.standing
  cases act
  all_goals simp only [perform] at ran
  case qualify target req =>
    cases ran
    have qualified := guarded.quiet (.untouched (⟨rfl,rfl,rfl,rfl,rfl,rfl,rfl,rfl⟩ : Untouched m (m.markQualifiedTarget target)))
    cases req with
    | none => exact qualified.drop
    | some req => exact qualified.drop.add rfl
  case start req =>
    cases req with
    | enable target =>
      simp only at ran
      obtain ⟨next,failure,same,quiet⟩ | ⟨idle,free,same⟩ := Manager.enable_cases standing target choice.entropy
      · rw [same] at ran
        cases ran
        exact (guarded.quiet quiet).drop
      · rw [same] at ran
        cases ran
        exact guarded.enable idle free
    | read | disable =>
      cases ran
      exact startOwner_guarded nofun guarded
  case refresh operation attempted =>
    have quiet := Manager.refreshedOwner_quiet standing operation.id attempted operation.target (m.refreshAnswer choice.refresh)
    split at ran
    · rename_i same
      cases ran
      rw [same] at quiet
      exact (guarded.quiet quiet).drop
    · rename_i same
      cases ran
      rw [same] at quiet
      obtain ⟨operation,silent,sends⟩ := dispatching_operation operation
      exact (guarded.quiet quiet).stay (.same operation silent) sends
  case stopIdleTimer operation =>
    cases ran
    refine Guarded.stay (guarded.quiet (.untouched ?_)) (.same rfl rfl) rfl
    unfold Manager.stopIdleTimer
    split <;> exact ⟨rfl,rfl,rfl,rfl,rfl,rfl,rfl,rfl⟩
  case dispatch operation =>
    cases ran
    cases choice.attempts with
    | true | false => exact guarded.stay (.same rfl rfl) rfl
  case admission operation =>
    split at ran
    · cases ran
    split at ran
    · cases ran
      exact guarded.stay (.same rfl rfl) rfl
    · rename_i admitted
      cases ran
      exact guarded.admission admitted
  case send operation =>
    cases ran
    cases choice.emits with
    | true => exact guarded.send
    | false => exact guarded.stay (.same rfl rfl) rfl
  case release operation emitted =>
    cases ran
    have released := guarded.quiet (.untouched (⟨rfl,rfl,rfl,rfl,rfl,rfl,rfl,rfl⟩ : Untouched m {m with emissionMu := false}))
    cases emitted with
    | true | false => exact released.stay (.same rfl rfl) rfl
  case finish operation emitted =>
    cases ran
    exact finish_guarded guarded
  case attemptCleanup epoch =>
    obtain same | ⟨tame,next,target,attempt,same,settles,room,pending⟩ := Manager.attemptCleanup_cases standing epoch
    · rw [same] at ran
      cases ran
      exact guarded.drop
    · rw [same] at ran
      cases ran
      exact guarded.begins tame settles room pending rfl rfl
  case record attempt epoch outcome =>
    cases ran
    refine Guarded.drop (guarded.quiet (.untouched ⟨rfl,rfl,?_,rfl,rfl,rfl,rfl,rfl⟩))
    simp only [Manager.recordCleanupOutcome,Option.map_map]
    refine congrArg (Option.map · m.cleanup) (funext fun obligation => ?_)
    simp only [Function.comp_apply]
    split <;> rfl
  case idleTimerFired gen =>
    obtain ⟨next,same,untouched⟩ | ⟨tame,⟨next,epoch,same,settles⟩ | ⟨next,attempted,target,same,settles,room,pending⟩⟩ :=
      Manager.idleTimerFired_cases standing gen
    all_goals
      rw [same] at ran
      cases ran
    · exact (guarded.quiet (.untouched untouched)).drop
    · exact (guarded.quiet (.settles tame settles)).drop.add rfl
    · exact guarded.begins tame settles room pending rfl rfl
  case expiryRefresh id attempted target =>
    have quiet := Manager.expiryRefreshed_quiet (guarded.tame rfl nofun) attempted target (m.refreshAnswer choice.refresh)
    split at ran
    · rename_i same
      cases ran
      rw [same] at quiet
      exact (guarded.quiet quiet).drop
    · rename_i same
      cases ran
      rw [same] at quiet
      dsimp only
      split <;> exact (guarded.quiet quiet).stay (.same rfl rfl) rfl
  case expiryDropped id target transport =>
    cases ran
    exact (guarded.quiet (Manager.expiryDropped_quiet (guarded.tame rfl nofun))).drop
  case transportDisconnect =>
    cases ran
    exact guarded.disconnect.drop
  case epochAdvance epoch =>
    split at ran
    · cases ran
    · cases ran
      exact guarded.advance.drop
  case restart targets =>
    cases ran
    exact guarded.restart.drop

theorem step_guarded {system later : System} {move : Move Event Choice} (guarded : Guarded system.shared system.acts)
    (stepped : step system move = some later) : Guarded later.shared later.acts := by
  apply Machine.acts_step Guarded (fun _ _ _ => Guarded.perm) ?_ ?_ guarded stepped
  · intro event effect name _ launched
    cases launched
    cases event
    all_goals exact guarded.add rfl
  · intro choice act others effect _ _ _ before ran
    exact perform_guarded ran before

end

theorem Guarded.create (transport : TransportKey) (idles refreshes cleans : Bool) :
    Guarded (Manager.create transport idles refreshes cleans) [] where
  standing := ⟨nofun,nofun,nofun⟩
  mintedPending := nofun
  mintedActs := forall_mem_nil _
  mintedFrames := forall_mem_nil _
  mintedWithdrawn := forall_mem_nil _
  kinds := forall_mem_nil _
  once := nodup_nil
  fenced := by
    rintro id (⟨_,mem,_⟩ | ⟨_,mem,_⟩)
    all_goals cases mem
  one := by
    rintro id other (⟨_,mem,_⟩ | ⟨_,mem,_⟩)
    all_goals cases mem
  kept := forall_mem_nil _
  allowed := forall_mem_nil _
  invalidated := nofun
  emitted := nofun

theorem run_guarded {transport : TransportKey} {idles refreshes cleans : Bool} {labels : List (Move Event Choice)} {system : System}
    (run : Run step anyStep (created transport idles refreshes cleans) labels system) : Guarded system.shared system.acts :=
  run.invariant (fun system => Guarded system.shared system.acts) (fun _ _ _ guarded _ stepped => step_guarded guarded stepped)
    (.create transport idles refreshes cleans)

theorem Guarded.single_enable {acts : List Act} (guarded : Guarded m acts) : (m.frames.filter (·.kind = .enable)).length ≤ 1 := by
  have once : (m.frames.map (·.operation)).Nodup := guarded.once.sublist (sublist_append_left _ _)
  have different : (m.frames.filter (·.kind = .enable)).Pairwise fun frame other => frame.operation ≠ other.operation :=
    (pairwise_map.mp once).sublist filter_sublist
  have hot (frame : Frame) (mem : frame ∈ m.frames.filter (·.kind = .enable)) : Hot m acts frame.operation := by
    obtain ⟨inside,kind⟩ := mem_filter.mp mem
    exact .inl ⟨frame,inside,by simpa using kind,rfl⟩
  generalize m.frames.filter (·.kind = .enable) = frames at *
  match frames with
  | [] => exact Nat.zero_le 1
  | [_] => exact le_rfl
  | first :: second :: rest =>
    have same := guarded.one _ _ (hot first mem_cons_self) (hot second (.tail _ mem_cons_self))
    exact absurd same (rel_of_pairwise_cons different mem_cons_self)

/-- In every interleaving a manager emits at most one enable frame, and an operation that a disconnect, an epoch
advance or a restart invalidates before its admission emits nothing. -/
theorem no_second_enable {transport : TransportKey} {idles refreshes cleans : Bool}
    {labels : List (Move Event Choice)} {system : System}
    (run : Run step anyStep (created transport idles refreshes cleans) labels system) :
    (system.shared.frames.filter (·.kind = .enable)).length ≤ 1 ∧
    ∀ frame ∈ system.shared.frames, frame.operation ∉ system.shared.withdrawn :=
  ⟨(run_guarded run).single_enable,(run_guarded run).kept⟩

def overtakenEnable : List (Move Event Choice) :=
  .start (.request (.enable 8)) :: List.replicate 3 (.run 0 {}) ++ [.start .transportDisconnect,.run 1 {}] ++
    .start (.request (.enable 9)) :: List.replicate 7 (.run 2 {}) ++ [.run 0 {},.run 0 {attempts := false},.run 0 {}]

theorem overtaken_enable_silent : ∃ system, Run step anyStep (created {} true true true) overtakenEnable system ∧
    system.shared.frames = [⟨.enable,9,3⟩] ∧ system.shared.withdrawn = [1] ∧
    (system.shared.frames.filter (·.kind = .enable)).length ≤ 1 ∧ ∀ frame ∈ system.shared.frames,
      frame.operation ∉ system.shared.withdrawn := by
  refine Exists.imp (fun _ (found : _ ∧ _ ∧ _) => ⟨found.1,found.2.1,found.2.2,?_⟩) (Run.exists_of_execute _ (by decide +kernel))
  exact no_second_enable found.1

end EbusGateway.B503
