import EbusGateway.Shadow.Reads

/-! Single flight of one key. A fetched value stays for the calls that waited for it; an empty value never
does, since the entry knows a value by its length.
-/
namespace EbusGateway.Shadow.Reads
open Library List

namespace Act

def running : Act → Bool
  | .fetching _ _ => true
  | _ => false

def ran : Act → Bool
  | .fetching _ _ | .complete _ _ _ _ => true
  | _ => false

theorem ran_of_grounded {act : Act} (grounded : act.flies = false) : act.ran = false := by
  cases act with
  | consult | lock | await | fetch => rfl
  | fetching | complete => cases grounded

end Act

structure Rechecks (s : Shared) (choice : Choice) (call : Call) (value : Reading) (moment : Time) : Prop where
  landed : s.landed = some (value,moment)
  filled : value.bytes ≠ []
  timed : 0 < call.maxAge
  fresh : s.now + choice.elapsed - moment ≤ call.maxAge
  current : call.watched = true → s.entry.lastOKHasGeneration = true → choice.snapshot.generation = s.entry.lastOKShadowGeneration

structure SingleFlight (breaker : Breaker) (s : Shared) (acts : List Act) : Prop where
  alone : acts.countP Act.running ≤ 1
  twice : (∀ act ∈ acts, act.call.fetches ≤ 2) ∧ ∀ returned ∈ s.returned, returned.1.fetches ≤ 2
  wakes : ∀ choice call done, s.landed.isSome → choice.cancelled = false →
    ∃ effect, perform breaker choice (.await call done) s = some effect ∧ effect.acts = [.consult call]
  shares : ∀ choice call value moment, Rechecks s choice call value moment →
    ∃ effect, perform breaker choice (.lock call none) s = some effect ∧ effect.acts = [] ∧
      effect.shared.returned = (call,.ok value) :: s.returned

structure Flown (s : Shared) (acts : List Act) : Prop where
  flight : Library.Guards Act.flies s.entry.running acts
  credit : ∀ act ∈ acts, act.call.fetches + act.call.recompute = 1 + act.ran.toNat
  returned : ∀ returned ∈ s.returned, returned.1.fetches ≤ 2
  landed : ∀ value moment, s.landed = some (value,moment) → s.entry.running = false ∧ s.entry.lastOK = value ∧
    s.entry.lastOKAt = moment ∧ s.entry.lastOKFromShadow = false ∧ moment ≤ s.now

namespace Flown
variable {breaker : Breaker} {s : Shared} {act : Act} {acts others : List Act} {effect : Step}

theorem perm (same : acts.Perm others) (flown : Flown s acts) : Flown s others :=
  ⟨flown.flight.perm same,fun act mem => flown.credit act (same.mem_iff.mpr mem),flown.returned,flown.landed⟩

theorem tick (flown : Flown s acts) (elapsed : Nat) : Flown {s with now := s.now + elapsed} acts := by
  refine {flown with landed := fun value moment landed => ?_}
  obtain ⟨idle,same,stored,active,past⟩ := flown.landed value moment landed
  exact ⟨idle,same,stored,active,past.trans (Int.le_add_of_nonneg_right (Int.natCast_nonneg _))⟩

theorem singleFlight (flown : Flown s acts) : SingleFlight breaker s acts where
  alone := by
    have fewer : acts.countP Act.running ≤ acts.countP Act.flies :=
      countP_mono_left fun act _ running => by cases act <;> first | rfl | cases running
    exact fewer.trans (flown.flight ▸ Bool.toNat_le _)
  twice := by
    refine ⟨fun act mem => ?_,flown.returned⟩
    have credit := flown.credit act mem
    have most := Bool.toNat_le act.ran
    omega
  wakes := by
    intro choice call done landed live
    obtain ⟨⟨value,moment⟩,found⟩ := Option.isSome_iff_exists.mp landed
    have idle := (flown.landed value moment found).1
    exact ⟨_,by simp [perform,performNow,await,live,idle]; rfl,rfl⟩
  shares := by
    intro choice call value moment rechecks
    obtain ⟨landed,filled,timed,fresh,current⟩ := rechecks
    obtain ⟨idle,rfl,rfl,active,past⟩ := flown.landed value moment landed
    have young : 0 ≤ s.now + choice.elapsed - s.entry.lastOKAt :=
      Int.sub_nonneg_of_le (past.trans (Int.le_add_of_nonneg_right (Int.natCast_nonneg _)))
    have same : ¬ ((call.watched = true ∧ s.entry.lastOKHasGeneration = true) ∧
        ¬ choice.snapshot.generation = s.entry.lastOKShadowGeneration) :=
      fun moved => moved.2 (current moved.1.1 moved.1.2)
    refine ⟨_,rfl,?_⟩
    simp [lock,serve,idle,filled,active,Int.not_le.mpr timed,Int.not_lt.mpr young,Int.not_lt.mpr fresh,if_neg same]
    exact ⟨rfl,rfl⟩

theorem kept (performs : Performs breaker s act effect) (flown : Flown s (act :: others)) :
    Flown effect.shared (effect.acts ++ others) := by
  have flight := performs.flight flown.flight
  obtain ⟨own,rest⟩ := forall_mem_cons.mp flown.credit
  have few : act.call.fetches ≤ 2 := by
    have most := Bool.toNat_le act.ran
    omega
  have returned (result : Except ReadError Reading) : ∀ returned ∈ (act.call,result) :: s.returned, returned.1.fetches ≤ 2 :=
    forall_mem_cons.mpr ⟨few,flown.returned⟩
  have aloft (value : Reading) (moment : Time) (flies : act.flies = true) (landed : s.landed = some (value,moment)) : False :=
    Bool.false_ne_true ((flown.landed value moment landed).1.symm.trans (flown.flight.alone flies).1)
  cases performs with
  | go _ next grounded still credit =>
    refine ⟨flight,forall_mem_cons.mpr ⟨?_,rest⟩,flown.returned,flown.landed⟩
    rw [credit.1,credit.2,own,Act.ran_of_grounded grounded,Act.ran_of_grounded still]
  | finish _ result => exact ⟨flight,rest,returned result,flown.landed⟩
  | serve _ candidate => exact ⟨flight,rest,returned _,nofun⟩
  | start _ before grounded idle dropped =>
    have same : before.returned = s.returned := by rcases dropped with rfl | rfl <;> rfl
    obtain ⟨_,suppressed⟩ | started := startFetch_cases breaker before act.call
    · rw [suppressed] at flight ⊢
      rw [← same] at returned
      refine ⟨flight,rest,returned _,fun value moment landed => ?_⟩
      rcases dropped with rfl | rfl
      · obtain ⟨⟨storedAt,stored,_,_,origin⟩,running⟩ := before.entry.guardBreaker_keeps breaker before.now
        obtain ⟨down,rfl,rfl,active,past⟩ := flown.landed value moment landed
        exact ⟨running.trans down,stored,storedAt,origin.trans active,past⟩
      · cases landed
    · rw [started] at flight ⊢
      refine ⟨flight,forall_mem_cons.mpr ⟨?_,rest⟩,same ▸ flown.returned,nofun⟩
      rw [Act.ran_of_grounded grounded] at own
      exact own
  | fetch call =>
    have counted : call.fetches + 1 + call.recompute = 2 := (Nat.add_right_comm _ _ _).trans (congrArg (· + 1) own)
    exact ⟨flight,forall_mem_cons.mpr ⟨counted,rest⟩,flown.returned,flown.landed⟩
  | fetched => exact ⟨flight,forall_mem_cons.mpr ⟨own,rest⟩,flown.returned,flown.landed⟩
  | fail => exact ⟨flight,rest,returned _,fun value moment landed => (aloft value moment rfl landed).elim⟩
  | supersede call =>
    unfold superseded at flight ⊢
    dsimp only at flight ⊢
    split at flight
    · rename_i left
      rw [if_pos left]
      have spent : call.fetches + (call.recompute - 1) = 1 := by
        have own : call.fetches + call.recompute = 2 := own
        omega
      exact ⟨flight,forall_mem_cons.mpr ⟨spent,rest⟩,flown.returned,fun value moment landed => (aloft value moment rfl landed).elim⟩
    · rename_i none
      rw [if_neg none]
      exact ⟨flight,rest,returned _,fun value moment landed => (aloft value moment rfl landed).elim⟩
  | succeed call _ gen value =>
    refine ⟨flight,rest,returned _,fun _ _ landed => ?_⟩
    cases landed
    obtain ⟨⟨storedAt,stored,_,_,origin⟩,_⟩ :=
      ReadEntry.transitionBreaker_keeps breaker (s.entry.cacheFetched value gen s.now) .closed
    refine ⟨recordSuccess_running call value gen,?_⟩
    dsimp only [Shared.finish,Shared.mark,recordSuccess]
    cases call.watched <;> exact ⟨stored,storedAt,origin,Int.le_refl _⟩

end Flown

theorem step_flown {breaker : Breaker} {system next : System} {move : Move Event Choice} (flown : Flown system.shared system.acts)
    (stepped : step breaker system move = some next) : Flown next.shared next.acts := by
  refine Machine.acts_step Flown (fun _ _ _ => Flown.perm) ?_ ?_ flown stepped
  · rintro ⟨maxAge,watched⟩ effect _ _ launched
    cases launched
    exact {flown with credit := forall_mem_cons.mpr ⟨rfl,flown.credit⟩}
  · intro choice act others effect _ _ _ flown found
    exact (flown.tick choice.elapsed).kept (perform_performs found)

/-- Whatever the calls do in whatever order, at most one fetch is running, no call runs more than two,
and a call that re-checks a value that has not been overtaken returns it and fetches no more. -/
theorem fetches_are_shared (breaker : Breaker) {now : Time} {labels : List (Move Event Choice)} {final : System}
    (run : Run (step breaker) anyStep (initially now) labels final) : SingleFlight breaker final.shared final.acts := by
  refine (run.invariant (fun system => Flown system.shared system.acts)
    (fun _ _ _ flown _ stepped => step_flown flown stepped) ?_).singleFlight
  exact ⟨rfl,forall_mem_nil _,forall_mem_nil _,nofun⟩

def pair (fetched : List UInt8) : List (Move Event Choice) :=
  [.start (.getWithWatchKey 1 false),.run 0 {},.run 0 {},.run 0 {},.start (.getWithWatchKey 1 false),.run 1 {},.run 1 {},
    .run 0 {fetched := .ok fetched},.run 0 {},.run 1 {},.run 1 {}]

theorem pair_is_shared :
    ∃ final, Run (step {}) anyStep (initially 0) (pair [7]) final ∧
      Rechecks final.shared {} {maxAge := 1, watched := false} {bytes := [7]} 0 ∧ SingleFlight {} final.shared final.acts := by
  refine Exists.imp (fun final (found : _ ∧ final.shared.landed = some ({bytes := [7]},0) ∧ final.shared.now = 0) => ⟨found.1,?_,?_⟩)
    (Run.exists_of_execute _ (by decide +kernel))
  · exact ⟨found.2.1,by decide,by decide,by rw [found.2.2]; decide,nofun⟩
  · exact fetches_are_shared {} found.1

/-- The fetch of the first call succeeds with an empty value, and the second fetches again. -/
theorem empty_value_is_not_shared :
    ∃ final, Run (step {}) anyStep (initially 0) (pair [] ++ [.run 1 {},.run 1 {},.run 1 {fetched := .ok [7]},.run 1 {}]) final ∧
      final.shared.returned =
        [({maxAge := 1, watched := false, fetches := 1},.ok {bytes := [7]}),({maxAge := 1, watched := false, fetches := 1},.ok {})] :=
  Run.exists_of_execute _ (by decide +kernel)

end EbusGateway.Shadow.Reads
