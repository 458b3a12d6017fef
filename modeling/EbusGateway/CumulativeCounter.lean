import EbusGateway.Library.Transition
import Mathlib.Algebra.Order.BigOperators.Group.Finset
import Mathlib.Data.Fintype.BigOperators

/-! Totals that outlive driver generations. `retire` folds a generation's shadow total into the offsets, then
its diagnostics in a second critical section, which also numbers a new generation. A reader takes that number,
then a live value, and adds it to the offset if the number is still the same.
-/
namespace EbusGateway.CumulativeCounter
open Library Function

inductive Total (Reason : Type)
  | shadowWouldHaveDropped
  | endings (reason : Reason)
  | staleBytes
  | interWriteDrains
  | foreignReleases
  | escapePairLeadFailures
  | escapePairSuffixFailures

variable {Reason Gen : Type}

abbrev Totals (Reason : Type) := Total Reason → Nat

def Total.diag : Total Reason → Bool
  | .shadowWouldHaveDropped => false
  | _ => true

structure Counter (Reason : Type) where
  generation : Nat := 0
  retired : Totals Reason := fun _ => 0
  floor : Totals Reason := fun _ => 0

namespace Counter
variable (counter : Counter Reason) (diag : Bool) (current : Totals Reason)

def plus (total : Total Reason) : Nat := (counter.retired total + current total) % 2 ^ 64

def raise : Counter Reason :=
  {counter with
    floor := fun total => if total.diag = diag then max (counter.plus current total) (counter.floor total) else counter.floor total}

/-- The critical sections of `retire` and of `retireDiag`. -/
def retire : Counter Reason :=
  {counter.raise diag current with
    generation := if diag then (counter.generation + 1) % 2 ^ 64 else counter.generation
    retired := fun total => if total.diag = diag then counter.plus current total else counter.retired total}

/-- The critical sections of `totalAt` and of `diagSnapshotAt`, which export the floors they leave. -/
def fold (readAt : Nat) : Counter Reason := counter.raise diag (if counter.generation ≠ readAt then fun _ => 0 else current)

end Counter

/-- A reader that was admitted to no generation reads zeros. -/
inductive Reader (Gen : Type)
  | idle
  | asked (readAt : Nat)
  | read (readAt : Nat) (admitted : Option Gen)

/-- `folded` has the generations whose shadow total (`false`) and whose diagnostics (`true`) were folded. The
exported values of a total stand newest first. -/
structure State (Gen Reason : Type) where
  counter : Counter Reason := {}
  value : Gen → Totals Reason := fun _ _ => 0
  folded : Bool → Finset Gen := fun _ => ∅
  readers : Nat → Reader Gen := fun _ => .idle
  exports : Total Reason → List Nat := fun _ => []

/-- Values are read before the lock is taken, and a generation may count on after that: `since` is what it has
counted when they are folded. -/
inductive Label (Gen Reason : Type)
  | grow (g : Gen) (more : Totals Reason)
  | retire (g : Gen) (diag : Bool) (since : Totals Reason)
  | ask (reader : Nat)
  | read (reader : Nat) (admitted : Option Gen)
  | fold (reader : Nat) (diag : Bool) (since : Totals Reason)

namespace State
variable (s : State Gen Reason)

def live (admitted : Option Gen) (since : Totals Reason) (total : Total Reason) : Nat :=
  admitted.elim 0 fun g => s.value g total - since total

def set (reader : Nat) (now : Reader Gen) : State Gen Reason := {s with readers := update s.readers reader now}

def retire [DecidableEq Gen] (g : Gen) (diag : Bool) (since : Totals Reason) : State Gen Reason :=
  {s with
    counter := s.counter.retire diag (s.live (some g) since)
    folded := update s.folded diag (insert g (s.folded diag))}

def fold (diag : Bool) (current : Totals Reason) (readAt : Nat) : State Gen Reason :=
  let counter := s.counter.fold diag current readAt
  {s with
    counter := counter
    exports := fun total => if total.diag = diag then counter.floor total :: s.exports total else s.exports total}

end State

variable [DecidableEq Gen] (s : State Gen Reason)

def step : Label Gen Reason → Option (State Gen Reason)
  | .grow g more => some {s with value := update s.value g fun total => s.value g total + more total}
  | .retire g diag since => if g ∈ s.folded diag ∨ (diag = true ∧ g ∉ s.folded false) then none else some (s.retire g diag since)
  | .ask reader => some (s.set reader (.asked s.counter.generation))
  | .read reader admitted =>
    match s.readers reader with
    | .asked readAt => some (s.set reader (.read readAt admitted))
    | _ => none
  | .fold reader diag since =>
    match s.readers reader with
    | .read readAt admitted => some ((s.set reader .idle).fold diag (s.live admitted since) readAt)
    | _ => none

/-- A shadow total is folded under the number it was read in only while no retirement stands between its two
critical sections, the number does not wrap, and the driver runtime admits nobody to a generation that is retired. -/
def undivided : Label Gen Reason → Bool
  | .fold reader false _ =>
    match s.readers reader with
    | .read readAt _ => s.counter.generation ≠ readAt ∨ s.folded false ⊆ s.folded true
    | _ => true
  | .retire _ _ _ => s.counter.generation + 1 < 2 ^ 64
  | .read _ admitted => !admitted.any (· ∈ s.folded true)
  | _ => true

def Reader.Sound (generation : Nat) (retired : Finset Gen) : Reader Gen → Prop
  | .idle => True
  | .asked readAt => readAt ≤ generation
  | .read readAt admitted => readAt ≤ generation ∧ (generation = readAt → ∀ g ∈ admitted, g ∉ retired)

section
variable {s} [Fintype Gen]

structure Sound (s : State Gen Reason) : Prop where
  retired : ∀ total, s.counter.retired total ≤ ∑ g ∈ s.folded total.diag, s.value g total
  floor : ∀ total, s.counter.floor total ≤ ∑ g, s.value g total
  readers : ∀ reader, (s.readers reader).Sound s.counter.generation (s.folded true)
  exports : ∀ total, (s.exports total).Pairwise (· ≥ ·) ∧ ∀ value ∈ s.exports total, value ≤ s.counter.floor total

namespace Sound
variable (sound : Sound s) {admitted : Option Gen} {diag : Bool}
include sound

theorem grow (g : Gen) (more : Totals Reason) :
    Sound {s with value := update s.value g fun total => s.value g total + more total} := by
  have grown : ∀ x total, s.value x total ≤ update s.value g (fun total => s.value g total + more total) x total :=
    (forall_update_iff s.value fun x now => ∀ total, s.value x total ≤ now total).mpr ⟨fun _ =>
      Nat.le_add_right _ _,fun _ _ _ => le_rfl⟩
  have sums (set : Finset Gen) (total : Total Reason) := Finset.sum_le_sum fun x (_ : x ∈ set) => grown x total
  exact {sound with
    retired := fun total => (sound.retired total).trans (sums _ total), floor := fun total => (sound.floor total).trans (sums _ total)}

omit [DecidableEq Gen] in
theorem set (reader : Nat) (now : Reader Gen) (reads : now.Sound s.counter.generation (s.folded true)) : Sound (s.set reader now) :=
  {sound with
    readers := (forall_update_iff s.readers fun _ now => now.Sound s.counter.generation (s.folded true)).mpr
      ⟨reads,fun other _ => sound.readers other⟩}

/-- What is not folded yet fits under the sum of what the generations reached. -/
theorem plus_le {total : Total Reason} (unfolded : ∀ g ∈ admitted, g ∉ s.folded total.diag) (since : Totals Reason) :
    s.counter.plus (s.live admitted since) total ≤ ∑ g, s.value g total := by
  refine (Nat.mod_le _ _).trans ((Nat.add_le_add_right (sound.retired total) _).trans ?_)
  cases admitted with
  | none => exact Finset.sum_le_sum_of_subset (Finset.subset_univ _)
  | some g =>
    have joined := Finset.sum_insert (f := fun x => s.value x total) (unfolded g rfl)
    refine (Nat.add_le_add_left (Nat.sub_le _ _) _).trans ?_
    rw [Nat.add_comm,← joined]
    exact Finset.sum_le_sum_of_subset (Finset.subset_univ _)

omit [DecidableEq Gen] in
theorem raise {current : Totals Reason} (total : Total Reason)
    (fits : total.diag = diag → s.counter.plus current total ≤ ∑ g, s.value g total) :
    s.counter.floor total ≤ (s.counter.raise diag current).floor total ∧
    (s.counter.raise diag current).floor total ≤ ∑ g, s.value g total := by
  dsimp only [Counter.raise]
  split
  · rename_i same
    exact ⟨le_max_right _ _,max_le (fits same) (sound.floor total)⟩
  · exact ⟨le_rfl,sound.floor total⟩

theorem retire {g : Gen} (unfolded : g ∉ s.folded diag) (unwrapped : s.counter.generation + 1 < 2 ^ 64) (since : Totals Reason) :
    Sound (s.retire g diag since) := by
  have raised (total : Total Reason) := sound.raise total fun same : total.diag = diag =>
    sound.plus_le (fun _ mem => Option.mem_some.mp mem ▸ (congrArg (g ∉ s.folded ·) same).mpr unfolded) since
  refine ⟨fun total => ?_,fun total => (raised total).2,fun reader => ?_,
    fun total => (sound.exports total).imp_right fun below value mem => (below value mem).trans (raised total).1⟩
  · dsimp only [State.retire,Counter.retire]
    split
    · rename_i same
      have before := sound.retired total
      rw [same] at before ⊢
      rw [update_self,Finset.sum_insert unfolded,Nat.add_comm]
      exact (Nat.mod_le _ _).trans (Nat.add_le_add before (Nat.sub_le _ _))
    · rename_i other
      rw [update_of_ne other]
      exact sound.retired total
  · have reads := sound.readers reader
    cases diag with
    | false => exact reads
    | true =>
      have next : (s.retire g true since).counter.generation = s.counter.generation + 1 := Nat.mod_eq_of_lt unwrapped
      rw [next]
      change (s.readers reader).Sound _ _
      cases now : s.readers reader with rw [now] at reads
      | idle => trivial
      | asked => exact Nat.le_succ_of_le reads
      | read => exact ⟨Nat.le_succ_of_le reads.1,fun same => absurd reads.1 (by omega)⟩

theorem fold {readAt : Nat} (unretired : s.counter.generation = readAt → ∀ g ∈ admitted, g ∉ s.folded diag) (since : Totals Reason) :
    Sound (s.fold diag (s.live admitted since) readAt) := by
  have raised (total : Total Reason) : s.counter.floor total ≤ (s.counter.fold diag (s.live admitted since) readAt).floor total ∧
      (s.counter.fold diag (s.live admitted since) readAt).floor total ≤ ∑ g, s.value g total := by
    refine sound.raise total fun same => ?_
    split
    · change s.counter.plus (s.live none since) total ≤ _
      exact sound.plus_le (fun _ mem => absurd mem (Option.not_mem_none _)) since
    · rename_i now
      exact sound.plus_le (fun g mem => same ▸ unretired (not_not.mp now) g mem) since
  refine ⟨sound.retired,fun total => (raised total).2,sound.readers,fun total => ?_⟩
  obtain ⟨sorted,below⟩ := sound.exports total
  have below (value : Nat) (mem : value ∈ s.exports total) := (below value mem).trans (raised total).1
  dsimp only [State.fold]
  split
  · exact ⟨List.pairwise_cons.mpr ⟨below,sorted⟩,List.forall_mem_cons.mpr ⟨le_rfl,below⟩⟩
  · exact ⟨sorted,below⟩

end Sound

theorem step_sound {label : Label Gen Reason} {next : State Gen Reason} (sound : Sound s) (permitted : undivided s label = true)
    (ran : step s label = some next) : Sound next := by
  cases label with
  | grow g more =>
    cases ran
    exact sound.grow g more
  | retire g diag since =>
    simp only [step] at ran
    split at ran
    · cases ran
    · rename_i free
      cases ran
      exact sound.retire (fun folded => free (.inl folded)) (of_decide_eq_true permitted) since
  | ask reader =>
    cases ran
    exact sound.set reader (.asked _) le_rfl
  | read reader admitted =>
    have reads := sound.readers reader
    simp only [step] at ran
    split at ran
    · rename_i readAt asked
      rw [asked] at reads
      cases ran
      refine sound.set reader _ ⟨reads,fun _ g mem retired => ?_⟩
      simp [undivided,Option.mem_def.mp mem,retired] at permitted
    · cases ran
  | fold reader diag since =>
    have held := sound.readers reader
    simp only [step] at ran
    split at ran
    · rename_i readAt admitted reads
      cases ran
      rw [reads] at held
      refine (sound.set reader .idle trivial).fold (fun now g mem folded => held.2 now g mem ?_) since
      cases diag with
      | true => exact folded
      | false =>
        have now : s.counter.generation = readAt := now
        have apart : s.folded false ⊆ s.folded true := by simpa [undivided,reads,now] using permitted
        exact apart folded
    · cases ran

/-- In a run where no shadow total is folded inside a retirement, every exported total is non-decreasing and at most the
sum of what the generations' own counters have reached. -/
theorem totals_are_cumulative {labels : List (Label Gen Reason)} {final : State Gen Reason}
    (run : Run step (fun s label => undivided s label = true) {} labels final) (total : Total Reason) :
    (final.exports total).Pairwise (· ≥ ·) ∧ ∀ value ∈ final.exports total, value ≤ ∑ g, final.value g total := by
  have sound : Sound final := by
    refine run.invariant Sound (fun _ _ _ => step_sound) ⟨fun _ => Nat.zero_le _,fun _ =>
      Nat.zero_le _,fun _ => trivial,fun _ => ⟨.nil,?_⟩⟩
    exact List.forall_mem_nil _
  exact (sound.exports total).imp_right fun below value mem => (below value mem).trans (sound.floor total)

end

def countedFive : List (Label Unit Unit) := [.grow () fun _ => 5,.ask 0,.read 0 (some ())]

def foldZero : Label Unit Unit := .fold 0 false fun _ => 0

def retireZero (diag : Bool) : Label Unit Unit := .retire () diag fun _ => 0

theorem retired_total_is_kept : ∃ final, Run step (fun s label => undivided s label = true) {}
    (countedFive ++ [retireZero false,retireZero true,foldZero]) final ∧ final.exports .shadowWouldHaveDropped = [5] ∧
      ∀ value ∈ final.exports .shadowWouldHaveDropped, value ≤ ∑ g, final.value g .shadowWouldHaveDropped := by
  refine Exists.imp (fun _ found => and_assoc.mp ⟨found,?_⟩) (Run.exists_of_executeWhere _ (by decide +kernel))
  exact (totals_are_cumulative found.1 _).2

/-- The reader folds between the two critical sections of the retirement. -/
theorem total_counted_twice : ∃ final, Run step anyStep {} (countedFive ++ [retireZero false,foldZero]) final ∧
    final.exports .shadowWouldHaveDropped = [10] ∧ ∑ g, final.value g .shadowWouldHaveDropped = 5 :=
  Run.exists_of_execute _ (by decide +kernel)

end EbusGateway.CumulativeCounter
