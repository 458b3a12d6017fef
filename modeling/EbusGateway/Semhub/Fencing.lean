import EbusGateway.Library.Transition
import EbusGateway.Semhub.Handles

/-! Publication handles are fenced for good, but after 2^64 withdrawn admissions, which do not look at the
counter, the first handle passes again.
-/
namespace EbusGateway.Semhub
open Library List
variable {Kernel : Type}

def Unexhausted (system : System Kernel) (_ : Move Event Choice) : Prop :=
  ∀ id, (system.shared.sources id).token + 1 < 2 ^ 64

section
variable {out : Outside Kernel} {cfg : Config} {system next : System Kernel} {move : Move Event Choice}

theorem step_moves (stepped : step out cfg system move = some next) : system.shared.Moves next.shared := by
  obtain ⟨event,effect,name,rfl,launched,_,rfl⟩ | ⟨choice,before,name,act,rest,after,effect,rfl,_,ran,rfl⟩ |
    ⟨before,name,after,_,rfl⟩ := Machine.step_cases stepped
  · exact (Hub.launch_shifts out cfg _ launched).moves
  · exact Hub.perform_moves out cfg choice _ ran
  · exact (Hub.Keeps.refl _).moves

variable {labels : List (Move Event Choice)} {start final : System Kernel} {handle : Handle}

section
variable (run : Run (step out cfg) Unexhausted start labels final)
include run

theorem run_passes (passes : start.shared.checkHandle handle = none) :
    final.shared.checkHandle handle = none ∨ (final.shared.sources handle.source).Revoked handle := by
  refine run.invariant (fun state => state.shared.checkHandle handle = none ∨ (state.shared.sources handle.source).Revoked handle)
    (fun state move next holds room ran => ?_) (.inl passes)
  have moved := (step_moves ran).sources handle.source
  rcases holds with passes | revoked
  · exact moved.passes (room _) passes
  · exact .inr (moved.revoked (room _) revoked)

theorem run_revoked (revoked : (start.shared.sources handle.source).Revoked handle) :
    (final.shared.sources handle.source).Revoked handle ∧
      ∃ later, final.shared.published = later ++ start.shared.published ∧ ∀ publication ∈ later, publication.handle ≠ handle := by
  refine run.invariant (fun state => (state.shared.sources handle.source).Revoked handle ∧
      ∃ later, state.shared.published = later ++ start.shared.published ∧ ∀ publication ∈ later, publication.handle ≠ handle)
    (fun state move next holds room ran => ?_) ⟨revoked,[],rfl,nofun⟩
  obtain ⟨revoked,later,listed,others⟩ := holds
  obtain ⟨sources,published⟩ := step_moves ran
  refine ⟨(sources _).revoked (room _) revoked,?_⟩
  rcases published with same | ⟨publication,added,passes,_⟩
  · exact ⟨later,same.trans listed,others⟩
  · refine ⟨publication :: later,by rw [added,listed,cons_append],fun other mem => ?_⟩
    rcases mem_cons.mp mem with rfl | old
    · rintro rfl
      exact revoked.refused passes
    · exact others other old

end

theorem bump_le (counter : Nat) : bump counter ≤ counter + 1 := Nat.mod_le _ _

theorem Source.Moves.token_le {old new : Source} (moved : Source.Moves old new) : new.token ≤ old.token + 1 := by
  cases moved with
  | kept same => exact Nat.le_succ_of_le (Nat.le_of_eq same.token)
  | turned _ token => exact token ▸ bump_le _

theorem run_unexhausted {count : Nat} (run : Run (step out cfg) anyStep start labels final)
    (bound : ∀ id, (start.shared.sources id).token ≤ count) (short : count + labels.length < 2 ^ 64) :
    Run (step out cfg) Unexhausted start labels final ∧ ∀ id, (final.shared.sources id).token ≤ count + labels.length := by
  induction run with
  | refl => exact ⟨.refl,bound⟩
  | @snoc labels middle final before label permitted ran ih =>
    rw [length_append,length_singleton,← Nat.add_assoc] at short ⊢
    obtain ⟨run,reached⟩ := ih (Nat.lt_of_succ_lt short)
    refine ⟨run.snoc label (fun id => ?_) ran,fun id => ?_⟩
    · exact Nat.lt_of_le_of_lt (Nat.succ_le_succ (reached id)) short
    · exact Nat.le_trans ((step_moves ran).sources id).token_le (Nat.succ_le_succ (reached id))

end

/-- In a run that exhausts no handle counter, at most one epoch, generation and token of a source passes the
check; a commit that is accepted had a handle that passed, under an epoch not retired; and a handle that
passed and then failed fails ever after, with no publication under it installed. -/
theorem publication_handles_fenced (out : Outside Kernel) (cfg : Config) (system : System Kernel) :
    (∀ first second : Handle, system.shared.checkHandle first = none → system.shared.checkHandle second = none →
      first.source = second.source →
      first.epoch = second.epoch ∧ first.generation = second.generation ∧ first.token = second.token) ∧
    (∀ move next, step out cfg system move = some next → next.shared.published = system.shared.published ∨
      ∃ publication, next.shared.published = publication :: system.shared.published ∧
        system.shared.checkHandle publication.handle = none ∧
        publication.epoch ∉ (system.shared.sources publication.handle.source).retired) ∧
    ∀ handle, system.shared.checkHandle handle = none → ∀ onward middle, Run (step out cfg) Unexhausted system onward middle →
      middle.shared.checkHandle handle ≠ none → ∀ further final, Run (step out cfg) Unexhausted middle further final →
        final.shared.checkHandle handle ≠ none ∧
        ∃ later, final.shared.published = later ++ middle.shared.published ∧
          ∀ publication ∈ later, publication.handle ≠ handle := by
  refine ⟨fun first second one two same => ?_,fun move next ran => (step_moves ran).published,?_⟩
  · obtain ⟨⟨_,_,_,epoch,_⟩,_,token,generation⟩ := (Source.checkHandle_none _).mp one
    obtain ⟨⟨_,_,_,epoch',_⟩,_,token',generation'⟩ := (Source.checkHandle_none _).mp two
    rw [same] at epoch token generation
    exact ⟨epoch.symm.trans epoch',generation.symm.trans generation',token.symm.trans token'⟩
  · intro handle passes onward middle reached failed further final continued
    obtain ⟨revoked,installed⟩ := run_revoked continued ((run_passes reached passes).resolve_left failed)
    exact ⟨revoked.refused,installed⟩

def sampleSource : Text := ['s']
def sampleEpoch : Text := ['e']
def sampleDriver : Text := ['d']

def refusing : Outside Unit := {
  newPublicationKernel := fun _ _ => (), current := fun _ => none, apply := fun _ _ _ => .error .other
  computedDigest := fun _ => none, controlBody := fun _ _ _ => [], coverDetail := fun _ => []
  validDetail := fun _ => true, idHash := fun _ _ => []}

def sampleAdmission : Admission := ⟨sampleSource,sampleDriver,some .teslaEVSE,sampleEpoch,1⟩

def sampleHandle (token admission : Nat) : Handle := ⟨sampleSource,sampleEpoch,1,token,admission,true,some .teslaEVSE⟩

def admitting : List (Move Event Choice) := [.start (.admitSource sampleAdmission),.run 0 {},.run 0 {},.run 0 {}]

def withdrawing (handle : Handle) : List (Move Event Choice) := [.start (.withdraw handle true),.run 0 {}]

structure Withdrawn (system : System Unit) (token admission : Nat) : Prop where
  idle : system.threads = []
  source : system.shared.sources sampleSource =
    {registered := true, driver := sampleDriver, token := token, admission := admission}
  owner : system.shared.ids sampleSource = some ⟨sampleDriver,.source⟩
  regime : system.shared.restoredRegimes sampleSource = none
  restored : system.shared.restoredEpochs = []

instance (system : System Unit) (token admission : Nat) : Decidable (Withdrawn system token admission) :=
  decidable_of_iff (system.threads.length = 0 ∧ system.shared.sources sampleSource =
    {registered := true, driver := sampleDriver, token := token, admission := admission} ∧
    system.shared.ids sampleSource = some ⟨sampleDriver,.source⟩ ∧ system.shared.restoredRegimes sampleSource = none ∧
    system.shared.restoredEpochs = [])
    ⟨fun ⟨idle,source,owner,regime,restored⟩ => ⟨length_eq_zero_iff.mp idle,source,owner,regime,restored⟩,
      fun ⟨idle,source,owner,regime,restored⟩ => ⟨length_eq_zero_iff.mpr idle,source,owner,regime,restored⟩⟩

/-- A withdrawn admission still fails after the same admission is made again. -/
theorem withdrawn_handle_fails :
    ∃ admitted withdrawn readmitted, Run (step refusing {}) Unexhausted (initially []) admitting admitted ∧
      Run (step refusing {}) Unexhausted admitted (withdrawing (sampleHandle 1 1)) withdrawn ∧
      Run (step refusing {}) Unexhausted withdrawn admitting readmitted ∧
      admitted.shared.checkHandle (sampleHandle 1 1) = none ∧
      readmitted.shared.checkHandle (sampleHandle 1 1) ≠ none := by
  have ⟨admitted,first,passes,onward⟩ : ∃ admitted, Run (step refusing {}) anyStep (initially []) admitting admitted ∧
      admitted.shared.checkHandle (sampleHandle 1 1) = none ∧
      (execute (step refusing {}) admitted (withdrawing (sampleHandle 1 1))).any (fun withdrawn =>
        withdrawn.shared.checkHandle (sampleHandle 1 1) ≠ none ∧
        (execute (step refusing {}) withdrawn admitting).isSome = true) = true := by
    apply Run.exists_of_execute
    decide +kernel
  obtain ⟨withdrawn,second,failed,further⟩ := Run.exists_of_execute _ onward
  obtain ⟨readmitted,executed⟩ := Option.isSome_iff_exists.mp further
  have ⟨first,early⟩ := run_unexhausted first (fun _ => Nat.le_refl 0) (by decide)
  have ⟨second,late⟩ := run_unexhausted second early (by decide)
  have ⟨third,_⟩ := run_unexhausted (Run.of_execute executed) late (by decide)
  refine ⟨admitted,withdrawn,readmitted,first,second,third,passes,?_⟩
  exact ((publication_handles_fenced refusing {} admitted).2.2 _ passes _ _ second failed _ _ third).1

structure Admitted (system : System Unit) (token admission : Nat) : Prop where
  idle : system.threads = []
  source : system.shared.sources sampleSource =
    ({registered := true, driver := sampleDriver, token := token, admission := admission} : Source).admitEpoch
      (some .teslaEVSE) sampleEpoch 1 true
  given : sampleHandle (bump token) (bump admission) ∈ system.shared.handles
  owner : system.shared.ids sampleSource = some ⟨sampleDriver,.source⟩
  regime : system.shared.restoredRegimes sampleSource = none
  restored : system.shared.restoredEpochs = []

variable {system : System Unit} {token admission : Nat}

theorem Withdrawn.readmit (withdrawn : Withdrawn system token admission) :
    ∃ next, Run (step refusing {}) anyStep system admitting next ∧ Admitted next token admission := by
  obtain ⟨hub,threads⟩ := system
  obtain ⟨idle,source,owner,regime,restored⟩ := withdrawn
  dsimp only at idle source owner regime restored
  subst idle
  have valid : (⟨sampleSource,sampleDriver,some .teslaEVSE,sampleEpoch,1⟩ : Admission).valid = true := by decide
  have started : hub.admitSource sampleAdmission = {shared := hub, code := [.admitCheck sampleAdmission true]} := by
    simp [Hub.admitSource,valid,Hub.claimAvailable,Hub.regime,sampleAdmission,owner,regime,source]
  have checked : hub.admitCheck sampleAdmission true =
      some {shared := hub.lockSource sampleSource, code := [.admitCommit sampleAdmission true]} := by
    simp [Hub.admitCheck,Hub.record,Hub.regime,sampleAdmission,regime,source]
  have committed : (hub.lockSource sampleSource).admitCommit refusing {} {} sampleAdmission true =
      {shared := ((hub.lockSource sampleSource).unlockSource sampleSource).admitEpoch refusing {} sampleAdmission} := by
    simp [Hub.admitCommit,Hub.admissible,Hub.record,Hub.regime,Hub.admittedEpoch,Hub.restoredEpoch,Hub.registerFor,Hub.lockSource,
      Hub.setSource,sampleAdmission,regime,restored,source]
  refine ⟨⟨((hub.lockSource sampleSource).unlockSource sampleSource).admitEpoch refusing {} sampleAdmission,[]⟩,
    Run.of_execute ?_,rfl,?_,?_,owner,regime,restored⟩
  · simp [execute,admitting,step,Machine.step,program,Hub.launch,Hub.perform,started,checked,committed]
  · simp [Hub.admitEpoch,Hub.admittedEpoch,Hub.emit,Hub.give,Hub.setSource,Hub.unlockSource,Hub.lockSource,Hub.appendEpoch,
      sampleAdmission,source,restored,Source.admitEpoch]
  · simp [Hub.admitEpoch,Hub.admittedEpoch,Hub.emit,Hub.give,Hub.setSource,Hub.unlockSource,Hub.lockSource,Hub.appendEpoch,
      sampleAdmission,source,restored,Source.admitEpoch,Source.handle,sampleHandle]

theorem Admitted.passes (admitted : Admitted system token admission) :
    system.shared.checkHandle (sampleHandle (bump token) (bump admission)) = none := by
  simp [Hub.checkHandle,sampleHandle,admitted.source,Source.checkHandle,Source.admitEpoch]

theorem Admitted.withdraw (admitted : Admitted system token admission) :
    ∃ next, Run (step refusing {}) anyStep system (withdrawing (sampleHandle (bump token) (bump admission))) next ∧
      Withdrawn next (bump (bump token)) (bump admission) := by
  have passes := admitted.passes
  obtain ⟨hub,threads⟩ := system
  obtain ⟨idle,source,given,owner,regime,restored⟩ := admitted
  dsimp only at idle source given owner regime restored passes
  subst idle
  have record : hub.sources (sampleHandle (bump token) (bump admission)).source = _ := source
  have withdrawable : hub.withdrawable refusing (sampleHandle (bump token) (bump admission)) = true := by
    simp [Hub.withdrawable,passes,Hub.hasPublished,record,Source.admitEpoch,Source.successor]
  have withdrawn : hub.withdraw refusing {} {journal := true} (sampleHandle (bump token) (bump admission)) =
      some {shared := (hub.setSource sampleSource (·.withdraw sampleEpoch)).emit 1} := by
    simp [Hub.withdraw,withdrawable,record,Source.admitEpoch,Hub.appendEpoch]
    rfl
  refine ⟨⟨(hub.setSource sampleSource (·.withdraw sampleEpoch)).emit 1,[]⟩,Run.of_execute ?_,rfl,?_,owner,regime,restored⟩
  · simp [execute,withdrawing,step,Machine.step,program,Hub.launch,Hub.holding,given,withdrawn]
  · simp [Hub.emit,Hub.setSource,source,Source.withdraw,Source.admitEpoch]

theorem Withdrawn.round (withdrawn : Withdrawn system token admission) :
    ∃ labels next, Run (step refusing {}) anyStep system labels next ∧ Withdrawn next (bump (bump token)) (bump admission) := by
  obtain ⟨admitted,first,admits⟩ := withdrawn.readmit
  obtain ⟨next,second,withdraws⟩ := admits.withdraw
  exact ⟨_,next,first.trans second,withdraws⟩

theorem bump_eq (counter rounds : Nat) : bump ((counter + rounds) % 2 ^ 64) = (counter + (rounds + 1)) % 2 ^ 64 := by
  rw [bump,Nat.mod_add_mod,Nat.add_assoc]

theorem Withdrawn.rounds (withdrawn : Withdrawn system (token % 2 ^ 64) (admission % 2 ^ 64)) (count : Nat) :
    ∃ labels next, Run (step refusing {}) anyStep system labels next ∧
      Withdrawn next ((token + 2 * count) % 2 ^ 64) ((admission + count) % 2 ^ 64) := by
  induction count with
  | zero => exact ⟨[],system,.refl,withdrawn⟩
  | succ count ih =>
    obtain ⟨labels,middle,run,reached⟩ := ih
    obtain ⟨more,next,onward,again⟩ := reached.round
    rw [bump_eq,bump_eq,bump_eq] at again
    exact ⟨_,next,run.trans onward,again⟩

/-- After 2^64 admissions that were withdrawn, the handle of the first one passes again. -/
theorem withdrawn_handle_passes_after_wrap :
    ∃ first second third, ∃ admitted withdrawn readmitted : System Unit,
      Run (step refusing {}) anyStep (initially []) first admitted ∧ admitted.shared.checkHandle (sampleHandle 1 1) = none ∧
      Run (step refusing {}) anyStep admitted second withdrawn ∧ withdrawn.shared.checkHandle (sampleHandle 1 1) ≠ none ∧
      Run (step refusing {}) anyStep withdrawn third readmitted ∧ readmitted.shared.checkHandle (sampleHandle 1 1) = none := by
  have ⟨admitted,first,passes,onward⟩ : ∃ admitted, Run (step refusing {}) anyStep (initially []) admitting admitted ∧
      admitted.shared.checkHandle (sampleHandle 1 1) = none ∧
      (execute (step refusing {}) admitted (withdrawing (sampleHandle 1 1))).any (fun withdrawn =>
        withdrawn.shared.checkHandle (sampleHandle 1 1) ≠ none ∧ Withdrawn withdrawn (2 % 2 ^ 64) (1 % 2 ^ 64)) = true := by
    apply Run.exists_of_execute
    decide +kernel
  obtain ⟨withdrawn,second,failed,idle⟩ := Run.exists_of_execute _ onward
  obtain ⟨labels,later,third,again⟩ := idle.rounds (2 ^ 64 - 1)
  obtain ⟨readmitted,fourth,admits⟩ := again.readmit
  have passed := admits.passes
  rw [bump_eq,bump_eq] at passed
  exact ⟨_,_,_,admitted,withdrawn,readmitted,first,passes,second,failed,third.trans fourth,passed⟩

end EbusGateway.Semhub
