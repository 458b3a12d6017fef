import EbusGateway.Semhub.System

/-! What the sections of calls do to publication handles: a token advances, a retired epoch stays retired, and
a publication is installed only where its handle passes.
-/
namespace EbusGateway.Semhub
open Library List
variable {Kernel : Type}

namespace Source

structure Keeps (old new : Source) : Prop where
  retired : ∀ epoch ∈ old.retired, epoch ∈ new.retired
  registered : old.registered = true → new.registered = true
  admitted : new.admitted = old.admitted
  admission : new.admission = old.admission
  epoch : new.epoch = old.epoch
  live : new.live = old.live
  token : new.token = old.token
  generation : new.generation = old.generation

inductive Moves (old new : Source) : Prop
  | kept (same : Keeps old new)
  | turned (retired : ∀ epoch ∈ old.retired, epoch ∈ new.retired) (token : new.token = bump old.token)

theorem Keeps.refl (src : Source) : Keeps src src := ⟨fun _ => id,id,rfl,rfl,rfl,rfl,rfl,rfl⟩

variable {first second third : Source}

theorem Keeps.trans (one : Keeps first second) (two : Keeps second third) : Keeps first third :=
  ⟨fun epoch mem => two.retired epoch (one.retired epoch mem),fun registered => two.registered (one.registered registered),
    two.admitted.trans one.admitted,two.admission.trans one.admission,two.epoch.trans one.epoch,two.live.trans one.live,
    two.token.trans one.token,two.generation.trans one.generation⟩

theorem Moves.before (two : Moves second third) (one : Keeps first second) : Moves first third := by
  cases two with
  | kept same => exact .kept (one.trans same)
  | turned retired token =>
    exact .turned (fun epoch mem => retired epoch (one.retired epoch mem)) (token.trans (congrArg bump one.token))

theorem Moves.after (one : Moves first second) (two : Keeps second third) : Moves first third := by
  cases one with
  | kept same => exact .kept (same.trans two)
  | turned retired token => exact .turned (fun epoch mem => two.retired epoch (retired epoch mem)) (two.token.trans token)

variable (src : Source)

theorem keeps_control (held : Bool) : src.Keeps {src with control := held} := ⟨fun _ => id,id,rfl,rfl,rfl,rfl,rfl,rfl⟩

theorem keeps_ops (ops : List ControlOp) : src.Keeps {src with ops := ops} := ⟨fun _ => id,id,rfl,rfl,rfl,rfl,rfl,rfl⟩

theorem keeps_retired (epochs : List Text) : src.Keeps {src with retired := epochs ++ src.retired} :=
  ⟨fun _ mem => mem_append_right _ mem,id,rfl,rfl,rfl,rfl,rfl,rfl⟩

theorem setControl_keeps (index : Nat) (asset : Text) (change : ControlAsset → ControlAsset) :
    src.Keeps (src.setControl index asset change) := src.keeps_ops _

theorem close_moves (req : Request) : src.Moves (src.close req) := by
  unfold close
  split
  · exact .turned (fun _ => id) rfl
  · exact .turned (fun _ => mem_cons_of_mem _) rfl

theorem checkHandle_none {handle : Handle} : src.checkHandle handle = none ↔
      (src.registered = true ∧ src.admitted = true ∧ src.admission = handle.admission ∧
        src.epoch = handle.epoch ∧ handle.epoch ∉ src.retired) ∧
      src.live = true ∧ src.token = handle.token ∧ src.generation = handle.generation := by
  unfold checkHandle
  grind

def Revoked (handle : Handle) : Prop := handle.token < src.token ∨ handle.epoch ∈ src.retired

variable {src} {new : Source} {handle : Handle}

theorem Revoked.refused (revoked : src.Revoked handle) : src.checkHandle handle ≠ none := by
  intro passes
  obtain ⟨⟨_,_,_,_,current⟩,_,token,_⟩ := (src.checkHandle_none).mp passes
  rcases revoked with passed | retired
  · exact Nat.lt_irrefl _ (token ▸ passed)
  · exact current retired

theorem Moves.passes (moved : Moves src new) (room : src.token + 1 < 2 ^ 64) (passes : src.checkHandle handle = none) :
    new.checkHandle handle = none ∨ new.Revoked handle := by
  obtain ⟨⟨registered,admitted,admission,epoch,_⟩,live,token,gen⟩ := (src.checkHandle_none).mp passes
  cases moved with
  | kept same =>
    by_cases retired : handle.epoch ∈ new.retired
    · exact .inr (.inr retired)
    refine .inl ((new.checkHandle_none).mpr ⟨⟨same.registered registered,?_,?_,?_,retired⟩,?_,?_,?_⟩)
    · rw [same.admitted,admitted]
    · rw [same.admission,admission]
    · rw [same.epoch,epoch]
    · rw [same.live,live]
    · rw [same.token,token]
    · rw [same.generation,gen]
  | turned _ advanced =>
    refine .inr (.inl ?_)
    rw [advanced,bump,Nat.mod_eq_of_lt room,token]
    exact Nat.lt_succ_self _

theorem Moves.revoked (moved : Moves src new) (room : src.token + 1 < 2 ^ 64)
    (revoked : src.Revoked handle) : new.Revoked handle := by
  cases moved with
  | kept same => exact revoked.imp (same.token ▸ ·) (same.retired _)
  | turned retired advanced =>
    refine revoked.imp (fun passed => ?_) (retired _)
    rw [advanced,bump,Nat.mod_eq_of_lt room]
    exact Nat.lt_succ_of_lt passed

end Source

namespace Hub

structure Keeps (old new : Hub Kernel) : Prop where
  sources : ∀ id, (old.sources id).Keeps (new.sources id)
  published : new.published = old.published

structure Shifts (old new : Hub Kernel) : Prop where
  sources : ∀ id, (old.sources id).Moves (new.sources id)
  published : new.published = old.published

structure Moves (old new : Hub Kernel) : Prop where
  sources : ∀ id, (old.sources id).Moves (new.sources id)
  published : new.published = old.published ∨ ∃ publication, new.published = publication :: old.published ∧
    old.checkHandle publication.handle = none ∧ publication.epoch ∉ (old.sources publication.handle.source).retired

theorem Keeps.of_eq {old new : Hub Kernel} (sources : new.sources = old.sources) (shown : new.published = old.published) :
    Keeps old new := ⟨fun _ => sources ▸ .refl _,shown⟩

theorem Keeps.refl (hub : Hub Kernel) : Keeps hub hub := .of_eq rfl rfl

section
variable {first second third : Hub Kernel}

theorem Keeps.trans (one : Keeps first second) (two : Keeps second third) : Keeps first third :=
  ⟨fun id => (one.sources id).trans (two.sources id),two.published.trans one.published⟩

theorem Keeps.shifts (same : Keeps first second) : Shifts first second := ⟨fun id => .kept (same.sources id),same.published⟩

theorem Keeps.before (one : Keeps first second) (two : Shifts second third) : Shifts first third :=
  ⟨fun id => (two.sources id).before (one.sources id),two.published.trans one.published⟩

theorem Shifts.after (one : Shifts first second) (two : Keeps second third) : Shifts first third :=
  ⟨fun id => (one.sources id).after (two.sources id),two.published.trans one.published⟩

theorem Shifts.moves (shifts : Shifts first second) : Moves first second := ⟨shifts.sources,.inl shifts.published⟩

theorem Keeps.moves (same : Keeps first second) : Moves first second := same.shifts.moves

end

variable (out : Outside Kernel) (cfg : Config) (choice : Choice) (hub : Hub Kernel) (id : Text)

theorem setSource_shifts (change : Source → Source) (moved : (hub.sources id).Moves (change (hub.sources id))) :
    Shifts hub (hub.setSource id change) := by
  refine ⟨fun other => ?_,rfl⟩
  by_cases same : other = id
  · subst same
    simpa only [setSource,Function.update_self] using moved
  · simpa only [setSource,Function.update_of_ne same] using .kept (.refl _)

theorem setSource_keeps (change : Source → Source) (same : (hub.sources id).Keeps (change (hub.sources id))) :
    Keeps hub (hub.setSource id change) := by
  refine ⟨fun other => ?_,rfl⟩
  by_cases equal : other = id
  · subst equal
    simpa only [setSource,Function.update_self] using same
  · simpa only [setSource,Function.update_of_ne equal] using .refl _

theorem appendEpoch_keeps (records : List EpochRecord) : Keeps hub (hub.appendEpoch cfg records) := .of_eq rfl rfl

theorem emit_keeps (events : Nat) : Keeps hub (hub.emit events) := .of_eq rfl rfl

theorem give_keeps (handle : Handle) : Keeps hub (hub.give handle) := .of_eq rfl rfl

/-- A change of a source is journalled and announced. -/
theorem journalled_shifts {records : List EpochRecord} {change : Source → Source}
    (moved : (hub.sources id).Moves (change (hub.sources id))) :
    Shifts hub (((hub.appendEpoch cfg records).setSource id change).emit 1) :=
  ((hub.appendEpoch_keeps cfg _).before (setSource_shifts _ _ _ moved)).after (emit_keeps _ 1)

theorem lockSource_keeps : Keeps hub (hub.lockSource id) := hub.setSource_keeps id _ (Source.keeps_control _ _)

theorem unlockSource_keeps : Keeps hub (hub.unlockSource id) := hub.setSource_keeps id _ (Source.keeps_control _ _)

theorem setAsset_keeps (change : Asset Kernel → Asset Kernel) : Keeps hub (hub.setAsset id change) := .of_eq rfl rfl

theorem claim_keeps (kind : Kind) (driver : Text) : Keeps hub (hub.claim id kind driver) := .of_eq rfl rfl

theorem registerSource_keeps (driver : Text) : Keeps hub (hub.registerSource id driver) := by
  obtain ⟨sources,shown⟩ :=
    hub.setSource_keeps id ({· with registered := true, driver := driver}) ⟨fun _ mem => mem,
      fun _ => rfl,rfl,rfl,rfl,rfl,rfl,rfl⟩
  exact ⟨sources,shown⟩

variable (req : Admission) (source : Text)

theorem registerFor_keeps (registered : Bool) : Keeps hub (hub.registerFor req registered) := by
  unfold registerFor
  split
  · exact .refl hub
  · exact (hub.registerSource_keeps req.source req.driver).trans (claim_keeps _ _ _ _)

theorem admitEpoch_shifts : Shifts hub (hub.admitEpoch out cfg req) := by
  refine (hub.journalled_shifts cfg _ ?_).after (give_keeps _ _)
  exact .turned (fun _ => id) rfl

theorem admitCommit_shifts (registered : Bool) : Shifts hub (hub.admitCommit out cfg choice req registered).shared := by
  have ended : Keeps hub (if registered then hub.unlockSource req.source else hub) := by
    split
    · exact hub.unlockSource_keeps req.source
    · exact .refl hub
  simp only [admitCommit,apply_ite Effect.shared]
  split
  · exact ended.shifts
  · exact ended.before ((registerFor_keeps _ req registered).before (admitEpoch_shifts out cfg _ req))

variable {handle : Handle} {effect : Step Kernel} {index : Nat} {previous : Handle} {name : Unit}

theorem withdraw_shifts (done : hub.withdraw out cfg choice handle = some effect) : Shifts hub effect.shared := by
  unfold withdraw at done
  split at done
  · cases done
  split at done
  · cases done
    exact (Keeps.refl hub).shifts
  · cases done
    exact hub.journalled_shifts cfg _ (.turned (fun _ => id) rfl)

theorem succeedCommit_shifts (previous : Handle) (op : Text) : Shifts hub (hub.succeedCommit out cfg choice previous op).shared := by
  simp only [succeedCommit,apply_ite Effect.shared]
  split
  · exact (hub.unlockSource_keeps previous.source).shifts
  refine (hub.unlockSource_keeps previous.source).before ((journalled_shifts cfg _ _ ?_).after (give_keeps _ _))
  exact .turned (fun _ => id) rfl

theorem activateCommit_shifts (previous : Handle) (gen : Nat) : Shifts hub (hub.activateCommit cfg choice previous gen).shared := by
  simp only [activateCommit,apply_ite Effect.shared]
  split
  · exact (hub.unlockSource_keeps previous.source).shifts
  refine (hub.unlockSource_keeps previous.source).before ((journalled_shifts cfg _ _ ?_).after (give_keeps _ _))
  exact .turned (fun _ => id) rfl

theorem revokeEpoch_shifts (epoch : Text) : Shifts hub (hub.revokeEpoch out cfg choice id epoch).shared := by
  simp only [revokeEpoch,apply_ite Effect.shared]
  split
  · exact (Keeps.refl hub).shifts
  · exact hub.journalled_shifts cfg _ (.turned (fun _ => mem_cons_of_mem _) rfl)

theorem admitCheck_keeps {req : Admission} {registered : Bool}
    (done : hub.admitCheck req registered = some effect) : Keeps hub effect.shared := by
  simp only [admitCheck] at done
  split at done
  · cases done
  split at done
  · cases done
    exact .refl hub
  split at done
  · cases done
    exact .refl hub
  cases done
  cases registered with
  | true => exact hub.lockSource_keeps req.source
  | false => exact .refl hub

theorem release_keeps : Keeps hub (hub.release id).shared := hub.unlockSource_keeps id

/-- A call that waits for the control of a source and may then be refused. -/
theorem takes_keeps {blocked refused : Prop} [Decidable blocked] [Decidable refused]
    {last : Step Kernel} (kept : Keeps hub last.shared)
    (done : (if blocked then none else if refused then some {shared := hub} else
      some last) = some effect) : Keeps hub effect.shared := by
  split at done
  · cases done
  split at done
  · cases done
    exact .refl hub
  · cases done
    exact kept

theorem control_keeps {source : Text} {req : Request}
    (done : hub.control out source req = some effect) : Keeps hub effect.shared := by
  simp only [control] at done
  split at done
  · cases done
    exact .refl hub
  · exact hub.takes_keeps (hub.lockSource_keeps source) done

theorem admitSuccessor_keeps {op : Text} (done : hub.admitSuccessor previous op = some effect) : Keeps hub effect.shared := by
  simp only [admitSuccessor] at done
  split at done
  · cases done
    exact .refl hub
  · exact hub.takes_keeps (hub.lockSource_keeps previous.source) done

theorem activate_keeps {gen : Nat} (done : hub.activate previous gen = some effect) : Keeps hub effect.shared := by
  simp only [activate] at done
  split at done
  · cases done
    exact .refl hub
  · exact hub.takes_keeps (hub.lockSource_keeps previous.source) done

theorem admitSource_shared : (hub.admitSource req).shared = hub := by
  unfold admitSource
  split
  · rfl
  split
  · rfl
  · split <;> rfl

/-! The control operations. -/

theorem controlRead_keeps (req : Request) : Keeps hub (hub.controlRead source req).shared := by
  unfold controlRead
  simp only
  split
  · exact hub.release_keeps source
  · exact .refl hub

theorem trials_keeps (preflight : Preflight) (todo shown : List Text) (already : Bool) :
    Keeps hub (hub.trials out preflight todo shown already).shared := by
  unfold trials
  split
  · split
    · exact hub.release_keeps _
    · exact .refl hub
  split
  · exact .refl hub
  · exact .refl hub
  · exact hub.release_keeps _
  · exact .refl hub

theorem retrials_keeps (preflight : Preflight) (todo shown skipped : List Text) :
    Keeps hub (hub.retrials out preflight todo shown skipped).shared := by
  unfold retrials
  split
  · exact .refl hub
  · split <;> exact .refl hub

theorem closeGates_keeps (index : Nat) (assets : List Text) : Keeps hub (hub.closeGates index assets) := .of_eq rfl rfl

theorem installOp_keeps (req : Request) (held : List ControlAsset) (closed : List Text) :
    Keeps hub (hub.installOp source req held closed) :=
  (hub.setSource_keeps source _ (Source.keeps_ops _ _)).trans (closeGates_keeps _ _ _)

theorem revoked_shifts (req : Request) (assets left : List Text) : Shifts hub (hub.revoked out cfg source req assets left) := by
  unfold revoked
  refine Shifts.after ?_ (emit_keeps _ _)
  split
  · exact ((hub.appendEpoch_keeps cfg _).trans (installOp_keeps _ _ _ _ _)).before (setSource_shifts _ _ _ (Source.close_moves _ _))
  · exact ((hub.appendEpoch_keeps cfg _).trans (installOp_keeps _ _ _ _ _)).shifts

theorem revoke_shifts (req : Request) (shown skipped : List Text) :
    Shifts hub (hub.revoke out cfg choice source req shown skipped).shared := by
  unfold revoke
  simp only
  split
  · exact (hub.release_keeps source).shifts
  split
  · exact (hub.release_keeps source).shifts
  split
  · exact (hub.release_keeps source).shifts
  · exact hub.revoked_shifts out cfg source req _ _

section
variable (submission : Submission)

theorem setControl_keeps (change : ControlAsset → ControlAsset) : Keeps hub (hub.setControl submission change) :=
  hub.setSource_keeps _ _ (Source.keeps_ops _ _)

theorem lockBoth_keeps : Keeps hub (hub.lockBoth submission) := (hub.lockSource_keeps _).trans (setAsset_keeps _ _ _)

theorem unlockBoth_keeps : Keeps hub (hub.unlockBoth submission) :=
  (hub.setAsset_keeps submission.asset _).trans (unlockSource_keeps _ _)

theorem reject_keeps (error : ErrorId) : Keeps hub (hub.reject submission error).shared :=
  ((hub.setControl_keeps submission _).trans (emit_keeps _ 1)).trans (unlockBoth_keeps _ _)

theorem staged_keeps : Keeps hub (hub.staged cfg submission).shared := by
  unfold staged
  split
  · exact (hub.setControl_keeps submission _).trans (unlockBoth_keeps _ _)
  · exact .refl hub

theorem attempt_keeps (target : Asset Kernel) (req : Request) : Keeps hub (hub.attempt out cfg submission target req).shared := by
  unfold attempt
  split
  · exact hub.reject_keeps submission _
  · exact (hub.setControl_keeps submission _).trans (staged_keeps cfg _ _)

theorem deliver_keeps (semantic : Semantic) : Keeps hub (hub.deliver cfg submission semantic).shared := by
  unfold deliver
  split
  · exact ((hub.setControl_keeps submission _).trans (setControl_keeps _ _ _)).trans (unlockBoth_keeps _ _)
  · exact (hub.setControl_keeps submission _).trans (setAsset_keeps _ _ _)

theorem swap_keeps : Keeps hub (hub.swap out cfg submission).shared := by
  unfold swap
  split
  · split
    · exact hub.reject_keeps submission _
    · simp only
      split
      all_goals exact ((hub.emit_keeps 1).trans (setAsset_keeps _ _ _)).trans (deliver_keeps cfg _ _ _)
  · exact hub.unlockBoth_keeps submission

variable {submission} {effect : Step Kernel}

theorem submit_keeps {resubmit : Bool} (done : hub.submit out cfg submission resubmit = some effect) : Keeps hub effect.shared := by
  unfold submit at done
  split at done
  · split at done
    · cases done
    · split at done
      · cases done
        exact hub.release_keeps _
      · split at done
        · cases done
          exact .refl hub
        · split at done
          · cases done
            exact (hub.setAsset_keeps _ _).trans (staged_keeps cfg _ _)
          · cases done
            exact (hub.setAsset_keeps _ _).trans (attempt_keeps out cfg _ _ _ _)
  · cases done
    exact hub.release_keeps _

theorem resume_keeps (done : hub.resume choice submission = some effect) : Keeps hub effect.shared := by
  have back := (hub.setControl_keeps submission ({· with exporting := false})).trans (lockBoth_keeps _ submission)
  unfold resume at done
  split at done
  · cases done
  simp only at done
  split at done
  · split at done
    · cases done
      exact back.trans (unlockBoth_keeps _ _)
    · cases done
      exact back
  · cases done
    exact back.trans (reject_keeps _ _ _)
  · cases done
    exact ((back.trans (setControl_keeps _ _ _)).trans (emit_keeps _ 1)).trans (unlockBoth_keeps _ _)

theorem delivered_keeps (done : hub.delivered choice submission = some effect) : Keeps hub effect.shared := by
  unfold delivered at done
  split at done
  · cases done
  simp only at done
  split at done
  · cases done
    exact hub.setControl_keeps submission _
  · cases done
    exact (hub.setControl_keeps submission _).trans (lockSource_keeps _ _)

end

theorem process_keeps (index : Nat) (todo : List Text) (retry : Bool) : Keeps hub (hub.process source index todo retry).shared := by
  unfold process
  split
  · exact hub.release_keeps source
  simp only
  split
  · exact .refl hub
  split
  · exact .refl hub
  · exact .refl hub
  · exact .refl hub
  · split
    · exact hub.release_keeps source
    · exact .refl hub
  · exact .refl hub
  · exact .refl hub
  · exact .refl hub

theorem cover_keeps {source : Text} (done : hub.cover source index = some effect) : Keeps hub effect.shared := by
  unfold cover at done
  split at done
  · cases done
  · cases done
    exact hub.lockSource_keeps source

theorem retryControl_keeps {source : Text} (done : hub.retryControl source index = some effect) : Keeps hub effect.shared := by
  simp only [retryControl] at done
  split at done
  · cases done
    exact .refl hub
  · exact hub.takes_keeps (hub.lockSource_keeps source) done

theorem abandonControl_keeps {source : Text} (done : hub.abandonControl source index = some effect) : Keeps hub effect.shared := by
  simp only [abandonControl] at done
  split at done
  · cases done
    exact .refl hub
  · refine hub.takes_keeps ?_ done
    dsimp only
    exact hub.setSource_keeps source _ (Source.keeps_ops _ _)

theorem settle_keeps : Keeps hub (hub.settle id).shared := by
  unfold settle
  split
  · exact .refl hub
  split
  · exact .refl hub
  · split
    · exact hub.setAsset_keeps id _
    · exact .refl hub
  · dsimp only
    exact hub.setSource_keeps _ _ (Source.setControl_keeps _ _ _ _)

/-! Declarations and publications. -/

theorem declare_keeps (asset source driver : Text) (packs : List Text) : Keeps hub (hub.declare out asset source driver packs) := by
  unfold declare
  split
  · exact .refl hub
  split
  · exact .refl hub
  have registered : Keeps hub (if (hub.sources source).registered then hub else hub.registerSource source driver) := by
    split
    · exact .refl hub
    · exact hub.registerSource_keeps source driver
  obtain ⟨sources,shown⟩ := ((registered.trans (claim_keeps _ source .source driver)).trans
    (claim_keeps _ asset .asset driver)).trans
      (setSource_keeps _ source (fun src => {src with assets := insertSorted asset src.assets})
        ⟨fun _ => id,id,rfl,rfl,rfl,rfl,rfl,rfl⟩)
  exact ⟨sources,shown⟩

theorem reserve_keeps (driver : Text) (kind : Kind) : Keeps hub (hub.reserve driver kind id) := by
  unfold reserve
  split
  · exact .refl hub
  · exact hub.claim_keeps id kind driver

theorem startTx_shared (handle : Handle) (asset : Text) (mode : Mode) : (hub.startTx handle asset mode).shared = hub := by
  unfold startTx
  split
  · rfl
  · split <;> rfl

theorem stage_keeps {asset : Text} {mode : Mode} (done : hub.stage handle asset mode = some effect) : Keeps hub effect.shared := by
  unfold stage at done
  split at done
  · cases done
    exact .refl hub
  split at done
  · cases done
  split at done
  · cases done
    exact .refl hub
  split at done
  · split at done
    · cases done
      exact .refl hub
    · cases done
      exact hub.setAsset_keeps asset _
  · cases done
    exact hub.setAsset_keeps asset _

theorem installCover_keeps (tx : Tx Kernel) (kind : ControlKind) (others : List Text) (batch : Batch) (monotonic : Nat) :
    Keeps hub (hub.installCover out tx kind others batch monotonic) := by
  unfold installCover
  split
  · exact .refl hub
  · exact hub.installOp_keeps _ _ _ _

section
variable {tx : Tx Kernel} {batch : Batch} {monotonic : Nat} {turned : Hub Kernel}

section
variable (done : hub.turn out cfg choice tx batch monotonic = some turned)
include done

theorem turn_shifts : Shifts hub turned := by
  unfold turn at done
  simp only at done
  split at done
  · split at done
    · cases done
      exact (Keeps.refl hub).shifts
    · split at done
      · cases done
        exact (hub.appendEpoch_keeps cfg _).shifts
      · cases done
  · split at done
    · cases done
    · cases done
      refine ((((hub.appendEpoch_keeps cfg _).trans (installCover_keeps out _ _ _ _ _ _)).before
        (setSource_shifts _ _ _ ?_)).after (emit_keeps _ 1)).after (give_keeps _ _)
      exact .turned (fun _ => id) rfl
  · split at done
    · cases done
    · cases done
      refine ((((hub.appendEpoch_keeps cfg _).trans (installCover_keeps out _ _ _ _ _ _)).before
        (setSource_shifts _ _ _ ?_)).after (emit_keeps _ 2)).after (give_keeps _ _)
      exact .turned (fun _ => mem_cons_of_mem _) rfl

theorem turn_epoch (passes : hub.checkHandle tx.handle = none) : tx.epoch ∉ (hub.sources tx.handle.source).retired := by
  obtain ⟨⟨_,_,_,_,current⟩,_⟩ := (Source.checkHandle_none _).mp passes
  unfold Tx.epoch
  split
  · rename_i epoch gen mode
    intro retired
    have repeated : hub.repeatedEpoch tx.handle.source epoch = true := by
      simp [repeatedEpoch,retired]
    simp [turn,mode,repeated] at done
  · exact current

end

theorem claimAll_keeps (driver : Text) (claims : List (Text × Kind)) : Keeps hub (hub.claimAll driver claims) := by
  induction claims generalizing hub with
  | nil => exact .refl hub
  | cons claim rest ih => exact (hub.claim_keeps claim.1 claim.2 driver).trans (ih _)

theorem install_sources (driver : Text) (kernel : Kernel) :
    ∀ id, (hub.sources id).Keeps ((hub.install out cfg tx driver batch monotonic kernel).sources id) :=
  ((hub.setSource_keeps tx.handle.source _ (Source.keeps_retired _ (tx.retirements batch))).trans
    (claimAll_keeps _ driver batch.claims)).sources

theorem install_published (driver : Text) (kernel : Kernel) :
    (hub.install out cfg tx driver batch monotonic kernel).published = ⟨tx.handle,tx.asset,tx.epoch,tx.generation⟩ :: hub.published :=
  congrArg (_ :: ·) ((hub.setSource_keeps tx.handle.source _ (Source.keeps_retired _ (tx.retirements batch))).trans
    (claimAll_keeps _ driver batch.claims)).published

theorem commitApplied_moves (target : Asset Kernel) (kernel : Kernel) :
    Moves hub (hub.commitApplied out cfg choice tx target batch monotonic kernel).shared := by
  have aborted : Moves hub (hub.unlockAsset tx.asset) := (hub.setAsset_keeps tx.asset _).moves
  unfold commitApplied
  simp only
  split
  · exact aborted
  rename_i allowed
  have passes : hub.checkHandle tx.handle = none := by
    simp only [Bool.or_eq_true,not_or,Bool.not_eq_true,Option.isSome_eq_false_iff,Option.isNone_iff_eq_none] at allowed
    exact allowed.1
  split
  · exact aborted
  split
  · exact aborted
  split
  · exact aborted
  rename_i turned done
  obtain ⟨sources,shown⟩ := hub.turn_shifts out cfg choice done
  refine ⟨fun id => (sources id).after (turned.install_sources out cfg target.driver kernel id),.inr ?_⟩
  refine ⟨⟨tx.handle,tx.asset,tx.epoch,tx.generation⟩,?_,passes,?_⟩
  · rw [← shown]
    exact turned.install_published out cfg target.driver kernel
  · exact hub.turn_epoch out cfg choice done passes

theorem commit_moves : Moves hub (hub.commit out cfg choice tx).shared := by
  have aborted : Moves hub (hub.unlockAsset tx.asset) := (hub.setAsset_keeps tx.asset _).moves
  unfold commit
  simp only
  split
  · split
    · exact aborted
    · split
      · exact aborted
      · exact hub.commitApplied_moves out cfg choice _ _
  · exact aborted

end

theorem perform_moves {act : Act Kernel} (done : perform out cfg choice act hub = some effect) : Moves hub effect.shared := by
  cases act with
  | admitCheck => exact (hub.admitCheck_keeps done).moves
  | admitCommit =>
    cases done
    exact (hub.admitCommit_shifts out cfg choice _ _).moves
  | succeedCommit =>
    cases done
    exact (hub.succeedCommit_shifts out cfg choice _ _).moves
  | activateCommit =>
    cases done
    exact (hub.activateCommit_shifts cfg choice _ _).moves
  | stage => exact (hub.stage_keeps done).moves
  | commit =>
    cases done
    exact hub.commit_moves out cfg choice
  | controlRead =>
    cases done
    exact (hub.controlRead_keeps _ _).moves
  | trial =>
    cases done
    exact (hub.trials_keeps out _ _ _ _).moves
  | retrial =>
    cases done
    exact (hub.retrials_keeps out _ _ _ _).moves
  | revoke =>
    cases done
    exact (hub.revoke_shifts out cfg choice _ _ _ _).moves
  | cover => exact (hub.cover_keeps done).moves
  | process =>
    cases done
    exact (hub.process_keeps _ _ _ _).moves
  | submit => exact (hub.submit_keeps out cfg done).moves
  | resume => exact (hub.resume_keeps choice done).moves
  | swap =>
    cases done
    exact (hub.swap_keeps out cfg _).moves
  | delivered => exact (hub.delivered_keeps choice done).moves

theorem holding_some {step : Option (Step Kernel)} (done : hub.holding handle step = some (effect,name)) : step = some effect := by
  unfold holding at done
  split at done
  · obtain ⟨_,found,equal⟩ := Option.map_eq_some_iff.mp done
    cases equal
    exact found
  · cases done

theorem launch_shifts {event : Event} (done : launch out cfg event hub = some (effect,name)) : Shifts hub effect.shared := by
  cases event with
  | declare =>
    cases done
    exact (hub.declare_keeps out _ _ _ _).shifts
  | reserve =>
    cases done
    exact (hub.reserve_keeps _ _ _).shifts
  | admitSource =>
    cases done
    exact (hub.admitSource_shared _).symm ▸ (Keeps.refl hub).shifts
  | withdraw => exact hub.withdraw_shifts out cfg _ (hub.holding_some done)
  | admitSuccessor => exact (hub.admitSuccessor_keeps (hub.holding_some done)).shifts
  | activate => exact (hub.activate_keeps (hub.holding_some done)).shifts
  | retireProvisional =>
    cases done
    exact hub.revokeEpoch_shifts out cfg _ _ _
  | «begin» =>
    cases hub.holding_some done
    exact (hub.startTx_shared _ _ _).symm ▸ (Keeps.refl hub).shifts
  | control =>
    obtain ⟨_,found,equal⟩ := Option.map_eq_some_iff.mp done
    cases equal
    exact (hub.control_keeps out found).shifts
  | retryControl =>
    obtain ⟨_,found,equal⟩ := Option.map_eq_some_iff.mp done
    cases equal
    exact (hub.retryControl_keeps found).shifts
  | abandonControl =>
    obtain ⟨_,found,equal⟩ := Option.map_eq_some_iff.mp done
    cases equal
    exact (hub.abandonControl_keeps found).shifts
  | settle =>
    cases done
    exact (hub.settle_keeps _).shifts

end Hub
end EbusGateway.Semhub
