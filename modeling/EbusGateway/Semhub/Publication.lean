import EbusGateway.Semhub.Control

/-! Declarations and publications: Declare, Reserve, Begin with its two transition forms, and Commit, whose
one critical section checks the handle, journals, moves the source to its new generation or epoch and
swaps the kernel.
-/
namespace EbusGateway.Semhub
variable {Kernel : Type}

namespace Tx

def epoch (tx : Tx Kernel) : Text :=
  match tx.mode with
  | .epoch epoch _ => epoch
  | _ => tx.handle.epoch

def generation (tx : Tx Kernel) : Nat :=
  match tx.mode with
  | .publication => tx.handle.generation
  | .generation generation => generation
  | .epoch _ generation => generation

def heads (tx : Tx Kernel) (batch : Batch) : Bool :=
  batch.asset = tx.asset && batch.source = tx.handle.source && batch.epoch = tx.epoch && batch.generation = tx.generation

def retirements (tx : Tx Kernel) (batch : Batch) : List Text :=
  match tx.mode with
  | .epoch _ _ => batch.retirements.filter (· ≠ tx.handle.epoch)
  | _ => batch.retirements

end Tx

namespace Source

def transition (src : Source) (generation : Nat) : Source :=
  {src with generation := generation, first := false, fenced := false, token := bump src.token}

def epochTransition (src : Source) (old epoch : Text) (generation : Nat) : Source :=
  {src with
    retired := old :: src.retired, epochs := epoch :: src.epochs, epoch := epoch, generation := generation
    first := false, fenced := false, live := true, token := bump src.token}

end Source

namespace Hub
variable (out : Outside Kernel) (cfg : Config) (choice : Choice) (hub : Hub Kernel)

def declarable (driver asset source : Text) : Bool :=
  (hub.ids source).all (·.driver = driver) && hub.claimAvailable asset .asset driver && hub.claimAvailable source .source driver

def declare (asset source driver : Text) (packs : List Text) : Hub Kernel :=
  if driver = [] || packs = [] || !validateOpaque asset || !validateOpaque source || asset = source then hub
  else if (hub.assets asset).isSome || !hub.declarable driver asset source then hub
  else
    let registered :=
      if (hub.sources source).registered then hub else hub.registerSource source driver
    let claimed := (registered.claim source .source driver).claim asset .asset driver
    {claimed.setSource source (fun src => {src with assets := insertSorted asset src.assets}) with
      assets := Function.update hub.assets asset
        (some {source := source, driver := driver, packs := packs, kernel := out.newPublicationKernel asset packs})
      assetNames := insertSorted asset hub.assetNames}

variable (tx : Tx Kernel) (driver : Text)

def reserve (kind : Kind) (id : Text) : Hub Kernel :=
  if kind = .asset || kind = .source || driver = [] || !validateOpaque id || !hub.claimAvailable id kind driver then hub
  else hub.claim id kind driver

def validMode (handle : Handle) (mode : Mode) : Bool :=
  match mode with
  | .publication => true
  | .generation generation => handle.generation < generation
  | .epoch epoch generation =>
    generation ≠ 0 && validateOpaque epoch && epoch ≠ handle.epoch && handle.legacy.isSome &&
    (handle.legacy = some .pvSunSpec || generation = bump handle.generation)

def startTx (handle : Handle) (asset : Text) (mode : Mode) : Step Kernel :=
  match hub.assets asset with
  | none => {shared := hub}
  | some target =>
    if !validMode handle mode || target.source ≠ handle.source || (hub.publicationGate asset target).isSome then {shared := hub}
    else {shared := hub, code := [.stage handle asset mode]}

def repeatedEpoch (source epoch : Text) : Bool :=
  (hub.sources source).epochs.contains epoch || (hub.sources source).retired.contains epoch || hub.restoredEpoch source epoch

def stage (handle : Handle) (asset : Text) (mode : Mode) : Option (Step Kernel) :=
  match hub.assets asset with
  | none => some {shared := hub}
  | some target =>
    if target.locked then none
    else if (hub.checkHandle handle).isSome then some {shared := hub}
    else match mode with
      | .epoch epoch _ =>
        if hub.repeatedEpoch handle.source epoch then some {shared := hub}
        else some {shared := hub.lockAsset asset, code := [.commit ⟨handle,asset,mode,target.kernel⟩]}
      | _ => some {shared := hub.lockAsset asset, code := [.commit ⟨handle,asset,mode,target.kernel⟩]}

def claimable (claims : List (Text × Kind)) : Bool :=
  claims.all fun claim => hub.claimAvailable claim.1 claim.2 driver && claims.all fun other => other.1 ≠ claim.1 || other.2 = claim.2

def claimAll (claims : List (Text × Kind)) : Hub Kernel :=
  claims.foldl (fun hub claim => hub.claim claim.1 claim.2 driver) hub

def retirementRecords (batch : Batch) : List EpochRecord :=
  (tx.retirements batch).map fun epoch =>
    hub.epochRecord tx.handle.source epoch (latestGeneration {cursors := hub.cursors out tx.asset} tx.handle.source epoch)
      .sourceRetired [tx.asset]

def transitionOthers : List Text :=
  (hub.sources tx.handle.source).assets.filter fun asset =>
    asset ≠ tx.asset &&
    (cursorFor {cursors := hub.cursors out asset} tx.handle.source tx.handle.epoch tx.handle.generation).any (!·.fenced)

def epochOthers : List Text :=
  (hub.sources tx.handle.source).assets.filter fun asset =>
    asset ≠ tx.asset &&
    ((hub.assets asset).bind fun target => out.current target.kernel).any fun snapshot =>
      snapshot.sources.any fun descriptor =>
        descriptor.source = tx.handle.source && descriptor.epoch = tx.handle.epoch && !descriptor.retired

def installCover (kind : ControlKind) (others : List Text) (batch : Batch) (monotonic : Nat) : Hub Kernel :=
  if others.isEmpty then hub
  else hub.installOp tx.handle.source ⟨kind,tx.handle.epoch,tx.handle.generation,out.coverDetail batch,monotonic⟩
    (others.map fun asset => {asset := asset}) others

def turn (batch : Batch) (monotonic : Nat) : Option (Hub Kernel) :=
  let id := tx.handle.source
  let retirements := hub.retirementRecords out tx batch
  match tx.mode with
  | .publication =>
    if retirements.isEmpty then some hub
    else if choice.journal then some (hub.appendEpoch cfg retirements)
    else none
  | .generation generation =>
    if !choice.journal then none
    else
      let others := hub.transitionOthers out tx
      let records := hub.epochRecord id tx.handle.epoch tx.handle.generation .generationFenced (insertSorted tx.asset others) ::
        hub.epochRecord id tx.handle.epoch generation .generationActivated [] :: retirements
      let moved := (((hub.appendEpoch cfg records).installCover out tx .fence others batch monotonic).setSource id
        (·.transition generation)).emit 1
      some (moved.give ((moved.sources id).handle id false))
  | .epoch epoch generation =>
    if hub.repeatedEpoch id epoch || !choice.journal then none
    else
      let others := hub.epochOthers out tx
      let records := hub.epochRecord id tx.handle.epoch tx.handle.generation .sourceRetired (insertSorted tx.asset others) ::
        hub.epochRecord id epoch generation .epochAdmitted [] :: retirements
      let moved := (((hub.appendEpoch cfg records).installCover out tx .retire others batch monotonic).setSource id
        (·.epochTransition tx.handle.epoch epoch generation)).emit 2
      some (moved.give ((moved.sources id).handle id false))

def install (batch : Batch) (monotonic : Nat) (kernel : Kernel) : Hub Kernel :=
  let retired := (hub.setSource tx.handle.source fun src => {src with retired := tx.retirements batch ++ src.retired}).claimAll driver
    batch.claims
  let sequenced := retired.emit (batch.retirements.length + batch.fences.length + 1)
  let entry := acceptedBatch out hub.incarnation batch monotonic kernel sequenced.seq
  let swapped := sequenced.setAsset tx.asset fun target =>
    {target with
      kernel := kernel, hubSeq := sequenced.seq, locked := false
      records := if cfg.recovery then target.records ++ [entry] else target.records}
  {swapped with published := ⟨tx.handle,tx.asset,tx.epoch,tx.generation⟩ :: swapped.published}

def covers (source : Text) (before : Hub Kernel) : List (Act Kernel) :=
  if (before.sources source).ops.length < (hub.sources source).ops.length then [.cover source (before.sources source).ops.length]
  else []

def commitApplied (target : Asset Kernel) (batch : Batch) (monotonic : Nat) (kernel : Kernel) : Step Kernel :=
  let aborted : Step Kernel := {shared := hub.unlockAsset tx.asset}
  if (hub.checkHandle tx.handle).isSome || (hub.publicationGate tx.asset target).isSome then aborted
  else if replays out tx.fork batch then aborted
  else if !hub.claimable target.driver batch.claims then aborted
  else match hub.turn out cfg choice tx batch monotonic with
    | none => aborted
    | some turned => {
        shared := turned.install out cfg tx target.driver batch monotonic kernel
        code := turned.covers tx.handle.source hub}

def commit : Step Kernel :=
  let aborted : Step Kernel := {shared := hub.unlockAsset tx.asset}
  match choice.batch, hub.assets tx.asset with
  | some (batch,monotonic), some target =>
    if !tx.heads batch then aborted
    else match out.apply tx.fork batch monotonic with
      | .error _ => aborted
      | .ok kernel => hub.commitApplied out cfg choice tx target batch monotonic kernel
  | _, _ => aborted

end Hub
end EbusGateway.Semhub
