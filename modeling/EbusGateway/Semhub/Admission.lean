import EbusGateway.Semhub.State

/-! The admission of sources: AdmitSource, Withdraw, AdmitSuccessor, Activate and the revocation of a
provisional source's epoch. A call that takes the source's control mutex and then the hub lock has one
section for each, or one for both where nothing is read in between.
-/
namespace EbusGateway.Semhub
variable {Kernel : Type}

def Admission.valid (request : Admission) : Bool :=
  request.driver ≠ [] && validateOpaque request.source &&
  match request.legacy with
  | none => request.epoch = [] && request.generation = 0
  | some _ => request.generation ≠ 0 && validateOpaque request.epoch

def nativeEpochDomain : Text := "helianthus.semhub.epoch.v1".toList
def successorEpochDomain : Text := "helianthus.semhub.epoch.successor.v1".toList
def nativeEpochStart : Text := "source-epoch:semhub:".toList

def successorEpoch (out : Outside Kernel) (incarnation source : Text) (ordinal : Nat) : Text :=
  nativeEpochStart ++ out.idHash successorEpochDomain [incarnation,source,Nat.toDigits 10 ordinal]

namespace Source

variable (src : Source)

def admitEpoch (legacy : Option LegacyFamily) (epoch : Text) (generation : Nat) (first : Bool) : Source :=
  {src with
    prior := ⟨src.admitted,src.epoch,src.generation,src.first,src.live,src.fenced,src.legacy⟩
    epochs := epoch :: src.epochs, legacy := legacy, admitted := true, epoch := epoch, generation := generation
    first := first, admissions := src.admissions + 1, admission := bump src.admission, token := bump src.token
    live := true, fenced := false}

def withdraw (epoch : Text) : Source :=
  {src with
    epochs := src.epochs.filter (· ≠ epoch), admissions := src.admissions - 1
    admitted := src.prior.admitted, epoch := src.prior.epoch, generation := src.prior.generation
    first := src.prior.first, live := src.prior.live, fenced := src.prior.fenced, legacy := src.prior.legacy
    prior := {}, token := bump src.token}

def succeed (epoch : Text) (ordinal : Nat) : Source :=
  {src with
    ordinal := ordinal, prior := {}, epochs := epoch :: src.epochs, epoch := epoch, generation := 1, first := false
    admissions := src.admissions + 1, admission := bump src.admission, token := bump src.token
    live := true, fenced := false}

def activate (generation : Nat) : Source :=
  {src with generation := generation, token := bump src.token, live := true, fenced := false, first := false}

def revoke (epoch : Text) : Source :=
  {src with retired := epoch :: src.retired, live := false, token := bump src.token}

def handle (id : Text) (first : Bool) : Handle :=
  ⟨id,src.epoch,src.generation,src.token,src.admission,first,src.legacy⟩

def successor (admission : Nat) : Bool :=
  src.successions.any fun recorded => recorded.2.handle.admission = admission

def replay (previous : Handle) : Option Succession :=
  (src.successions.find? (·.1 = previous.admission)).map (·.2)

def exhausted : Bool :=
  src.ordinal = 2 ^ 64 - 1 || src.admission = 2 ^ 64 - 1 || src.token = 2 ^ 64 - 1 || src.admissions = 2 ^ 63 - 1

end Source

namespace Hub
variable (out : Outside Kernel) (cfg : Config) (choice : Choice) (hub : Hub Kernel)

variable (request : Admission) (previous : Handle)

def record (registered : Bool) : Source :=
  if registered then hub.sources request.source else {driver := request.driver}

def release (id : Text) : Step Kernel := {shared := hub.unlockSource id}

def give (handle : Handle) : Hub Kernel := {hub with handles := handle :: hub.handles}

def epochRecord (source epoch : Text) (generation : Nat) (kind : EventKind) (assets : List Text) : EpochRecord :=
  {incarnation := hub.incarnation, source := source, epoch := epoch, generation := generation, kind := kind, assets := assets}

def admitSource : Step Kernel :=
  if !request.valid then {shared := hub}
  else if !hub.claimAvailable request.source .source request.driver then {shared := hub}
  else if !hub.regime request.source (hub.sources request.source) request.legacy then {shared := hub}
  else {shared := hub, code := [.admitCheck request (hub.sources request.source).registered]}

def successorAllowed (src : Source) : Bool :=
  request.legacy.isSome && hub.finished request.source true &&
  !(src.live || (!src.fenced && !src.retired.contains src.epoch) || request.epoch = src.epoch) &&
  (request.legacy = some .pvSunSpec || request.generation = bump src.generation)

def admitCheck (registered : Bool) : Option (Step Kernel) :=
  let src := hub.record request registered
  if src.control then none
  else if !hub.regime request.source src request.legacy then some {shared := hub}
  else if src.admitted && !hub.successorAllowed request src then some {shared := hub}
  else some {shared := if registered then hub.lockSource request.source else hub, code := [.admitCommit request registered]}

def admittedEpoch : Text × Nat :=
  match request.legacy with
  | none => (nativeEpochStart ++ out.idHash nativeEpochDomain [hub.incarnation,request.source],1)
  | some _ => (request.epoch,request.generation)

def admissible (registered : Bool) : Bool :=
  let src := hub.record request registered
  let epoch := (hub.admittedEpoch out request).1
  (registered || !(hub.sources request.source).registered && hub.claimAvailable request.source .source src.driver) &&
  !(src.retired.contains epoch || src.epochs.contains epoch || hub.restoredEpoch request.source epoch) &&
  hub.regime request.source src request.legacy

def registerFor (registered : Bool) : Hub Kernel :=
  if registered then hub else (hub.registerSource request.source request.driver).claim request.source .source request.driver

def admitEpoch (request : Admission) : Hub Kernel :=
  let (epoch,generation) := hub.admittedEpoch out request
  let first := (hub.sources request.source).admissions = 0 && !hub.restoredEpochs.any (·.1 = request.source)
  let admitted := ((hub.appendEpoch cfg [hub.epochRecord request.source epoch generation .epochAdmitted []]).setSource
    request.source (·.admitEpoch request.legacy epoch generation first)).emit 1
  admitted.give ((admitted.sources request.source).handle request.source first)

def admitCommit (registered : Bool) : Step Kernel :=
  let ended := if registered then hub.unlockSource request.source else hub
  if !hub.admissible out request registered || !choice.journal then {shared := ended}
  else {shared := (ended.registerFor request registered).admitEpoch out cfg request}

def hasPublished (id epoch : Text) : Bool :=
  (hub.sources id).assets.any fun asset => (hub.cursors out asset).any fun cursor => cursor.source = id && cursor.epoch = epoch

def withdrawable (handle : Handle) : Bool :=
  let src := hub.sources handle.source
  (hub.checkHandle handle).isNone && !src.successor handle.admission &&
  !(src.ops.getLast?.any (·.request.epoch = handle.epoch)) && !hub.hasPublished out handle.source handle.epoch

def withdraw (handle : Handle) : Option (Step Kernel) :=
  if (hub.sources handle.source).control then none
  else if !hub.withdrawable out handle || !choice.journal then some {shared := hub}
  else
    let record := hub.epochRecord handle.source handle.epoch handle.generation .sourceRetired []
    some {shared := ((hub.appendEpoch cfg [record]).setSource handle.source (·.withdraw handle.epoch)).emit 1}

def admitSuccessor (operation : Text) : Option (Step Kernel) :=
  let src := hub.sources previous.source
  if !validateOpaque operation || !src.registered then some {shared := hub}
  else if src.control then none
  else if (src.replay previous).isSome || !hub.finished previous.source false then some {shared := hub}
  else some {shared := hub.lockSource previous.source, code := [.succeedCommit previous operation]}

def succeeds : Bool :=
  let src := hub.sources previous.source
  let epoch := successorEpoch out hub.incarnation previous.source (src.ordinal + 1)
  (src.replay previous).isNone && hub.regime previous.source src none &&
  (src.admitted && src.admission = previous.admission && src.epoch = previous.epoch) && src.retired.contains src.epoch &&
  !(src.ops.getLast?.any (·.abandonedOpen hub)) && !src.exhausted &&
  !(src.epochs.contains epoch || src.retired.contains epoch || hub.restoredEpoch previous.source epoch)

def successionRecords (source : Text) (src : Source) (epoch : Text) : List EpochRecord :=
  [{hub.epochRecord source src.epoch src.generation .sourceRetired [] with ordinal := src.ordinal + 1},
   {hub.epochRecord source epoch 1 .epochAdmitted [] with ordinal := src.ordinal + 1}]

def succeed (previous : Handle) (operation : Text) : Hub Kernel :=
  let id := previous.source
  let src := hub.sources id
  let epoch := successorEpoch out hub.incarnation id (src.ordinal + 1)
  let handle := (src.succeed epoch (src.ordinal + 1)).handle id false
  (((hub.appendEpoch cfg (hub.successionRecords id src epoch)).setSource id fun src =>
    {src.succeed epoch (src.ordinal + 1) with successions := (previous.admission,⟨operation,handle⟩) :: src.successions}).emit
      1).give handle

def succeedCommit (operation : Text) : Step Kernel :=
  let ended := hub.unlockSource previous.source
  if !hub.succeeds out previous || !choice.journal then {shared := ended}
  else {shared := ended.succeed out cfg previous operation}

def activate (generation : Nat) : Option (Step Kernel) :=
  let src := hub.sources previous.source
  if !src.registered then some {shared := hub}
  else if src.control then none
  else if !hub.finished previous.source true then some {shared := hub}
  else some {shared := hub.lockSource previous.source, code := [.activateCommit previous generation]}

def activates (generation : Nat) : Bool :=
  let src := hub.sources previous.source
  (src.admission = previous.admission && src.epoch = previous.epoch && !src.retired.contains src.epoch) &&
  (!src.live && src.fenced) && (previous.generation = src.generation && src.generation < generation)

def activateCommit (generation : Nat) : Step Kernel :=
  let id := previous.source
  let ended := hub.unlockSource id
  if !hub.activates previous generation || !choice.journal then {shared := ended}
  else
    let record := hub.epochRecord id (hub.sources id).epoch generation .generationActivated []
    let active := ((ended.appendEpoch cfg [record]).setSource id (·.activate generation)).emit 1
    {shared := active.give ((active.sources id).handle id false)}

def revokeEpoch (id epoch : Text) : Step Kernel :=
  let src := hub.sources id
  if !src.registered || src.epoch ≠ epoch || src.retired.contains epoch || !choice.journal then {shared := hub}
  else
    let affected := src.assets.filter fun asset =>
      (hub.cursors out asset).any fun cursor => cursor.source = id && cursor.epoch = epoch
    let record := hub.epochRecord id epoch src.generation .sourceRetired affected
    {shared := ((hub.appendEpoch cfg [record]).setSource id (·.revoke epoch)).emit 1}

end Hub
end EbusGateway.Semhub
