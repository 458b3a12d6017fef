import Mathlib.Data.List.Sort
import EbusGateway.Library.Goroutine

/-! The semantic publication hub: the identifiers, batches and snapshots it handles, the record it keeps of
every source and asset, and the check of a publication handle. SemReg's publication kernel and the hash
of native epochs are code of other modules: `Outside` says what the hub sees of them.
-/
namespace EbusGateway.Semhub

abbrev Text := List Char

inductive Kind
  | asset
  | source
  | binding
  | service
  | capability
deriving DecidableEq

inductive LegacyFamily
  | growattStorage
  | teslaEVSE
  | pvSunSpec
deriving DecidableEq

def opaqueCharacter (c : Char) : Bool := c.isAlphanum || ['.','_',':','/','@','-'].contains c

def validateOpaque : Text → Bool
  | [] => false
  | first :: rest => first.isAlphanum && rest.all opaqueCharacter && rest.length < 256

structure Fence where
  source : Text
  epoch : Text
  generation : Nat
deriving DecidableEq

structure Batch where
  asset : Text
  source : Text
  epoch : Text
  generation : Nat
  sequence : Nat
  retirements : List Text := []
  fences : List Fence := []
  claims : List (Text × Kind) := []
  body : Text := []
  digest : Text := []
deriving DecidableEq

structure Cursor where
  source : Text
  epoch : Text
  generation : Nat
  lastSequence : Nat
  fenced : Bool := false

structure Descriptor where
  source : Text
  epoch : Text
  retired : Bool := false

structure Snapshot where
  id : Text := []
  revisions : Text := []
  canonical : Text := []
  cursors : List Cursor := []
  sources : List Descriptor := []

inductive ControlKind
  | fence
  | retire
deriving DecidableEq

structure Request where
  kind : ControlKind
  epoch : Text
  generation : Nat := 0
  detail : Text := []
  monotonic : Nat := 0
deriving DecidableEq

inductive ErrorId
  | revisionConflict
  | exportRefused
  | other
deriving DecidableEq

structure Outside (Kernel : Type) where
  newPublicationKernel : Text → List Text → Kernel
  current : Kernel → Option Snapshot
  apply : Kernel → Batch → Nat → Except ErrorId Kernel
  computedDigest : Batch → Option Text
  /-- The body of a control batch on an asset with a given snapshot. -/
  controlBody : Request → Text → Snapshot → Text
  /-- The reason and evidence of a transition cover. -/
  coverDetail : Batch → Text
  /-- Whether reason, evidence and times of a control request are valid. -/
  validDetail : Request → Bool
  idHash : Text → List Text → Text

structure ControlId where
  incarnation : Text
  source : Text
  number : Nat
deriving DecidableEq

inductive Semantic
  | unbuilt
  | pending
  | accepted
  | replayed
  | rejected
  | uncertain
  | revokedUnpublished
deriving DecidableEq

def semanticSuccess (state : Semantic) : Bool := state = .accepted || state = .replayed

structure ControlAsset where
  asset : Text
  semantic : Semantic := .unbuilt
  error : Option ErrorId := none
  attempts : List Batch := []
  settled : Bool := true
  exporting : Bool := false
deriving DecidableEq

structure ControlOp where
  id : ControlId
  request : Request
  assets : List ControlAsset
  abandoned : Bool := false
deriving DecidableEq

/-- The gate of an asset: one of its source's control operations, or what a restore installed, with the
control operation it found if it found one. -/
inductive Gate
  | control (index : Nat)
  | restored (op : Option ControlOp) (held : ControlAsset)
deriving DecidableEq

structure Accepted where
  incarnation : Text
  batch : Batch
  monotonic : Nat
  snapshotId : Text
  canonical : Text
  revisions : Text
  cursor : Option Cursor
  hubSeq : Nat

structure Asset (Kernel : Type) where
  source : Text
  driver : Text
  packs : List Text
  kernel : Kernel
  hubSeq : Nat := 0
  gate : Option Gate := none
  records : List Accepted := []
  restoreFailed : Bool := false
  restored : Bool := false
  /-- The commit mutex. -/
  locked : Bool := false

structure Handle where
  source : Text
  epoch : Text
  generation : Nat
  token : Nat
  admission : Nat
  first : Bool := false
  legacy : Option LegacyFamily := none
deriving DecidableEq

structure Succession where
  operation : Text
  handle : Handle
deriving DecidableEq

structure PriorAdmission where
  admitted : Bool := false
  epoch : Text := []
  generation : Nat := 0
  first : Bool := false
  live : Bool := false
  fenced : Bool := false
  legacy : Option LegacyFamily := none
deriving DecidableEq

/-- A source; one that is not registered has the record a first use creates. -/
structure Source where
  registered : Bool := false
  driver : Text := []
  legacy : Option LegacyFamily := none
  admitted : Bool := false
  epoch : Text := []
  generation : Nat := 0
  first : Bool := false
  admissions : Nat := 0
  token : Nat := 0
  live : Bool := false
  fenced : Bool := false
  epochs : List Text := []
  retired : List Text := []
  /-- The assets declared with it, in bytewise order. -/
  assets : List Text := []
  ops : List ControlOp := []
  prior : PriorAdmission := {}
  admission : Nat := 0
  ordinal : Nat := 0
  successions : List (Nat × Succession) := []
  /-- The control mutex. -/
  control : Bool := false
deriving DecidableEq

inductive EventKind
  | epochAdmitted
  | generationActivated
  | generationFenced
  | sourceRetired
  | generationRevoked

structure EpochRecord where
  incarnation : Text
  source : Text
  epoch : Text
  generation : Nat
  kind : EventKind
  assets : List Text := []
  ordinal : Nat := 0

structure Owner where
  driver : Text
  kind : Kind
deriving DecidableEq

/-- A publication that a commit installed, and the handle it was committed with. -/
structure Publication where
  handle : Handle
  asset : Text
  epoch : Text
  generation : Nat

structure Config where
  /-- Recovery hooks are set, and among them the one before a control submission. -/
  recovery : Bool := false
  beforeControl : Bool := false

/-- A hub. `handles` are the handles it gave out and `published` what commits installed, the last
first. -/
structure Hub (Kernel : Type) where
  incarnation : Text
  ids : Text → Option Owner := fun _ => none
  sources : Text → Source := fun _ => {}
  /-- The registered sources and the declared assets, in bytewise order. -/
  sourceNames : List Text := []
  assets : Text → Option (Asset Kernel) := fun _ => none
  assetNames : List Text := []
  epochHistory : List EpochRecord := []
  restoredEpochs : List (Text × Text) := []
  restoredRegimes : Text → Option (Option LegacyFamily) := fun _ => none
  /-- The last sequence number of the event stream. -/
  seq : Nat := 0
  handles : List Handle := []
  published : List Publication := []

def bump (counter : Nat) : Nat := (counter + 1) % 2 ^ 64

def insertSorted (name : Text) : List Text → List Text
  | [] => [name]
  | first :: rest =>
    if name < first then name :: first :: rest
    else if name = first then first :: rest
    else first :: insertSorted name rest

inductive Stale
  | sourceEpoch
  | driverGeneration

def Source.checkHandle (src : Source) (handle : Handle) : Option Stale :=
  if !src.registered || !src.admitted || src.admission ≠ handle.admission || src.epoch ≠ handle.epoch ||
      src.retired.contains handle.epoch then
    some .sourceEpoch
  else if !src.live || src.token ≠ handle.token || src.generation ≠ handle.generation then some .driverGeneration
  else none

def cursorFor (snapshot : Snapshot) (source epoch : Text) (generation : Nat) : Option Cursor :=
  snapshot.cursors.find? fun cursor => cursor.source = source && cursor.epoch = epoch && cursor.generation = generation

def latestGeneration (snapshot : Snapshot) (source epoch : Text) : Nat :=
  ((snapshot.cursors.filter fun cursor => cursor.source = source && cursor.epoch = epoch).map (·.generation)).foldl max 0

namespace Hub
variable {Kernel : Type}

def checkHandle (hub : Hub Kernel) (handle : Handle) : Option Stale := (hub.sources handle.source).checkHandle handle

variable (hub : Hub Kernel) (id : Text)

def setSource (change : Source → Source) : Hub Kernel :=
  {hub with sources := Function.update hub.sources id (change (hub.sources id))}

def setAsset (change : Asset Kernel → Asset Kernel) : Hub Kernel :=
  {hub with assets := Function.update hub.assets id ((hub.assets id).map change)}

def lockSource : Hub Kernel := hub.setSource id ({· with control := true})
def unlockSource : Hub Kernel := hub.setSource id ({· with control := false})
def lockAsset : Hub Kernel := hub.setAsset id ({· with locked := true})
def unlockAsset : Hub Kernel := hub.setAsset id ({· with locked := false})

def claimAvailable (kind : Kind) (driver : Text) : Bool :=
  (hub.ids id).all fun owner => owner.driver = driver && owner.kind = kind

def claim (kind : Kind) (driver : Text) : Hub Kernel :=
  {hub with ids := Function.update hub.ids id (some ⟨driver,kind⟩)}

def regime (src : Source) (legacy : Option LegacyFamily) : Bool :=
  (hub.restoredRegimes id).all (· = legacy) && (src.admissions = 0 || src.legacy = legacy)

def restoredEpoch (id epoch : Text) : Bool := hub.restoredEpochs.contains (id,epoch)

/-- The journalled records are kept for recovery; the journal itself is code outside. -/
def appendEpoch (cfg : Config) (hub : Hub Kernel) (records : List EpochRecord) : Hub Kernel :=
  {hub with epochHistory := if cfg.recovery then hub.epochHistory ++ records else hub.epochHistory}

def emit (events : Nat) : Hub Kernel := {hub with seq := hub.seq + events}

def registerSource (id driver : Text) : Hub Kernel :=
  {hub.setSource id ({· with registered := true, driver := driver}) with sourceNames := insertSorted id hub.sourceNames}

def gate (hub : Hub Kernel) (id : Text) (target : Asset Kernel) : Option (Option ControlOp × ControlAsset) :=
  match target.gate with
  | none => none
  | some (.restored op held) => some (op,held)
  | some (.control index) =>
    match (hub.sources target.source).ops[index]? with
    | none => none
    | some op => (op.assets.find? (·.asset = id)).map fun held => (some op,held)

inductive Refused
  | controlPending
  | reprojectionPending

def publicationGate (target : Asset Kernel) : Option Refused :=
  if target.restoreFailed then some .controlPending
  else match hub.gate id target with
    | none => none
    | some (_,held) =>
      if held.semantic = .revokedUnpublished then none
      else if !semanticSuccess held.semantic then some .controlPending
      else if !held.settled then some .reprojectionPending
      else none

def cursors (out : Outside Kernel) (hub : Hub Kernel) (id : Text) : List Cursor :=
  match hub.assets id with
  | none => []
  | some target => ((out.current target.kernel).map (·.cursors)).getD []

end Hub

inductive OpState
  | finished
  | settling
  | unfinished
deriving DecidableEq

namespace ControlOp

def state (op : ControlOp) : OpState :=
  if !op.abandoned && op.assets.any fun held => held.semantic ≠ .revokedUnpublished && !semanticSuccess held.semantic then
    .unfinished
  else if op.assets.any fun held => semanticSuccess held.semantic && !held.settled then .settling
  else .finished

def abandonedOpen {Kernel : Type} (hub : Hub Kernel) (op : ControlOp) : Bool :=
  op.abandoned && op.assets.any fun held =>
    held.semantic ≠ .revokedUnpublished && !semanticSuccess held.semantic &&
    (hub.assets held.asset).any fun target => target.gate = some (.control (op.id.number - 1))

end ControlOp

def Hub.finished {Kernel : Type} (hub : Hub Kernel) (id : Text) (activation : Bool) : Bool :=
  match (hub.sources id).ops.getLast? with
  | none => true
  | some op => op.state = .finished && !(activation && op.abandonedOpen hub)

structure Admission where
  source : Text
  driver : Text
  legacy : Option LegacyFamily := none
  epoch : Text := []
  generation : Nat := 0

inductive Mode
  | publication
  | generation (generation : Nat)
  | epoch (epoch : Text) (generation : Nat)

structure Tx (Kernel : Type) where
  handle : Handle
  asset : Text
  mode : Mode
  fork : Kernel

structure Preflight where
  source : Text
  request : Request
  targetsCurrent : Bool
  fenced : Bool
  retired : Bool
  assets : List Text

structure Submission where
  source : Text
  index : Nat
  asset : Text
  rest : List Text
  retry : Bool

inductive Act (Kernel : Type)
  | admitCheck (request : Admission) (registered : Bool)
  | admitCommit (request : Admission) (registered : Bool)
  | succeedCommit (previous : Handle) (operation : Text)
  | activateCommit (previous : Handle) (generation : Nat)
  | stage (handle : Handle) (asset : Text) (mode : Mode)
  | commit (tx : Tx Kernel)
  | controlRead (source : Text) (request : Request)
  | trial (preflight : Preflight) (todo published : List Text) (already : Bool)
  | retrial (preflight : Preflight) (todo published skipped : List Text)
  | revoke (source : Text) (request : Request) (published skipped : List Text)
  | cover (source : Text) (index : Nat)
  | process (source : Text) (index : Nat) (todo : List Text) (retry : Bool)
  | submit (submission : Submission) (resubmit : Bool)
  | resume (submission : Submission)
  | swap (submission : Submission)
  | delivered (submission : Submission)

inductive Hook
  | accepts
  | refuses
  | panics
deriving DecidableEq

structure Choice where
  journal : Bool := true
  batch : Option (Batch × Nat) := none
  hook : Hook := .accepts

abbrev Step (Kernel : Type) := Library.Effect Unit (Act Kernel) (Hub Kernel)

end EbusGateway.Semhub
