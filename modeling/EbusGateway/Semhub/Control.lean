import EbusGateway.Semhub.Admission

/-! Control operations: Fence and RetireEpoch with their validation on detached forks, the revocation, and
the submission of one batch per asset; RetryControl and AbandonControl. The reprojection scheduler is left
open: an attempt may succeed at any time after its batch was accepted.
-/
namespace EbusGateway.Semhub
variable {Kernel : Type}

def newestCursor (snapshot : Snapshot) (source epoch : Text) : Option Cursor :=
  (snapshot.cursors.filter fun cursor => cursor.source = source && cursor.epoch = epoch).foldl
    (fun newest cursor =>
      match newest with
      | none => some cursor
      | some best => if best.generation < cursor.generation then some cursor else some best) none

variable (out : Outside Kernel) (source : Text)

def controlKey (request : Request) (snapshot : Snapshot) (cursor : Cursor) : Nat × Nat :=
  if request.kind = .retire && cursor.fenced && request.generation ≠ 0 && cursor.generation < request.generation then
    (request.generation,
      match cursorFor snapshot source request.epoch request.generation with
      | some existing => existing.lastSequence + 1
      | none => 1)
  else (cursor.generation,cursor.lastSequence + 1)

inductive Unbuilt
  | noPublication
  | other

def build (request : Request) (asset : Text) (kernel : Kernel) : Except Unbuilt Batch :=
  match out.current kernel with
  | none => .error .noPublication
  | some snapshot =>
    let cursor := match request.kind with
      | .fence => cursorFor snapshot source request.epoch request.generation
      | .retire => newestCursor snapshot source request.epoch
    match cursor with
    | none => .error .noPublication
    | some cursor =>
      let (generation,sequence) := controlKey source request snapshot cursor
      let batch : Batch := {
        asset := asset, source := source, epoch := request.epoch, generation := generation, sequence := sequence
        retirements := if request.kind = .retire then [request.epoch] else []
        fences := if request.kind = .fence then [⟨source,request.epoch,generation⟩] else []
        body := out.controlBody request asset snapshot}
      match out.computedDigest batch with
      | none => .error .other
      | some digest => .ok {batch with digest := digest}

inductive Trial
  | noPublication
  | already
  | refused
  | accepted
deriving DecidableEq

def alreadyHolds (request : Request) (snapshot : Snapshot) (generation : Nat) : Bool :=
  match request.kind with
  | .fence => (cursorFor snapshot source request.epoch generation).any (·.fenced)
  | .retire => snapshot.sources.any fun descriptor =>
      descriptor.source = source && descriptor.epoch = request.epoch && descriptor.retired

def trial (request : Request) (asset : Text) (kernel : Kernel) : Trial :=
  match build out source request asset kernel with
  | .error .noPublication => .noPublication
  | .error .other => .refused
  | .ok batch =>
    match out.apply kernel batch request.monotonic with
    | .ok _ => .accepted
    | .error _ =>
      if (out.current kernel).any fun snapshot => alreadyHolds source request snapshot batch.generation then .already
      else .refused

def replays (kernel : Kernel) (batch : Batch) : Bool :=
  ((out.current kernel).bind fun snapshot => cursorFor snapshot batch.source batch.epoch batch.generation).any
    (·.lastSequence = batch.sequence)

def acceptedBatch (incarnation : Text) (batch : Batch) (monotonic : Nat) (kernel : Kernel) (seq : Nat) :
    Accepted :=
  let snapshot := (out.current kernel).getD {}
  { incarnation := incarnation, batch := batch, monotonic := monotonic
    snapshotId := snapshot.id, canonical := snapshot.canonical, revisions := snapshot.revisions
    cursor := cursorFor snapshot batch.source batch.epoch batch.generation, hubSeq := seq }

namespace Source

def setControl (src : Source) (index : Nat) (asset : Text) (change : ControlAsset → ControlAsset) : Source :=
  {src with ops := src.ops.modify index fun op =>
    {op with assets := op.assets.map fun held => if held.asset = asset then change held else held}}

def controlAsset (src : Source) (index : Nat) (asset : Text) : Option ControlAsset :=
  (src.ops[index]?).bind fun op => op.assets.find? (·.asset = asset)

def close (src : Source) (request : Request) : Source :=
  match request.kind with
  | .fence => {src with live := false, token := bump src.token, fenced := true}
  | .retire => {src with live := false, token := bump src.token, retired := request.epoch :: src.retired}

end Source

namespace Hub
variable (out : Outside Kernel) (cfg : Config) (choice : Choice) (hub : Hub Kernel)

def validRequest (request : Request) : Bool :=
  validateOpaque request.epoch && out.validDetail request &&
  match request.kind with
  | .fence => request.generation ≠ 0
  | .retire => request.generation = 0

def control (source : Text) (request : Request) : Option (Step Kernel) :=
  let src := hub.sources source
  if !validRequest out request || !src.registered then some {shared := hub}
  else if src.control then none
  else if !hub.finished source false then some {shared := hub}
  else some {shared := hub.lockSource source, code := [.controlRead source request]}

def targetsCurrent (src : Source) (request : Request) : Bool :=
  src.admitted && request.epoch = src.epoch && (request.kind = .retire || request.generation = src.generation)

variable (submission : Submission) (source : Text)

def controlRead (request : Request) : Step Kernel :=
  let src := hub.sources source
  if request.kind = .fence && src.admitted && request.epoch = src.epoch && src.generation < request.generation then
    hub.release source
  else
    let preflight := ⟨source,request,targetsCurrent src request,src.fenced,src.retired.contains request.epoch,src.assets⟩
    {shared := hub, code := [.trial preflight src.assets [] false]}

def preflightRefused (preflight : Preflight) (already : Bool) : Bool :=
  already ||
  match preflight.request.kind with
  | .fence => preflight.targetsCurrent && preflight.fenced
  | .retire => !preflight.targetsCurrent || preflight.retired

def trialOf (preflight : Preflight) (asset : Text) : Trial :=
  match hub.assets asset with
  | none => .noPublication
  | some target => trial out preflight.source preflight.request asset target.kernel

def trials (preflight : Preflight) (todo published : List Text) (already : Bool) : Step Kernel :=
  match todo with
  | [] =>
    if published.isEmpty && preflightRefused preflight already then hub.release preflight.source
    else {shared := hub, code := [.retrial preflight preflight.assets published []]}
  | asset :: rest =>
    match hub.trialOf out preflight asset with
    | .noPublication => {shared := hub, code := [.trial preflight rest published already]}
    | .already => {shared := hub, code := [.trial preflight rest published true]}
    | .refused => hub.release preflight.source
    | .accepted => {shared := hub, code := [.trial preflight rest (published ++ [asset]) already]}

def retrials (preflight : Preflight) (todo published skipped : List Text) : Step Kernel :=
  match todo with
  | [] => {shared := hub, code := [.revoke preflight.source preflight.request published skipped]}
  | asset :: rest =>
    if !published.contains asset && hub.trialOf out preflight asset = .already then
      {shared := hub, code := [.retrial preflight rest published (skipped ++ [asset])]}
    else {shared := hub, code := [.retrial preflight rest published skipped]}

def keyFenced (request : Request) (asset : Text) : Option Bool :=
  match hub.assets asset with
  | none => none
  | some target =>
    match build out source request asset target.kernel with
    | .error _ => none
    | .ok batch =>
      (out.current target.kernel).bind fun snapshot =>
        (cursorFor snapshot source request.epoch batch.generation).map (·.fenced)

def covered (request : Request) (published skipped : List Text) : List Text :=
  (hub.sources source).assets.filter fun asset =>
    if published.contains asset then hub.keyFenced out source request asset ≠ some true
    else !skipped.contains asset && hub.keyFenced out source request asset = some false

def leftOut (request : Request) (published skipped : List Text) : List Text :=
  (hub.sources source).assets.filter fun asset =>
    skipped.contains asset || published.contains asset && hub.keyFenced out source request asset = some true

def historicalGeneration (source epoch : Text) (assets : List Text) : Nat :=
  (assets.map fun asset => latestGeneration {cursors := hub.cursors out asset} source epoch).foldl max 0

def controlRecord (request : Request) (current : Bool) (assets : List Text) : EpochRecord :=
  match request.kind with
  | .fence => hub.epochRecord source request.epoch request.generation .generationFenced assets
  | .retire =>
    hub.epochRecord source request.epoch
      (if current then (hub.sources source).generation else hub.historicalGeneration out source request.epoch assets)
      .sourceRetired assets

def closeGates (index : Nat) (assets : List Text) : Hub Kernel :=
  {hub with assets := fun id =>
    if assets.contains id then (hub.assets id).map ({· with gate := some (.control index)}) else
      hub.assets id}

def installOp (request : Request) (held : List ControlAsset) (closed : List Text) : Hub Kernel :=
  let index := (hub.sources source).ops.length
  (hub.setSource source fun src => {src with ops := src.ops ++ [⟨⟨hub.incarnation,source,index + 1⟩,request,held,false⟩]}).closeGates
    index closed

def controlAssets (assets covered left : List Text) : List ControlAsset :=
  (assets.filter (!left.contains ·)).map fun asset =>
    {asset := asset, semantic := if covered.contains asset then .unbuilt else .revokedUnpublished}

def stillCurrent (src : Source) (request : Request) : Bool := targetsCurrent src request && !src.retired.contains src.epoch

def revoked (request : Request) (assets left : List Text) : Hub Kernel :=
  let src := hub.sources source
  let current := stillCurrent src request
  let held := controlAssets src.assets assets left
  let journalled := hub.appendEpoch cfg [hub.controlRecord out source request current assets]
  let installed := journalled.installOp source request held assets
  let closed := if current then installed.setSource source (·.close request) else installed
  closed.emit ((held.filter (·.semantic = .revokedUnpublished)).length + if held.isEmpty && current then 1 else 0)

def revoke (request : Request) (published skipped : List Text) : Step Kernel :=
  let src := hub.sources source
  let assets := hub.covered out source request published skipped
  let left := hub.leftOut out source request published skipped
  if src.ops.getLast?.any (·.state ≠ .finished) then hub.release source
  else if assets.isEmpty && !stillCurrent src request then hub.release source
  else if !choice.journal then hub.release source
  else {
    shared := hub.revoked out cfg source request assets left
    code := [.process source src.ops.length ((controlAssets src.assets assets left).map (·.asset)) false]}

def setControl (submission : Submission) (change : ControlAsset → ControlAsset) : Hub Kernel :=
  hub.setSource submission.source (·.setControl submission.index submission.asset change)

def controlAsset (submission : Submission) : Option ControlAsset :=
  (hub.sources submission.source).controlAsset submission.index submission.asset

def lockBoth : Hub Kernel := (hub.lockSource submission.source).lockAsset submission.asset
def unlockBoth : Hub Kernel := (hub.unlockAsset submission.asset).unlockSource submission.source

def onward : List (Act Kernel) :=
  [.process submission.source submission.index submission.rest submission.retry]

def process (index : Nat) (todo : List Text) (retry : Bool) : Step Kernel :=
  match todo with
  | [] => hub.release source
  | asset :: rest =>
    let submission := ⟨source,index,asset,rest,retry⟩
    match hub.controlAsset submission with
    | none => {shared := hub, code := onward submission}
    | some held =>
      match held.semantic with
      | .accepted | .replayed | .revokedUnpublished => {shared := hub, code := onward submission}
      | .rejected =>
        if !retry || held.error ≠ some .revisionConflict then hub.release source
        else {shared := hub, code := [.submit submission false]}
      | .uncertain => {shared := hub, code := [.submit submission true]}
      | .unbuilt | .pending => {shared := hub, code := [.submit submission false]}

def reject (error : ErrorId) : Step Kernel :=
  {shared := ((hub.setControl submission ({· with semantic := .rejected, error := some error})).emit 1).unlockBoth submission}

def staged : Step Kernel :=
  if cfg.beforeControl then
    {shared := (hub.setControl submission ({· with exporting := true})).unlockBoth submission, code := [.resume submission]}
  else {shared := hub, code := [.swap submission]}

def attempt (target : Asset Kernel) (request : Request) : Step Kernel :=
  match build out submission.source request submission.asset target.kernel with
  | .error _ => hub.reject submission .other
  | .ok batch =>
    (hub.setControl submission fun held => {held with attempts := held.attempts ++ [batch], semantic := .pending}).staged cfg
      submission

def submit (resubmit : Bool) : Option (Step Kernel) :=
  match hub.assets submission.asset, (hub.sources submission.source).ops[submission.index]?, hub.controlAsset submission with
  | some target, some op, some held =>
    if target.locked then none
    else if held.exporting then some (hub.release submission.source)
    else if semanticSuccess held.semantic || held.semantic = .revokedUnpublished then some {shared := hub, code := onward submission}
    else if resubmit then some ((hub.lockAsset submission.asset).staged cfg submission)
    else some ((hub.lockAsset submission.asset).attempt out cfg submission target op.request)
  | _, _, _ => some (hub.release submission.source)

def superseded : Bool :=
  ((hub.sources submission.source).ops[submission.index]?).any (·.abandoned) ||
  !(hub.assets submission.asset).any (·.gate = some (.control submission.index))

def free : Bool :=
  !(hub.sources submission.source).control && (hub.assets submission.asset).all (!·.locked)

def resume : Option (Step Kernel) :=
  if !hub.free submission then none
  else
    let back := (hub.setControl submission ({· with exporting := false})).lockBoth submission
    match choice.hook with
    | .accepts =>
      if hub.superseded submission then some {shared := back.unlockBoth submission}
      else some {shared := back, code := [.swap submission]}
    | .refuses => some (back.reject submission .exportRefused)
    | .panics =>
      some {shared := ((back.setControl submission ({· with semantic := .uncertain, error := none})).emit 1).unlockBoth submission}

def accept (entry : Accepted) (kernel : Kernel) : Hub Kernel :=
  hub.setAsset submission.asset fun target =>
    {target with kernel := kernel, hubSeq := entry.hubSeq, records := if cfg.recovery then target.records ++ [entry] else target.records}

def deliver (semantic : Semantic) : Step Kernel :=
  let decided := hub.setControl submission ({· with semantic := semantic, error := none, settled := false})
  if cfg.recovery then
    {shared := (decided.setControl submission ({· with exporting := true})).unlockBoth submission, code := [.delivered submission]}
  else {shared := decided.unlockAsset submission.asset, code := onward submission}

def swap : Step Kernel :=
  match hub.assets submission.asset, (hub.sources submission.source).ops[submission.index]?,
      (hub.controlAsset submission).bind (·.attempts.getLast?) with
  | some target, some op, some batch =>
    match out.apply target.kernel batch op.request.monotonic with
    | .error error => hub.reject submission error
    | .ok kernel =>
      let sequenced := hub.emit 1
      if replays out target.kernel batch then
        (sequenced.setAsset submission.asset ({· with hubSeq := sequenced.seq})).deliver cfg submission .replayed
      else
        (sequenced.accept cfg submission (acceptedBatch out hub.incarnation batch op.request.monotonic kernel sequenced.seq)
          kernel).deliver cfg submission .accepted
  | _, _, _ => {shared := hub.unlockBoth submission}

def delivered : Option (Step Kernel) :=
  if !hub.free submission then none
  else
    let back := hub.setControl submission ({· with exporting := false})
    if choice.hook = .panics then some {shared := back}
    else some {shared := back.lockSource submission.source, code := onward submission}

def cover (index : Nat) : Option (Step Kernel) :=
  if (hub.sources source).control then none
  else
    let assets := ((hub.sources source).ops[index]?.map (·.assets.map (·.asset))).getD []
    some {shared := hub.lockSource source, code := [.process source index assets false]}

def retryControl (index : Nat) : Option (Step Kernel) :=
  let src := hub.sources source
  match src.ops[index]? with
  | none => some {shared := hub}
  | some op =>
    if src.control then none
    else if src.ops.length ≠ index + 1 || op.abandoned || op.state ≠ .unfinished then some {shared := hub}
    else some {shared := hub.lockSource source, code := [.process source index (op.assets.map (·.asset)) true]}

def abandonControl (index : Nat) : Option (Step Kernel) :=
  let src := hub.sources source
  match src.ops[index]? with
  | none => some {shared := hub}
  | some op =>
    if src.control then none
    else if src.ops.length ≠ index + 1 || op.abandoned || op.state ≠ .unfinished then some {shared := hub}
    else some {shared := hub.setSource source fun src => {src with ops := src.ops.modify index ({· with abandoned := true})}}

def settle (id : Text) : Step Kernel :=
  match hub.assets id with
  | none => {shared := hub}
  | some target =>
    match target.gate with
    | none => {shared := hub}
    | some (.restored op held) =>
      if semanticSuccess held.semantic then
        {shared := hub.setAsset id ({· with gate := some (.restored op {held with settled := true})})}
      else {shared := hub}
    | some (.control index) =>
      {shared := hub.setSource target.source
        (·.setControl index id fun held => if semanticSuccess held.semantic then {held with settled := true} else held)}

end Hub
end EbusGateway.Semhub
