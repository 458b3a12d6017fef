import EbusGateway.Library.Json
import EbusGateway.RuntimeState.Control

/-! The encoding of the control namespace. A namespace that does not decode is kept verbatim, and within a
loaded one a record that does not decode is. The texts of instants, payloads and digests are those of the
standard library. -/

namespace EbusGateway.RuntimeState
open Library

/-- Functions of the standard library: RFC 3339 instants, where the inner `none` is the zero time, base 64 and
the hexadecimal SHA-256 digest. -/
structure Outside where
  parseInstant : Text → Option (Option Nat)
  formatInstant : Nat → Text
  decodePayload : Text → Option Text
  encodePayload : Text → Text
  digest : Text → Text

variable (o : Outside) (text : Text)

def isDigest : Bool := text.length = 64 && text.all fun c => c.isDigit || 'a' ≤ c && c ≤ 'f'

def endsInZ : Bool := text.getLast? = some 'Z'

structure Outside.Lawful (o : Outside) : Prop where
  instant : ∀ text t, o.parseInstant text = some (some t) →
    o.parseInstant (o.formatInstant t) = some (some t) ∧ endsInZ (o.formatInstant t) = true
  payload : ∀ payload, o.decodePayload (o.encodePayload payload) = some payload
  digest : ∀ payload, isDigest (o.digest payload) = true

def strictObject : Json → Option (List (Text × Json))
  | .obj members => if (members.map (·.1)).Nodup then some members else none
  | _ => none

def exactKeys (fields : List (Text × Json)) (keys : List Text) : Bool :=
  fields.length = keys.length && keys.all fun key => (fields.lookup key).isSome

def decodeJSONString : Option Json → Option Text
  | some (.str text) => some text
  | _ => none

def decodeJSONBool : Option Json → Option Bool
  | some (.bool value) => some value
  | _ => none

def decodeJSONSmallInt : Option Json → Option Nat
  | some (.num text) =>
    if text.length = 0 || 9 < text.length then none
    else if text.any (!·.isDigit) then none
    else if 1 < text.length && text.head? = some '0' then none
    else some (Nat.ofDigitChars 10 text 0)
  | _ => none

def formatControlRevision (v : Nat) : Text := Nat.toDigits 10 v

def parseControlRevision (allowZero : Bool) : Option Nat :=
  if text.length = 0 || 20 < text.length then none
  else if text.any (!·.isDigit) then none
  else if 1 < text.length && text.head? = some '0' then none
  else
    let v := Nat.ofDigitChars 10 text 0
    if 2 ^ 64 ≤ v || v = 0 && !allowZero then none else some v

def DesiredState.name : DesiredState → Text
  | .running => "RUNNING".toList
  | .stopped => "STOPPED".toList

def TransitionKind.name : TransitionKind → Text
  | .start => "START".toList
  | .stop => "STOP".toList
  | .restart => "RESTART".toList
  | .cancelAttempt => "CANCEL_ATTEMPT".toList

def TransitionPhase.name : TransitionPhase → Text
  | .pending => "PENDING".toList
  | .active => "ACTIVE".toList
  | .cleanup => "CLEANUP".toList

def desiredStateOf : Option DesiredState := [.running,.stopped].find? (·.name = text)

def transitionKindOf : Option TransitionKind := [.start,.stop,.restart,.cancelAttempt].find? (·.name = text)

def transitionPhaseOf : Option TransitionPhase := [.pending,.active,.cleanup].find? (·.name = text)

def orFail {α : Type} (reason : String) : Option α → Except String α
  | some value => .ok value
  | none => .error reason

def require (condition : Bool) (reason : String) : Except String Unit := if condition then .ok () else .error reason

def failWith (refuted : Option String) : Except String Unit :=
  match refuted with
  | none => .ok ()
  | some reason => .error reason

namespace ControlTransition

def encode (o : Outside) (t : ControlTransition) : Json := .obj [
  ("kind".toList,.str t.kind.name),
  ("desired_revision".toList,.str (formatControlRevision t.desiredRevision)),
  ("sequence".toList,.str (formatControlRevision t.sequence)),
  ("phase".toList,.str t.phase.name),
  ("epoch".toList,.str t.epoch),
  ("generation".toList,.str (formatControlRevision t.generation)),
  ("native_close_pending".toList,.bool t.nativeClosePending),
  ("semantic_cleanup_pending".toList,.bool t.semanticCleanupPending),
  ("attempts_used".toList,.num (Nat.toDigits 10 t.attemptsUsed)),
  ("deadline_utc".toList,.str (t.deadlineUTC.elim [] o.formatInstant))]

def keys : List Text := ["kind","desired_revision","sequence","phase","epoch","generation","native_close_pending",
  "semantic_cleanup_pending","attempts_used","deadline_utc"].map (·.toList)

end ControlTransition

def decodeDeadline (deadline : Text) : Except String (Option Nat) :=
  if deadline = [] then .ok none
  else
    match o.parseInstant deadline with
    | some instant => if endsInZ deadline then .ok instant else .error "deadline_utc must be RFC 3339 UTC"
    | none => .error "deadline_utc must be RFC 3339 UTC"

def decodeControlTransition : Json → Except String (Option ControlTransition)
  | .null => .ok none
  | raw => do
    let fields ← orFail "not a closed JSON object" (strictObject raw)
    require (exactKeys fields ControlTransition.keys) "members are not the closed version-1 set"
    let kind ← orFail "kind invalid" (decodeJSONString (fields.lookup "kind".toList))
    let phase ← orFail "phase invalid" (decodeJSONString (fields.lookup "phase".toList))
    let desiredRevision ← orFail "desired_revision invalid"
      ((decodeJSONString (fields.lookup "desired_revision".toList)).bind (parseControlRevision · false))
    let sequence ← orFail "sequence invalid"
      ((decodeJSONString (fields.lookup "sequence".toList)).bind (parseControlRevision · false))
    let generation ← orFail "generation invalid"
      ((decodeJSONString (fields.lookup "generation".toList)).bind (parseControlRevision · true))
    let epoch ← orFail "epoch invalid" (decodeJSONString (fields.lookup "epoch".toList))
    let nativeClosePending ← orFail "native_close_pending invalid"
      (decodeJSONBool (fields.lookup "native_close_pending".toList))
    let semanticCleanupPending ← orFail "semantic_cleanup_pending invalid"
      (decodeJSONBool (fields.lookup "semantic_cleanup_pending".toList))
    let attemptsUsed ← orFail "attempts_used invalid" (decodeJSONSmallInt (fields.lookup "attempts_used".toList))
    let deadline ← orFail "deadline_utc invalid" (decodeJSONString (fields.lookup "deadline_utc".toList))
    let deadlineUTC ← decodeDeadline o deadline
    let kind ← orFail "kind invalid" (transitionKindOf kind)
    let phase ← orFail "phase invalid" (transitionPhaseOf phase)
    let t : ControlTransition :=
      ⟨kind,desiredRevision,sequence,phase,epoch,generation,nativeClosePending,semanticCleanupPending,attemptsUsed,deadlineUTC⟩
    failWith (validateTransition t)
    return some t

namespace ControlDriverRecord

def encode (o : Outside) (r : ControlDriverRecord) : Json := .obj [
  ("desired_state".toList,.str r.desiredState.name),
  ("desired_revision".toList,.str (formatControlRevision r.desiredRevision)),
  ("lifecycle_sequence".toList,.str (formatControlRevision r.lifecycleSequence)),
  ("current".toList,r.current.elim .null (·.encode o)),
  ("reserved".toList,r.reserved.elim .null (·.encode o))]

def keys : List Text := ["desired_state","desired_revision","lifecycle_sequence","current","reserved"].map (·.toList)

end ControlDriverRecord

def decodeControlDriverRecord (id : Text) (raw : Json) (mark : Nat) : Except String ControlDriverRecord := do
  require (canonicalControlDriverID id) "noncanonical driver id"
  let fields ← orFail "record is not a closed JSON object" (strictObject raw)
  require (exactKeys fields ControlDriverRecord.keys) "record members are not the closed version-1 set"
  let desiredState ← orFail "desired_state invalid"
    ((decodeJSONString (fields.lookup "desired_state".toList)).bind desiredStateOf)
  let text ← orFail "desired_revision invalid" (decodeJSONString (fields.lookup "desired_revision".toList))
  let desiredRevision ← orFail "desired_revision invalid or above the issued-revision mark"
    ((parseControlRevision text false).filter (· ≤ mark))
  let lifecycleSequence ← orFail "lifecycle_sequence invalid"
    ((decodeJSONString (fields.lookup "lifecycle_sequence".toList)).bind (parseControlRevision · true))
  let current ← (decodeControlTransition o ((fields.lookup "current".toList).getD .null)).mapError ("current: " ++ ·)
  let reserved ← (decodeControlTransition o ((fields.lookup "reserved".toList).getD .null)).mapError ("reserved: " ++ ·)
  let r : ControlDriverRecord := ⟨desiredState,desiredRevision,lifecycleSequence,current,reserved⟩
  failWith (validateRecordSlots r)
  return r

def controlRecoveryFormat : Text := "helianthus.runtime-control.d5-recovery/v1".toList

namespace ControlRecovery

def encode (o : Outside) (r : ControlRecovery) : Json := .obj [
  ("format".toList,.str controlRecoveryFormat),
  ("driver_ids".toList,.arr (r.driverIds.map .str)),
  ("max_desired_revision".toList,.str (formatControlRevision r.maxDesiredRevision)),
  ("payload_sha256".toList,.str (o.digest r.payload)),
  ("payload".toList,.str (o.encodePayload r.payload))]

def keys : List Text := ["format","driver_ids","max_desired_revision","payload_sha256","payload"].map (·.toList)

end ControlRecovery

def decodeStrings : Option Json → Option (List Text)
  | some (.arr items) => items.mapM fun
    | .str text => some text
    | .null => some []
    | _ => none
  | _ => none

def validateRecoveryIDs : List Text → Option String
  | [] => none
  | id :: rest =>
    if !canonicalControlDriverID id then some "recovery driver_ids contains a noncanonical id"
    else
      match rest with
      | next :: _ =>
        if canonicalControlDriverID next && next ≤ id then some "recovery driver_ids must be bytewise sorted and unique"
        else validateRecoveryIDs rest
      | [] => none

def decodeControlRecovery (raw : Json) : Except String ControlRecovery := do
  let fields ← orFail "recovery envelope is not the closed version-1 object"
    ((strictObject raw).filter (exactKeys · ControlRecovery.keys))
  let _ ← orFail "recovery format unsupported"
    ((decodeJSONString (fields.lookup "format".toList)).filter (· = controlRecoveryFormat))
  let ids ← orFail "recovery driver_ids invalid" (decodeStrings (fields.lookup "driver_ids".toList))
  let maxRev ← orFail "recovery max_desired_revision invalid"
    ((decodeJSONString (fields.lookup "max_desired_revision".toList)).bind (parseControlRevision · true))
  let digest ← orFail "recovery payload_sha256 invalid"
    ((decodeJSONString (fields.lookup "payload_sha256".toList)).filter (isDigest ·))
  let encoded ← orFail "recovery payload invalid" (decodeJSONString (fields.lookup "payload".toList))
  let payload ← orFail "recovery payload is not canonical base64" (o.decodePayload encoded)
  require (o.digest payload = digest) "recovery payload digest mismatch"
  failWith (validateRecoveryIDs ids)
  return ⟨ids,maxRev,payload⟩

inductive DriverEntry
  | record (r : ControlDriverRecord)
  | failed (raw : Json) (reason : String)

structure LoadedNamespace where
  mark : Nat
  catalog : Nat
  drivers : List (Text × DriverEntry)
  recovery : Option ControlRecovery

inductive ControlNamespace
  | loaded (ns : LoadedNamespace)
  | corrupt (detail : String) (raw : Json)
  | unsupported (version : Nat) (raw : Json)

def DriverEntry.encode : DriverEntry → Json
  | .record r => r.encode o
  | .failed raw _ => raw

def ControlNamespace.encode : ControlNamespace → Json
  | .corrupt _ raw => raw
  | .unsupported _ raw => raw
  | .loaded ns => .obj ([
      ("schema_version".toList,.num ['1']),
      ("issued_revision_mark".toList,.str (formatControlRevision ns.mark)),
      ("catalog_revision".toList,.str (formatControlRevision ns.catalog)),
      ("drivers".toList,.obj (ns.drivers.map fun (id,entry) => (id,entry.encode o)))] ++
      ns.recovery.toList.map fun r => ("recovery".toList,r.encode o))

def decodeDriverEntry (mark : Nat) (id : Text) (raw : Json) : DriverEntry :=
  match decodeControlDriverRecord o id raw mark with
  | .ok r => .record r
  | .error reason => .failed raw reason

def namespaceKeys : List Text :=
  ["schema_version","issued_revision_mark","catalog_revision","drivers","recovery"].map (·.toList)

def decodeRecovery (mark : Nat) : Option Json → Except String (Option ControlRecovery)
  | none => .ok none
  | some raw => do
    let recovery ← decodeControlRecovery o raw
    require (recovery.maxDesiredRevision ≤ mark) "recovery records a desired revision above the issued-revision mark"
    return some recovery

def decodeLoaded (fields : List (Text × Json)) : Except String LoadedNamespace := do
  failWith ((fields.find? (!namespaceKeys.contains ·.1)).map fun (key,_) => "unknown member \"" ++ String.ofList key ++ "\"")
  let markText ← orFail "issued_revision_mark missing or not a string"
    (decodeJSONString (fields.lookup "issued_revision_mark".toList))
  let mark ← orFail "issued_revision_mark is not a canonical revision" (parseControlRevision markText true)
  let catalogText ← orFail "catalog_revision missing or not a string"
    (decodeJSONString (fields.lookup "catalog_revision".toList))
  let catalog ← orFail "catalog_revision is not a canonical nonzero revision" (parseControlRevision catalogText false)
  let rawDrivers ← orFail "drivers missing" (fields.lookup "drivers".toList)
  let drivers ← orFail "drivers is not a closed JSON object" (strictObject rawDrivers)
  require (drivers.length ≤ maxControlDriverRecords) "driver record limit exceeded"
  let entries := (drivers.insertionSort fun a b => a.1 ≤ b.1).map fun (id,raw) => (id,decodeDriverEntry o mark id raw)
  let recovery ← decodeRecovery o mark (fields.lookup "recovery".toList)
  return ⟨mark,catalog,entries,recovery⟩

def decodeControlNamespace (raw : Json) : ControlNamespace :=
  match strictObject raw with
  | none => .corrupt "namespace is not a closed JSON object" raw
  | some fields =>
    match fields.lookup "schema_version".toList with
    | none => .corrupt "schema_version missing" raw
    | some version =>
      match decodeJSONSmallInt (some version) with
      | none => .corrupt "schema_version is not an integer" raw
      | some version =>
        if version ≠ 1 then .unsupported version raw
        else
          match decodeLoaded o fields with
          | .error detail => .corrupt detail raw
          | .ok ns => .loaded ns

end EbusGateway.RuntimeState
