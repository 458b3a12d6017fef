import EbusGateway.RuntimeState.ControlRoundTrip

/-! The runtime-state file. It is decoded twice: by exact names into its namespaces, and into a struct whose
fields are matched as the standard library matches them. -/

namespace EbusGateway.RuntimeState
open Library Json

structure MetaDTO where
  instanceGUID : Text := []
  writtenAt : Text := []
  gatewayBuild : Text := []
  addonVersion : Text := []

structure SelfDTO where
  lastAdmittedSource : Int := 0
  lastAdmittedAt : Text := []
  selectionMethod : Text := []
  companionTarget : Option Int := none

structure IdentityDTO where
  manufacturer : Text := []
  deviceID : Text := []
  sn : Text := []

structure MemberDTO where
  addr : Int := 0
  companionAddr : Option Int := none
  identity : Option IdentityDTO := none
  lastSeenAt : Text := []
  lastSource : Text := []
  confidence : Text := []

structure EbusDTO where
  schemaVersion : Int := 0
  self : Option SelfDTO := none
  knownBusMembers : Slice MemberDTO := {}

structure FileDTO where
  schemaVersion : Int := 0
  metaDTO : MetaDTO := {}
  ebusDTO : Option EbusDTO := none
  runtimeControl : Option Json := none

def setMeta : Setter MetaDTO := setStruct [
  ("instance_guid".toList,setPart (·.instanceGUID) (fun t s => {s with instanceGUID := t}) setString),
  ("written_at".toList,setPart (·.writtenAt) (fun t s => {s with writtenAt := t}) setString),
  ("gateway_build".toList,setPart (·.gatewayBuild) (fun t s => {s with gatewayBuild := t}) setString),
  ("addon_version".toList,setPart (·.addonVersion) (fun t s => {s with addonVersion := t}) setString)]

def setSelf : Setter SelfDTO := setStruct [
  ("last_admitted_source".toList,setPart (·.lastAdmittedSource) (fun t s => {s with lastAdmittedSource := t}) setInt),
  ("last_admitted_at".toList,setPart (·.lastAdmittedAt) (fun t s => {s with lastAdmittedAt := t}) setString),
  ("selection_method".toList,setPart (·.selectionMethod) (fun t s => {s with selectionMethod := t}) setString),
  ("companion_target".toList,setPart (·.companionTarget) (fun t s => {s with companionTarget := t}) (setPointer 0 setInt))]

def setIdentity : Setter IdentityDTO := setStruct [
  ("manufacturer".toList,setPart (·.manufacturer) (fun t s => {s with manufacturer := t}) setString),
  ("device_id".toList,setPart (·.deviceID) (fun t s => {s with deviceID := t}) setString),
  ("sn".toList,setPart (·.sn) (fun t s => {s with sn := t}) setString)]

def setMember : Setter MemberDTO := setStruct [
  ("addr".toList,setPart (·.addr) (fun t s => {s with addr := t}) setInt),
  ("companion_addr".toList,setPart (·.companionAddr) (fun t s => {s with companionAddr := t}) (setPointer 0 setInt)),
  ("identity".toList,setPart (·.identity) (fun t s => {s with identity := t}) (setPointer {} setIdentity)),
  ("last_seen_at".toList,setPart (·.lastSeenAt) (fun t s => {s with lastSeenAt := t}) setString),
  ("last_source".toList,setPart (·.lastSource) (fun t s => {s with lastSource := t}) setString),
  ("confidence".toList,setPart (·.confidence) (fun t s => {s with confidence := t}) setString)]

def setEbus : Setter EbusDTO := setStruct [
  ("schema_version".toList,setPart (·.schemaVersion) (fun t s => {s with schemaVersion := t}) setInt),
  ("self".toList,setPart (·.self) (fun t s => {s with self := t}) (setPointer {} setSelf)),
  ("known_bus_members".toList,setPart (·.knownBusMembers) (fun t s => {s with knownBusMembers := t}) (setSlice {} setMember))]

def setRaw : Setter (Option Json) := fun value _ => some (some value)

def fileFields : List (Text × Setter FileDTO) := [
  ("schema_version".toList,setPart (·.schemaVersion) (fun t s => {s with schemaVersion := t}) setInt),
  ("meta".toList,setPart (·.metaDTO) (fun t s => {s with metaDTO := t}) setMeta),
  ("ebus".toList,setPart (·.ebusDTO) (fun t s => {s with ebusDTO := t}) (setPointer {} setEbus)),
  ("runtime_control".toList,setPart (·.runtimeControl) (fun t s => {s with runtimeControl := t}) setRaw)]

def setFile : Setter FileDTO := setStruct fileFields

structure Meta where
  instanceGUID : Text
  writtenAt : Option Nat
  gatewayBuild : Text
  addonVersion : Text

structure Self where
  lastAdmittedSource : UInt8
  lastAdmittedAt : Option Nat
  selectionMethod : Text
  companionTarget : Option UInt8

structure KnownBusMember where
  addr : UInt8
  companionAddr : Option UInt8
  identity : Option IdentityDTO
  lastSeenAt : Option Nat
  lastSource : Text
  confidence : Text

structure EBusNamespace where
  schemaVersion : Int
  self : Option Self
  knownBusMembers : List KnownBusMember

structure State where
  schemaVersion : Int
  metaState : Meta
  ebus : Option EBusNamespace
  opaqueNamespaces : List (Text × Json) := []
  control : Option ControlNamespace := none

variable (o : Outside)

def parseTime (text : Text) : Option Nat := if text = [] then none else (o.parseInstant text).join

def formatTime (t : Option Nat) : Text := t.elim "1970-01-01T00:00:00Z".toList o.formatInstant

def byteOf (v : Int) : Option UInt8 := if 0 ≤ v && v ≤ 0xff then some (UInt8.ofNat v.toNat) else none

def pointerByte : Option Int → Option (Option UInt8)
  | none => some none
  | some v => (byteOf v).map some

def selfOf (dto : SelfDTO) : Option Self := do
  let source ← byteOf dto.lastAdmittedSource
  let companion ← pointerByte dto.companionTarget
  return ⟨source,parseTime o dto.lastAdmittedAt,dto.selectionMethod,companion⟩

def membersOf (o : Outside) : List MemberDTO → List UInt8 → Option (List KnownBusMember)
  | [],_ => some []
  | m :: rest,seen => do
    let addr ← byteOf m.addr
    if seen.contains addr then none
    else
      let companion ← pointerByte m.companionAddr
      let members ← membersOf o rest (addr :: seen)
      return ⟨addr,companion,m.identity,parseTime o m.lastSeenAt,m.lastSource,m.confidence⟩ :: members

def ebusOf (dto : EbusDTO) : Option EBusNamespace := do
  let self ← match dto.self with
    | none => some none
    | some self => (selfOf o self).map some
  let members ← membersOf o dto.knownBusMembers.items []
  return ⟨dto.schemaVersion,self,members⟩

def metaOf (dto : MetaDTO) : Meta :=
  ⟨dto.instanceGUID,parseTime o dto.writtenAt,dto.gatewayBuild,dto.addonVersion⟩

def dtoToState (dto : FileDTO) : Option State := do
  let ebus ← match dto.ebusDTO with
    | none => some none
    | some ebus => (ebusOf o ebus).map some
  return {schemaVersion := dto.schemaVersion, metaState := metaOf o dto.metaDTO, ebus := ebus}

structure NamespaceVersionWarning where
  observed : Int
  expected : Int

def knownNames : List Text := ["schema_version".toList,"meta".toList,"ebus".toList]

def controlNamespaceName : Text := "runtime_control".toList

def unmarshalState (data : Json) : Option (State × List NamespaceVersionWarning) := do
  let rawNamespaces ← strictObject data
  let dto ← setFile data {}
  if dto.schemaVersion ≠ 1 then none
  else
    let mismatch := dto.ebusDTO.filter (·.schemaVersion ≠ 1)
    let state ← dtoToState o {dto with ebusDTO := if mismatch.isSome then none else dto.ebusDTO}
    return ({state with
      control := (rawNamespaces.lookup controlNamespaceName).map (decodeControlNamespace o)
      opaqueNamespaces := rawNamespaces.filter fun (name,_) => name ≠ controlNamespaceName && !knownNames.contains name},
      mismatch.toList.map fun ebus => ⟨ebus.schemaVersion,1⟩)

def intText (v : Int) : Text := if v < 0 then '-' :: Nat.toDigits 10 v.natAbs else Nat.toDigits 10 v.natAbs

def omitEmpty (name : String) (text : Text) : List (Text × Json) := if text = [] then [] else [(name.toList,.str text)]

def byteJson (v : UInt8) : Json := .num (Nat.toDigits 10 v.toNat)

def pointerJson (v : Option UInt8) : Json := v.elim .null byteJson

def Meta.encode (m : Meta) : Json :=
  .obj ([("instance_guid".toList,.str m.instanceGUID),("written_at".toList,.str (formatTime o m.writtenAt))] ++
    omitEmpty "gateway_build" m.gatewayBuild ++ omitEmpty "addon_version" m.addonVersion)

def Self.encode (s : Self) : Json := .obj [
  ("last_admitted_source".toList,byteJson s.lastAdmittedSource),
  ("last_admitted_at".toList,.str (formatTime o s.lastAdmittedAt)),
  ("selection_method".toList,.str s.selectionMethod),
  ("companion_target".toList,pointerJson s.companionTarget)]

def IdentityDTO.encode (i : IdentityDTO) : Json :=
  .obj (omitEmpty "manufacturer" i.manufacturer ++ omitEmpty "device_id" i.deviceID ++ omitEmpty "sn" i.sn)

def KnownBusMember.encode (m : KnownBusMember) : Json := .obj [
  ("addr".toList,byteJson m.addr),
  ("companion_addr".toList,pointerJson m.companionAddr),
  ("identity".toList,m.identity.elim .null (·.encode)),
  ("last_seen_at".toList,.str (formatTime o m.lastSeenAt)),
  ("last_source".toList,.str m.lastSource),
  ("confidence".toList,.str m.confidence)]

def EBusNamespace.encode (e : EBusNamespace) : Json :=
  .obj ([("schema_version".toList,.num (intText e.schemaVersion))] ++
    e.self.toList.map (fun self => ("self".toList,self.encode o)) ++
    if e.knownBusMembers = [] then [] else [("known_bus_members".toList,.arr (e.knownBusMembers.map (·.encode o)))])

def marshalState (s : State) : List (Text × Json) :=
  let known := [("schema_version".toList,.num (intText s.schemaVersion)),("meta".toList,s.metaState.encode o)] ++
    s.ebus.toList.map (fun ebus => ("ebus".toList,ebus.encode o)) ++
    s.control.toList.map fun control => (controlNamespaceName,control.encode o)
  if s.opaqueNamespaces = [] then known
  else
    (known ++ s.opaqueNamespaces.filter fun (name,_) => name ≠ controlNamespaceName && !knownNames.contains name).insertionSort
      fun a b => a.1 ≤ b.1

end EbusGateway.RuntimeState
