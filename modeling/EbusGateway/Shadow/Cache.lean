import Mathlib.Data.List.Basic

/-! The shadow cache, seen from one watch key: the key's state, its entry and its eligibility snapshot.
Every operation is one critical section of `mu` and one step, also `SnapshotEligibility`, which reads
without the lock. What it reads of other keys (catalog, activations, pinned budget, capacity) is an
argument. Writes that are rejected before anything is read are left out; the zero `time.Time` is `none`. The `uint64` generations are
natural numbers: a run is taken to count none of them up to 2^64.
-/
namespace EbusGateway.Shadow

abbrev Time := Int

/-- Where a value comes from, which the code does not record: how many invalidations had returned when
its fetch began, when it was observed, and whether it was read from the shadow cache. -/
structure Origin where
  began : Option Nat := none
  seen : Time := 0
  written : Bool := false
deriving DecidableEq

structure Reading where
  bytes : List UInt8 := []
  origin : Origin := {}
deriving DecidableEq

inductive WriteSource
  | passive
  | activeConfirmed
deriving DecidableEq

inductive ConfidenceTier
  | high
  | limited
  | none
deriving DecidableEq

inductive EntryState
  | present
  | invalidated
  | tombstone
deriving DecidableEq

inductive RejectionReason
  | staleTimestamp
  | sameTimestampConflict
  | generationAdvanced
  | policyReject
  | capacity
deriving DecidableEq

inductive ActivationSource
  | poller
  | writeConfirm
  | tooling
  | operator
deriving DecidableEq

inductive PinClass
  | none
  | static
  | writeConfirm
deriving DecidableEq

structure Descriptor where
  debug : Bool := false
  effectiveFreshnessTTL : Option Time

/-- What an operation reads besides the key's own records. `writeConfirmRoom` says that fewer entries
than allowed are pinned for write confirmation, `capacity` that `ensureCapacityLocked` finds room. -/
structure Surroundings where
  descriptor : Option Descriptor
  sources : List ActivationSource
  pinnedBudgetDegraded : Bool := false
  writeConfirmRoom : Bool := true
  capacity : Bool := true

structure Entry where
  descriptor : Option Descriptor := none
  source : Option WriteSource := none
  state : EntryState := .tombstone
  value : Reading := {}
  observedAt : Option Time := none
  expiresAt : Option Time := none
  generation : Nat := 0
  lastWriteGeneration : Nat := 0
  invalidationGeneration : Nat := 0
  invalidatedAt : Option Time := none
  pinClass : PinClass := .none

structure Record where
  present : Bool := false
  state : Option EntryState := none
  generation : Nat := 0
  observedAt : Option Time := none
  expiresAt : Option Time := none

structure Snapshot extends Record where
  eligible : Bool := false

structure Cache where
  generation : Nat := 0
  lastWriteGeneration : Nat := 0
  invalidatedAt : Option Time := none
  precedenceHighWater : Option Time := none
  snapshot : Record := {}
  entry : Option Entry := none

structure Write where
  source : WriteSource
  confidence : ConfidenceTier
  value : Reading
  observedAt : Time
  startGeneration : Nat := 0

structure WriteResult where
  accepted : Bool := false
  generation : Nat := 0
  lastWriteGeneration : Nat := 0
  reason : Option RejectionReason := none

structure CompactorConfig where
  tombstoneRetainWindow : Time
  tombstoneHardLifespan : Time

def later (time : Time) : Option Time → Time
  | none => time
  | some other => if other < time then time else other

def desiredPinClass (debug : Bool) (sources : List ActivationSource) : PinClass :=
  if debug then .none
  else if .poller ∈ sources then .static
  else if .writeConfirm ∈ sources then .writeConfirm
  else .none

def shadowSourcePrecedence : Option WriteSource → Nat
  | some .activeConfirmed => 1
  | _ => 0

namespace Surroundings

variable (around : Surroundings)

def shadowingEnabled : Bool := !around.pinnedBudgetDegraded

def desiredPin : PinClass :=
  desiredPinClass (around.descriptor.any (·.debug)) around.sources

def canAdmitWriteConfirmPin : Option Entry → Bool
  | some entry => entry.pinClass == .static || entry.pinClass == .writeConfirm || around.writeConfirmRoom
  | none => around.writeConfirmRoom

end Surroundings

def syncEntryPin (around : Surroundings) (entry : Entry) : Entry :=
  match entry.descriptor with
  | none => entry
  | some descriptor =>
    let desired := desiredPinClass descriptor.debug around.sources
    if desired = .static && around.pinnedBudgetDegraded then {entry with pinClass := .none}
    else if desired = .writeConfirm && !around.canAdmitWriteConfirmPin (some entry) then {entry with pinClass := .none}
    else {entry with pinClass := desired}

namespace Cache

variable (around : Surroundings) (cache : Cache)

def syncPin : Cache :=
  {cache with entry := cache.entry.map (syncEntryPin around)}

def storeSnapshot (entry : Entry) : Cache :=
  {cache with
    entry := some entry
    snapshot := ⟨true,some entry.state,entry.generation,entry.observedAt,entry.expiresAt⟩}

def storeAbsentSnapshot : Cache := {cache with snapshot := {generation := cache.generation}}

def removeEntry : Cache :=
  match cache.entry with
  | none => cache
  | some _ => {cache with entry := none}.storeAbsentSnapshot

def generationQualifiedActive (write : Write) : Bool :=
  write.source = .activeConfirmed && write.startGeneration = cache.generation

def rejectByEntry (entry : Entry) (write : Write) : Option RejectionReason :=
  match entry.observedAt with
  | none => none
  | some observedAt =>
    if write.observedAt < observedAt then some .staleTimestamp
    else if observedAt < write.observedAt then none
    else if entry.value.bytes.isEmpty || entry.value.bytes = write.value.bytes then
      if some write.source = entry.source ||
          shadowSourcePrecedence entry.source ≤ shadowSourcePrecedence (some write.source) then none
      else some .sameTimestampConflict
    else if some write.source = entry.source then some .sameTimestampConflict
    else if shadowSourcePrecedence entry.source < shadowSourcePrecedence (some write.source) then none
    else some .sameTimestampConflict

def rejectByHighWater (write : Write) : Option RejectionReason :=
  match cache.precedenceHighWater with
  | none => none
  | some highWater =>
    if write.observedAt < highWater then some .staleTimestamp
    else if write.observedAt = highWater && !cache.generationQualifiedActive write then some .staleTimestamp
    else none

def rejectUninvalidated (write : Write) : Option RejectionReason :=
  match cache.entry with
  | none => cache.rejectByHighWater write
  | some entry => rejectByEntry entry write

def rejectWriteByPrecedence (write : Write) : Option RejectionReason :=
  match cache.invalidatedAt with
  | none => cache.rejectUninvalidated write
  | some invalidatedAt =>
    if write.observedAt < invalidatedAt then some .staleTimestamp
    else if write.observedAt = invalidatedAt then
      if cache.generationQualifiedActive write then none else some .staleTimestamp
    else cache.rejectUninvalidated write

def barred (write : Write) : Option RejectionReason :=
  match around.descriptor with
  | none => some .policyReject
  | some descriptor =>
    if descriptor.debug || write.confidence = .none then some .policyReject
    else if !around.shadowingEnabled then some .policyReject
    else if around.sources.isEmpty then some .policyReject
    else if around.desiredPin = .static && around.pinnedBudgetDegraded then some .policyReject
    else if around.desiredPin = .writeConfirm && !around.canAdmitWriteConfirmPin cache.entry then some .capacity
    else none

def writeGenerations : Nat × Nat :=
  match cache.entry with
  | none => (cache.generation + 1,cache.generation + 1)
  | some entry =>
    if entry.generation = 0 then (cache.generation + 1,cache.generation + 1) else (cache.generation,entry.generation)

def writtenEntry (write : Write) (ttl : Time) : Entry :=
  {cache.entry.getD {} with
    descriptor := around.descriptor
    source := some write.source
    state := .present
    value := {bytes := write.value.bytes, origin := ⟨write.value.origin.began,write.observedAt,true⟩}
    observedAt := some write.observedAt
    expiresAt := some (write.observedAt + ttl)
    generation := cache.writeGenerations.2
    lastWriteGeneration := cache.lastWriteGeneration + 1
    invalidatedAt := none
    pinClass := around.desiredPin}

def accept (write : Write) (ttl : Time) : Cache :=
  {cache with
    generation := cache.writeGenerations.1
    lastWriteGeneration := cache.lastWriteGeneration + 1
    invalidatedAt := none
    precedenceHighWater := some (later write.observedAt cache.precedenceHighWater)}.storeSnapshot
      (cache.writtenEntry around write ttl)

def usableTTL : Option Time :=
  (around.descriptor.bind (·.effectiveFreshnessTTL)).filter (0 < ·)

def decideWrite (write : Write) : Cache × WriteResult :=
  if write.source = .activeConfirmed && cache.generation ≠ write.startGeneration then
    (cache,{generation := cache.generation, reason := some .generationAdvanced})
  else match cache.rejectWriteByPrecedence write with
    | some reason => (cache,{generation := cache.generation, reason := some reason})
    | none =>
      match usableTTL around with
      | none => (cache,{reason := some .policyReject})
      | some ttl =>
        if cache.entry.isNone && !around.capacity then (cache,{reason := some .capacity})
        else (cache.accept around write ttl,
          {accepted := true, generation := cache.writeGenerations.2, lastWriteGeneration := cache.lastWriteGeneration + 1})

def write (around : Surroundings) (cache : Cache) (write : Write) : Cache × WriteResult :=
  match cache.barred around write with
  | some reason => (cache,{reason := some reason})
  | none => (cache.syncPin around).decideWrite around write

def invalidateAbsent : Cache :=
  {cache with
    generation := cache.generation + 1
    lastWriteGeneration := cache.lastWriteGeneration + 1}.storeAbsentSnapshot

def invalidateEntry (entry : Entry) : Cache :=
  {cache with
    generation := cache.generation + 1
    lastWriteGeneration := cache.lastWriteGeneration + 1}.storeSnapshot
      {entry with
        descriptor := around.descriptor
        generation := cache.generation + 1
        state := if entry.value.bytes.isEmpty then .tombstone else .invalidated
        invalidationGeneration := cache.generation + 1
        invalidatedAt := cache.invalidatedAt
        lastWriteGeneration := cache.lastWriteGeneration + 1
        pinClass :=
          if around.desiredPin = PinClass.writeConfirm && !around.canAdmitWriteConfirmPin (some entry) then .none
          else around.desiredPin}

def noteInvalidation (invalidatedAt : Time) : Cache :=
  {cache with
    invalidatedAt := some (later invalidatedAt cache.invalidatedAt)
    precedenceHighWater := some (later invalidatedAt cache.precedenceHighWater)}

def invalidateNoted : Cache :=
  match cache.entry with
  | some entry => cache.invalidateEntry around entry
  | none =>
    if around.desiredPin = .writeConfirm && !around.canAdmitWriteConfirmPin none then cache.invalidateAbsent
    else if !around.capacity then cache.invalidateAbsent
    else cache.invalidateEntry around {}

def invalidate (invalidatedAt : Time) : Cache :=
  (cache.noteInvalidation invalidatedAt).invalidateNoted around

def elapsed (now : Time) (since : Option Time) (span : Time) : Bool := since.any fun start => span ≤ now - start

def compactEntry (config : CompactorConfig) (now : Time) (cache : Cache) (entry : Entry) : Cache :=
  match entry.state with
  | .present => cache
  | .invalidated =>
    if !elapsed now entry.invalidatedAt config.tombstoneRetainWindow then cache
    else {cache with
      generation := cache.generation + 1
      lastWriteGeneration := cache.lastWriteGeneration + 1}.storeSnapshot
        {entry with
          generation := cache.generation + 1
          state := .tombstone
          value := {}
          lastWriteGeneration := cache.lastWriteGeneration + 1}
  | .tombstone =>
    if !elapsed now entry.invalidatedAt config.tombstoneHardLifespan then cache
    else {cache with generation := cache.generation + 1, entry := none}.storeAbsentSnapshot

def compact (config : CompactorConfig) (around : Surroundings) (now : Time) (cache : Cache) : Cache :=
  match (cache.syncPin around).entry with
  | none => cache
  | some entry => (cache.syncPin around).compactEntry config now entry

def lookupEligible (now : Time) (entry : Entry) (maxAge : Time) : Bool :=
  if !around.shadowingEnabled || entry.state ≠ .present then false
  else
    let limit := match entry.descriptor.bind (·.effectiveFreshnessTTL) with
      | some ttl => if maxAge ≤ 0 || (0 < ttl && ttl < maxAge) then ttl else maxAge
      | none => maxAge
    if limit ≤ 0 then false
    else entry.observedAt.any fun observedAt => 0 ≤ now - observedAt && now - observedAt ≤ limit

def lookup (now : Time) (cache : Cache) (maxAge : Time) : Option (Entry × Bool) :=
  (cache.syncPin around).entry.map fun entry => (entry,lookupEligible around now entry maxAge)

def snapshotEligibility (now : Time) (cache : Cache) : Snapshot :=
  if !cache.snapshot.present then {generation := cache.snapshot.generation}
  else {cache.snapshot with
    eligible := around.shadowingEnabled && cache.snapshot.state = some .present &&
      cache.snapshot.expiresAt.any (now ≤ ·)}

end Cache
end EbusGateway.Shadow
