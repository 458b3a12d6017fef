import EbusGateway.Library.Goroutine
import EbusGateway.Library.Transition
import EbusGateway.Shadow.Cache

/-! The semantic read scheduler for one watch key, with a shadow cache set: concurrent `GetWatch` calls
beside writes, invalidations, evictions and compactions of the key. A critical section of the scheduler's
lock is one action of a call, cut between the two places where it reads the cache's snapshot; `held` says
that a call stands at that cut. Scheduler and cache read one clock, which an event sets. Callbacks of the
breaker, the duration of a fetch and `lastErr`, which nothing reads, are left out.
-/
namespace EbusGateway.Shadow
open Library

def semanticReadShadowMaxPreActivePasses : Nat := 2
def semanticReadShadowMaxRecomputeCycles : Nat := 1

inductive CircuitState
  | closed
  | opened
  | halfOpen
deriving DecidableEq

structure Breaker where
  enabled : Bool := false
  failureBudget : Int := 0
  openCooldown : Time := 0
  halfOpenProbeLimit : Int := 1

structure Config where
  breaker : Breaker := {}
  compactor : CompactorConfig := ⟨0,0⟩

inductive ReadError
  | circuitOpen (retryAfter : Time)
  | supersededInFlight
  | revalidationExhausted
  | fetch
  | cancelled
deriving DecidableEq

structure ReadEntry where
  running : Bool := false
  done : Nat := 0
  lastOKAt : Time := 0
  lastOK : Reading := {}
  lastOKShadowGeneration : Nat := 0
  lastOKHasGeneration : Bool := false
  lastOKFromShadow : Bool := false
  lastOKFromPassive : Bool := false
  breakerState : CircuitState := .closed
  consecutiveFailures : Int := 0
  openedAt : Time := 0
  halfOpenProbesRemaining : Int := 0
  suppressedTotal : Nat := 0

structure Candidate where
  value : Reading
  generation : Nat
  source : Option WriteSource

structure Stats where
  activeFetchAttempted : Bool := false
  activeFetchSucceeded : Bool := false
  servedFromShadow : Bool := false
  servedFromPassiveShadow : Bool := false

/-- A `GetWatch` call. `since` counts the invalidations that had returned when it started and `past`
has the observation times of the writes accepted by then; the code has neither. -/
structure Call where
  maxAge : Time
  passes : Nat := semanticReadShadowMaxPreActivePasses
  recompute : Nat := semanticReadShadowMaxRecomputeCycles
  stats : Stats := {}
  since : Nat := 0
  past : List Time := []

structure Return where
  call : Call
  result : Except ReadError Reading
  moment : Time

inductive Act
  | consult (call : Call)
  | lock (call : Call) (candidate : Option Candidate)
  | serve (call : Call)
  | await (call : Call) (done : Nat)
  | capture (call : Call)
  | fetch (call : Call) (startGeneration : Nat)
  | fetching (call : Call) (startGeneration began : Nat)
  | shadowWrite (call : Call) (startGeneration : Nat) (value : Reading)
  | complete (call : Call) (startGeneration : Nat) (result : Except ReadError Reading) (accepted : Option Nat)

structure Shared where
  cache : Cache := {}
  entry : ReadEntry := {}
  held : Bool := false
  now : Time := 0
  invalidations : List Time := []
  accepted : List Time := []
  returned : List Return := []

inductive Event
  | getWatch (maxAge : Time)
  | write (around : Surroundings) (write : Write)
  | invalidate (around : Surroundings) (invalidatedAt : Option Time)
  | evict
  | compact (around : Surroundings)
  | clock (now : Time)

structure Choice where
  around : Surroundings
  fetched : Option (List UInt8) := none
  cancelled : Bool := false

abbrev Step := Effect Unit Act Shared

namespace ReadEntry

variable (breaker : Breaker) (entry : ReadEntry)

def clearSemanticReadCache : ReadEntry :=
  {entry with
    lastOKAt := 0, lastOK := {}, lastOKShadowGeneration := 0
    lastOKHasGeneration := false, lastOKFromShadow := false, lastOKFromPassive := false}

def transitionBreaker (target : CircuitState) : ReadEntry :=
  if !breaker.enabled || entry.breakerState = target then entry
  else match target with
    | .closed => {entry with
        breakerState := .closed, consecutiveFailures := 0, openedAt := 0
        halfOpenProbesRemaining := breaker.halfOpenProbeLimit}
    | .halfOpen => {entry with breakerState := .halfOpen, halfOpenProbesRemaining := breaker.halfOpenProbeLimit}
    | .opened => {entry with breakerState := .opened, halfOpenProbesRemaining := 0}

def guardBreaker (now : Time) : ReadEntry × Option ReadError :=
  if !breaker.enabled then (entry,none)
  else match entry.breakerState with
    | .opened =>
      if breaker.openCooldown ≤ 0 || breaker.openCooldown ≤ now - entry.openedAt then
        ({entry.transitionBreaker breaker .halfOpen with halfOpenProbesRemaining := breaker.halfOpenProbeLimit},none)
      else ({entry with suppressedTotal := entry.suppressedTotal + 1},
        some (.circuitOpen (max (breaker.openCooldown - (now - entry.openedAt)) 0)))
    | .halfOpen =>
      if 0 < entry.halfOpenProbesRemaining then (entry,none)
      else ({entry.transitionBreaker breaker .opened with openedAt := now, suppressedTotal := entry.suppressedTotal + 1},
        some (.circuitOpen (max breaker.openCooldown 0)))
    | .closed => (entry,none)

def recordFailure (now : Time) : ReadEntry :=
  if !breaker.enabled then entry
  else
    let failed := {entry with consecutiveFailures := entry.consecutiveFailures + 1}
    match failed.breakerState with
    | .halfOpen =>
      if 0 < failed.halfOpenProbesRemaining then failed
      else {failed.transitionBreaker breaker .opened with openedAt := now}
    | .closed =>
      if breaker.failureBudget ≤ failed.consecutiveFailures then {failed.transitionBreaker breaker .opened with openedAt := now}
      else failed
    | .opened => failed

def startFetch : ReadEntry :=
  {entry with
    halfOpenProbesRemaining :=
      if entry.breakerState = .halfOpen then entry.halfOpenProbesRemaining - 1 else entry.halfOpenProbesRemaining
    running := true
    done := entry.done + 1}

def serveCandidate (candidate : Candidate) (generation : Nat) (now : Time) : ReadEntry :=
  {entry with
    lastOKAt := now, lastOK := candidate.value, lastOKShadowGeneration := generation
    lastOKHasGeneration := true, lastOKFromShadow := true
    lastOKFromPassive := candidate.source = some .passive}

def cacheFetched (value : Reading) (generation : Nat) (now : Time) : ReadEntry :=
  {entry with
    running := false, lastOKAt := now, lastOK := value, lastOKShadowGeneration := generation
    lastOKHasGeneration := true, lastOKFromShadow := false, lastOKFromPassive := false
    consecutiveFailures := 0}

def recordSuccess (value : Reading) (generation : Nat) (now : Time) : ReadEntry :=
  (entry.cacheFetched value generation now).transitionBreaker breaker .closed

def recordSuperseded : ReadEntry :=
  {entry.clearSemanticReadCache with
    running := false
    halfOpenProbesRemaining :=
      if breaker.enabled && entry.breakerState = .halfOpen && entry.halfOpenProbesRemaining < breaker.halfOpenProbeLimit
      then entry.halfOpenProbesRemaining + 1 else entry.halfOpenProbesRemaining}

end ReadEntry

def shadowSnapshotEligibleForMaxAge (snapshot : Snapshot) (maxAge now : Time) : Bool :=
  if !snapshot.present || !snapshot.eligible || snapshot.state ≠ some .present then false
  else if maxAge ≤ 0 then false
  else if snapshot.expiresAt.any (· < now) then false
  else snapshot.observedAt.any fun observedAt => 0 ≤ now - observedAt && now - observedAt ≤ maxAge

def consultSemanticReadShadow (around : Surroundings) (now : Time) (cache : Cache) (maxAge : Time) : Option Candidate :=
  match cache.lookup around now maxAge with
  | some (entry,true) =>
    if entry.state = .present then some ⟨entry.value,entry.generation,entry.source⟩ else none
  | _ => none

def revalidateSemanticReadShadowCandidate (snapshot : Snapshot) (candidate : Candidate) (maxAge now : Time) : Bool :=
  snapshot.generation = candidate.generation && shadowSnapshotEligibleForMaxAge snapshot maxAge now

namespace Shared

def snapshot (s : Shared) (around : Surroundings) : Snapshot := s.cache.snapshotEligibility around s.now

def finish (s : Shared) (call : Call) (result : Except ReadError Reading) : Step :=
  {shared := {s with returned := ⟨call,result,s.now⟩ :: s.returned}}

end Shared

variable (cfg : Config) (choice : Choice)

def consult (s : Shared) (call : Call) : Step :=
  if 0 < call.maxAge && 0 < call.passes then
    {shared := {s with cache := s.cache.syncPin choice.around}
     code := [.lock {call with passes := call.passes - 1} (consultSemanticReadShadow choice.around s.now s.cache call.maxAge)]}
  else {shared := s, code := [.lock call none]}

def served (stats : Stats) (fromShadow fromPassive : Bool) : Stats :=
  {stats with servedFromShadow := fromShadow, servedFromPassiveShadow := fromPassive}

def lockCandidate (s : Shared) (call : Call) (candidate : Candidate) : Step :=
  let snapshot := s.snapshot choice.around
  if revalidateSemanticReadShadowCandidate snapshot candidate call.maxAge s.now then
    {s with entry := s.entry.serveCandidate candidate snapshot.generation s.now}.finish
      {call with stats := served call.stats true (candidate.source = some WriteSource.passive)} (.ok candidate.value)
  else if 0 < call.passes then {shared := s, code := [.consult call]}
  else {shared := {s with held := true}, code := [.serve call]}

def lock (s : Shared) (call : Call) (candidate : Option Candidate) : Step :=
  if s.entry.running then {shared := s, code := [.await call s.entry.done]}
  else match candidate with
    | some candidate => lockCandidate choice s call candidate
    | none => {shared := {s with held := true}, code := [.serve call]}

def startFetch (cfg : Config) (s : Shared) (call : Call) : Step :=
  let guarded := s.entry.guardBreaker cfg.breaker s.now
  match guarded.2 with
  | some suppressed => {s with entry := guarded.1, held := false}.finish call (.error suppressed)
  | none => {shared := {s with entry := guarded.1.startFetch, held := false}, code := [.capture call]}

def serve (s : Shared) (call : Call) : Step :=
  if s.entry.lastOK.bytes.isEmpty || call.maxAge ≤ 0 then startFetch cfg s call
  else if s.now - s.entry.lastOKAt < 0 || call.maxAge < s.now - s.entry.lastOKAt then startFetch cfg s call
  else if s.entry.lastOKHasGeneration && ((s.snapshot choice.around).generation ≠ s.entry.lastOKShadowGeneration ||
      s.entry.lastOKFromShadow && !shadowSnapshotEligibleForMaxAge (s.snapshot choice.around) call.maxAge s.now) then
    startFetch cfg {s with entry := s.entry.clearSemanticReadCache} call
  else {s with held := false}.finish
    {call with stats := served call.stats s.entry.lastOKFromShadow s.entry.lastOKFromPassive} (.ok s.entry.lastOK)

def await (s : Shared) (call : Call) (done : Nat) : Option Step :=
  if choice.cancelled then some (s.finish call (.error .cancelled))
  else if s.entry.running && s.entry.done = done then none
  else some {shared := s, code := [.consult call]}

def attempted (call : Call) : Call := {call with stats := {call.stats with activeFetchAttempted := true}}

def fetched (choice : Choice) (s : Shared) (call : Call) (startGeneration began : Nat) : Step :=
  match choice.fetched with
  | none => {shared := s, code := [.complete call startGeneration (.error .fetch) none]}
  | some bytes => {shared := s, code := [.shadowWrite call startGeneration ⟨bytes,⟨some began,s.now,false⟩⟩]}

def activeWrite (startGeneration : Nat) (value : Reading) (now : Time) : Write :=
  {source := .activeConfirmed, confidence := .high, value := value, observedAt := now, startGeneration := startGeneration}

namespace Shared

def write (s : Shared) (around : Surroundings) (write : Write) : Shared :=
  {s with
    cache := (s.cache.write around write).1
    accepted := if (s.cache.write around write).2.accepted then s.accepted ++ [write.observedAt] else s.accepted}

end Shared

def supersededBy (result : WriteResult) : Bool :=
  !result.accepted && (result.reason = some .generationAdvanced || result.reason = some .staleTimestamp ||
    result.reason = some .sameTimestampConflict)

def shadowWrite (s : Shared) (call : Call) (startGeneration : Nat) (value : Reading) : Step :=
  let result := (s.cache.write choice.around (activeWrite startGeneration value s.now)).2
  {shared := s.write choice.around (activeWrite startGeneration value s.now)
   code := [.complete call startGeneration (if supersededBy result then .error .supersededInFlight else .ok value)
     (if result.accepted then some result.generation else none)]}

def superseded (s : Shared) (call : Call) : Step :=
  if 0 < call.recompute then
    {shared := {s with entry := s.entry.recordSuperseded cfg.breaker}
     code := [.consult {call with recompute := call.recompute - 1, passes := semanticReadShadowMaxPreActivePasses}]}
  else {s with entry := s.entry.recordSuperseded cfg.breaker}.finish call (.error .revalidationExhausted)

def complete (s : Shared) (call : Call) (startGeneration : Nat)
    (result : Except ReadError Reading) (accepted : Option Nat) : Step :=
  match result with
  | .error .supersededInFlight => superseded cfg s call
  | .error err =>
    {s with entry := {s.entry with running := false}.recordFailure cfg.breaker s.now}.finish call (.error err)
  | .ok value =>
    if (s.snapshot choice.around).generation ≠ accepted.getD startGeneration then superseded cfg s call
    else {s with entry := s.entry.recordSuccess cfg.breaker value (accepted.getD startGeneration) s.now}.finish
      {call with stats := {call.stats with activeFetchSucceeded := true}} (.ok value)

def perform (act : Act) (s : Shared) : Option Step :=
  match act with
  | .consult call => some (consult choice s call)
  | .lock call candidate => if s.held then none else some (lock choice s call candidate)
  | .serve call => some (serve cfg choice s call)
  | .await call done => await choice s call done
  | .capture call => some {shared := s, code := [.fetch call (s.snapshot choice.around).generation]}
  | .fetch call startGeneration =>
    some {shared := s, code := [.fetching (attempted call) startGeneration s.invalidations.length]}
  | .fetching call startGeneration began => some (fetched choice s call startGeneration began)
  | .shadowWrite call startGeneration value => some (shadowWrite choice s call startGeneration value)
  | .complete call startGeneration result accepted =>
    if s.held then none else some (complete cfg choice s call startGeneration result accepted)

def stamp (s : Shared) (invalidatedAt : Option Time) : Time := invalidatedAt.getD s.now

def launch (event : Event) (s : Shared) : Option (Step × Unit) :=
  match event with
  | .getWatch maxAge =>
    some ({shared := s, code := [.consult {maxAge := maxAge, since := s.invalidations.length, past := s.accepted}]},())
  | .write around write => some ({shared := s.write around {write with value := {bytes := write.value.bytes}}},())
  | .invalidate around invalidatedAt =>
    some ({shared := {s with
      cache := s.cache.invalidate around (stamp s invalidatedAt)
      invalidations := s.invalidations ++ [stamp s invalidatedAt]}},())
  | .evict =>
    if s.cache.entry.all (·.pinClass = .none) then some ({shared := {s with cache := s.cache.removeEntry}},()) else none
  | .compact around => some ({shared := {s with cache := s.cache.compact cfg.compactor around s.now}},())
  | .clock now => some ({shared := {s with now := now}},())

def program : Program Unit Act Shared Event Choice :=
  {sequential := fun _ => false, launch := launch cfg, perform := perform cfg}

abbrev System := Machine Unit Act Shared

abbrev step (cfg : Config) : System → Move Event Choice → Option System := Machine.step (program cfg)

def initially (now : Time) : System := ⟨{now := now},[]⟩

namespace ReadEntry

structure SameValue (old new : ReadEntry) : Prop where
  lastOKAt : new.lastOKAt = old.lastOKAt
  lastOK : new.lastOK = old.lastOK
  generation : new.lastOKShadowGeneration = old.lastOKShadowGeneration
  hasGeneration : new.lastOKHasGeneration = old.lastOKHasGeneration
  fromShadow : new.lastOKFromShadow = old.lastOKFromShadow

theorem SameValue.refl (entry : ReadEntry) : SameValue entry entry := ⟨rfl,rfl,rfl,rfl,rfl⟩

structure Keeps (old new : ReadEntry) : Prop extends SameValue old new where
  running : new.running = old.running

theorem Keeps.refl (entry : ReadEntry) : Keeps entry entry := ⟨.refl entry,rfl⟩

variable (breaker : Breaker) (entry : ReadEntry)

theorem transitionBreaker_keeps (target : CircuitState) : Keeps entry (entry.transitionBreaker breaker target) := by
  unfold transitionBreaker
  split
  · exact Keeps.refl entry
  · split <;> exact ⟨⟨rfl,rfl,rfl,rfl,rfl⟩,rfl⟩

theorem guardBreaker_keeps (now : Time) : Keeps entry (entry.guardBreaker breaker now).1 := by
  unfold guardBreaker
  split
  · exact Keeps.refl entry
  split
  · split
    · exact {transitionBreaker_keeps breaker entry .halfOpen with}
    · exact ⟨⟨rfl,rfl,rfl,rfl,rfl⟩,rfl⟩
  · split
    · exact Keeps.refl entry
    · exact {transitionBreaker_keeps breaker entry .opened with}
  · exact Keeps.refl entry

theorem recordFailure_keeps (now : Time) : Keeps entry (entry.recordFailure breaker now) := by
  have opened := transitionBreaker_keeps breaker {entry with consecutiveFailures := entry.consecutiveFailures + 1} .opened
  unfold recordFailure
  split
  · exact Keeps.refl entry
  simp only
  split
  · split
    · exact ⟨⟨rfl,rfl,rfl,rfl,rfl⟩,rfl⟩
    · exact {opened with}
  · split
    · exact {opened with}
    · exact ⟨⟨rfl,rfl,rfl,rfl,rfl⟩,rfl⟩
  · exact ⟨⟨rfl,rfl,rfl,rfl,rfl⟩,rfl⟩

theorem startFetch_sameValue : SameValue entry entry.startFetch := ⟨rfl,rfl,rfl,rfl,rfl⟩

theorem SameValue.trans {first second third : ReadEntry} (before : SameValue first second)
    (after : SameValue second third) : SameValue first third :=
  ⟨after.lastOKAt.trans before.lastOKAt,after.lastOK.trans before.lastOK,after.generation.trans before.generation,
    after.hasGeneration.trans before.hasGeneration,after.fromShadow.trans before.fromShadow⟩

end ReadEntry
end EbusGateway.Shadow
