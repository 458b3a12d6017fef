import EbusGateway.Library.Mutex
import EbusGateway.Shadow.Scheduler

/-! The semantic read scheduler for one key, whatever surrounds it: calls with and without a watch key,
with a shadow cache or without, whose answers are chosen at every step. A critical section of the lock is
one action and reads the clock once, which does not go back. Statistics are left out.
-/
namespace EbusGateway.Shadow.Reads
open Library

structure Options where
  failureBudget : Int
  openCooldown : Time := 0
  halfOpenProbeLimit : Int := 0

def defaultSemanticReadOpenCooldown : Time := 15000000000
def defaultSemanticReadHalfOpenProbeLimit : Int := 1

def normalizeSemanticReadCircuitBreakerOptions (options : Options) : Breaker :=
  let openCooldown := if options.openCooldown = 0 then defaultSemanticReadOpenCooldown else options.openCooldown
  let halfOpenProbeLimit :=
    if options.halfOpenProbeLimit = 0 then defaultSemanticReadHalfOpenProbeLimit else options.halfOpenProbeLimit
  {enabled := 0 < options.failureBudget
   failureBudget := options.failureBudget
   openCooldown := if openCooldown < 0 then 0 else openCooldown
   halfOpenProbeLimit := if halfOpenProbeLimit < 1 then 1 else halfOpenProbeLimit}

/-- A `getWithWatchKey` call; `watched` says that it has a watch key and that a shadow cache is set.
`fetches` counts the fetches it has run, which the code does not. -/
structure Call where
  maxAge : Time
  watched : Bool
  passes : Nat := semanticReadShadowMaxPreActivePasses
  recompute : Nat := semanticReadShadowMaxRecomputeCycles
  fetches : Nat := 0
deriving DecidableEq

inductive Act
  | consult (call : Call)
  | lock (call : Call) (candidate : Option Candidate)
  | await (call : Call) (done : Nat)
  | fetch (call : Call)
  | fetching (call : Call) (startGeneration : Nat)
  | complete (call : Call) (startGeneration : Nat) (result : Except ReadError Reading) (accepted : Option Nat)

inductive Turn
  | start
  | fetch
  | fail
  | supersede
  | succeed
  | suppress
deriving DecidableEq

structure Mark where
  turn : Turn
  before : ReadEntry
  after : ReadEntry
  now : Time
  opening : Time
  failures : Nat

/-- The clock, the entry and what the code does not keep: when the breaker last opened, how many
fetches failed since the last success or change of the breaker's state, the value and time of the last
fetch while no call has replaced or dropped it, the marks and the returned calls. -/
structure Shared where
  now : Time
  entry : ReadEntry := {}
  opening : Time
  failures : Nat := 0
  landed : Option (Reading × Time) := none
  journal : List Mark := []
  returned : List (Call × Except ReadError Reading) := []

inductive Event
  | getWithWatchKey (maxAge : Time) (watched : Bool)

structure Choice where
  elapsed : Nat := 0
  candidate : Option Candidate := none
  revalidated : Snapshot := {}
  snapshot : Snapshot := {}
  fetched : Except ReadError (List UInt8) := .error .fetch
  written : WriteResult := {}
  cancelled : Bool := false

abbrev Step := Effect Unit Act Shared

namespace Shared

def finish (s : Shared) (call : Call) (result : Except ReadError Reading) : Step :=
  {shared := {s with returned := (call,result) :: s.returned}}

def mark (s : Shared) (turn : Turn) (entry : ReadEntry) : Shared :=
  {s with
    entry := entry
    opening := if entry.breakerState = .opened ∧ s.entry.breakerState ≠ .opened then s.now else s.opening
    failures :=
      if turn = .succeed ∨ entry.breakerState ≠ s.entry.breakerState then 0
      else if turn = .fail then s.failures + 1 else s.failures
    journal := ⟨turn,s.entry,entry,s.now,s.opening,s.failures⟩ :: s.journal}

end Shared

section
variable (breaker : Breaker) (choice : Choice) (s : Shared) (call : Call)

def consult : Step :=
  if call.watched && 0 < call.maxAge && 0 < call.passes then
    {shared := s, code := [.lock {call with passes := call.passes - 1} choice.candidate]}
  else {shared := s, code := [.lock call none]}

def startFetch : Step :=
  let guarded := s.entry.guardBreaker breaker s.now
  match guarded.2 with
  | some suppressed => (s.mark .suppress guarded.1).finish call (.error suppressed)
  | none => {shared := {s.mark .start guarded.1.startFetch with landed := none}, code := [.fetch call]}

def serve : Step :=
  if s.entry.lastOK.bytes.isEmpty || call.maxAge ≤ 0 then startFetch breaker s call
  else if s.now - s.entry.lastOKAt < 0 || call.maxAge < s.now - s.entry.lastOKAt then startFetch breaker s call
  else if call.watched && s.entry.lastOKHasGeneration && (choice.snapshot.generation ≠ s.entry.lastOKShadowGeneration ||
      s.entry.lastOKFromShadow && !shadowSnapshotEligibleForMaxAge choice.snapshot call.maxAge s.now) then
    startFetch breaker {s with entry := s.entry.clearSemanticReadCache, landed := none} call
  else s.finish call (.ok s.entry.lastOK)

def lock (candidate : Option Candidate) : Step :=
  if s.entry.running then {shared := s, code := [.await call s.entry.done]}
  else match candidate with
    | some candidate =>
      if revalidateSemanticReadShadowCandidate choice.revalidated candidate call.maxAge s.now then
        {s with
          entry := s.entry.serveCandidate candidate choice.revalidated.generation s.now
          landed := none}.finish call (.ok candidate.value)
      else if 0 < call.passes then {shared := s, code := [.consult call]}
      else serve breaker choice s call
    | none => serve breaker choice s call

def await (done : Nat) : Option Step :=
  if choice.cancelled then some (s.finish call (.error .cancelled))
  else if s.entry.running && s.entry.done = done then none
  else some {shared := s, code := [.consult call]}

def fetched (startGeneration : Nat) : Act :=
  match choice.fetched with
  | .error err => .complete call startGeneration (.error err) none
  | .ok bytes =>
    if call.watched then
      .complete call startGeneration (if supersededBy choice.written then .error .supersededInFlight else .ok {bytes := bytes})
        (if choice.written.accepted then some choice.written.generation else none)
    else .complete call startGeneration (.ok {bytes := bytes}) none

def superseded : Step :=
  let marked := s.mark .supersede (s.entry.recordSuperseded breaker)
  if 0 < call.recompute then
    {shared := marked
     code := [.consult {call with recompute := call.recompute - 1, passes := semanticReadShadowMaxPreActivePasses}]}
  else marked.finish call (.error .revalidationExhausted)

def recordSuccess (value : Reading) (generation : Nat) : ReadEntry :=
  let entry := s.entry.recordSuccess breaker value generation s.now
  if call.watched then entry else {entry with lastOKHasGeneration := false, lastOKShadowGeneration := 0}

def complete (startGeneration : Nat) (result : Except ReadError Reading) (accepted : Option Nat) : Step :=
  match result with
  | .error .supersededInFlight => superseded breaker s call
  | .error err => (s.mark .fail ({s.entry with running := false}.recordFailure breaker s.now)).finish call (.error err)
  | .ok value =>
    if call.watched && choice.snapshot.generation ≠ accepted.getD startGeneration then superseded breaker s call
    else {s.mark .succeed (recordSuccess breaker s call value (accepted.getD startGeneration)) with
      landed := some (value,s.now)}.finish call (.ok value)

def performNow (act : Act) : Option Step :=
  match act with
  | .consult call => some (consult choice s call)
  | .lock call candidate => some (lock breaker choice s call candidate)
  | .await call done => await choice s call done
  | .fetch call =>
    some {shared := s.mark .fetch s.entry
          code := [.fetching {call with fetches := call.fetches + 1} (if call.watched then choice.snapshot.generation else 0)]}
  | .fetching call startGeneration => some {shared := s, code := [fetched choice call startGeneration]}
  | .complete call startGeneration result accepted => some (complete breaker choice s call startGeneration result accepted)

def perform (act : Act) (s : Shared) : Option Step := performNow breaker choice {s with now := s.now + choice.elapsed} act

def launch (event : Event) (s : Shared) : Option (Step × Unit) :=
  match event with
  | .getWithWatchKey maxAge watched => some ({shared := s, code := [.consult {maxAge := maxAge, watched := watched}]},())

end

def program (breaker : Breaker) : Program Unit Act Shared Event Choice :=
  {sequential := fun _ => false, launch := launch, perform := perform breaker}

abbrev System := Machine Unit Act Shared

abbrev step (breaker : Breaker) : System → Move Event Choice → Option System := Machine.step (program breaker)

def initially (now : Time) : System := ⟨{now := now, opening := now},[]⟩

namespace Act

def call : Act → Call
  | .consult call | .lock call _ | .await call _ | .fetch call | .fetching call _ | .complete call _ _ _ => call

def flies : Act → Bool
  | .fetch _ | .fetching _ _ | .complete _ _ _ _ => true
  | _ => false

end Act

inductive Performs (breaker : Breaker) (s : Shared) : Act → Step → Prop
  | go (act next : Act) (grounded : act.flies = false) (still : next.flies = false)
      (credit : next.call.fetches = act.call.fetches ∧ next.call.recompute = act.call.recompute) :
      Performs breaker s act {shared := s, code := [next]}
  | finish (act : Act) (result : Except ReadError Reading) (grounded : act.flies = false) :
      Performs breaker s act (s.finish act.call result)
  | serve (act : Act) (candidate : Candidate) (generation : Nat) (grounded : act.flies = false) :
      Performs breaker s act
        ({s with entry := s.entry.serveCandidate candidate generation s.now, landed := none}.finish act.call (.ok candidate.value))
  | start (act : Act) (before : Shared) (grounded : act.flies = false) (idle : s.entry.running = false)
      (dropped : before = s ∨ before = {s with entry := s.entry.clearSemanticReadCache, landed := none}) :
      Performs breaker s act (startFetch breaker before act.call)
  | fetch (call : Call) (startGeneration : Nat) :
      Performs breaker s (.fetch call)
        {shared := s.mark .fetch s.entry, code := [.fetching {call with fetches := call.fetches + 1} startGeneration]}
  | fetched (call : Call) (startGeneration : Nat) (result : Except ReadError Reading) (accepted : Option Nat) :
      Performs breaker s (.fetching call startGeneration) {shared := s, code := [.complete call startGeneration result accepted]}
  | fail (call : Call) (startGeneration : Nat) (result : Except ReadError Reading) (accepted : Option Nat) (err : ReadError) :
      Performs breaker s (.complete call startGeneration result accepted)
        ((s.mark .fail ({s.entry with running := false}.recordFailure breaker s.now)).finish call (.error err))
  | supersede (call : Call) (startGeneration : Nat) (result : Except ReadError Reading) (accepted : Option Nat) :
      Performs breaker s (.complete call startGeneration result accepted) (superseded breaker s call)
  | succeed (call : Call) (startGeneration generation : Nat) (value : Reading) (accepted : Option Nat) :
      Performs breaker s (.complete call startGeneration (.ok value) accepted)
        ({s.mark .succeed (recordSuccess breaker s call value generation) with landed := some (value,s.now)}.finish call (.ok value))

section
variable {breaker : Breaker} {choice : Choice} {s : Shared} {effect : Step}

theorem serve_performs (act : Act) (grounded : act.flies = false) (idle : s.entry.running = false) :
    Performs breaker s act (serve breaker choice s act.call) := by
  unfold serve
  split
  · exact .start act s grounded idle (.inl rfl)
  split
  · exact .start act s grounded idle (.inl rfl)
  split
  · exact .start act _ grounded idle (.inr rfl)
  · exact .finish act _ grounded

theorem lock_performs (call : Call) (candidate : Option Candidate) :
    Performs breaker s (.lock call candidate) (lock breaker choice s call candidate) := by
  unfold lock
  split
  · exact .go _ _ rfl rfl ⟨rfl,rfl⟩
  rename_i idle
  have served : Performs breaker s (.lock call candidate) (serve breaker choice s call) :=
    serve_performs (.lock call candidate) rfl (Bool.eq_false_iff.mpr idle)
  cases candidate with
  | none => exact served
  | some candidate =>
    dsimp only
    split
    · exact .serve (.lock call (some candidate)) candidate _ rfl
    split
    · exact .go _ _ rfl rfl ⟨rfl,rfl⟩
    · exact served

theorem complete_performs (call : Call) (startGeneration : Nat) (result : Except ReadError Reading) (accepted : Option Nat) :
    Performs breaker s (.complete call startGeneration result accepted)
    (complete breaker choice s call startGeneration result accepted) := by
  unfold complete
  split
  · exact .supersede ..
  · exact .fail ..
  split
  · exact .supersede ..
  · exact .succeed ..

theorem perform_performs {act : Act} (found : perform breaker choice act s = some effect) :
    Performs breaker {s with now := s.now + choice.elapsed} act effect := by
  cases act with
  | consult call =>
    cases found
    unfold consult
    split <;> exact .go _ _ rfl rfl ⟨rfl,rfl⟩
  | lock call candidate =>
    cases found
    exact lock_performs call candidate
  | await call done =>
    simp only [perform,performNow,await] at found
    split at found
    · cases found
      exact .finish (.await call done) _ rfl
    split at found
    · cases found
    · cases found
      exact .go _ _ rfl rfl ⟨rfl,rfl⟩
  | fetch call =>
    cases found
    exact .fetch ..
  | fetching call startGeneration =>
    cases found
    unfold fetched
    split
    · exact .fetched ..
    · split <;> exact .fetched ..
  | complete call startGeneration result accepted =>
    cases found
    exact complete_performs call startGeneration result accepted

/-- The call fails with the guarded entry, or its fetch is running. -/
theorem startFetch_cases (breaker : Breaker) (s : Shared) (call : Call) :
    (∃ err, startFetch breaker s call = (s.mark .suppress (s.entry.guardBreaker breaker s.now).1).finish call (.error err)) ∨
    startFetch breaker s call =
      {shared := {s.mark .start (s.entry.guardBreaker breaker s.now).1.startFetch with landed := none}, code := [.fetch call]} := by
  unfold startFetch
  dsimp only
  split
  · exact .inl ⟨_,rfl⟩
  · exact .inr rfl

theorem recordSuccess_running (call : Call) (value : Reading) (gen : Nat) :
    (recordSuccess breaker s call value gen).running = false := by
  have closed := (ReadEntry.transitionBreaker_keeps breaker (s.entry.cacheFetched value gen s.now) .closed).running
  unfold recordSuccess
  cases call.watched <;> exact closed

/-- A fetch is running exactly while some call stands between its start and its completion. -/
theorem Performs.flight {act : Act} {others : List Act} (performs : Performs breaker s act effect)
    (flight : Library.Guards Act.flies s.entry.running (act :: others)) :
    Library.Guards Act.flies effect.shared.entry.running (effect.acts ++ others) := by
  have flying : act.flies = true → s.entry.running = true := fun flies => (flight.alone flies).1
  cases performs with
  | go _ next grounded still => exact flight.replace [next] (by simp [grounded,still])
  | finish _ _ grounded | serve _ _ _ grounded => exact flight.replace [] (by simp [grounded]; rfl)
  | start _ before grounded idle dropped =>
    have same : before.entry.running = false := by rcases dropped with rfl | rfl <;> exact idle
    obtain ⟨_,suppressed⟩ | started := startFetch_cases breaker before act.call
    · rw [suppressed]
      have kept := (before.entry.guardBreaker_keeps breaker before.now).running.trans same
      exact flight.replace [] (by simp [grounded,idle,Shared.finish,Shared.mark,kept])
    · rw [started]
      exact flight.replace [_] (by simp [grounded,idle]; rfl)
  | fetch | fetched => exact flight.replace [_] rfl
  | fail =>
    have landed := (ReadEntry.recordFailure_keeps breaker {s.entry with running := false} s.now).running
    exact flight.replace [] (by simp [flying rfl,Shared.finish,Shared.mark,landed]; rfl)
  | supersede call =>
    unfold superseded
    split
    · exact flight.replace [_] (by simp [flying rfl]; rfl)
    · exact flight.replace [] (by simp [flying rfl]; rfl)
  | succeed call _ gen value =>
    exact flight.replace [] (by simp [flying rfl,Shared.finish,Shared.mark,recordSuccess_running]; rfl)

end
end EbusGateway.Shadow.Reads
