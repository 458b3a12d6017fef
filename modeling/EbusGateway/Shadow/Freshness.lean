import EbusGateway.Shadow.Invalidation

/-! How old a value is that a call gets without a fetch of its own, and whether a later observation was
already known. The scheduler's own value is current as long as nothing is written behind its back.
-/
namespace EbusGateway.Shadow
open Library List

namespace Act

def call : Act → Call
  | .consult call | .lock call _ | .serve call | .await call _ | .capture call | .fetch call _ | .fetching call _ _
  | .shadowWrite call _ _ | .complete call _ _ _ => call

def inFlight : Act → Bool
  | .capture _ | .fetch _ _ | .fetching _ _ _ | .shadowWrite _ _ _ | .complete _ _ _ _ => true
  | .consult _ | .lock _ _ | .serve _ | .await _ _ => false

def serving : Act → Bool
  | .serve _ => true
  | _ => false

def unrecorded : Act → Bool
  | .shadowWrite _ _ _ | .complete _ _ _ _ => true
  | _ => false

def holdsCandidate : Act → Bool
  | .lock _ (some _) => true
  | _ => false

def wrote : Act → Bool
  | .complete _ _ _ (some _) => true
  | _ => false

end Act

def CallsAndWrites (system : System) : Move Event Choice → Prop
  | .start (.clock now) => system.shared.now ≤ now
  | .start (.invalidate _ _) | .start .evict | .start (.compact _) => False
  | .start (.getWatch _) | .start (.write _ _) | .run _ _ => True

instance (system : System) : DecidablePred (CallsAndWrites system)
  | .start (.clock now) => inferInstanceAs (Decidable (system.shared.now ≤ now))
  | .start (.invalidate _ _) | .start .evict | .start (.compact _) => .isFalse not_false
  | .start (.getWatch _) | .start (.write _ _) | .run _ _ => .isTrue trivial

/-- A write by others is accepted only while the scheduler has no value of its own or is about to record a fetched
one, and is not stamped ahead of the clock; no write comes while a call holds a candidate, and the clock stands still
between the return of a fetch and its record. -/
def undisturbed (system : System) : Move Event Choice → Bool
  | .start (.write around write) => system.acts.all (!·.holdsCandidate) && write.observedAt ≤ system.shared.now &&
    (system.shared.entry.lastOK.bytes.isEmpty || system.acts.any (·.wrote) ||
      !(system.shared.cache.write around {write with value := {bytes := write.value.bytes}}).2.accepted)
  | .start (.clock _) => system.acts.all (!·.unrecorded)
  | .run index choice =>
    match system.performs (.run index choice : Move Event Choice) with
    | some (.shadowWrite _ _ _) => system.acts.all (!·.holdsCandidate)
    | _ => true
  | _ => true

def Undisturbed (system : System) (move : Move Event Choice) : Prop := undisturbed system move = true

instance (system : System) (move : Move Event Choice) : Decidable (Undisturbed system move) :=
  inferInstanceAs (Decidable (undisturbed system move = true))

structure Cache.Dated (cache : Cache) (accepted : List Time) (now : Time) : Prop where
  unmarked : cache.invalidatedAt = none
  absent : cache.entry = none → accepted = [] ∧ cache.snapshot.present = false
  observed : ∀ entry ∈ cache.entry, entry.observedAt = some entry.value.origin.seen ∧
    cache.snapshot.observedAt = some entry.value.origin.seen
  latest : ∀ entry ∈ cache.entry, ∀ time ∈ accepted, time ≤ entry.value.origin.seen
  past : ∀ entry ∈ cache.entry, entry.value.origin.seen ≤ now

structure Current (s : Shared) : Prop where
  latest : ∀ time ∈ s.accepted, time ≤ s.entry.lastOK.origin.seen
  shadow : s.entry.lastOKFromShadow = true → s.entry.lastOKHasGeneration = true ∧
    ∃ entry ∈ s.cache.entry, entry.value.origin.seen = s.entry.lastOK.origin.seen
  fetched : s.entry.lastOKFromShadow = false → s.entry.lastOKAt = s.entry.lastOK.origin.seen

def Act.Dated (s : Shared) (act : Act) : Prop :=
  (∀ time ∈ act.call.past, time ∈ s.accepted) ∧ match act with
    | .lock _ candidate => ∀ found ∈ candidate, ∃ entry ∈ s.cache.entry, entry.value.origin.seen = found.value.origin.seen
    | .shadowWrite _ _ value => value.origin.seen = s.now
    | .complete _ _ result accepted =>
      (∀ value, result = .ok value → value.origin.seen = s.now) ∧ (accepted.isSome = true → ∃ value, result = .ok value)
    | _ => True

def Return.Fresh (answer : Return) : Prop :=
  ∀ value, answer.result = .ok value → answer.call.stats.activeFetchSucceeded = false →
    answer.moment - value.origin.seen ≤ answer.call.maxAge ∧ ∀ time ∈ answer.call.past, time ≤ value.origin.seen

structure Fresh (s : Shared) (acts : List Act) : Prop where
  cache : s.cache.Dated s.accepted s.now
  flight : acts.countP Act.inFlight = s.entry.running.toNat
  holding : acts.countP Act.serving = s.held.toNat
  idle : s.held = true → s.entry.running = false
  cached : s.entry.lastOK.bytes ≠ [] → Current s ∨ ∃ act ∈ acts, act.wrote = true
  calls : ∀ act ∈ acts, act.Dated s
  returned : ∀ answer ∈ s.returned, answer.Fresh

namespace Cache.Dated
variable {cache : Cache} {taken : List Time} {now : Time} {around : Surroundings} {write : Write}
variable (dated : cache.Dated taken now)
include dated

theorem syncPin : (cache.syncPin around).Dated taken now := by
  have entries {property : Entry → Prop} (holds : ∀ entry ∈ cache.entry, ∀ pin, property {entry with pinClass := pin}) :
      ∀ entry ∈ (cache.syncPin around).entry, property entry := by
    intro entry found
    obtain ⟨old,known,pin,rfl⟩ := syncPin_entry found
    exact holds old known pin
  refine ⟨dated.unmarked,fun missing => dated.absent (Option.map_eq_none_iff.mp missing),?_,?_,?_⟩
  · exact entries fun old known _ => dated.observed old known
  · exact entries fun old known _ => dated.latest old known
  · exact entries fun old known _ => dated.past old known

theorem precedes (passed : cache.rejectWriteByPrecedence write = none) : ∀ time ∈ taken, time ≤ write.observedAt := by
  intro time mem
  simp only [rejectWriteByPrecedence,dated.unmarked,rejectUninvalidated] at passed
  split at passed
  · rename_i missing
    rw [(dated.absent missing).1] at mem
    cases mem
  rename_i entry found
  simp only [rejectByEntry,(dated.observed entry found).1] at passed
  split at passed
  · cases passed
  · exact Int.le_trans (dated.latest entry found time mem) (Int.not_lt.mp ‹_›)

theorem accept {ttl : Time} (passed : cache.rejectWriteByPrecedence write = none)
    (stamped : write.observedAt ≤ now) : (cache.accept around write ttl).Dated (taken ++ [write.observedAt]) now := by
  refine ⟨rfl,nofun,?_,?_,?_⟩
  · rintro entry ⟨⟩
    exact ⟨rfl,rfl⟩
  · rintro entry ⟨⟩ time mem
    rcases mem_append.mp mem with old | new
    · exact dated.precedes passed time old
    · exact Int.le_of_eq (mem_singleton.mp new)
  · rintro entry ⟨⟩
    exact stamped

theorem bounded : ∀ time ∈ taken, time ≤ now := by
  intro time mem
  cases found : cache.entry with
  | none =>
    rw [(dated.absent found).1] at mem
    cases mem
  | some entry => exact Int.le_trans (dated.latest entry found time mem) (dated.past entry found)

theorem mono {next : Time} (later : now ≤ next) : cache.Dated taken next :=
  {dated with past := fun entry found => Int.le_trans (dated.past entry found) later}

end Cache.Dated

variable {s : Shared} {around : Surroundings} {cfg : Config} {select : Act → Bool} {effect : Step}

theorem Shared.write_dated {write : Write} (dated : s.cache.Dated s.accepted s.now)
    (stamped : write.observedAt ≤ s.now) : (s.write around write).cache.Dated (s.write around write).accepted s.now := by
  unfold Shared.write
  obtain ⟨rejected,same | same⟩ | ⟨taken,_,passed,_,ttl,same⟩ := Cache.write_cases around s.cache write
  · rw [same,rejected]
    exact dated
  · rw [same,rejected]
    exact dated.syncPin
  · rw [same,taken]
    exact dated.syncPin.accept passed stamped

theorem Shared.write_rejected {write : Write} (rejected : (s.cache.write around write).2.accepted = false) :
    (s.write around write).accepted = s.accepted ∧ ∀ entry ∈ s.cache.entry,
      ∃ same ∈ (s.write around write).cache.entry, same.value = entry.value := by
  unfold Shared.write
  rw [rejected]
  refine ⟨rfl,fun entry found => ?_⟩
  obtain ⟨_,same | same⟩ | ⟨taken,_⟩ := Cache.write_cases around s.cache write
  · rw [same]
    exact ⟨entry,found,rfl⟩
  · rw [same]
    obtain ⟨pin,pinned⟩ := syncEntryPin_eq around entry
    exact ⟨_,Option.map_eq_some_iff.mpr ⟨entry,found,rfl⟩,by rw [pinned]⟩
  · cases rejected.symm.trans taken

theorem Current.rejected {write : Write} (current : Current s)
    (rejected : (s.cache.write around write).2.accepted = false) : Current (s.write around write) := by
  obtain ⟨same,entries⟩ := Shared.write_rejected rejected
  refine ⟨same ▸ current.latest,fun shadow => ?_,current.fetched⟩
  obtain ⟨generated,entry,there,seen⟩ := current.shadow shadow
  obtain ⟨copy,found,equal⟩ := entries entry there
  exact ⟨generated,copy,found,by rw [equal]; exact seen⟩

theorem Current.keep (current : Current s) {entry : ReadEntry} (same : s.entry.SameValue entry) (held : Bool)
    (returned : List Return) : Current {s with entry := entry, held := held, returned := returned} := by
  refine ⟨?_,?_,?_⟩
  · rw [same.lastOK]
    exact current.latest
  · rw [same.fromShadow,same.lastOK,same.hasGeneration]
    exact current.shadow
  · rw [same.fromShadow,same.lastOKAt,same.lastOK]
    exact current.fetched

theorem countP_swap {act : Act} {others code : List Act} {old new : Nat}
    (counted : (act :: others).countP select = old) (balance : code.countP select + old = new + (select act).toNat) :
    (code ++ others).countP select = new := by
  rw [countP_cons] at counted
  rw [countP_append]
  cases selected : select act <;> simp [selected] at counted balance <;> omega

theorem eligible_entry {maxAge : Time} (dated : s.cache.Dated s.accepted s.now)
    (eligible : shadowSnapshotEligibleForMaxAge (s.snapshot around) maxAge s.now = true) :
    ∀ entry ∈ s.cache.entry, s.now - entry.value.origin.seen ≤ maxAge := by
  intro entry found
  have same : (s.snapshot around).present = true → (s.snapshot around).observedAt = some entry.value.origin.seen := by
    unfold Shared.snapshot Cache.snapshotEligibility
    split
    · intro present
      cases present
    · intro _
      exact (dated.observed entry found).2
  unfold shadowSnapshotEligibleForMaxAge at eligible
  split at eligible
  · cases eligible
  rename_i visible
  have present : (s.snapshot around).present = true := by
    by_contra absent
    exact visible (by simp [absent])
  split at eligible
  · cases eligible
  split at eligible
  · cases eligible
  · rw [same present,Option.any_some] at eligible
    exact of_decide_eq_true (Bool.and_eq_true_iff.mp eligible).2

abbrev Fresh.After (effect : Step) (others : List Act) : Prop := Fresh effect.shared (effect.acts ++ others)

namespace Fresh
variable {s : Shared} {act : Act} {others code : List Act} {call : Call} {choice : Choice} {cfg : Config}

theorem current (fresh : Fresh s others) (idle : s.entry.running = false) (filled : s.entry.lastOK.bytes ≠ []) : Current s := by
  refine (fresh.cached filled).resolve_right ?_
  rintro ⟨act,mem,wrote⟩
  have none := fresh.flight
  rw [idle,Bool.toNat_false,countP_eq_zero] at none
  cases act with
  | complete => exact none _ mem rfl
  | _ => cases wrote

section
variable (fresh : Fresh s (act :: others))
include fresh

theorem turn (entry : ReadEntry) (held : Bool) (returned : List Return)
    (flight : code.countP Act.inFlight + s.entry.running.toNat = entry.running.toNat + act.inFlight.toNat)
    (holding : code.countP Act.serving + s.held.toNat = held.toNat + act.serving.toNat) (idle : held = true → entry.running = false)
    (cached : entry.lastOK.bytes ≠ [] → Current {s with entry := entry, held := held, returned := returned} ∨
      ∃ act ∈ code ++ others, act.wrote = true)
    (calls : ∀ act ∈ code, act.Dated s) (answers : ∀ answer ∈ returned, answer ∈ s.returned ∨ answer.Fresh) :
    Fresh {s with entry := entry, held := held, returned := returned} (code ++ others) := by
  refine ⟨fresh.cache,countP_swap fresh.flight flight,countP_swap fresh.holding holding,idle,cached,?_,?_⟩
  · exact forall_mem_append.mpr ⟨calls,fun act other => fresh.calls act (.tail _ other)⟩
  · intro answer mem
    rcases answers answer mem with old | new
    · exact fresh.returned answer old
    · exact new

theorem kept (plain : act.wrote = false) {entry : ReadEntry} (same : s.entry.SameValue entry)
    (held : Bool) (returned : List Return) : entry.lastOK.bytes ≠ [] →
      Current {s with entry := entry, held := held, returned := returned} ∨ ∃ act ∈ code ++ others, act.wrote = true := by
  rw [same.lastOK]
  intro filled
  rcases fresh.cached filled with current | ⟨due,mem,wrote⟩
  · exact .inl (current.keep same held returned)
  · rcases mem_cons.mp mem with rfl | other
    · cases plain.symm.trans wrote
    · exact .inr ⟨due,mem_append_right _ other,wrote⟩

theorem move {next : Act} (plain : act.wrote = false)
    (flight : next.inFlight = act.inFlight) (holding : next.serving = act.serving)
    (dated : next.Dated s) : Fresh s ([next] ++ others) := by
  refine fresh.turn s.entry s.held s.returned ?_ ?_ fresh.idle (fresh.kept plain (.refl _) s.held s.returned) ?_ fun _ => .inl
  · rw [← flight,countP_singleton]
    cases next.inFlight <;> simp [Nat.add_comm]
  · rw [← holding,countP_singleton]
    cases next.serving <;> simp [Nat.add_comm]
  · exact forall_mem_singleton.mpr dated

end

theorem consult (fresh : Fresh s (.consult call :: others)) : After (Shadow.consult choice s call) others := by
  have past := (fresh.calls _ mem_cons_self).1
  unfold Shadow.consult
  split
  · have synced : Fresh {s with cache := s.cache.syncPin choice.around} (.consult call :: others) := by
      have entries {value : Time} (known : ∃ entry ∈ s.cache.entry, entry.value.origin.seen = value) :
          ∃ entry ∈ (s.cache.syncPin choice.around).entry, entry.value.origin.seen = value := by
        obtain ⟨entry,found,same⟩ := known
        obtain ⟨pin,pinned⟩ := syncEntryPin_eq choice.around entry
        exact ⟨_,Option.map_eq_some_iff.mpr ⟨entry,found,rfl⟩,by rw [pinned]; exact same⟩
      refine {fresh with cache := fresh.cache.syncPin, cached := ?_, calls := ?_}
      · intro filled
        rcases fresh.cached filled with current | due
        · exact .inl ⟨current.latest,fun shadow => ⟨(current.shadow shadow).1,entries (current.shadow shadow).2⟩,
            current.fetched⟩
        · exact .inr due
      · intro act mem
        have dated := fresh.calls act mem
        cases act with
        | lock _ candidate => exact ⟨dated.1,fun found known => entries (dated.2 found known)⟩
        | _ => exact dated
    refine synced.move rfl rfl rfl ⟨past,fun candidate found => ?_⟩
    obtain ⟨entry,there,_,rfl⟩ := consult_found found
    obtain ⟨pin,pinned⟩ := syncEntryPin_eq choice.around entry
    exact ⟨_,Option.map_eq_some_iff.mpr ⟨entry,there,rfl⟩,by rw [pinned]⟩
  · exact fresh.move rfl rfl rfl ⟨past,nofun⟩

variable {result : Except ReadError Reading} {startGeneration : Nat} {acts : List Act}

theorem answer (fresh : Fresh s (act :: others)) (entry : ReadEntry) (held : Bool)
    (flight : s.entry.running.toNat = entry.running.toNat + act.inFlight.toNat)
    (holding : s.held.toNat = held.toNat + act.serving.toNat) (idle : held = true → entry.running = false)
    (cached : entry.lastOK.bytes ≠ [] → Current {s with entry := entry, held := held} ∨ ∃ act ∈ others, act.wrote = true)
    (answered : (⟨call,result,s.now⟩ : Return).Fresh) : Fresh
      ({s with entry := entry, held := held}.finish call result).shared others := by
  refine @turn s act others [] fresh entry held _ ?_ ?_ idle ?_ (fun _ mem => (not_mem_nil mem).elim) ?_
  · rw [countP_nil,Nat.zero_add]
    exact flight
  · rw [countP_nil,Nat.zero_add]
    exact holding
  · intro filled
    rcases cached filled with current | due
    · exact .inl (current.keep (.refl _) held _)
    · exact .inr due
  · exact forall_mem_cons.mpr ⟨.inr answered,fun _ => .inl⟩

theorem failed (call : Call) (err : ReadError) (moment : Time) : (⟨call,.error err,moment⟩ : Return).Fresh := nofun

theorem lock {candidate : Option Candidate} (fresh : Fresh s (.lock call candidate :: others)) (free : s.held = false) :
    After (Shadow.lock choice s call candidate) others := by
  obtain ⟨past,candidates⟩ := fresh.calls _ mem_cons_self
  unfold Shadow.lock
  split
  · exact fresh.move rfl rfl rfl ⟨past,trivial⟩
  rename_i idle
  have waiting : Fresh {s with held := true} ([.serve call] ++ others) := by
    refine fresh.turn s.entry true s.returned ?_ ?_ (fun _ => (Bool.not_eq_true _).mp idle)
      (fresh.kept rfl (.refl _) true s.returned) ?_ fun _ => .inl
    · exact Nat.add_comm _ _
    · rw [free]
      rfl
    · exact forall_mem_singleton.mpr ⟨past,trivial⟩
  split
  · rename_i candidate
    simp only [lockCandidate]
    split
    · rename_i revalidated
      obtain ⟨entry,there,same⟩ := candidates candidate rfl
      have fits := eligible_entry fresh.cache (Bool.and_eq_true_iff.mp revalidated).2 entry there
      refine fresh.answer _ s.held rfl rfl ?_ ?_ ?_
      · intro held
        cases free.symm.trans held
      · intro _
        refine .inl ⟨?_,fun _ => ⟨rfl,entry,there,same⟩,fun shadow => by cases shadow⟩
        intro time mem
        exact Int.le_trans (fresh.cache.latest entry there time mem) (Int.le_of_eq same)
      · rintro value ⟨⟩ _
        rw [← same]
        exact ⟨fits,fun time mem => fresh.cache.latest entry there time (past time mem)⟩
    · split
      · exact fresh.move rfl rfl rfl ⟨past,trivial⟩
      · exact waiting
  · exact waiting

section
variable (fresh : Fresh s (.serve call :: others))
include fresh

theorem cut : s.held = true ∧ s.entry.running = false := by
  have held : s.held = true := by
    by_contra free
    have counted := fresh.holding
    rw [(Bool.not_eq_true _).mp free,Bool.toNat_false,countP_eq_zero] at counted
    exact counted _ mem_cons_self rfl
  exact ⟨held,fresh.idle held⟩

theorem startFetch : After (Shadow.startFetch cfg s call) others := by
  obtain ⟨held,idle⟩ := fresh.cut
  have past := (fresh.calls _ mem_cons_self).1
  have keeps := s.entry.guardBreaker_keeps cfg.breaker s.now
  simp only [Shadow.startFetch]
  split
  · refine fresh.answer _ false ?_ ?_ (fun free => by cases free) ?_ (failed _ _ _)
    · rw [keeps.running]
      rfl
    · rw [held]
      rfl
    · exact @kept s _ others [] fresh rfl _ keeps.toSameValue false s.returned
  · refine fresh.turn _ false s.returned ?_ ?_ (fun free => by cases free)
      (fresh.kept rfl (keeps.toSameValue.trans (ReadEntry.startFetch_sameValue _)) false s.returned)
      (forall_mem_singleton.mpr ⟨past,trivial⟩) fun _ => .inl
    · rw [idle]
      rfl
    · rw [held]
      rfl

theorem serve : After (Shadow.serve cfg choice s call) others := by
  obtain ⟨held,idle⟩ := fresh.cut
  have past := (fresh.calls _ mem_cons_self).1
  unfold Shadow.serve
  split
  · exact fresh.startFetch
  rename_i usable
  have filled : s.entry.lastOK.bytes ≠ [] := by
    intro empty
    simp [empty] at usable
  have current := fresh.current idle filled
  split
  · exact fresh.startFetch
  rename_i young
  have age : s.now - s.entry.lastOKAt ≤ call.maxAge := by
    by_contra old
    exact young (by simp [Int.not_le.mp old])
  split
  · have cleared : Fresh {s with entry := s.entry.clearSemanticReadCache} (.serve call :: others) :=
      {fresh with cached := fun filled => (filled rfl).elim}
    exact cleared.startFetch
  rename_i kept
  refine fresh.answer _ false rfl ?_ nofun (fun _ => .inl (current.keep (.refl _) false s.returned)) ?_
  · rw [held]
    rfl
  · rintro value ⟨⟩ _
    refine ⟨?_,fun time mem => current.latest time (past time mem)⟩
    cases shadow : s.entry.lastOKFromShadow with
    | false =>
      rw [← current.fetched shadow]
      exact age
    | true =>
      obtain ⟨generated,entry,there,same⟩ := current.shadow shadow
      have eligible : shadowSnapshotEligibleForMaxAge (s.snapshot choice.around) call.maxAge s.now = true := by
        by_contra stale
        exact kept (by simp [generated,shadow,stale])
      rw [← same]
      exact eligible_entry fresh.cache eligible entry there

end

theorem fetched {began : Nat} (fresh : Fresh s (.fetching call startGeneration began :: others)) :
    After (Shadow.fetched choice s call startGeneration began) others := by
  have past := (fresh.calls _ mem_cons_self).1
  unfold Shadow.fetched
  split
  · exact fresh.move rfl rfl rfl ⟨past,nofun,nofun⟩
  · exact fresh.move rfl rfl rfl ⟨past,rfl⟩

theorem superseded {taken : Option Nat}
    (fresh : Fresh s (.complete call startGeneration result taken :: others)) (running : s.entry.running = true) :
    After (Shadow.superseded cfg s call) others := by
  have past := (fresh.calls _ mem_cons_self).1
  unfold Shadow.superseded
  split
  · refine fresh.turn _ s.held s.returned ?_ (Nat.zero_add _) (fun _ => rfl) (fun filled => (filled rfl).elim)
      (forall_mem_singleton.mpr ⟨past,trivial⟩) fun _ => .inl
    rw [running]
    rfl
  · refine fresh.answer _ s.held ?_ rfl (fun _ => rfl) (fun filled => (filled rfl).elim) (failed _ _ _)
    rw [running]
    rfl

theorem alone (fresh : Fresh s (act :: others)) (flying : act.inFlight = true) :
    s.entry.running = true ∧ ∀ other ∈ others, other.wrote = false := by
  have counted := fresh.flight
  rw [countP_cons,if_pos flying] at counted
  cases running : s.entry.running with
  | false =>
    rw [running] at counted
    cases counted
  | true =>
    rw [running] at counted
    refine ⟨rfl,fun other mem => ?_⟩
    have grounded := countP_eq_zero.mp (Nat.succ.inj counted) other mem
    cases other with
    | complete => exact (grounded rfl).elim
    | _ => rfl

theorem complete {taken : Option Nat} (fresh : Fresh s (.complete call startGeneration result taken :: others)) :
    After (Shadow.complete cfg choice s call startGeneration result taken) others := by
  obtain ⟨past,values,recorded⟩ := fresh.calls _ mem_cons_self
  obtain ⟨running,others_quiet⟩ := fresh.alone rfl
  unfold Shadow.complete
  split
  · exact fresh.superseded running
  · have keeps := ReadEntry.recordFailure_keeps cfg.breaker {s.entry with running := false} s.now
    have plain : (Act.complete call startGeneration (.error ‹_›) taken).wrote = false := by
      cases taken with
      | none => rfl
      | some generation =>
        obtain ⟨value,known⟩ := recorded rfl
        cases known
    refine fresh.answer _ s.held ?_ rfl (fun _ => keeps.running) ?_ (failed _ _ _)
    · rw [running,keeps.running]
      rfl
    · refine @kept s _ others [] fresh plain _ ?_ s.held s.returned
      exact {keeps with}
  · rename_i value
    split
    · exact fresh.superseded running
    have keeps := (s.entry.cacheFetched value (taken.getD startGeneration) s.now).transitionBreaker_keeps cfg.breaker .closed
    have seen := values value rfl
    refine fresh.answer _ s.held ?_ rfl (fun _ => keeps.running) (fun _ => .inl ⟨?_,?_,?_⟩) ?_
    · rw [running,ReadEntry.recordSuccess,keeps.running]
      rfl
    · simp only [ReadEntry.recordSuccess,keeps.lastOK]
      intro time mem
      exact Int.le_trans (fresh.cache.bounded time mem) (Int.le_of_eq seen.symm)
    · simp only [ReadEntry.recordSuccess,keeps.fromShadow]
      nofun
    · simp only [ReadEntry.recordSuccess,keeps.lastOKAt,keeps.lastOK]
      exact fun _ => seen.symm
    · intro _ _ fetched
      cases fetched

theorem dated_write {around : Surroundings} {write : Write} (dated : act.Dated s) (bare : act.holdsCandidate = false) :
    act.Dated (s.write around write) := by
  refine ⟨fun time mem => ?_,?_⟩
  · unfold Shared.write
    simp only
    split
    · exact mem_append_left _ (dated.1 time mem)
    · exact dated.1 time mem
  · have rest := dated.2
    cases act with
    | lock _ candidate =>
      cases candidate with
      | none => nofun
      | some => cases bare
    | _ => exact rest

theorem shadowWrite {value : Reading} (fresh : Fresh s (.shadowWrite call startGeneration value :: others))
    (bare : ∀ other ∈ others, other.holdsCandidate = false) :
    After (Shadow.shadowWrite choice s call startGeneration value) others := by
  obtain ⟨past,seen⟩ := fresh.calls _ mem_cons_self
  have written : Act.Dated (s.write choice.around (activeWrite startGeneration value s.now))
    (.shadowWrite call startGeneration value) :=
    dated_write ⟨past,seen⟩ rfl
  refine ⟨Shared.write_dated fresh.cache (Int.le_refl _),countP_swap fresh.flight (Nat.add_comm _ _),
    countP_swap fresh.holding (Nat.zero_add _),fresh.idle,?_,?_,fresh.returned⟩
  · intro filled
    cases accepted : (s.cache.write choice.around (activeWrite startGeneration value s.now)).2.accepted with
    | true => exact .inr ⟨_,.head _,by simp [accepted,Act.wrote]⟩
    | false =>
      have current : Current s := by
        refine (fresh.cached filled).resolve_right ?_
        rintro ⟨act,mem,wrote⟩
        rcases mem_cons.mp mem with rfl | other
        · cases wrote
        · cases ((fresh.alone rfl).2 act other).symm.trans wrote
      exact .inl {current.rejected accepted with}
  · intro act mem
    rcases mem_cons.mp mem with rfl | other
    · refine ⟨written.1,?_,?_⟩
      · intro other known
        split at known
        · cases known
        · cases known
          exact seen
      · intro accepted
        split at accepted
        · rename_i taken
          exact ⟨value,if_neg (by simp [supersededBy,taken])⟩
        · cases accepted
    · exact dated_write (fresh.calls act (.tail _ other)) (bare act other)

theorem write {around : Surroundings} {write : Write} (fresh : Fresh s acts)
    (bare : ∀ act ∈ acts, act.holdsCandidate = false) (stamped : write.observedAt ≤ s.now)
    (behind : s.entry.lastOK.bytes = [] ∨ (∃ act ∈ acts, act.wrote = true) ∨ (s.cache.write around write).2.accepted = false) :
    Fresh (s.write around write) acts := by
  refine ⟨Shared.write_dated fresh.cache stamped,fresh.flight,fresh.holding,fresh.idle,fun filled => ?_,
    fun act mem => dated_write (fresh.calls act mem) (bare act mem),fresh.returned⟩
  rcases behind with empty | due | rejected
  · exact absurd empty filled
  · exact .inr due
  · exact (fresh.cached filled).imp_left (·.rejected rejected)

theorem clock {now : Time} (fresh : Fresh s acts) (later : s.now ≤ now)
    (recorded : ∀ act ∈ acts, act.unrecorded = false) : Fresh {s with now := now} acts := by
  refine {fresh with cache := fresh.cache.mono later, cached := ?_, calls := ?_}
  · intro filled
    rcases fresh.cached filled with current | due
    · exact .inl {current with}
    · exact .inr due
  · intro act mem
    have dated := fresh.calls act mem
    cases act with
    | shadowWrite => cases recorded _ mem
    | complete => cases recorded _ mem
    | _ => exact dated

theorem getWatch (fresh : Fresh s acts) (maxAge : Time) :
    Fresh s ([.consult {maxAge := maxAge, since := s.invalidations.length, past := s.accepted}] ++ acts) := by
  refine {fresh with cached := ?_, calls := ?_}
  · intro filled
    rcases fresh.cached filled with current | ⟨act,mem,wrote⟩
    · exact .inl current
    · exact .inr ⟨act,mem_cons_of_mem _ mem,wrote⟩
  · exact forall_mem_cons.mpr ⟨⟨fun _ known => known,trivial⟩,fresh.calls⟩

end Fresh

theorem perform_fresh {choice : Choice} {act : Act} {others : List Act} (fresh : Fresh s (act :: others))
    (bare : ∀ call startGeneration value, act = .shadowWrite call startGeneration value →
      ∀ other ∈ others, other.holdsCandidate = false)
    (ran : perform cfg choice act s = some effect) : Fresh effect.shared (effect.acts ++ others) := by
  have past := (fresh.calls _ mem_cons_self).1
  cases act with
  | consult call =>
    cases ran
    exact fresh.consult
  | lock call candidate =>
    simp only [perform] at ran
    split at ran
    · cases ran
    · rename_i free
      cases ran
      exact fresh.lock ((Bool.not_eq_true _).mp free)
  | serve call =>
    cases ran
    exact fresh.serve
  | await call done =>
    simp only [perform,await] at ran
    split at ran
    · cases ran
      exact fresh.answer s.entry s.held rfl rfl fresh.idle (@Fresh.kept s _ others [] fresh rfl _ (.refl _) s.held s.returned)
        (Fresh.failed _ _ _)
    split at ran
    · cases ran
    · cases ran
      exact fresh.move rfl rfl rfl ⟨past,trivial⟩
  | capture | fetch =>
    cases ran
    exact fresh.move rfl rfl rfl ⟨past,trivial⟩
  | fetching call startGeneration began =>
    cases ran
    exact fresh.fetched
  | shadowWrite call startGeneration value =>
    cases ran
    exact fresh.shadowWrite (bare _ _ _ rfl)
  | complete call startGeneration result taken =>
    simp only [perform] at ran
    split at ran
    · cases ran
    · cases ran
      exact fresh.complete

theorem all_false {acts : List Act} (none : acts.all (!select ·) = true) : ∀ act ∈ acts, select act = false := by
  intro act mem
  simpa using all_eq_true.mp none act mem

theorem launch_fresh {event : Event} {system : System} {name : Unit}
    (fresh : Fresh system.shared system.acts) (scope : CallsAndWrites system (.start event))
    (quiet : Undisturbed system (.start event)) (launched : launch cfg event system.shared = some (effect,name)) :
    Fresh effect.shared (effect.acts ++ system.acts) := by
  cases event with
  | getWatch maxAge =>
    cases launched
    exact fresh.getWatch maxAge
  | write around write =>
    cases launched
    simp only [Undisturbed,undisturbed,Bool.and_eq_true,Bool.or_eq_true,List.isEmpty_iff,
      any_eq_true,Bool.not_eq_true',decide_eq_true_eq,
      or_assoc] at quiet
    exact fresh.write (all_false quiet.1.1) quiet.1.2 quiet.2
  | invalidate => cases scope
  | evict => cases scope
  | compact => cases scope
  | clock now =>
    cases launched
    exact fresh.clock scope (all_false quiet)

theorem run_fresh {now : Time} {moves : List (Move Event Choice)} {final : System}
    (run : Run (step cfg) (fun system move => CallsAndWrites system move ∧ Undisturbed system move) (initially now) moves final) :
    Fresh final.shared final.acts := by
  refine run.invariant (fun system => Fresh system.shared system.acts) ?_ ?_
  · intro system move next fresh permitted stepped
    refine Machine.acts_step Fresh ?_ ?_ ?_ fresh stepped
    · intro shared first second perm holds
      refine ⟨holds.cache,(perm.countP_eq _).symm.trans holds.flight,(perm.countP_eq _).symm.trans holds.holding,holds.idle,?_,
        fun act mem => holds.calls act (perm.mem_iff.mpr mem),holds.returned⟩
      intro filled
      rcases holds.cached filled with current | ⟨act,mem,wrote⟩
      · exact .inl current
      · exact .inr ⟨act,perm.mem_iff.mp mem,wrote⟩
    · rintro event effect name rfl launched
      exact launch_fresh fresh permitted.1 permitted.2 launched
    · rintro choice act others effect ⟨index,rfl⟩ performs split holds ran
      refine perform_fresh holds ?_ ran
      rintro call startGeneration value rfl other mem
      have bare := permitted.2
      simp only [Undisturbed,undisturbed,performs] at bare
      exact all_false bare other (split.mem_iff.mpr (.tail _ mem))
  · refine ⟨⟨rfl,fun _ => ⟨rfl,rfl⟩,?_,?_,?_⟩,rfl,rfl,fun _ => rfl,fun filled => (filled rfl).elim,?_,?_⟩
    · intro entry found
      cases found
    · intro entry found
      cases found
    · intro entry found
      cases found
    · intro act mem
      cases mem
    · intro answer mem
      cases mem

/-- A call answered without a fetch of its own gets a value observed at most `maxAge` before it returns,
and none that a write accepted before it started supersedes. -/
theorem unfetched_answer_fresh {cfg : Config} {now : Time} {moves : List (Move Event Choice)} {final : System}
    (run : Run (step cfg) (fun system move => CallsAndWrites system move ∧ Undisturbed system move) (initially now) moves final) :
    ∀ answer ∈ final.shared.returned, ∀ value, answer.result = .ok value →
      answer.call.stats.activeFetchSucceeded = false →
      answer.moment - value.origin.seen ≤ answer.call.maxAge ∧ ∀ time ∈ answer.call.past, time ≤ value.origin.seen :=
  (run_fresh run).returned

def sampleFetch (index : Nat) (bytes : List UInt8) : Move Event Choice :=
  .run index {around := sampleSurroundings, fetched := some bytes}

def sampleReads : List (Move Event Choice) :=
  .start (.getWatch 10) :: List.replicate 8 (sampleFetch 0 [1]) ++
    [.start (.clock 5),.start (.getWatch 10),sampleRun 2,sampleRun 2]

theorem second_call_gets_first_value : ∃ final, Run (step {})
    (fun system move => CallsAndWrites system move ∧ Undisturbed system move) (initially 0) sampleReads final ∧
    (∃ answer ∈ final.shared.returned, answer.result = .ok ⟨[1],⟨some 0,0,true⟩⟩ ∧ answer.call.past = [0] ∧
      answer.call.stats.activeFetchSucceeded = false) ∧
    ∀ answer ∈ final.shared.returned, ∀ value, answer.result = .ok value →
      answer.call.stats.activeFetchSucceeded = false →
      answer.moment - value.origin.seen ≤ answer.call.maxAge ∧ ∀ time ∈ answer.call.past, time ≤ value.origin.seen := by
  refine Exists.imp (fun _ found => and_assoc.mp ⟨found,?_⟩) (Run.exists_of_executeWhere _ (by decide +kernel))
  exact unfetched_answer_fresh found.1

def sampleSuperseded : List (Move Event Choice) :=
  let around : Surroundings := {descriptor := some ⟨false,some 2⟩, sources := [.tooling]}
  .start (.getWatch 10) :: List.replicate 8 (.run 0 {around := around, fetched := some [1]}) ++
    [.start (.clock 1),.start (.write around ⟨.passive,.high,{bytes := [2]},1,0⟩),.start (.clock 5),.start (.getWatch 10)] ++
    List.replicate 3 (.run 4 {around := around})

def sampleAged : List (Move Event Choice) :=
  [samplePassive [1] 0,.start (.clock 9),.start (.getWatch 10),sampleRun 2,sampleRun 2,.start (.clock 15),
    .start (.getWatch 10),sampleRun 4,samplePassive [2] 15,sampleRun 4,sampleRun 4]

theorem cached_value_superseded_and_aged :
    (∃ final, Run (step {}) CallsAndWrites (initially 0) sampleSuperseded final ∧ ∃ answer ∈ final.shared.returned,
      answer.result = .ok ⟨[1],⟨some 0,0,false⟩⟩ ∧ answer.call.stats.activeFetchAttempted = false ∧ 1 ∈ answer.call.past) ∧
    ∃ final, Run (step {}) CallsAndWrites (initially 0) sampleAged final ∧ ∃ answer ∈ final.shared.returned,
      answer.result = .ok ⟨[1],⟨none,0,true⟩⟩ ∧ answer.call.stats.activeFetchAttempted = false ∧
        answer.call.maxAge = 10 ∧ answer.moment = 15 :=
  ⟨Run.exists_of_executeWhere _ (by decide +kernel),Run.exists_of_executeWhere _ (by decide +kernel)⟩

end EbusGateway.Shadow
