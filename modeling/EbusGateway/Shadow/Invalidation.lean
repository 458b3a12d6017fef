import EbusGateway.Shadow.Scheduler

/-! What invalidations do to the values the scheduler hands out. Every value it keeps is guarded by a
generation, which never comes back.
-/
namespace EbusGateway.Shadow
open Library List

structure Clean (invalidations : List Time) (value : Reading) : Prop where
  fetch : ∀ began, value.origin.began = some began → invalidations.length ≤ began
  shadow : value.origin.written = true → ∀ time ∈ invalidations, time ≤ value.origin.seen

variable {value : Reading} {old new s : Shared} {cfg : Config} {effect : Step}

theorem Clean.take {invalidations : List Time} (clean : Clean invalidations value) (count : Nat) :
    Clean (invalidations.take count) value := by
  constructor
  · intro began known
    exact Nat.le_trans (length_take_le' _ _) (clean.fetch began known)
  · intro written time mem
    exact clean.shadow written time (mem_of_mem_take mem)

theorem le_later (time : Time) (other : Option Time) : time ≤ later time other := by
  cases other with
  | none => exact Int.le_refl _
  | some other =>
    simp only [later]
    split
    · exact Int.le_refl _
    · exact Int.not_lt.mp ‹_›

theorem later_ge {time other : Time} {known : Option Time} (found : known = some other) : other ≤ later time known := by
  subst found
  simp only [later]
  split
  · exact Int.le_of_lt ‹_›
  · exact Int.le_refl _

structure Cache.Faithful (cache : Cache) (invalidations : List Time) : Prop where
  snapshot : cache.snapshot.generation = cache.generation
  generation : ∀ entry ∈ cache.entry, entry.generation = cache.generation
  highWater : ∀ time ∈ invalidations, ∃ mark, cache.precedenceHighWater = some mark ∧ time ≤ mark
  pending : ∀ mark, cache.invalidatedAt = some mark → ∀ time ∈ invalidations, time ≤ mark
  observed : cache.invalidatedAt = none → ∀ entry ∈ cache.entry,
    ∃ observedAt, entry.observedAt = some observedAt ∧ ∀ time ∈ invalidations, time ≤ observedAt
  present : ∀ entry ∈ cache.entry, entry.state = .present → Clean invalidations entry.value

theorem syncEntryPin_eq (around : Surroundings) (entry : Entry) :
    ∃ pin, syncEntryPin around entry = {entry with pinClass := pin} := by
  unfold syncEntryPin
  split
  · exact ⟨entry.pinClass,rfl⟩
  simp only
  split
  · exact ⟨_,rfl⟩
  split
  · exact ⟨_,rfl⟩
  · exact ⟨_,rfl⟩

namespace Cache
variable {around : Surroundings} {cache : Cache} {write : Write} {invalidations : List Time}

theorem syncPin_entry {entry : Entry} (found : entry ∈ (cache.syncPin around).entry) :
    ∃ old ∈ cache.entry, ∃ pin, entry = {old with pinClass := pin} := by
  obtain ⟨old,known,rfl⟩ := Option.map_eq_some_iff.mp found
  obtain ⟨pin,same⟩ := syncEntryPin_eq around old
  exact ⟨old,known,pin,same⟩

theorem write_cases (around : Surroundings) (cache : Cache) (w : Write) : ((cache.write around w).2.accepted = false ∧
      ((cache.write around w).1 = cache ∨ (cache.write around w).1 = cache.syncPin around)) ∨
    ((cache.write around w).2.accepted = true ∧ (w.source = .activeConfirmed → w.startGeneration = cache.generation) ∧
      (cache.syncPin around).rejectWriteByPrecedence w = none ∧
      (cache.write around w).2.generation = (cache.syncPin around).writeGenerations.2 ∧
      ∃ ttl, (cache.write around w).1 = (cache.syncPin around).accept around w ttl) := by
  unfold Cache.write
  split
  · exact .inl ⟨rfl,.inl rfl⟩
  unfold decideWrite
  split
  · exact .inl ⟨rfl,.inr rfl⟩
  rename_i current
  split
  · exact .inl ⟨rfl,.inr rfl⟩
  rename_i precedes
  split
  · exact .inl ⟨rfl,.inr rfl⟩
  rename_i ttl _
  split
  · exact .inl ⟨rfl,.inr rfl⟩
  refine .inr ⟨rfl,fun active => ?_,precedes,rfl,ttl,rfl⟩
  by_contra differs
  exact current (by simp [active,syncPin,Ne.symm differs])

structure Covers (cache : Cache) (times : List Time) : Prop where
  highWater : ∀ time ∈ times, ∃ mark, cache.precedenceHighWater = some mark ∧ time ≤ mark
  pending : ∀ mark, cache.invalidatedAt = some mark → ∀ time ∈ times, time ≤ mark
  observed : cache.invalidatedAt = none → ∀ entry ∈ cache.entry,
    ∃ observedAt, entry.observedAt = some observedAt ∧ ∀ time ∈ times, time ≤ observedAt

theorem pending_passes {mark : Time} (passed : cache.rejectWriteByPrecedence write = none) (known : cache.invalidatedAt = some mark) :
    mark ≤ write.observedAt := by
  simp only [rejectWriteByPrecedence,known] at passed
  split at passed
  · cases passed
  · exact Int.not_lt.mp ‹_›

theorem Covers.passes {times : List Time} (covers : cache.Covers times) (passed : cache.rejectWriteByPrecedence write = none) :
    ∀ time ∈ times, time ≤ write.observedAt := by
  intro time mem
  cases known : cache.invalidatedAt with
  | some mark => exact Int.le_trans (covers.pending mark known time mem) (pending_passes passed known)
  | none =>
    simp only [rejectWriteByPrecedence,known,rejectUninvalidated] at passed
    split at passed
    · obtain ⟨mark,high,bound⟩ := covers.highWater time mem
      simp only [rejectByHighWater,high] at passed
      split at passed
      · cases passed
      · exact Int.le_trans bound (Int.not_lt.mp ‹_›)
    rename_i entry found
    obtain ⟨observedAt,seen,bound⟩ := covers.observed known entry found
    simp only [rejectByEntry,seen] at passed
    split at passed
    · cases passed
    · exact Int.le_trans (bound time mem) (Int.not_lt.mp ‹_›)

namespace Faithful

theorem of_absent (missing : cache.entry = none) (snapshot : cache.snapshot.generation = cache.generation)
    (highWater : ∀ time ∈ invalidations, ∃ mark, cache.precedenceHighWater = some mark ∧ time ≤ mark)
    (pending : ∀ mark, cache.invalidatedAt = some mark → ∀ time ∈ invalidations, time ≤ mark) : cache.Faithful invalidations := by
  have gone : ∀ entry, entry ∉ cache.entry := by
    intro entry found
    cases missing.symm.trans found
  exact ⟨snapshot,fun _ found => (gone _ found).elim,highWater,pending,fun _ _ found => (gone _ found).elim,
    fun _ found => (gone _ found).elim⟩

section
variable (faithful : cache.Faithful invalidations)
include faithful

theorem syncPin : (cache.syncPin around).Faithful invalidations := by
  obtain ⟨snapshot,gen,highWater,pending,observed,present⟩ := faithful
  refine ⟨snapshot,?_,highWater,pending,?_,?_⟩
  · intro entry found
    obtain ⟨old,known,pin,rfl⟩ := syncPin_entry found
    exact gen old known
  · intro clear entry found
    obtain ⟨old,known,pin,rfl⟩ := syncPin_entry found
    exact observed clear old known
  · intro entry found there
    obtain ⟨old,known,pin,rfl⟩ := syncPin_entry found
    exact present old known there

theorem precedes (passed : cache.rejectWriteByPrecedence write = none) : ∀ time ∈ invalidations, time ≤ write.observedAt :=
  Covers.passes {faithful with} passed

theorem writeGenerations : cache.writeGenerations.2 = cache.writeGenerations.1 := by
  unfold Cache.writeGenerations
  split
  · rfl
  rename_i entry found
  split
  · rfl
  · exact faithful.generation entry found

theorem accept {ttl : Time} (passed : cache.rejectWriteByPrecedence write = none)
    (clean : ∀ began, write.value.origin.began = some began → invalidations.length ≤ began) :
    (cache.accept around write ttl).Faithful invalidations := by
  have late := faithful.precedes passed
  refine ⟨faithful.writeGenerations,?_,?_,?_,?_,?_⟩
  · rintro entry ⟨⟩
    exact faithful.writeGenerations
  · intro time mem
    exact ⟨_,rfl,Int.le_trans (late time mem) (le_later _ _)⟩
  · intro mark known
    cases known
  · rintro _ entry ⟨⟩
    exact ⟨write.observedAt,rfl,late⟩
  · rintro entry ⟨⟩ _
    exact ⟨clean,fun _ => late⟩

theorem removeEntry : cache.removeEntry.Faithful invalidations := by
  unfold Cache.removeEntry
  split
  · exact faithful
  · exact of_absent rfl rfl faithful.highWater faithful.pending

end

variable {config : CompactorConfig} {entry : Entry}

theorem compactEntry {now : Time} (faithful : cache.Faithful invalidations)
    (found : entry ∈ cache.entry) : (cache.compactEntry config now entry).Faithful invalidations := by
  unfold Cache.compactEntry
  split
  · exact faithful
  · split
    · exact faithful
    · refine ⟨rfl,?_,faithful.highWater,faithful.pending,?_,?_⟩
      · rintro _ ⟨⟩
        rfl
      · rintro clear _ ⟨⟩
        exact faithful.observed clear entry found
      · rintro _ ⟨⟩ there
        cases there
  · split
    · exact faithful
    · exact of_absent rfl rfl faithful.highWater faithful.pending

theorem compact {now : Time} (faithful : cache.Faithful invalidations) :
    (cache.compact config around now).Faithful invalidations := by
  unfold Cache.compact
  split
  · exact faithful
  · rename_i entry found
    exact faithful.syncPin.compactEntry found

structure Noted (cache : Cache) (invalidations : List Time) : Prop where
  highWater : ∀ time ∈ invalidations, ∃ mark, cache.precedenceHighWater = some mark ∧ time ≤ mark
  pending : ∃ mark, cache.invalidatedAt = some mark ∧ ∀ time ∈ invalidations, time ≤ mark

theorem Noted.bound (noted : Noted cache invalidations) :
    ∀ mark, cache.invalidatedAt = some mark → ∀ time ∈ invalidations, time ≤ mark := by
  intro other same
  obtain ⟨mark,known,bound⟩ := noted.pending
  cases known.symm.trans same
  exact bound

theorem noteInvalidation {invalidatedAt : Time} (faithful : cache.Faithful invalidations)
    (inOrder : ∀ time ∈ invalidations, time ≤ invalidatedAt) :
    Noted (cache.noteInvalidation invalidatedAt) (invalidations ++ [invalidatedAt]) := by
  constructor
  · intro time mem
    refine ⟨_,rfl,?_⟩
    rcases mem_append.mp mem with old | new
    · obtain ⟨mark,known,bound⟩ := faithful.highWater time old
      exact Int.le_trans bound (later_ge known)
    · rw [mem_singleton.mp new]
      exact le_later _ _
  · refine ⟨_,rfl,?_⟩
    intro time mem
    apply Int.le_trans _ (le_later _ _)
    rcases mem_append.mp mem with old | new
    · exact inOrder time old
    · exact Int.le_of_eq (mem_singleton.mp new)

theorem Noted.invalidateEntry (noted : Noted cache invalidations) : (cache.invalidateEntry around entry).Faithful invalidations := by
  refine ⟨rfl,?_,noted.highWater,noted.bound,?_,?_⟩
  · rintro _ ⟨⟩
    rfl
  · intro clear
    obtain ⟨mark,known,_⟩ := noted.pending
    cases known.symm.trans clear
  · rintro _ ⟨⟩ there
    simp only at there
    split at there <;> cases there

theorem Noted.invalidated (noted : Noted cache invalidations) : (cache.invalidateNoted around).Faithful invalidations := by
  unfold invalidateNoted
  have absent (missing : cache.entry = none) : cache.invalidateAbsent.Faithful invalidations :=
    of_absent missing rfl noted.highWater noted.bound
  split
  · exact noted.invalidateEntry
  rename_i missing
  split
  · exact absent missing
  split
  · exact absent missing
  · exact noted.invalidateEntry

theorem afterWrite (faithful : cache.Faithful invalidations)
    (clean : ∀ began, write.value.origin.began = some began → (cache.write around write).2.accepted = true →
      invalidations.length ≤ began) : (cache.write around write).1.Faithful invalidations := by
  obtain ⟨_,same | same⟩ | ⟨taken,_,passed,_,ttl,same⟩ := write_cases around cache write
  · rw [same]
    exact faithful
  · rw [same]
    exact faithful.syncPin
  · rw [same]
    exact faithful.syncPin.accept passed fun began known => clean began known taken

theorem write_generation (faithful : cache.Faithful invalidations) (taken : (cache.write around write).2.accepted = true) :
    (cache.write around write).2.generation = (cache.write around write).1.generation := by
  obtain ⟨rejected,_⟩ | ⟨_,_,_,result,ttl,same⟩ := write_cases around cache write
  · cases rejected.symm.trans taken
  · rw [result,same]
    exact faithful.syncPin.writeGenerations

end Faithful

theorem write_generation_le : cache.generation ≤ (cache.write around write).1.generation := by
  obtain ⟨_,same | same⟩ | ⟨_,_,_,_,ttl,same⟩ := write_cases around cache write
  · rw [same]
  · rw [same]
    exact Nat.le_refl _
  · rw [same]
    simp only [accept,storeSnapshot,writeGenerations]
    split
    · exact Nat.le_succ _
    split
    · exact Nat.le_succ _
    · exact Nat.le_refl _

theorem invalidate_generation (around : Surroundings) (cache : Cache) (invalidatedAt : Time) :
    (cache.invalidate around invalidatedAt).generation = cache.generation + 1 := by
  unfold invalidate invalidateNoted
  split
  · rfl
  split
  · rfl
  split
  · rfl
  · rfl

theorem removeEntry_generation : cache.removeEntry.generation = cache.generation := by
  unfold removeEntry
  split <;> rfl

theorem compact_generation {config : CompactorConfig} {now : Time} :
    cache.generation ≤ (cache.compact config around now).generation := by
  unfold compact
  split
  · exact Nat.le_refl _
  unfold compactEntry
  split
  · exact Nat.le_refl _
  · split
    · exact Nat.le_refl _
    · exact Nat.le_succ _
  · split
    · exact Nat.le_refl _
    · exact Nat.le_succ _

end Cache

structure Advances (old new : Shared) : Prop where
  generation : old.cache.generation ≤ new.cache.generation
  fenced : old.cache.generation = new.cache.generation → new.invalidations = old.invalidations
  grown : old.invalidations <+: new.invalidations

theorem Advances.of_eq (cache : new.cache.generation = old.cache.generation)
    (same : new.invalidations = old.invalidations) : Advances old new :=
  ⟨Nat.le_of_eq cache.symm,fun _ => same,same ▸ prefix_rfl⟩

def Guarded (s : Shared) (generation : Nat) (value : Reading) : Prop :=
  generation ≤ s.cache.generation ∧ (generation = s.cache.generation → Clean s.invalidations value)

theorem Guarded.advance {gen : Nat} (safe : Guarded old gen value) (advances : Advances old new) : Guarded new gen value := by
  refine ⟨Nat.le_trans safe.1 advances.generation,fun same => ?_⟩
  have unmoved : gen = old.cache.generation :=
    Nat.le_antisymm safe.1 (same ▸ advances.generation)
  rw [advances.fenced (unmoved.symm.trans same)]
  exact safe.2 unmoved

def Fit (s : Shared) (call : Call) (value : Reading) : Prop := Clean (s.invalidations.take call.since) value

theorem Fit.advance {call : Call} (fit : Fit old call value)
    (started : call.since ≤ old.invalidations.length) (advances : Advances old new) : Fit new call value := by
  obtain ⟨more,same⟩ := advances.grown
  unfold Fit
  rw [← same,take_append_of_le_length started]
  exact fit

def Act.Holds (s : Shared) : Act → Prop
  | .consult call | .serve call | .await call _ | .capture call => call.since ≤ s.invalidations.length
  | .lock call candidate => call.since ≤ s.invalidations.length ∧
    ∀ found ∈ candidate, Guarded s found.generation found.value ∧ Fit s call found.value
  | .fetch call startGeneration => call.since ≤ s.invalidations.length ∧ startGeneration ≤ s.cache.generation
  | .fetching call startGeneration began => call.since ≤ s.invalidations.length ∧ call.since ≤ began ∧
    startGeneration ≤ s.cache.generation ∧ (startGeneration = s.cache.generation → s.invalidations.length ≤ began)
  | .shadowWrite call startGeneration value => call.since ≤ s.invalidations.length ∧
    Guarded s startGeneration value ∧ Fit s call value
  | .complete call startGeneration result accepted => call.since ≤ s.invalidations.length ∧
    ∀ value, result = .ok value → Guarded s (accepted.getD startGeneration) value ∧ Fit s call value

theorem Act.Holds.advance {act : Act} (holds : act.Holds old) (advances : Advances old new) : act.Holds new := by
  have length := advances.grown.length_le
  cases act with
  | consult | serve | await | capture => exact Nat.le_trans holds length
  | lock call candidate =>
    exact ⟨Nat.le_trans holds.1 length,fun found known =>
      ⟨(holds.2 found known).1.advance advances,(holds.2 found known).2.advance holds.1 advances⟩⟩
  | fetch => exact ⟨Nat.le_trans holds.1 length,Nat.le_trans holds.2 advances.generation⟩
  | fetching call startGeneration began =>
    obtain ⟨started,since,captured,fenced⟩ := holds
    refine ⟨Nat.le_trans started length,since,Nat.le_trans captured advances.generation,fun same => ?_⟩
    have unmoved := Nat.le_antisymm captured (same ▸ advances.generation)
    rw [advances.fenced (unmoved.symm.trans same)]
    exact fenced unmoved
  | shadowWrite => exact ⟨Nat.le_trans holds.1 length,holds.2.1.advance advances,holds.2.2.advance holds.1 advances⟩
  | complete =>
    exact ⟨Nat.le_trans holds.1 length,fun value known =>
      ⟨(holds.2 value known).1.advance advances,(holds.2 value known).2.advance holds.1 advances⟩⟩

structure Guards (s : Shared) (acts : List Act) : Prop where
  cache : s.cache.Faithful s.invalidations
  cached : s.entry.lastOK.bytes ≠ [] → s.entry.lastOKHasGeneration = true ∧
    Guarded s s.entry.lastOKShadowGeneration s.entry.lastOK
  calls : ∀ act ∈ acts, act.Holds s
  returned : ∀ answer ∈ s.returned, answer.call.since ≤ s.invalidations.length ∧
    ∀ value, answer.result = .ok value → Fit s answer.call value

theorem snapshot_generation (faithful : s.cache.Faithful s.invalidations) (around : Surroundings) :
    (s.snapshot around).generation = s.cache.generation := by
  rw [← faithful.snapshot]
  unfold Shared.snapshot Cache.snapshotEligibility
  split <;> rfl

theorem consult_found {around : Surroundings} {now maxAge : Time} {cache : Cache} {candidate : Candidate}
    (found : consultSemanticReadShadow around now cache maxAge = some candidate) :
    ∃ entry ∈ cache.entry, entry.state = .present ∧ candidate = ⟨entry.value,entry.generation,entry.source⟩ := by
  unfold consultSemanticReadShadow at found
  split at found
  · rename_i entry looked
    obtain ⟨pinned,known,same⟩ := Option.map_eq_some_iff.mp looked
    obtain rfl := (Prod.mk.inj same).1
    obtain ⟨old,there,pin,rfl⟩ := Cache.syncPin_entry known
    split at found
    · rename_i present
      exact ⟨old,there,present,(Option.some.inj found).symm⟩
    · cases found
  · cases found

abbrev Guards.After (effect : Step) (others : List Act) : Prop := Guards effect.shared (effect.acts ++ others)

namespace Guards
variable {s new : Shared} {others code : List Act} {call : Call} {choice : Choice} {cfg : Config}

theorem kept (guards : Guards s others) (advances : Advances s new) (keeps : s.entry.SameValue new.entry) :
    new.entry.lastOK.bytes ≠ [] → new.entry.lastOKHasGeneration = true ∧
      Guarded new new.entry.lastOKShadowGeneration new.entry.lastOK := by
  rw [keeps.lastOK,keeps.generation,keeps.hasGeneration]
  intro filled
  exact ⟨(guards.cached filled).1,(guards.cached filled).2.advance advances⟩

theorem proceed (guards : Guards s others) (advances : Advances s new) (cache : new.cache.Faithful new.invalidations)
    (entry : new.entry = s.entry) (returned : new.returned = s.returned) : Guards new others := by
  refine ⟨cache,guards.kept advances (entry ▸ .refl _),?_,?_⟩
  · intro act mem
    exact (guards.calls act mem).advance advances
  · rw [returned]
    intro answer mem
    obtain ⟨started,fit⟩ := guards.returned answer mem
    exact ⟨Nat.le_trans started advances.grown.length_le,fun value known => (fit value known).advance started advances⟩

variable {result : Except ReadError Reading} {startGeneration : Nat} (guards : Guards s others)
include guards

theorem finish (started : call.since ≤ s.invalidations.length) (fit : ∀ value, result = .ok value → Fit s call value) :
    After (s.finish call result) others := by
  refine {guards with returned := ?_}
  intro answer mem
  rcases mem_cons.mp mem with rfl | old
  · exact ⟨started,fit⟩
  · exact guards.returned answer old

theorem fail {err : ReadError} (started : call.since ≤ s.invalidations.length) : After (s.finish call (.error err)) others := by
  refine guards.finish started ?_
  intro value known
  cases known

theorem reentry (entry : ReadEntry) (held : Bool) (cached : entry.lastOK.bytes ≠ [] →
    entry.lastOKHasGeneration = true ∧
      Guarded s entry.lastOKShadowGeneration entry.lastOK) : Guards {s with entry := entry, held :=
        held} others :=
  {guards with cached := cached}

theorem rekept {entry : ReadEntry} (held : Bool) (keeps : s.entry.SameValue entry) :
    Guards {s with entry := entry, held := held} others := by
  apply guards.reentry
  rw [keeps.lastOK,keeps.generation,keeps.hasGeneration]
  exact guards.cached

theorem push {act : Act} (holds : act.Holds s) : Guards s ([act] ++ others) := by
  refine {guards with calls := ?_}
  intro own mem
  rcases mem_cons.mp mem with rfl | other
  · exact holds
  · exact guards.calls own other

theorem consult (started : call.since ≤ s.invalidations.length) : After (Shadow.consult choice s call) others := by
  unfold Shadow.consult
  split
  · have synced : Guards {s with cache := s.cache.syncPin choice.around} others :=
      {guards with cache := guards.cache.syncPin}
    apply synced.push
    refine ⟨started,?_⟩
    intro candidate found
    obtain ⟨entry,there,present,rfl⟩ := consult_found found
    have clean := guards.cache.present entry there present
    exact ⟨⟨Nat.le_of_eq (guards.cache.generation entry there),fun _ => clean⟩,clean.take _⟩
  · refine guards.push ⟨started,?_⟩
    intro candidate found
    cases found

theorem lock {candidate : Option Candidate} (holds : (Act.lock call candidate).Holds s) :
    After (Shadow.lock choice s call candidate) others := by
  obtain ⟨started,candidates⟩ := holds
  unfold Shadow.lock
  split
  · exact guards.push started
  split
  · rename_i candidate
    obtain ⟨safe,fit⟩ := candidates candidate rfl
    simp only [lockCandidate]
    split
    · rename_i revalidated
      have same : (s.snapshot choice.around).generation = candidate.generation := by
        unfold revalidateSemanticReadShadowCandidate at revalidated
        exact of_decide_eq_true (Bool.and_eq_true_iff.mp revalidated).1
      have kept : Guards {s with entry := s.entry.serveCandidate candidate (s.snapshot choice.around).generation s.now} others := by
        refine guards.reentry _ s.held fun _ => ⟨rfl,?_⟩
        simp only [ReadEntry.serveCandidate,same]
        exact safe
      refine Guards.finish kept started ?_
      rintro value ⟨⟩
      exact fit
    · split
      · exact guards.push started
      · exact (guards.rekept true (.refl _)).push started
  · exact (guards.rekept true (.refl _)).push started

theorem startFetch (started : call.since ≤ s.invalidations.length) : After (Shadow.startFetch cfg s call) others := by
  have keeps := s.entry.guardBreaker_keeps cfg.breaker s.now
  simp only [Shadow.startFetch]
  split
  · exact (guards.rekept false keeps.toSameValue).fail started
  · exact (guards.rekept false (keeps.toSameValue.trans (ReadEntry.startFetch_sameValue _))).push started

theorem serve (started : call.since ≤ s.invalidations.length) : After (Shadow.serve cfg choice s call) others := by
  unfold Shadow.serve
  split
  · exact guards.startFetch started
  rename_i usable
  split
  · exact guards.startFetch started
  split
  · have cleared : Guards {s with entry := s.entry.clearSemanticReadCache} others :=
      guards.reentry _ s.held fun filled => (filled rfl).elim
    exact cleared.startFetch started
  rename_i current
  have filled : s.entry.lastOK.bytes ≠ [] := by
    intro empty
    simp [empty] at usable
  obtain ⟨known,safe⟩ := guards.cached filled
  have same : s.entry.lastOKShadowGeneration = s.cache.generation := by
    rw [← snapshot_generation guards.cache choice.around]
    by_contra differs
    exact current (by simp [known,Ne.symm differs])
  refine Guards.finish (guards.rekept false (.refl _)) started ?_
  rintro value ⟨⟩
  exact (safe.2 same).take _

theorem fetched {began : Nat} (holds : (Act.fetching call startGeneration began).Holds s) :
    After (Shadow.fetched choice s call startGeneration began) others := by
  obtain ⟨started,since,captured,fenced⟩ := holds
  unfold Shadow.fetched
  split
  · refine guards.push ⟨started,?_⟩
    intro value known
    cases known
  have clean (invalidations : List Time) (bytes : List UInt8) (early : invalidations.length ≤ began) :
      Clean invalidations ⟨bytes,⟨some began,s.now,false⟩⟩ := by
    refine ⟨?_,?_⟩
    · rintro _ ⟨⟩
      exact early
    · intro written
      cases written
  refine guards.push ⟨started,⟨captured,fun same => clean _ _ (fenced same)⟩,clean _ _ ?_⟩
  exact Nat.le_trans (length_take_le _ _) since

theorem write {around : Surroundings} {write : Write}
    (clean : ∀ began, write.value.origin.began = some began → (s.cache.write around write).2.accepted = true →
      s.invalidations.length ≤ began) : Advances s (s.write around write) ∧ Guards (s.write around write) others := by
  have advances : Advances s (s.write around write) := ⟨Cache.write_generation_le,fun _ => rfl,prefix_rfl⟩
  exact ⟨advances,guards.proceed advances (guards.cache.afterWrite clean) rfl rfl⟩

theorem shadowWrite {value : Reading} (holds : (Act.shadowWrite call startGeneration value).Holds s) :
    After (Shadow.shadowWrite choice s call startGeneration value) others := by
  obtain ⟨started,safe,fit⟩ := holds
  have current (taken : (s.cache.write choice.around (activeWrite startGeneration value s.now)).2.accepted = true) :
      startGeneration = s.cache.generation := by
    obtain ⟨rejected,_⟩ | ⟨_,qualified,_⟩ := Cache.write_cases choice.around s.cache (activeWrite startGeneration value s.now)
    · cases rejected.symm.trans taken
    · exact qualified rfl
  obtain ⟨advances,written⟩ := guards.write fun began known taken => (safe.2 (current taken)).fetch began known
  refine written.push ⟨started,fun other known => ?_⟩
  split at known
  · cases known
  cases known
  refine ⟨?_,fit.advance started advances⟩
  split
  · rename_i taken
    rw [Option.getD_some,guards.cache.write_generation taken]
    exact ⟨Nat.le_refl _,fun _ => safe.2 (current taken)⟩
  · exact safe.advance advances

theorem superseded (started : call.since ≤ s.invalidations.length) : After (Shadow.superseded cfg s call) others := by
  have cleared : Guards {s with entry := s.entry.recordSuperseded cfg.breaker} others :=
    guards.reentry _ s.held fun filled => (filled rfl).elim
  unfold Shadow.superseded
  split
  · exact cleared.push started
  · exact cleared.fail started

theorem complete {taken : Option Nat} (holds : (Act.complete call startGeneration result taken).Holds s) :
    After (Shadow.complete cfg choice s call startGeneration result taken) others := by
  obtain ⟨started,values⟩ := holds
  unfold Shadow.complete
  split
  · exact guards.superseded started
  · have keeps := ReadEntry.recordFailure_keeps cfg.breaker {s.entry with running := false} s.now
    have failed : Guards {s with entry := {s.entry with running := false}.recordFailure cfg.breaker s.now} others :=
      guards.rekept s.held {keeps with}
    exact failed.fail started
  · rename_i value
    obtain ⟨safe,fit⟩ := values value rfl
    split
    · exact guards.superseded started
    have keeps := (s.entry.cacheFetched value (taken.getD startGeneration) s.now).transitionBreaker_keeps cfg.breaker .closed
    have recorded : Guards {s with
        entry := s.entry.recordSuccess cfg.breaker value (taken.getD startGeneration) s.now} others := by
      apply guards.reentry _ s.held
      unfold ReadEntry.recordSuccess
      rw [keeps.lastOK,keeps.generation,keeps.hasGeneration]
      exact fun _ => ⟨rfl,safe⟩
    refine Guards.finish recorded started ?_
    rintro _ ⟨⟩
    exact fit

end Guards

def InOrder (system : System) : Move Event Choice → Prop
  | .start (.invalidate _ invalidatedAt) => ∀ time ∈ system.shared.invalidations, time ≤ stamp system.shared invalidatedAt
  | _ => True

instance (system : System) : DecidablePred (InOrder system)
  | .start (.invalidate _ invalidatedAt) =>
    inferInstanceAs (Decidable (∀ time ∈ system.shared.invalidations, time ≤ stamp system.shared invalidatedAt))
  | .start (.getWatch _) | .start (.write _ _) | .start .evict | .start (.compact _) | .start (.clock _) | .run _ _ =>
    .isTrue trivial

theorem perform_guards {choice : Choice} {act : Act} {others : List Act}
    (guards : Guards s (act :: others)) (ran : perform cfg choice act s = some effect) :
    Guards effect.shared (effect.acts ++ others) := by
  have rest : Guards s others :=
    {guards with calls := fun act mem => guards.calls act (.tail _ mem)}
  have holds := guards.calls act mem_cons_self
  cases act with
  | consult call =>
    cases ran
    exact rest.consult holds
  | lock call candidate =>
    simp only [perform] at ran
    split at ran
    · cases ran
    · cases ran
      exact rest.lock holds
  | serve call =>
    cases ran
    exact rest.serve holds
  | await call done =>
    simp only [perform,await] at ran
    split at ran
    · cases ran
      exact rest.fail holds
    split at ran
    · cases ran
    · cases ran
      exact rest.push holds
  | capture call =>
    cases ran
    exact rest.push ⟨holds,Nat.le_of_eq (snapshot_generation rest.cache choice.around)⟩
  | fetch call startGeneration =>
    cases ran
    exact rest.push ⟨holds.1,holds.1,holds.2,fun _ => Nat.le_refl _⟩
  | fetching call startGeneration began =>
    cases ran
    exact rest.fetched holds
  | shadowWrite call startGeneration value =>
    cases ran
    exact rest.shadowWrite holds
  | complete call startGeneration result taken =>
    simp only [perform] at ran
    split at ran
    · cases ran
    · cases ran
      exact rest.complete holds

theorem launch_guards {event : Event} {acts : List Act} {name : Unit}
    (guards : Guards s acts) (inOrder : ∀ around invalidatedAt, event = .invalidate around invalidatedAt →
      ∀ time ∈ s.invalidations, time ≤ stamp s invalidatedAt)
    (launched : launch cfg event s = some (effect,name)) : Guards effect.shared (effect.acts ++ acts) := by
  cases event with
  | getWatch maxAge =>
    cases launched
    exact guards.push (Nat.le_refl _)
  | write around write =>
    cases launched
    refine (guards.write ?_).2
    intro began known
    cases known
  | invalidate around invalidatedAt =>
    cases launched
    have generation := Cache.invalidate_generation around s.cache (stamp s invalidatedAt)
    refine guards.proceed ⟨?_,?_,prefix_append _ _⟩ ?_ rfl rfl
    · exact generation ▸ Nat.le_succ _
    · intro same
      exact absurd (same.trans generation) (Nat.succ_ne_self _).symm
    · exact (guards.cache.noteInvalidation (inOrder around invalidatedAt rfl)).invalidated
  | evict =>
    simp only [launch] at launched
    split at launched
    · cases launched
      exact guards.proceed (.of_eq Cache.removeEntry_generation rfl) guards.cache.removeEntry rfl rfl
    · cases launched
  | compact around =>
    cases launched
    exact guards.proceed ⟨Cache.compact_generation,fun _ => rfl,prefix_rfl⟩ guards.cache.compact rfl rfl
  | clock now =>
    cases launched
    exact guards.proceed (.of_eq rfl rfl) guards.cache rfl rfl

theorem run_guards {now : Time} {moves : List (Move Event Choice)} {final : System}
    (run : Run (step cfg) InOrder (initially now) moves final) : Guards final.shared final.acts := by
  refine run.invariant (fun system => Guards system.shared system.acts) ?_ ?_
  · intro system move next guards ordered stepped
    refine Machine.acts_step Guards ?_ ?_ ?_ guards stepped
    · intro shared first second perm holds
      exact {holds with calls := fun act mem => holds.calls act (perm.mem_iff.mpr mem)}
    · rintro event effect name rfl launched
      refine launch_guards guards ?_ launched
      rintro around invalidatedAt rfl
      exact ordered
    · intro choice act others effect _ _ _ holds ran
      exact perform_guards holds ran
  · refine ⟨⟨rfl,?_,?_,?_,?_,?_⟩,?_,?_,?_⟩
    · intro entry found
      cases found
    · intro time mem
      cases mem
    · intro mark known
      cases known
    · intro _ entry found
      cases found
    · intro entry found
      cases found
    · intro filled
      exact (filled rfl).elim
    · intro act mem
      cases mem
    · intro answer mem
      cases mem

def sampleSurroundings : Surroundings := {descriptor := some ⟨false,some 100⟩, sources := [.tooling]}

def samplePassive (bytes : List UInt8) (observedAt : Time) : Move Event Choice :=
  .start (.write sampleSurroundings ⟨.passive,.high,{bytes := bytes},observedAt,0⟩)

def sampleInvalidate (time : Time) : Move Event Choice := .start (.invalidate sampleSurroundings (some time))

def sampleRun (index : Nat) : Move Event Choice := .run index {around := sampleSurroundings}

/-- A call that starts after an invalidation has returned gets neither a value whose fetch began before
it nor a shadow value observed before its time. -/
theorem no_stale_read_after_invalidation {cfg : Config} {now : Time} {moves : List (Move Event Choice)} {final : System}
    (run : Run (step cfg) InOrder (initially now) moves final) :
    ∀ answer ∈ final.shared.returned, ∀ value, answer.result = .ok value →
      (∀ began, value.origin.began = some began → answer.call.since ≤ began) ∧
      (value.origin.written = true → ∀ time ∈ final.shared.invalidations.take answer.call.since, time ≤ value.origin.seen) := by
  intro answer mem value known
  obtain ⟨started,fit⟩ := (run_guards run).returned answer mem
  refine ⟨?_,(fit value known).shadow⟩
  intro began fetched
  have early := (fit value known).fetch began fetched
  rwa [length_take,Nat.min_eq_left started] at early

/-- A write that follows an invalidation is read back. -/
theorem later_write_read_back : ∃ final, Run (step {}) InOrder (initially 0)
    [sampleInvalidate 5,samplePassive [1] 7,.start (.clock 8),.start (.getWatch 10),sampleRun 3,sampleRun 3] final ∧
    (∃ answer ∈ final.shared.returned, answer.result = .ok ⟨[1],⟨none,7,true⟩⟩) ∧
    ∀ answer ∈ final.shared.returned, ∀ value, answer.result = .ok value →
      (∀ began, value.origin.began = some began → answer.call.since ≤ began) ∧
      (value.origin.written = true → ∀ time ∈ final.shared.invalidations.take answer.call.since, time ≤ value.origin.seen) := by
  refine Exists.imp (fun _ found => and_assoc.mp ⟨found,?_⟩) (Run.exists_of_executeWhere _ (by decide +kernel))
  exact no_stale_read_after_invalidation found.1

/-- An entry is written after an invalidation and evicted; the tombstone of a second invalidation, with an
earlier time, hides the high-water mark, and a write older than the first is accepted and read. -/
theorem stale_write_read_after_eviction : ∃ final, Run (step {}) anyStep (initially 0)
    [sampleInvalidate 10,samplePassive [1] 12,.start .evict,sampleInvalidate 5,samplePassive [2] 7,.start (.clock 13),
      .start (.getWatch 10),sampleRun 6,sampleRun 6] final ∧
    ∃ answer ∈ final.shared.returned, answer.result = .ok ⟨[2],⟨none,7,true⟩⟩ ∧
      10 ∈ final.shared.invalidations.take answer.call.since :=
  Run.exists_of_execute _ (by decide +kernel)

end EbusGateway.Shadow
