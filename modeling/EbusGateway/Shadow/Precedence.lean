import EbusGateway.Shadow.Invalidation

/-! The times of the writes a key accepts, with times in any order. A write is compared with the pending
invalidation or with the entry, and with the high-water mark only where there is no entry.
-/
namespace EbusGateway.Shadow.Precedence
open Library List

inductive Op
  | write (around : Surroundings) (write : Write)
  | invalidate (around : Surroundings) (invalidatedAt : Time)
  | evict
  | compact (config : CompactorConfig) (around : Surroundings) (now : Time)

structure Watched where
  cache : Cache := {}
  accepted : List Time := []
  since : List Time := []

def Watched.written (s : Watched) (around : Surroundings) (write : Write) : Watched :=
  if (s.cache.write around write).2.accepted then ⟨(s.cache.write around write).1,write.observedAt :: s.accepted,[]⟩
  else {s with cache := (s.cache.write around write).1}

def step (s : Watched) : Op → Option Watched
  | .write around write => some (s.written around write)
  | .invalidate around invalidatedAt =>
    some {s with cache := s.cache.invalidate around invalidatedAt, since := invalidatedAt :: s.since}
  | .evict => some {s with cache := s.cache.removeEntry}
  | .compact config around now => some {s with cache := s.cache.compact config around now}

/-- No invalidation is older than a write accepted before it. -/
def timely (s : Watched) : Op → Bool
  | .invalidate _ invalidatedAt => s.accepted.all (· ≤ invalidatedAt)
  | _ => true

structure Pending (cache : Cache) (since : List Time) : Prop where
  pending : ∀ mark, cache.invalidatedAt = some mark → ∀ time ∈ since, time ≤ mark
  clear : cache.invalidatedAt = none → since = []

structure Untimed (old new : Cache) : Prop where
  invalidatedAt : new.invalidatedAt = old.invalidatedAt
  highWater : new.precedenceHighWater = old.precedenceHighWater
  entry : ∀ entry ∈ new.entry, ∃ known ∈ old.entry, entry.observedAt = known.observedAt

theorem Untimed.refl (cache : Cache) : Untimed cache cache := ⟨rfl,rfl,fun entry known => ⟨entry,known,rfl⟩⟩

theorem untimed_syncPin (around : Surroundings) (cache : Cache) : Untimed cache (cache.syncPin around) := by
  refine ⟨rfl,rfl,fun entry found => ?_⟩
  obtain ⟨old,known,pin,rfl⟩ := Cache.syncPin_entry found
  exact ⟨old,known,rfl⟩

theorem untimed_removeEntry (cache : Cache) : Untimed cache cache.removeEntry := by
  unfold Cache.removeEntry
  split
  · exact .refl cache
  · refine ⟨rfl,rfl,fun entry found => ?_⟩
    cases found

theorem untimed_compact (config : CompactorConfig) (around : Surroundings) (now : Time) (cache : Cache) :
    Untimed cache (cache.compact config around now) := by
  have pinned := untimed_syncPin around cache
  unfold Cache.compact
  split
  · exact .refl cache
  rename_i entry there
  unfold Cache.compactEntry
  split
  · exact pinned
  · split
    · exact pinned
    · refine ⟨rfl,rfl,?_⟩
      rintro _ ⟨⟩
      exact pinned.entry entry there
  · split
    · exact pinned
    · refine ⟨rfl,rfl,fun entry found => ?_⟩
      cases found

section
variable {old new cache : Cache} {write : Write} {times since : List Time}

theorem Untimed.covers (untimed : Untimed old new) (covers : old.Covers times) : new.Covers times := by
  refine ⟨?_,?_,?_⟩
  · rw [untimed.highWater]
    exact covers.highWater
  · rw [untimed.invalidatedAt]
    exact covers.pending
  · intro clear entry found
    obtain ⟨known,there,same⟩ := untimed.entry entry found
    rw [same]
    exact covers.observed (untimed.invalidatedAt.symm.trans clear) known there

theorem Untimed.pending (untimed : Untimed old new) (due : Pending old since) : Pending new since := by
  constructor
  · rw [untimed.invalidatedAt]
    exact due.pending
  · rw [untimed.invalidatedAt]
    exact due.clear

theorem Pending.passes (due : Pending cache since) (passed : cache.rejectWriteByPrecedence write = none) :
    ∀ time ∈ since, time ≤ write.observedAt := by
  intro time mem
  cases known : cache.invalidatedAt with
  | none =>
    rw [due.clear known] at mem
    cases mem
  | some mark => exact Int.le_trans (due.pending mark known time mem) (Cache.pending_passes passed known)

variable {around : Surroundings} {invalidatedAt : Time}

theorem covers_accept {ttl : Time} (late : ∀ time ∈ times, time ≤ write.observedAt) :
    (cache.accept around write ttl).Covers (write.observedAt :: times) := by
  have all : ∀ time ∈ write.observedAt :: times, time ≤ write.observedAt := forall_mem_cons.mpr ⟨Int.le_refl _,late⟩
  refine ⟨fun time mem => ⟨_,rfl,Int.le_trans (all time mem) (le_later _ _)⟩,?_,?_⟩
  · intro mark known
    cases known
  · rintro _ entry ⟨⟩
    exact ⟨_,rfl,all⟩

theorem invalidate_times (around : Surroundings) (cache : Cache) (invalidatedAt : Time) :
    (cache.invalidate around invalidatedAt).invalidatedAt = some (later invalidatedAt cache.invalidatedAt) ∧
    (cache.invalidate around invalidatedAt).precedenceHighWater = some (later invalidatedAt cache.precedenceHighWater) := by
  unfold Cache.invalidate Cache.invalidateNoted
  split
  · exact ⟨rfl,rfl⟩
  split
  · exact ⟨rfl,rfl⟩
  split
  · exact ⟨rfl,rfl⟩
  · exact ⟨rfl,rfl⟩

theorem covers_invalidate (covers : cache.Covers times)
    (late : ∀ time ∈ times, time ≤ invalidatedAt) : (cache.invalidate around invalidatedAt).Covers times := by
  obtain ⟨marked,high⟩ := invalidate_times around cache invalidatedAt
  refine ⟨fun time mem => ⟨_,high,?_⟩,?_,?_⟩
  · obtain ⟨mark,known,bound⟩ := covers.highWater time mem
    exact Int.le_trans bound (later_ge known)
  · intro mark known time mem
    cases marked.symm.trans known
    exact Int.le_trans (late time mem) (le_later _ _)
  · intro clear
    cases marked.symm.trans clear

theorem Pending.invalidate (due : Pending cache since) :
    Pending (cache.invalidate around invalidatedAt) (invalidatedAt :: since) := by
  have marked := (invalidate_times around cache invalidatedAt).1
  refine ⟨fun mark known => ?_,fun clear => ?_⟩
  · cases marked.symm.trans known
    refine forall_mem_cons.mpr ⟨le_later _ _,fun time mem => ?_⟩
    cases before : cache.invalidatedAt with
    | none =>
      rw [due.clear before] at mem
      cases mem
    | some old => exact Int.le_trans (due.pending old before time mem) (later_ge rfl)
  · cases marked.symm.trans clear

end

section
variable {s next : Watched} {op : Op}

theorem generation_le (ran : step s op = some next) : s.cache.generation ≤ next.cache.generation := by
  cases op with
  | write around write =>
    cases ran
    unfold Watched.written
    split <;> exact Cache.write_generation_le
  | invalidate around invalidatedAt =>
    cases ran
    simp only [Cache.invalidate_generation]
    exact Nat.le_succ _
  | evict =>
    cases ran
    exact Nat.le_of_eq Cache.removeEntry_generation.symm
  | compact config around now =>
    cases ran
    exact Cache.compact_generation

/-- What a step is to the times of a key: nothing, a write that passed the comparisons, or an invalidation. -/
theorem step_cases (ran : step s op = some next) : (∃ cache, Untimed s.cache cache ∧ next = {s with cache := cache}) ∨
    (∃ around write ttl, (s.cache.syncPin around).rejectWriteByPrecedence write = none ∧
      next = ⟨(s.cache.syncPin around).accept around write ttl,write.observedAt :: s.accepted,[]⟩) ∨
    ∃ around invalidatedAt, op = .invalidate around invalidatedAt ∧
      next = {s with cache := s.cache.invalidate around invalidatedAt, since := invalidatedAt :: s.since} := by
  cases op with
  | write around write =>
    cases ran
    unfold Watched.written
    obtain ⟨rejected,same | same⟩ | ⟨accepted,_,passed,_,ttl,same⟩ := Cache.write_cases around s.cache write
    · rw [rejected,same]
      exact .inl ⟨_,.refl _,rfl⟩
    · rw [rejected,same]
      exact .inl ⟨_,untimed_syncPin around _,rfl⟩
    · rw [accepted,same]
      exact .inr (.inl ⟨around,write,ttl,passed,rfl⟩)
  | invalidate around invalidatedAt => exact .inr (.inr ⟨around,invalidatedAt,rfl,(Option.some.inj ran).symm⟩)
  | evict => exact .inl ⟨_,untimed_removeEntry _,(Option.some.inj ran).symm⟩
  | compact config around now => exact .inl ⟨_,untimed_compact config around now _,(Option.some.inj ran).symm⟩

theorem step_pending (due : Pending s.cache s.since) (ran : step s op = some next) : Pending next.cache next.since := by
  obtain ⟨cache,untimed,rfl⟩ | ⟨around,write,ttl,_,rfl⟩ | ⟨around,invalidatedAt,_,rfl⟩ := step_cases ran
  · exact untimed.pending due
  · refine ⟨fun mark known => ?_,fun _ => rfl⟩
    cases known
  · exact due.invalidate

structure InOrder (s : Watched) : Prop where
  covers : s.cache.Covers s.accepted
  sorted : s.accepted.Pairwise fun last first => first ≤ last

theorem step_inOrder (inOrder : InOrder s) (calm : timely s op = true) (ran : step s op = some next) : InOrder next := by
  obtain ⟨covers,sorted⟩ := inOrder
  obtain ⟨cache,untimed,rfl⟩ | ⟨around,write,ttl,passed,rfl⟩ | ⟨around,invalidatedAt,rfl,rfl⟩ := step_cases ran
  · exact ⟨untimed.covers covers,sorted⟩
  · have late := ((untimed_syncPin around s.cache).covers covers).passes passed
    exact ⟨covers_accept late,pairwise_cons.mpr ⟨late,sorted⟩⟩
  · exact ⟨covers_invalidate covers fun time mem => of_decide_eq_true (all_eq_true.mp calm time mem),sorted⟩

end

/-- No accepted write is older than an invalidation since the write accepted before it, generations never fall and an
invalidation raises them. Where no invalidation is older than an accepted write, accepted writes never go back. -/
theorem writes_never_go_back (ops : List Op) (s : Watched) :
    (Run step anyStep {} ops s →
      (∀ around write, (s.cache.write around write).2.accepted = true → ∀ time ∈ s.since, time ≤ write.observedAt) ∧
      (∀ op next, step s op = some next → s.cache.generation ≤ next.cache.generation) ∧
      ∀ around invalidatedAt, s.cache.generation < (s.cache.invalidate around invalidatedAt).generation) ∧
    (Run step (fun s op => timely s op = true) {} ops s → s.accepted.Pairwise fun last first => first ≤ last) := by
  refine ⟨fun run => ⟨fun around write accepted => ?_,fun op next ran => generation_le ran,
    fun around invalidatedAt => ?_⟩,fun run => ?_⟩
  · have pending := run.invariant (fun s => Pending s.cache s.since) (fun _ _ _ pending _ ran => step_pending pending ran)
      ⟨fun _ _ => forall_mem_nil _,fun _ => rfl⟩
    obtain ⟨rejected,_⟩ | ⟨_,_,passed,_⟩ := Cache.write_cases around s.cache write
    · cases rejected.symm.trans accepted
    · exact ((untimed_syncPin around s.cache).pending pending).passes passed
  · rw [Cache.invalidate_generation]
    exact Nat.lt_succ_self _
  · have initially : InOrder {} := ⟨⟨forall_mem_nil _,fun _ _ => forall_mem_nil _,fun _ _ found => by cases found⟩,.nil⟩
    exact (run.invariant InOrder (fun _ _ _ inOrder calm ran => step_inOrder inOrder calm ran) initially).sorted

def surroundings : Surroundings := {descriptor := some {effectiveFreshnessTTL := some 60}, sources := [.tooling]}

def passiveAt (time : Time) : Op := .write surroundings ⟨.passive,.high,{bytes := [1]},time,0⟩

def evicted (observedAt : Time) : List Op := [passiveAt observedAt,.evict,.invalidate surroundings 15,passiveAt 17]

theorem write_after_eviction_in_order :
    ∃ s, (Run step (fun s op => timely s op = true) {} (evicted 10) s ∧ s.accepted = [17,10]) ∧
      s.accepted.Pairwise fun last first => first ≤ last := by
  refine Exists.imp (fun _ found => ⟨found,?_⟩) (Run.exists_of_executeWhere _ (by decide +kernel))
  exact (writes_never_go_back _ _).2 found.1

theorem eviction_loses_accepted_time :
    ∃ s, Run step anyStep {} (evicted 20) s ∧ ¬ s.accepted.Pairwise fun last first => first ≤ last := by
  refine Exists.imp (fun s (found : _ ∧ s.accepted = [17,20]) => ⟨found.1,?_⟩) (Run.exists_of_execute _ (by decide +kernel))
  rw [found.2]
  decide

end EbusGateway.Shadow.Precedence
