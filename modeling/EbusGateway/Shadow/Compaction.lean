import EbusGateway.Shadow.Invalidation

/-! One compaction pass over all keys. The compactor list is cut at the cursor: `ahead` starts with the
element the cursor is at, and is empty where the cursor is nil. A pass counts down the length the list had,
while batches go on from its front at its end and lose the elements they remove.
-/
namespace EbusGateway.Shadow.Compaction
open List
variable {Key : Type}

structure Store (Key : Type) where
  keys : Key → Cache
  passed : List Key
  ahead : List Key
  nodup : (passed ++ ahead).Nodup
  listed : ∀ key, key ∈ passed ++ ahead ↔ (keys key).entry.isSome = true

def compactorBatchSize (option : Int) : Nat := if option ≤ 0 then 64 else option.toNat

def due (config : CompactorConfig) (now : Time) (entry : Entry) : Bool :=
  match entry.state with
  | .present => false
  | .invalidated => Cache.elapsed now entry.invalidatedAt config.tombstoneRetainWindow
  | .tombstone => Cache.elapsed now entry.invalidatedAt config.tombstoneHardLifespan

def Compacted (config : CompactorConfig) (now : Time) (before after : Cache) : Prop :=
  ∀ entry, before.entry = some entry →
    (due config now entry = false ∧ ∃ pin, after.entry = some {entry with pinClass := pin}) ∨
    (due config now entry = true ∧ entry.state = .invalidated ∧
      ∀ left, after.entry = some left → left.state = .tombstone ∧ left.value = {}) ∨
    (due config now entry = true ∧ entry.state = .tombstone ∧ after.entry = none ∧ before.generation < after.generation)

section
variable {config : CompactorConfig} {around : Surroundings} {now : Time} {before after : Cache}

theorem compact_absent (absent : before.entry = none) : before.compact config around now = before := by
  simp [Cache.compact,Cache.syncPin,absent]

theorem compacted_first (before : Cache) : Compacted config now before (before.compact config around now) := by
  intro entry found
  obtain ⟨pin,pinned⟩ := syncEntryPin_eq around entry
  have synced : (before.syncPin around).entry = some {entry with pinClass := pin} := by
    simp only [Cache.syncPin,found,Option.map_some,pinned]
  unfold due
  simp only [Cache.compact,synced,Cache.compactEntry]
  cases state : entry.state with
  | present =>
    rw [state] at synced
    exact .inl ⟨rfl,pin,synced⟩
  | invalidated =>
    rw [state] at synced
    cases Cache.elapsed now entry.invalidatedAt config.tombstoneRetainWindow with
    | false => exact .inl ⟨rfl,pin,synced⟩
    | true =>
      refine .inr (.inl ⟨rfl,rfl,?_⟩)
      rintro _ ⟨⟩
      exact ⟨rfl,rfl⟩
  | tombstone =>
    rw [state] at synced
    cases Cache.elapsed now entry.invalidatedAt config.tombstoneHardLifespan with
    | false => exact .inl ⟨rfl,pin,synced⟩
    | true => exact .inr (.inr ⟨rfl,rfl,rfl,Nat.lt_succ_self _⟩)

theorem Compacted.again (compacted : Compacted config now before after) :
    Compacted config now before (after.compact config around now) := by
  intro entry found
  obtain ⟨young,pin,held⟩ | ⟨old,invalidated,buried⟩ | ⟨old,tombstone,gone,advanced⟩ := compacted entry found
  · obtain ⟨_,last,same⟩ | ⟨ripe,_⟩ | ⟨ripe,_⟩ := compacted_first after _ held
    · exact .inl ⟨young,last,same⟩
    · cases young.symm.trans ripe
    · cases young.symm.trans ripe
  · refine .inr (.inl ⟨old,invalidated,fun left there => ?_⟩)
    cases held : after.entry with
    | none =>
      rw [compact_absent held,held] at there
      cases there
    | some last =>
      obtain ⟨tombstone,empty⟩ := buried last held
      obtain ⟨_,pin,same⟩ | ⟨_,state,_⟩ | ⟨_,_,missing,_⟩ := compacted_first after last held
      · cases same.symm.trans there
        exact ⟨tombstone,empty⟩
      · cases tombstone.symm.trans state
      · cases missing.symm.trans there
  · rw [compact_absent gone]
    exact .inr (.inr ⟨old,tombstone,gone,advanced⟩)

end

namespace Store

section
variable (s : Store Key)

def recut (passed ahead : List Key) (same : passed ++ ahead = s.passed ++ s.ahead) : Store Key :=
  {s with passed := passed, ahead := ahead, nodup := same ▸ s.nodup, listed := same ▸ s.listed}

def rewound : Store Key := if empty : s.ahead.isEmpty then s.recut [] s.passed (by simp [isEmpty_iff.mp empty]) else s

def nextCompactorBatch (size : Nat) : List Key × Store Key :=
  (s.rewound.ahead.take size,
    s.rewound.recut (s.rewound.passed ++ s.rewound.ahead.take size) (s.rewound.ahead.drop size) (by
      rw [append_assoc,take_append_drop]))

theorem rewound_order : s.rewound.ahead ++ s.rewound.passed = s.ahead ++ s.passed := by
  unfold rewound
  split
  · rename_i empty
    simp [recut,isEmpty_iff.mp empty]
  · rfl

theorem empty_batch {s : Store Key} {size : Nat} (positive : 0 < size)
    (empty : (s.nextCompactorBatch size).1 = []) : s.ahead ++ s.passed = [] := by
  have none : s.rewound.ahead = [] := (take_eq_nil_iff.mp empty).resolve_left positive.ne'
  unfold rewound at none
  split at none
  · rename_i nil
    rw [isEmpty_iff.mp nil]
    exact none
  · exact absurd (isEmpty_iff.mpr none) ‹_›

end

variable [DecidableEq Key] (config : CompactorConfig) (around : (Key → Cache) → Key → Surroundings) (now : Time) (s : Store Key)

def visit (key : Key) : Store Key :=
  let compacted := (s.keys key).compact config (around s.keys key) now
  let keep := fun other => other ≠ key || compacted.entry.isSome
  { keys := Function.update s.keys key compacted
    passed := s.passed.filter keep
    ahead := s.ahead.filter keep
    nodup := by
      rw [← filter_append]
      exact s.nodup.filter _
    listed := by
      intro other
      rw [← filter_append,mem_filter,s.listed]
      by_cases same : other = key
      · subst same
        simp only [Function.update_self,keep,ne_eq,not_true_eq_false,decide_false,Bool.false_or,and_iff_right_iff_imp]
        refine fun left => Option.isSome_iff_ne_none.mpr fun absent => ?_
        simp [compacted,compact_absent absent,absent] at left
      · simp [keep,same] }

def compactBatch (batch : List Key) : Store Key := batch.foldl (visit config around now) s

def batched (size : Nat) : Store Key := (s.nextCompactorBatch size).2.compactBatch config around now (s.nextCompactorBatch size).1

def compactPass (size remaining : Nat) (s : Store Key) : Store Key × List Key :=
  if remaining = 0 then (s,[])
  else
    let batch := (s.nextCompactorBatch size).1
    if batch = [] then (s,[])
    else
      let rest := compactPass size (remaining - batch.length) (s.batched config around now size)
      (rest.1,batch ++ rest.2)
termination_by remaining
decreasing_by
  rename_i begun empty
  exact Nat.sub_lt (Nat.pos_of_ne_zero begun) (length_pos_iff.mpr empty)

def compactOnce (option : Int) : Store Key × List Key :=
  s.compactPass config around now (compactorBatchSize option) (s.passed.length + s.ahead.length)

variable {config around now} {s} {start : Store Key} {seen : List Key}

def Reached (config : CompactorConfig) (now : Time) (start s : Store Key) (seen : List Key) : Prop :=
  ∀ key, (key ∈ seen → Compacted config now (start.keys key) (s.keys key)) ∧ (key ∉ seen → s.keys key = start.keys key)

theorem Reached.visit (reached : Reached config now start s seen) (key : Key) :
    Reached config now start (s.visit config around now key) (seen ++ [key]) := by
  intro other
  by_cases same : other = key
  · subst same
    refine ⟨fun _ => ?_,fun unseen => absurd (mem_append_right _ (.head _)) unseen⟩
    simp only [Store.visit,Function.update_self]
    by_cases before : other ∈ seen
    · exact ((reached other).1 before).again
    · rw [(reached other).2 before]
      exact compacted_first _
  · simp only [Store.visit,Function.update_of_ne same,mem_append,mem_singleton,same,or_false]
    exact reached other

theorem Reached.compactBatch (batch : List Key) (reached : Reached config now start s seen) :
    Reached config now start (s.compactBatch config around now batch) (seen ++ batch) := by
  induction batch generalizing s seen with
  | nil =>
    rw [append_nil]
    exact reached
  | cons key rest ih =>
    rw [append_cons]
    exact ih (reached.visit key)

/-- A batch removes only keys of its own from the list. -/
theorem compactBatch_lists (batch : List Key) (s : Store Key) : ∃ keep : Key → Bool, (∀ other ∉ batch, keep other = true) ∧
      (s.compactBatch config around now batch).passed = s.passed.filter keep ∧
      (s.compactBatch config around now batch).ahead = s.ahead.filter keep := by
  induction batch generalizing s with
  | nil => exact ⟨fun _ => true,fun _ _ => rfl,(filter_eq_self.mpr fun _ _ => rfl).symm,(filter_eq_self.mpr fun _ _ => rfl).symm⟩
  | cons key rest ih =>
    obtain ⟨keep,others,passed,ahead⟩ := ih (s.visit config around now key)
    refine ⟨_,fun other apart => ?_,passed.trans filter_filter,ahead.trans filter_filter⟩
    have differs : other ≠ key := fun same => apart (same ▸ .head _)
    simp [others other fun later => apart (.tail _ later),differs]

/-- After a batch, the keys behind it in the order of the cursor come first. -/
theorem batched_order (config : CompactorConfig) (around : (Key → Cache) → Key → Surroundings) (now : Time) (s : Store Key)
    (size : Nat) : ∃ rest kept, s.ahead ++ s.passed = (s.nextCompactorBatch size).1 ++ rest ∧
      (s.batched config around now size).ahead ++ (s.batched config around now size).passed = rest ++ kept := by
  obtain ⟨keep,others,passed,ahead⟩ := compactBatch_lists (s.nextCompactorBatch size).1 (s.nextCompactorBatch size).2
  have order : s.ahead ++ s.passed = (s.nextCompactorBatch size).1 ++ (s.rewound.ahead.drop size ++ s.rewound.passed) := by
    rw [← append_assoc,nextCompactorBatch,take_append_drop,rewound_order]
  have apart := disjoint_of_nodup_append (order ▸ nodup_append_comm.mp s.nodup)
  have stays := filter_eq_self.mpr fun other mem => others other fun own => apart own mem
  refine ⟨_,(s.nextCompactorBatch size).1.filter keep,order,?_⟩
  rw [batched,passed,ahead,← stays]
  simp only [nextCompactorBatch,recut,filter_append,append_assoc]

/-- The keys not seen yet are among the next ones in the order of the cursor, as many as remain. -/
theorem compactPass_complete (around : (Key → Cache) → Key → Surroundings) {size remaining : Nat}
    (positive : 0 < size) (reached : Reached config now start s seen)
    (ahead : ∀ key ∈ start.passed ++ start.ahead, key ∉ seen → key ∈ (s.ahead ++ s.passed).take remaining) :
    Reached config now start (s.compactPass config around now size remaining).1
    (seen ++ (s.compactPass config around now size remaining).2) ∧
    ∀ key ∈ start.passed ++ start.ahead, key ∈ seen ++ (s.compactPass config around now size remaining).2 := by
  induction remaining using Nat.strong_induction_on generalizing s seen with
  | _ remaining ih =>
    have ended (none : (s.ahead ++ s.passed).take remaining = []) :
        Reached config now start s (seen ++ []) ∧ ∀ key ∈ start.passed ++ start.ahead, key ∈ seen ++ [] := by
      rw [append_nil]
      refine ⟨reached,fun key mem => ?_⟩
      by_contra unseen
      exact not_mem_nil (none ▸ ahead key mem unseen)
    unfold compactPass
    split
    · rename_i done
      exact ended (by rw [done,take_zero])
    obtain ⟨rest,kept,order,after⟩ := batched_order config around now s size
    dsimp only
    split
    · rename_i empty
      exact ended (by rw [empty_batch positive empty,take_nil])
    rename_i more
    have moved : Reached config now start (s.nextCompactorBatch size).2 seen := by
      intro key
      have same : s.rewound.keys = s.keys := by
        unfold rewound
        split <;> rfl
      rw [nextCompactorBatch,recut,same]
      exact reached key
    rw [← append_assoc]
    refine ih _ (Nat.sub_lt (Nat.pos_of_ne_zero ‹_›) (length_pos_iff.mpr more)) (moved.compactBatch _) fun key mem unseen => ?_
    rw [mem_append,not_or] at unseen
    have next := ahead key mem unseen.1
    rw [order,take_append] at next
    rw [after,take_append]
    exact mem_append_left _ ((mem_append.mp next).resolve_left fun own => unseen.2 (mem_of_mem_take own))

/-- A pass visits every entry and does with each what its state and age call for. -/
theorem compactOnce_complete (config : CompactorConfig) (around : (Key → Cache) → Key → Surroundings) (now : Time) (option : Int)
    (s : Store Key) :
    (∀ key, (s.keys key).entry.isSome = true → key ∈ (s.compactOnce config around now option).2) ∧
    ∀ key, Compacted config now (s.keys key) ((s.compactOnce config around now option).1.keys key) := by
  have positive : 0 < compactorBatchSize option := by
    unfold compactorBatchSize
    split <;> omega
  have begun : Reached config now s s [] := fun key => ⟨fun mem => absurd mem not_mem_nil,fun _ => rfl⟩
  obtain ⟨reached,all⟩ := compactPass_complete around positive begun fun key mem _ => by
    rw [take_of_length_le (by rw [length_append,Nat.add_comm])]
    exact mem_append.mpr (mem_append.mp mem).symm
  refine ⟨fun key there => all key ((s.listed key).mpr there),fun key => ?_⟩
  cases there : (s.keys key).entry with
  | none => exact fun entry found => by cases there.symm.trans found
  | some => exact (reached key).1 (all key ((s.listed key).mpr (by rw [there]; rfl)))

end Store
end EbusGateway.Shadow.Compaction
