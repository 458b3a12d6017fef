import Mathlib.Data.List.Basic
import Mathlib.Data.Nat.ModEq

/-! The event log of the control service: a ring of the newest events, read from a cursor on. The journal beside
it is the log without a bound, with an event or a gap for every cursor. Notification is left out.
The `uint64` cursors are natural numbers: a run is taken to count none of them up to 2^64.
-/
namespace EbusGateway.RuntimeControl
open List

structure Event (α : Type) where
  cursor : Nat
  notice : α

structure EventPage (α : Type) where
  events : List (Event α) := []
  next : Nat
  resync : Bool := false

structure EventLog (α : Type) where
  capacity : Nat
  ring : Nat → Event α
  start : Nat := 0
  count : Nat := 0
  last : Nat := 0

variable {α : Type}

def defaultEventCapacity : Nat := 256
def maxEventCapacity : Nat := 4096

def newEventLog [Inhabited α] (capacity : Int) : EventLog α where
  capacity := if capacity ≤ 0 then defaultEventCapacity else min capacity.toNat maxEventCapacity
  ring _ := ⟨0,default⟩

namespace EventLog
variable (l : EventLog α)

def appendLocked (notice : α) : EventLog α :=
  let event := ⟨l.last + 1,notice⟩
  if l.count = l.capacity then
    {l with last := l.last + 1, ring := Function.update l.ring l.start event, start := (l.start + 1) % l.capacity}
  else
    {l with last := l.last + 1, ring := Function.update l.ring ((l.start + l.count) % l.capacity) event, count := l.count + 1}

def markGapLocked : EventLog α := {l with last := l.last + 1, start := 0, count := 0}

def publish (events : List α) (gap : Bool) : EventLog α := events.foldl appendLocked (if gap then l.markGapLocked else l)

def since (after : Nat) : EventPage α :=
  if l.last < after then {next := l.last, resync := true}
  else
    let oldest := if l.count = 0 then l.last + 1 else l.last - l.count + 1
    if after + 1 < oldest then {next := l.last, resync := true}
    else {
      next := l.last
      events := (range' (after + 1) (l.last - after)).map fun c => l.ring ((l.start + (c - oldest)) % l.capacity)}

end EventLog

abbrev Journal (α : Type) := List (Option α)

namespace Journal
variable (j : Journal α)

def publish (events : List α) (gap : Bool) : Journal α := (if gap then j ++ [none] else j) ++ events.map some

def entries : List (Option (Event α)) := j.mapIdx fun i notice => notice.map (⟨i + 1,·⟩)

def resumable (capacity after : Nat) : Bool :=
  after ≤ j.length && (j.entries.drop after).all (·.isSome) && j.length ≤ after + capacity

def answers (capacity after : Nat) (page : EventPage α) : Prop :=
  if j.resumable capacity after then page.resync = false ∧ page.next = j.length ∧ page.events.map some = j.entries.drop after
  else page.resync = true

theorem entries_append (more : List (Option α)) : ∃ rest, entries (j ++ more) = j.entries ++ rest := ⟨_,mapIdx_append⟩

@[simp] theorem length_entries : j.entries.length = j.length := length_mapIdx

end Journal

structure Holds (l : EventLog α) (j : Journal α) : Prop where
  start : l.start < l.capacity
  last : l.last = j.length
  count : l.count ≤ l.capacity ∧ l.count ≤ j.length
  window : ∀ i < l.count, j.entries[j.length - l.count + i]? = some (some (l.ring ((l.start + i) % l.capacity)))
  before : l.count = j.length ∨ l.count = l.capacity ∨ j[j.length - l.count - 1]? = some none

namespace Holds
variable {l : EventLog α} {j : Journal α}

theorem apart {start capacity i k : Nat} (less : i < k) (near : k < i + capacity) :
    (start + k) % capacity ≠ (start + i) % capacity := by
  intro same
  have divides := (Nat.modEq_iff_dvd' (by omega)).mp same.symm
  have := Nat.le_of_dvd (by omega) divides
  omega

section
variable (holds : Holds l j)
include holds

theorem append (notice : α) : Holds (l.appendLocked notice) (j ++ [some notice]) := by
  obtain ⟨start,last,⟨bounded,inside⟩,window,before⟩ := holds
  have old {i : Nat} (old : i < j.length) : (Journal.entries (j ++ [some notice]))[i]? = j.entries[i]? := by
    rw [Journal.entries,mapIdx_append]
    exact getElem?_append_left (by simpa using old)
  have new : (Journal.entries (j ++ [some notice]))[j.length]? = some (some ⟨l.last + 1,notice⟩) := by simp [Journal.entries,last]
  -- the events of the new window stand `d` places further on than those of the old
  have moved {d count : Nat} (grown : count + d = l.count + 1) (room : l.count < d + l.capacity) (i : Nat) (inside : i < count) :
      (Journal.entries (j ++ [some notice]))[(j ++ [some notice]).length - count + i]? = some (some (Function.update l.ring
        ((l.start + l.count) % l.capacity) ⟨l.last + 1,notice⟩ ((l.start + d + i) % l.capacity))) := by
    rw [length_append,length_singleton,Nat.add_assoc]
    by_cases newest : d + i = l.count
    · rw [newest,Function.update_self,← new]
      congr 1
      omega
    · rw [Function.update_of_ne (apart (by omega) (by omega)).symm,old (by omega),← window (d + i) (by omega)]
      congr 1
      omega
  unfold EventLog.appendLocked
  dsimp only
  split
  next full =>
    refine ⟨Nat.mod_lt _ (by omega),by simp [last],by simp; omega,fun i inside => ?_,.inr (.inl full)⟩
    have new := moved (d := 1) rfl (by omega) i inside
    rw [full,Nat.add_mod_right,Nat.mod_eq_of_lt start] at new
    dsimp only
    rw [Nat.mod_add_mod,full]
    exact new
  next free =>
    refine ⟨start,by simp [last],by simp; omega,moved (d := 0) rfl (by omega),?_⟩
    dsimp only
    rw [length_append,length_singleton,show j.length + 1 - (l.count + 1) - 1 = j.length - l.count - 1 by omega]
    rcases before with all | full | gap
    · exact .inl (by omega)
    · exact absurd full free
    · exact .inr (.inr ((getElem?_append_left (List.getElem?_eq_some_iff.mp gap).1).trans gap))

theorem gap : Holds l.markGapLocked (j ++ [none]) where
  start := Nat.zero_lt_of_lt holds.start
  last := by simp [EventLog.markGapLocked,holds.last]
  count := ⟨Nat.zero_le _,Nat.zero_le _⟩
  window i inside := absurd inside (Nat.not_lt_zero i)
  before := .inr (.inr (by simp [EventLog.markGapLocked]))

theorem publish (events : List α) (gap : Bool) : Holds (l.publish events gap) (j.publish events gap) := by
  have appended : ∀ l j, Holds l j → Holds (events.foldl EventLog.appendLocked l) (j ++ events.map some) := by
    induction events with
    | nil => simp
    | cons notice rest ih =>
      intro l j holds
      simpa using ih _ _ (holds.append notice)
  refine appended _ _ ?_
  cases gap
  · exact holds
  · exact holds.gap

theorem since (after : Nat) : j.answers l.capacity after (l.since after) := by
  obtain ⟨_,last,_,window,before⟩ := holds
  have oldest : (if l.count = 0 then j.length + 1 else j.length - l.count + 1) = j.length - l.count + 1 := by
    split <;> omega
  simp only [Journal.answers,EventLog.since,last,oldest,Journal.resumable,Bool.and_eq_true,decide_eq_true_eq]
  by_cases issued : j.length < after
  · rw [if_neg (by omega),if_pos issued]
  rw [if_neg issued]
  by_cases dropped : after + 1 < j.length - l.count + 1
  · rw [if_pos dropped,if_neg]
    rintro ⟨⟨_,events⟩,few⟩
    rcases before with all | full | gap
    · omega
    · omega
    · have place : (j.entries.drop after)[j.length - l.count - 1 - after]? = some none := by
        rw [getElem?_drop,show after + (j.length - l.count - 1 - after) = j.length - l.count - 1 by omega]
        simp [Journal.entries,gap]
      exact absurd (all_eq_true.mp events none (mem_of_getElem? place)) nofun
  · rw [if_neg dropped]
    have shown : ((range' (after + 1) (j.length - after)).map fun c =>
        l.ring ((l.start + (c - (j.length - l.count + 1))) % l.capacity)).map some = j.entries.drop after := by
      apply List.ext_getElem?
      intro i
      rw [map_map,getElem?_map,getElem?_drop]
      by_cases inside : i < j.length - after
      · have place := window (after + i - (j.length - l.count)) (by omega)
        rw [show j.length - l.count + (after + i - (j.length - l.count)) = after + i by omega] at place
        rw [place,getElem?_range' inside,Option.map_some,Function.comp_apply,
          show after + 1 + 1 * i - (j.length - l.count + 1) = after + i - (j.length - l.count) by omega]
      · rw [getElem?_eq_none (by simpa using inside),getElem?_eq_none (by simp; omega),Option.map_none]
    rw [if_pos ⟨⟨by omega,by rw [← shown]; simp⟩,by omega⟩]
    exact ⟨rfl,rfl,shown⟩

end

end Holds

theorem newEventLog_holds [Inhabited α] (capacity : Int) : Holds (newEventLog (α := α) capacity) [] where
  start := by
    simp only [newEventLog,defaultEventCapacity,maxEventCapacity]
    split <;> omega
  last := rfl
  count := ⟨Nat.zero_le _,Nat.le_refl _⟩
  window i inside := absurd inside (Nat.not_lt_zero i)
  before := .inl rfl

structure Session (α : Type) where
  log : EventLog α
  journal : Journal α := []
  cursor : Nat
  seen : List (Event α) := []
  told : Bool := false

inductive Call (α : Type)
  | publish (events : List α) (gap : Bool)
  | resume

def Session.step (s : Session α) : Call α → Session α
  | .publish events gap => {s with log := s.log.publish events gap, journal := s.journal.publish events gap}
  | .resume =>
    let page := s.log.since s.cursor
    if page.resync then {s with told := true} else {s with cursor := page.next, seen := s.seen ++ page.events}

structure Session.Read (start : Nat) (s : Session α) : Prop where
  holds : Holds s.log s.journal
  seen : s.told = false → s.seen = [] ∧ s.cursor = start ∨ start ≤ s.journal.length ∧
    s.cursor ≤ s.journal.length ∧ s.seen.map some ++ s.journal.entries.drop s.cursor = s.journal.entries.drop start

theorem Session.Read.step {start : Nat} {s : Session α} (read : s.Read start) (call : Call α) : (s.step call).Read start := by
  obtain ⟨holds,seen⟩ := read
  cases call with
  | publish events gap =>
    refine ⟨holds.publish events gap,fun told => (seen told).imp_right fun ⟨first,issued,seen⟩ => ?_⟩
    obtain ⟨more,grown⟩ : ∃ more, s.journal.publish events gap = s.journal ++ more := by
      cases gap
      · exact ⟨_,rfl⟩
      · exact ⟨_,append_assoc _ _ _⟩
    obtain ⟨rest,entries⟩ := s.journal.entries_append more
    simp only [Session.step,grown,entries,length_append]
    rw [drop_append_of_le_length (by simpa using issued),drop_append_of_le_length (by simpa using first),← seen,append_assoc]
    exact ⟨by omega,by omega,rfl⟩
  | resume =>
    have answer := holds.since s.cursor
    unfold Session.step Journal.answers at *
    dsimp only
    split at answer
    next resumable =>
      obtain ⟨resumed,next,events⟩ := answer
      rw [if_neg (by simp [resumed])]
      refine ⟨holds,fun told => ?_⟩
      simp only [Journal.resumable,Bool.and_eq_true,decide_eq_true_eq] at resumable
      dsimp only
      rw [map_append,events,next,drop_eq_nil_of_le s.journal.length_entries.le,append_nil]
      rcases seen told with ⟨none,first⟩ | ⟨first,_,seen⟩
      · rw [none,← first]
        exact .inr ⟨resumable.1.1,Nat.le_refl _,rfl⟩
      · exact .inr ⟨first,Nat.le_refl _,seen⟩
    next refused =>
      rw [if_pos answer]
      exact ⟨holds,nofun⟩

/-- After any calls every cursor is answered exactly: a resumable one with all events after it, any other with a
resync. What a reader saw, if it was never told to resynchronise, and what follows its cursor is all there is. -/
theorem resumption_exact [Inhabited α] (capacity : Int) (calls : List (Call α)) (start after : Nat) :
    let s := calls.foldl Session.step {log := newEventLog capacity, cursor := start}
    s.journal.answers s.log.capacity after (s.log.since after) ∧
    (s.told = false → s.seen.map some ++ s.journal.entries.drop s.cursor = s.journal.entries.drop start) := by
  have read : ∀ s : Session α, s.Read start → (calls.foldl Session.step s).Read start := by
    induction calls with
    | nil => exact fun _ read => read
    | cons call rest ih => exact fun s read => ih _ (read.step call)
  obtain ⟨holds,seen⟩ := read {log := newEventLog capacity, cursor := start} ⟨newEventLog_holds capacity,fun _ => .inl ⟨rfl,rfl⟩⟩
  refine ⟨holds.since after,fun told => ?_⟩
  rcases seen told with ⟨none,first⟩ | ⟨_,_,seen⟩
  · rw [none,first]
    rfl
  · exact seen

theorem published_pair_read :
    let s := [Call.publish [1,2] false,.resume].foldl Session.step {log := newEventLog 2, cursor := 0}
    s.told = false ∧ s.seen.map some ++ s.journal.entries.drop s.cursor = s.journal.entries.drop 0 :=
  ⟨rfl,(resumption_exact 2 [.publish [1,2] false,.resume] 0 0).2 rfl⟩

end EbusGateway.RuntimeControl
