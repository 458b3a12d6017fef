import Mathlib.Data.List.Sort

/-! One cycle of the revalidation of the known bus members. Time passes before every look at the context, during a
probe and after it, by amounts that are chosen, and so is from when on the context is cancelled. A member is probed
at most once, so what the surroundings answer is a function of its address.
-/
namespace EbusGateway.Revalidation
open List

inductive Outcome
  | responder
  | noReply
  | skippedPassiveRefresh
deriving DecidableEq

def revalidationCap : Int := 32

structure KnownBusMember (Time : Type) where
  addr : UInt8
  lastSeenAt : Time

structure ProbeResult where
  addr : UInt8
  outcome : Outcome
deriving DecidableEq

structure Probe where
  addr : UInt8
  returned : Nat

structure Surroundings where
  passivelyRefreshed : UInt8 → Bool
  probe : UInt8 → Bool
  cancelled : Nat → Bool
  stays : ∀ now later, now ≤ later → cancelled now = true → cancelled later = true
  before : UInt8 → Nat
  duration : UInt8 → Nat
  after : UInt8 → Nat

/-- The result with the outcomes counted, the probes issued and the time. -/
structure Cycle where
  probed : List ProbeResult := []
  postponed : List UInt8 := []
  counted : List Outcome := []
  issued : List Probe := []
  now : Nat := 0

namespace Cycle
variable (cycle : Cycle)

def record (addr : UInt8) (outcome : Outcome) : Cycle :=
  {cycle with probed := cycle.probed ++ [⟨addr,outcome⟩], counted := cycle.counted ++ [outcome]}

def postpone (addrs : List UInt8) : Cycle := {cycle with postponed := cycle.postponed ++ addrs}

def issue (addr : UInt8) (duration after : Nat) : Cycle :=
  {cycle with issued := cycle.issued ++ [⟨addr,cycle.now + duration⟩], now := cycle.now + duration + after}

end Cycle

section
variable {Time : Type}

def less [LinearOrder Time] (a b : KnownBusMember Time) : Bool :=
  if a.lastSeenAt ≠ b.lastSeenAt then b.lastSeenAt < a.lastSeenAt else a.addr < b.addr

def orderedMembers [LinearOrder Time] (members : List (KnownBusMember Time)) :
    List (KnownBusMember Time) := members.insertionSort (fun a b => ¬less b a)

/-- The body of the loop, with whether it goes on; where it does not, it returns and postpones what is left. -/
def visit (world : Surroundings) (cap : Int) (addr : UInt8) (cycle : Cycle) : Cycle × Bool :=
  if world.cancelled cycle.now then (cycle,false)
  else if world.passivelyRefreshed addr then (cycle.record addr .skippedPassiveRefresh,true)
  else if cap ≤ cycle.issued.length then (cycle.postpone [addr],true)
  else
    let probed := cycle.issue addr (world.duration addr) (world.after addr)
    if world.probe addr then (probed.record addr .responder,true)
    else if world.cancelled probed.now then (probed,false)
    else (probed.record addr .noReply,true)

def loop (world : Surroundings) (cap : Int) : List (KnownBusMember Time) → Cycle → Cycle
  | [], cycle => cycle
  | m :: rest, cycle =>
    match visit world cap m.addr {cycle with now := cycle.now + world.before m.addr} with
    | (cycle,true) => loop world cap rest cycle
    | (cycle,false) => cycle.postpone ((m :: rest).map (·.addr))

/-- A cap of zero stands for the default one. -/
def run [LinearOrder Time] (world : Surroundings) (cap : Int) (members : List (KnownBusMember Time)) : Cycle :=
  loop world (if cap = 0 then revalidationCap else cap) (orderedMembers members) {}

end

variable {world : Surroundings} {cap : Int} {addr : UInt8} {cycle : Cycle} {done : List UInt8}

/-- A cycle that has dealt with these members: each is probed or postponed, and the probes issued are those of the
first that were not refreshed. -/
structure Partition (world : Surroundings) (cap : Int) (done : List UInt8) (cycle : Cycle) : Prop where
  once : (cycle.probed.map (·.addr) ++ cycle.postponed).Perm done
  front : cycle.issued.map (·.addr) <+: done.filter (!world.passivelyRefreshed ·)
  capped : cycle.issued.length ≤ cap.toNat
  live : ∀ addr, ⟨addr,.noReply⟩ ∈ cycle.probed → ∃ probe ∈ cycle.issued, probe.addr = addr ∧ world.cancelled probe.returned = false

/-- While there is room, every member that was not refreshed has been probed. -/
structure Going (world : Surroundings) (cap : Int) (done : List UInt8) (cycle : Cycle) :
    Prop extends Partition world cap done cycle where
  full : cap ≤ cycle.issued.length ∨ cycle.issued.map (·.addr) = done.filter (!world.passivelyRefreshed ·)

theorem Partition.postpone (partition : Partition world cap done cycle) (rest : List UInt8) :
    Partition world cap (done ++ rest) (cycle.postpone rest) := by
  refine {partition with once := ?_, front := ?_}
  · rw [Cycle.postpone,← append_assoc]
    exact partition.once.append_right rest
  · rw [filter_append]
    exact partition.front.trans (prefix_append _ _)

theorem record_once {outcome : Outcome} (once : (cycle.probed.map (·.addr) ++ cycle.postponed).Perm done) :
    ((cycle.record addr outcome).probed.map (·.addr) ++ cycle.postponed).Perm (done ++ [addr]) := by
  rw [Cycle.record,map_append,append_assoc]
  exact perm_middle.trans ((once.cons addr).trans (perm_append_singleton addr done).symm)

namespace Going
variable (going : Going world cap done cycle)
include going

theorem refreshed (refreshed : world.passivelyRefreshed addr = true) :
    Going world cap (done ++ [addr]) (cycle.record addr .skippedPassiveRefresh) := by
  have same : (done ++ [addr]).filter (!world.passivelyRefreshed ·) = done.filter (!world.passivelyRefreshed ·) := by simp [refreshed]
  refine ⟨⟨record_once going.once,same ▸ going.front,going.capped,fun other mem => going.live other ?_⟩,same ▸ going.full⟩
  simpa [Cycle.record] using mem

theorem issued (fresh : ¬world.passivelyRefreshed addr = true) (room : ¬cap ≤ cycle.issued.length) (duration after : Nat) :
    (cycle.issue addr duration after).issued.map (·.addr) = (done ++ [addr]).filter (!world.passivelyRefreshed ·) ∧
      (cycle.issue addr duration after).issued.length ≤ cap.toNat := by
  constructor
  · have all := going.full.resolve_left room
    simp [Cycle.issue,all,fresh]
  · simp only [Cycle.issue,length_append,length_singleton]
    omega

theorem answered {outcome : Outcome} {duration after : Nat} (fresh : ¬world.passivelyRefreshed addr = true)
    (room : ¬cap ≤ cycle.issued.length) (live : outcome = .noReply → world.cancelled (cycle.now + duration) = false) :
    Going world cap (done ++ [addr]) ((cycle.issue addr duration after).record addr outcome) := by
  obtain ⟨all,capped⟩ := going.issued fresh room duration after
  refine ⟨⟨record_once going.once,all ▸ prefix_rfl,capped,fun other mem => ?_⟩,.inr all⟩
  rcases mem_append.mp mem with before | now
  · obtain ⟨probe,inside,found⟩ := going.live other before
    exact ⟨probe,mem_append_left _ inside,found⟩
  · obtain ⟨rfl,same⟩ := (by simpa using now : other = addr ∧ Outcome.noReply = outcome)
    exact ⟨_,mem_append_right _ mem_cons_self,rfl,live same.symm⟩

/-- One turn of the loop goes on, or leaves off with the members that are left postponed. -/
theorem visit (addr : UInt8) : if (visit world cap addr cycle).2 then Going world cap (done ++ [addr]) (visit world cap addr cycle).1
    else ∀ rest, Partition world cap (done ++ addr :: rest) ((visit world cap addr cycle).1.postpone (addr :: rest)) := by
  unfold Revalidation.visit
  split
  · exact fun rest => going.postpone (addr :: rest)
  split
  · rename_i refreshed
    exact going.refreshed refreshed
  rename_i fresh
  split
  · rename_i full
    exact ⟨going.postpone [addr],.inl full⟩
  rename_i room
  dsimp only
  split
  · exact going.answered fresh room nofun
  split
  · intro rest
    obtain ⟨all,capped⟩ := going.issued fresh room (world.duration addr) (world.after addr)
    refine ⟨(going.postpone (addr :: rest)).once,?_,capped,fun other mem => ?_⟩
    · rw [append_cons,filter_append]
      exact all ▸ prefix_append _ _
    · obtain ⟨probe,inside,found⟩ := going.live other mem
      exact ⟨probe,mem_append_left _ inside,found⟩
  · rename_i live
    refine going.answered fresh room fun _ => Bool.eq_false_iff.mpr fun cancelled => live ?_
    exact world.stays _ _ (Nat.le_add_right _ _) cancelled

end Going

theorem loop_partition {Time : Type} {members : List (KnownBusMember Time)} (going : Going world cap done cycle) :
    Partition world cap (done ++ members.map (·.addr)) (loop world cap members cycle) := by
  induction members generalizing done cycle with
  | nil => simpa [loop] using going.toPartition
  | cons m rest ih =>
    have waited : Going world cap done {cycle with now := cycle.now + world.before m.addr} := {going with}
    have turn := waited.visit m.addr
    unfold loop
    split
    all_goals
      rename_i next found
      rw [found] at turn
    · rw [map_cons,append_cons]
      exact ih turn
    · exact turn _

section
variable {Time : Type} [LinearOrder Time] {members : List (KnownBusMember Time)}

theorem not_less {a b : KnownBusMember Time} :
    ¬less b a ↔ b.lastSeenAt < a.lastSeenAt ∨ a.lastSeenAt = b.lastSeenAt ∧ a.addr ≤ b.addr := by
  unfold less
  by_cases same : a.lastSeenAt = b.lastSeenAt
  · simp [same]
  · simp [same,Ne.symm same,le_iff_lt_or_eq]

theorem orderedMembers_sorted (distinct : (members.map (·.addr)).Nodup) : (orderedMembers members).Perm members ∧
    (orderedMembers members).Pairwise fun a b => b.lastSeenAt < a.lastSeenAt ∨ a.lastSeenAt = b.lastSeenAt ∧ a.addr < b.addr := by
  have same : (orderedMembers members).Perm members := perm_insertionSort _ _
  refine ⟨same,?_⟩
  have apart : (orderedMembers members).Pairwise fun a b => a.addr ≠ b.addr := pairwise_map.mp ((same.map _).nodup_iff.mpr distinct)
  have sorted : (orderedMembers members).Pairwise fun a b => b.lastSeenAt < a.lastSeenAt ∨
    a.lastSeenAt = b.lastSeenAt ∧ a.addr ≤ b.addr := by
    have total : Std.Total fun a b : KnownBusMember Time => ¬less b a := ⟨fun a b => by grind [less]⟩
    have transitive : IsTrans (KnownBusMember Time) fun a b => ¬less b a := ⟨fun a b c => by grind [less]⟩
    exact (pairwise_insertionSort _ members).imp not_less.mp
  refine (apart.and sorted).imp fun ⟨apart,order⟩ => order.imp_right fun ⟨seen,least⟩ => ⟨seen,?_⟩
  exact UInt8.lt_of_le_of_ne least apart

/-- A cycle probes or postpones every member exactly once. It issues at most one probe for an address and no more
than the cap, for the first members in order that were not passively refreshed, and it takes a member for silent
only if its probe returned while the context was live. -/
theorem revalidation_partitions (world : Surroundings) (cap : Int) (distinct : (members.map (·.addr)).Nodup) {result : Cycle}
    (ran : run world cap members = result) :
    (result.probed.map (·.addr) ++ result.postponed).Nodup ∧
    (∀ addr, addr ∈ result.probed.map (·.addr) ++ result.postponed ↔ addr ∈ members.map (·.addr)) ∧
    (result.issued.map (·.addr)).Nodup ∧ result.issued.length ≤ (if cap = 0 then revalidationCap else cap).toNat ∧
    (∃ queue : List (KnownBusMember Time), queue.Perm members ∧
      queue.Pairwise (fun a b => b.lastSeenAt < a.lastSeenAt ∨ a.lastSeenAt = b.lastSeenAt ∧ a.addr < b.addr) ∧
      result.issued.map (·.addr) <+: (queue.filter (!world.passivelyRefreshed ·.addr)).map (·.addr)) ∧
    ∀ addr, ⟨addr,.noReply⟩ ∈ result.probed → ∃ probe ∈ result.issued, probe.addr = addr ∧
      world.cancelled probe.returned = false := by
  subst ran
  obtain ⟨same,sorted⟩ := orderedMembers_sorted distinct
  have addrs := same.map (·.addr)
  obtain ⟨once,front,capped,live⟩ : Partition world (if cap = 0 then revalidationCap else cap) _ (run world cap members) :=
    loop_partition ⟨⟨.nil, nil_prefix,Nat.zero_le _,nofun⟩,.inr rfl⟩
  have all := once.trans addrs
  have queue : (run world cap members).issued.map (·.addr) <+: ((orderedMembers members).filter
    (!world.passivelyRefreshed ·.addr)).map (·.addr) := by
    rw [nil_append,filter_map] at front
    exact front
  refine ⟨all.nodup_iff.mpr distinct,fun addr => all.mem_iff,?_,capped,⟨_,same,sorted,queue⟩,live⟩
  exact queue.sublist.nodup ((filter_sublist.map _).nodup (addrs.nodup_iff.mpr distinct))

end

def quietBus : Surroundings where
  passivelyRefreshed addr := addr = 5
  probe _ := false
  cancelled now := 9 ≤ now
  stays _ _ order reached := decide_eq_true ((of_decide_eq_true reached).trans order)
  before _ := 1
  duration _ := 2
  after _ := 0

def cached : List (KnownBusMember Nat) := [⟨8,1⟩,⟨5,2⟩,⟨3,1⟩]

theorem silent_while_live : (run quietBus 1 cached).probed = [⟨5,.skippedPassiveRefresh⟩,⟨3,.noReply⟩] ∧
    (run quietBus 1 cached).postponed = [8] ∧ ∃ probe ∈ (run quietBus 1 cached).issued,
      probe.addr = 3 ∧ quietBus.cancelled probe.returned = false := by
  have probed : (run quietBus 1 cached).probed = [⟨5,.skippedPassiveRefresh⟩,⟨3,.noReply⟩] := by decide +kernel
  have postponed : (run quietBus 1 cached).postponed = [8] := by decide +kernel
  obtain ⟨_,_,_,_,_,live⟩ := revalidation_partitions quietBus 1 (by decide : (cached.map (·.addr)).Nodup) rfl
  exact ⟨probed,postponed,live 3 (by simp [probed])⟩

end EbusGateway.Revalidation
