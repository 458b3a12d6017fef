import EbusGateway.Arbitration
import Mathlib.Data.Prod.Lex
import Mathlib.Data.List.Nodup

/-! The selection at a SYN. A bid ranks by the low nibble of its address, then the high nibble, then its
session; the selection splits the eligible bids into the first of them and the others.
-/
namespace EbusGateway
open List

def StartRequest.priority (request : StartRequest) : Nat ×ₗ Nat ×ₗ Nat :=
  toLex (request.initiator.toNat % 16,toLex (request.initiator.toNat / 16,request.sessionID))

theorem low_nibble (initiator : UInt8) : (initiator &&& 0x0f).toNat = initiator.toNat % 16 := by
  rw [UInt8.toNat_and]
  exact Nat.and_two_pow_sub_one_eq_mod _ 4

theorem high_nibble (initiator : UInt8) : (initiator >>> 4).toNat = initiator.toNat / 16 := by
  rw [UInt8.toNat_shiftRight]
  exact Nat.shiftRight_eq_div_pow _ 4

theorem higherPriority_iff (a b : StartRequest) : higherPriority a b = true ↔ a.priority < b.priority := by
  have low : a.initiator &&& 0x0f ≠ b.initiator &&& 0x0f ↔ a.initiator.toNat % 16 ≠ b.initiator.toNat % 16 := by
    rw [Ne,← UInt8.toNat_inj,low_nibble,low_nibble]
  have same : a.initiator ≠ b.initiator ↔ a.initiator.toNat ≠ b.initiator.toNat := by rw [Ne,← UInt8.toNat_inj]
  unfold higherPriority StartRequest.priority
  simp only [Prod.Lex.toLex_lt_toLex,low,same]
  split
  · rw [decide_eq_true_eq,UInt8.lt_iff_toNat_lt,low_nibble,low_nibble]
    omega
  split
  · rw [decide_eq_true_eq,UInt8.lt_iff_toNat_lt,high_nibble,high_nibble]
    omega
  · rw [decide_eq_true_eq]
    omega

namespace Arbitrator

variable {winner : StartRequest} {queue losers : List StartRequest} {a : Arbitrator} {bids : Option Bids} {next : Arbitrator}

theorem selectWinner_least {bids : List StartRequest} (won : selectWinner bids = some winner) :
    ∀ bid ∈ bids, winner.priority ≤ bid.priority := by
  cases bids with
  | nil => exact fun _ member => nomatch member
  | cons first rest =>
    cases won
    -- the best so far never gets worse, and is no worse than any bid that was compared
    suffices kept : ∀ best, (rest.foldl (fun winner req => if higherPriority req winner then req else winner) best).priority ≤
        best.priority ∧ ∀ bid ∈ rest,
          (rest.foldl (fun winner req => if higherPriority req winner then req else winner) best).priority ≤ bid.priority from
      forall_mem_cons.mpr (kept first)
    induction rest with
    | nil => exact fun best => ⟨le_rfl,forall_mem_nil _⟩
    | cons req others ih =>
      intro best
      rw [foldl_cons]
      split
      · rename_i higher
        obtain ⟨first,later⟩ := ih req
        exact ⟨first.trans ((higherPriority_iff _ _).mp higher).le,forall_mem_cons.mpr ⟨first,later⟩⟩
      rename_i lower
      obtain ⟨first,later⟩ := ih best
      rw [higherPriority_iff,not_lt] at lower
      exact ⟨first,forall_mem_cons.mpr ⟨first.trans lower,later⟩⟩

structure Queued (a : Arbitrator) (channels : Nat) : Prop where
  gateway : ∀ request ∈ a.pendingGateway, request.sessionID = gatewaySessionID ∧ request.id < channels
  external : ∀ request ∈ a.pendingExternal, request.sessionID ≠ gatewaySessionID ∧ request.id < channels
  sessions : (a.pendingExternal.map (·.sessionID)).Nodup
  identities : (a.pendingExternal.map (·.id)).Nodup
  apart : ∀ request ∈ a.pendingGateway, ∀ other ∈ a.pendingExternal, request.id ≠ other.id
  single : a.pendingGateway = none ∨ a.deferredGatewayLoser = none

/-- What the mux's `expireGatewayAdmission` does to the queues. -/
def expireAdmission (a : Arbitrator) (notify : Nat) : Arbitrator :=
  if a.pendingGateway.any (·.notify = notify) then {a with pendingGateway := none}
  else if a.deferredGatewayLoser.any (·.notify = notify) then {a with deferredGatewayLoser := none}
  else a

inductive Operation
  | requestStart (sessionID : Nat) (initiator : UInt8)
  | cancelStart (sessionID : Nat)
  | selectBidsAtSYN (busIdle : Bool) (bids : Option Bids)
  | takeDeferredGatewayLoser (request : Option StartRequest)
  | expireAdmission (notify : Nat)
  | confirmOwnership (sessionID : Nat) (initiator : UInt8)
  | releaseOwnership (sessionID : Nat)
  | fenceLifecycle
  | forceRelease
  | failAllPending (err : StartError)

def apply (state : Arbitrator × Nat) : Operation → Arbitrator × Nat
  | .requestStart sessionID initiator => ((state.1.requestStart sessionID initiator state.2).1,state.2 + 1)
  | .cancelStart sessionID => ((state.1.cancelStart sessionID).1,state.2)
  | .selectBidsAtSYN busIdle bids => ((state.1.selectBidsAtSYN busIdle bids).1,state.2)
  | .takeDeferredGatewayLoser request => ((state.1.takeDeferredGatewayLoser request).1,state.2)
  | .expireAdmission notify => (state.1.expireAdmission notify,state.2)
  | .confirmOwnership sessionID initiator => (state.1.confirmOwnership sessionID initiator,state.2)
  | .releaseOwnership sessionID => (state.1.releaseOwnership sessionID,state.2)
  | .fenceLifecycle => (state.1.fenceLifecycle,state.2)
  | .forceRelease => (state.1.forceRelease,state.2)
  | .failAllPending err => ((state.1.failAllPending err).1,state.2)

def run (operations : List Operation) : Arbitrator := (operations.foldl apply ({},0)).1

theorem submit_identities (req : StartRequest) (fresh : ∀ old ∈ queue, old.id ≠ req.id) (distinct : (queue.map (·.id)).Nodup) :
    ((submit req queue).1.map (·.id)).Nodup ∧ ∀ bid ∈ (submit req queue).1, bid.id = req.id ∨ ∃ old ∈ queue, bid.id = old.id := by
  induction queue with
  | nil => exact ⟨nodup_singleton _,fun bid member => .inl (by simp_all [submit])⟩
  | cons first rest ih =>
    obtain ⟨new,others⟩ := forall_mem_cons.mp fresh
    rw [map_cons,nodup_cons] at distinct
    simp only [submit]
    split
    · obtain ⟨nodup,origin⟩ := ih others distinct.2
      refine ⟨?_,?_⟩
      · rw [map_cons,nodup_cons]
        refine ⟨fun member => ?_,nodup⟩
        obtain ⟨bid,inside,same⟩ := mem_map.mp member
        rcases origin bid inside with asked | ⟨old,present,kept⟩
        · exact new (same.symm.trans asked)
        · exact distinct.1 (mem_map.mpr ⟨old,present,kept.symm.trans same⟩)
      · refine forall_mem_cons.mpr ⟨.inr ⟨first,.head _,rfl⟩,fun bid inside => ?_⟩
        rcases origin bid inside with asked | ⟨old,present,kept⟩
        · exact .inl asked
        · exact .inr ⟨old,mem_cons_of_mem _ present,kept⟩
    · have later : ∀ bid ∈ rest, bid.id = req.id ∨ ∃ old ∈ first :: rest, bid.id = old.id :=
        fun bid inside => .inr ⟨bid,mem_cons_of_mem _ inside,rfl⟩
      split
      · exact ⟨nodup_cons.mpr distinct,forall_mem_cons.mpr ⟨.inr ⟨first,.head _,rfl⟩,later⟩⟩
      refine ⟨nodup_cons.mpr ⟨fun member => ?_,distinct.2⟩,forall_mem_cons.mpr ⟨.inl rfl,later⟩⟩
      obtain ⟨old,inside,same⟩ := mem_map.mp member
      exact others old inside same

namespace Queued

variable {a : Arbitrator} {channels : Nat}

section
variable (queued : Queued a channels)
include queued

theorem later : Queued a (channels + 1) :=
  ⟨fun req member => (queued.gateway req member).imp_right Nat.lt_succ_of_lt,
    fun req member => (queued.external req member).imp_right Nat.lt_succ_of_lt,
    queued.sessions,queued.identities,queued.apart,queued.single⟩

theorem fewer {pendingGateway deferred : Option StartRequest} {pendingExternal : List StartRequest}
    (gateway : ∀ req ∈ pendingGateway, req ∈ a.pendingGateway) (outer : pendingExternal.Sublist a.pendingExternal)
    (single : pendingGateway = none ∨ deferred = none) :
    Queued {a with pendingGateway := pendingGateway, deferredGatewayLoser := deferred, pendingExternal := pendingExternal} channels :=
  ⟨fun req member => queued.gateway req (gateway req member),
    fun req member => queued.external req (outer.subset member),
    queued.sessions.sublist (outer.map _),queued.identities.sublist (outer.map _),
    fun req member other inside => queued.apart req (gateway req member) other (outer.subset inside),single⟩

theorem requestStart (sessionID : Nat) (initiator : UInt8) :
    Queued (a.requestStart sessionID initiator channels).1 (channels + 1) := by
  unfold Arbitrator.requestStart
  dsimp only
  split
  · rename_i own
    refine ⟨?_,queued.later.external,queued.sessions,queued.identities,?_,.inr rfl⟩
    · rintro _ ⟨⟩
      exact ⟨own,Nat.lt_succ_self _⟩
    · rintro _ ⟨⟩ other inside
      exact (queued.external other inside).2.ne'
  · rename_i other
    have fresh : ∀ old ∈ a.pendingExternal, old.id ≠ channels := fun old inside => (queued.external old inside).2.ne
    obtain ⟨distinct,origin⟩ := submit_identities ⟨channels,sessionID,initiator,channels,false⟩ fresh queued.identities
    refine ⟨queued.later.gateway,fun bid member => ⟨?_,?_⟩,?_,distinct,fun req held bid member => ?_,queued.single⟩
    · rcases submit_mem member with rfl | ⟨old,inside,same,_⟩
      · exact other
      · exact same ▸ (queued.external old inside).1
    · rcases origin bid member with asked | ⟨old,inside,same⟩
      · exact asked ▸ Nat.lt_succ_self channels
      · exact same ▸ (queued.later.external old inside).2
    · rcases submit_sessions ⟨channels,sessionID,initiator,channels,false⟩ a.pendingExternal with kept | ⟨absent,added⟩
      · exact kept ▸ queued.sessions
      · rw [added]
        exact nodup_append.mpr ⟨queued.sessions,nodup_singleton _,fun session inside other equal => by
          rw [mem_singleton.mp equal]
          exact fun same => absent (same ▸ inside)⟩
    · rcases origin bid member with asked | ⟨old,inside,same⟩
      · exact asked ▸ (queued.gateway req held).2.ne
      · exact same ▸ queued.apart req held old inside

theorem cancelStart (sessionID : Nat) : Queued (a.cancelStart sessionID).1 channels := by
  unfold Arbitrator.cancelStart
  split
  · split
    · exact queued.fewer nofun (.refl _) (.inl rfl)
    · exact queued.fewer (fun _ member => member) (.refl _) (.inr rfl)
    · exact queued
  · split
    · rename_i taken
      exact queued.fewer (fun _ member => member) (takeSession_sublist taken) queued.single
    · exact queued

theorem takeDeferred (req : Option StartRequest) : Queued (a.takeDeferredGatewayLoser req).1 channels := by
  unfold takeDeferredGatewayLoser
  split
  · split
    · exact queued.fewer (fun _ member => member) (.refl _) (.inr rfl)
    · exact queued
  · exact queued

theorem expire (notify : Nat) : Queued (a.expireAdmission notify) channels := by
  unfold expireAdmission
  split
  · exact queued.fewer nofun (.refl _) (.inl rfl)
  split
  · exact queued.fewer (fun _ member => member) (.refl _) (.inr rfl)
  · exact queued

theorem eligible_nodup (bids : Option Bids) : ((a.eligibleBids bids).map (·.id)).Nodup := by
  refine List.Nodup.sublist (filter_sublist.map _) ?_
  rw [map_append]
  refine nodup_append.mpr ⟨?_,queued.identities,?_⟩
  · cases a.pendingGateway with
    | none => exact nodup_nil
    | some req => exact nodup_singleton _
  · intro left first right second
    obtain ⟨req,held,rfl⟩ := mem_map.mp first
    obtain ⟨other,inside,rfl⟩ := mem_map.mp second
    exact queued.apart req (Option.mem_toList.mp held) other inside

theorem eligible_gateway {bids : Option Bids} {request : StartRequest} (member : request ∈ a.eligibleBids bids)
    (own : request.sessionID = gatewaySessionID) :
    a.pendingGateway = some request ∧ a.pendingGateway.filter (!eligible bids ·) = none := by
  obtain ⟨bid,admitted⟩ := mem_filter.mp member
  rcases mem_append.mp bid with held | inside
  · have pending : a.pendingGateway = some request := Option.mem_toList.mp held
    exact ⟨pending,by simp [pending,admitted]⟩
  · exact absurd own (queued.external request inside).1

theorem select (busIdle : Bool) (bids : Option Bids) : Queued (a.selectBidsAtSYN busIdle bids).1 channels := by
  unfold selectBidsAtSYN
  split
  · exact queued
  split
  · exact queued
  rename_i winner won
  refine queued.fewer (fun req member => (Option.mem_filter_iff.mp member).1) filter_sublist ?_
  cases deferred : (((a.eligibleBids bids).filter (·.id ≠ winner.id)).filter (·.sessionID = gatewaySessionID)).getLast? with
  | none =>
    refine queued.single.imp (fun absent => ?_) fun absent => by simp [absent]
    rw [absent]
    rfl
  | some loser =>
    obtain ⟨lost,own⟩ := mem_filter.mp (mem_of_getLast? deferred)
    exact .inl (queued.eligible_gateway (mem_filter.mp lost).1 (of_decide_eq_true own)).2

end

theorem applied {state : Arbitrator × Nat} (queued : Queued state.1 state.2) (op : Operation) :
    Queued (apply state op).1 (apply state op).2 := by
  cases op with
  | requestStart sessionID initiator => exact queued.requestStart sessionID initiator
  | cancelStart sessionID => exact queued.cancelStart sessionID
  | selectBidsAtSYN busIdle bids => exact queued.select busIdle bids
  | takeDeferredGatewayLoser req => exact queued.takeDeferred req
  | expireAdmission notify => exact queued.expire notify
  | releaseOwnership sessionID =>
    simp only [apply,Arbitrator.releaseOwnership]
    split
    · exact {queued with}
    · exact queued
  | failAllPending err => exact queued.fewer nofun (nil_sublist _) (.inl rfl)
  | confirmOwnership sessionID initiator | fenceLifecycle | forceRelease =>
    exact {queued with}

end Queued

theorem run_queued (ops : List Operation) : ∃ channels, Queued (run ops) channels := by
  suffices kept : ∀ state : Arbitrator × Nat, Queued state.1 state.2 →
      Queued (ops.foldl apply state).1 (ops.foldl apply state).2 from
    ⟨_,kept ({},0) ⟨nofun,nofun,nodup_nil,nodup_nil,nofun,.inl rfl⟩⟩
  induction ops with
  | nil => exact fun _ queued => queued
  | cons op rest ih => exact fun state queued => ih _ (queued.applied op)

theorem selectBidsAtSYN_winner
    (selected : a.selectBidsAtSYN true bids = (next,some (winner,losers))) : selectWinner (a.eligibleBids bids) = some winner := by
  unfold selectBidsAtSYN at selected
  split at selected
  · cases selected
  split at selected
  · cases selected
  · rename_i won
    cases selected
    exact won

theorem selectWinner_none {bids : List StartRequest} (none : selectWinner bids = none) : bids = [] := by
  cases bids with
  | nil => rfl
  | cons first rest => cases none

theorem Queued.session_injective {channels : Nat} (queued : Queued a channels) {left right : StartRequest}
    (first : left ∈ a.eligibleBids bids) (second : right ∈ a.eligibleBids bids)
    (same : left.sessionID = right.sessionID) : left = right := by
  by_cases own : left.sessionID = gatewaySessionID
  · have leftBid := (queued.eligible_gateway first own).1
    have rightBid := (queued.eligible_gateway second (same.symm.trans own)).1
    exact Option.some.inj (leftBid.symm.trans rightBid)
  have outer : ∀ bid ∈ a.eligibleBids bids, bid.sessionID ≠ gatewaySessionID → bid ∈ a.pendingExternal := by
    intro bid member other
    rcases mem_append.mp (mem_filter.mp member).1 with held | inside
    · exact absurd (queued.gateway bid (Option.mem_toList.mp held)).1 other
    · exact inside
  exact inj_on_of_nodup_map queued.sessions (outer left first own) (outer right second (same ▸ own)) same

structure Splits (a next : Arbitrator) (bids : Option Bids) (winner : StartRequest) (losers : List StartRequest) : Prop where
  member : winner ∈ a.eligibleBids bids
  least : ∀ bid ∈ a.eligibleBids bids, bid ≠ winner → winner.priority < bid.priority
  others : losers = (a.eligibleBids bids).filter (· ≠ winner)
  once : (a.eligibleBids bids).Nodup
  gateway : next.pendingGateway = a.pendingGateway.filter (!eligible bids ·)
  external : next.pendingExternal = a.pendingExternal.filter (!eligible bids ·)
  deferred : ∀ request ∈ losers, request.sessionID = gatewaySessionID →
    next.deferredGatewayLoser = some request ∧ a.deferredGatewayLoser = none
  kept : (∀ request ∈ losers, request.sessionID ≠ gatewaySessionID) → next.deferredGatewayLoser = a.deferredGatewayLoser

theorem selection_splits {channels : Nat} (queued : Queued a channels)
    (selected : a.selectBidsAtSYN true bids = (next,some (winner,losers))) : Splits a next bids winner losers := by
  obtain ⟨free,member,lost,rfl⟩ := selectBidsAtSYN_cases selected
  have distinct := queued.eligible_nodup bids
  refine ⟨member,fun bid inside other => ?_,?_,.of_map _ distinct,rfl,rfl,fun request inside own => ?_,fun outer => ?_⟩
  · refine lt_of_le_of_ne (selectWinner_least (selectBidsAtSYN_winner selected) bid inside) fun same => other ?_
    exact queued.session_injective inside member (congrArg (fun priority => (ofLex (ofLex priority).2).2) same).symm
  · rw [lost]
    refine filter_congr fun bid inside => decide_eq_decide.mpr (not_congr ⟨fun same => ?_,congrArg _⟩)
    exact inj_on_of_nodup_map distinct inside member same
  · rw [lost] at inside
    have pending := (queued.eligible_gateway (mem_filter.mp inside).1 own).1
    refine ⟨?_,queued.single.resolve_left (by simp [pending])⟩
    -- every gateway bid among the losers is the pending one
    have only : ∀ other ∈ losers.filter (·.sessionID = gatewaySessionID), other = request := by
      intro other found
      rw [lost] at found
      obtain ⟨loser,also⟩ := mem_filter.mp found
      have held := (queued.eligible_gateway (mem_filter.mp loser).1 (of_decide_eq_true also)).1
      exact Option.some.inj (held.symm.trans pending)
    have found : request ∈ losers.filter (·.sessionID = gatewaySessionID) :=
      mem_filter.mpr ⟨lost ▸ inside,decide_eq_true own⟩
    obtain ⟨last,isLast⟩ := Option.ne_none_iff_exists'.mp (mt List.getLast?_eq_none_iff.mp (ne_nil_of_mem found))
    dsimp only
    rw [isLast,only last (mem_of_getLast? isLast)]
    rfl
  · have none : losers.filter (·.sessionID = gatewaySessionID) = [] := by
      rw [filter_eq_nil_iff]
      exact fun request inside own => outer request inside (of_decide_eq_true own)
    dsimp only
    rw [none]
    rfl

/-- At an idle SYN without an owner the eligible bids are split into the first of them and the others. -/
theorem selection_correct (operations : List Operation) (bids : Option Bids) :
    ((run operations).hasOwner = false →
      ((run operations).eligibleBids bids = [] ∧ (run operations).selectBidsAtSYN true bids = (run operations,none)) ∨
      ∃ next winner losers, (run operations).selectBidsAtSYN true bids = (next,some (winner,losers)) ∧
        Splits (run operations) next bids winner losers) ∧
    ((run operations).pendingGateway = none ∨ (run operations).deferredGatewayLoser = none) := by
  obtain ⟨channels,queued⟩ := run_queued operations
  refine ⟨fun free => ?_,queued.single⟩
  cases won : selectWinner ((run operations).eligibleBids bids) with
  | none =>
    refine .inl ⟨selectWinner_none won,?_⟩
    simp [selectBidsAtSYN,free,won]
  | some winner =>
    have selected : ∃ next losers, (run operations).selectBidsAtSYN true bids = (next,some (winner,losers)) := by
      simp [selectBidsAtSYN,free,won]
    obtain ⟨next,losers,equal⟩ := selected
    exact .inr ⟨next,winner,losers,equal,selection_splits queued equal⟩

def threeBids : List Operation := [.requestStart 0 0x31,.requestStart 1 0x10,.requestStart 2 0x03,.requestStart 2 0x03]

theorem three_bids_split :
    (run threeBids).hasOwner = false ∧
    ∃ next, (run threeBids).selectBidsAtSYN true (some [(0,0),(1,1),(2,2)]) = (next,some (⟨1,1,0x10,1,false⟩,[⟨0,0,0x31,0,false⟩])) ∧
      next.deferredGatewayLoser = some ⟨0,0,0x31,0,false⟩ := by
  refine ⟨by decide,?_⟩
  rcases (selection_correct threeBids (some [(0,0),(1,1),(2,2)])).1 (by decide) with ⟨empty,_⟩ | ⟨next,winner,losers,selected,splits⟩
  · exact absurd empty (by decide)
  · have result : ((run threeBids).selectBidsAtSYN true (some [(0,0),(1,1),(2,2)])).2 =
      some (⟨1,1,0x10,1,false⟩,[⟨0,0,0x31,0,false⟩]) := by decide
    rw [selected] at result
    cases result
    exact ⟨next,selected,(splits.deferred _ mem_cons_self rfl).1⟩

end Arbitrator
end EbusGateway
