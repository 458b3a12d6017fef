import Mathlib.Data.List.Basic

/-! The arbitrator: queued START bids, the gateway bid deferred after a local loss, and the current
bus owner. Every operation holds the arbitrator's lock throughout, so it is a function of the
arbitrator; the results it sends to waiters while it holds the lock are returned beside it.
-/
namespace EbusGateway
open List

inductive StartError
  | notConnected
  | admissionTimeout
  | deadlineTimeout
  | deadlineExpired
  | deadlineSuperseded
  | transport (resetOrDisconnect : Bool)
  | closed
  | unsupported
  | startedMismatch (got want : UInt8)
  | mismatchSuperseded
  | superseded
  | failedSuperseded
  | arbitrationLost (winner : UInt8)
  | adapterReset
  | adapterDisconnected
deriving DecidableEq

def isResetOrDisconnectError : StartError → Bool
  | .transport resetOrDisconnect => resetOrDisconnect
  | .closed | .adapterReset | .adapterDisconnected => true
  | _ => false

structure StartResult where
  granted : Bool := false
  cancelled : Bool := false
  initiator : UInt8
  startedQueued : Bool := false
  failedQueued : Bool := false
  err : Option StartError := none
deriving DecidableEq

/-- A bid. `id` is its identity, `notify` the channel its answer goes to. -/
structure StartRequest where
  id : Nat
  sessionID : Nat
  initiator : UInt8
  notify : Nat
  cancelled : Bool := false
deriving DecidableEq

/-- The gateway bids in a slot of its own; one external bid per session waits in `pendingExternal`. -/
structure Arbitrator where
  ownershipGen : Nat := 0
  lifecycleEpoch : Nat := 0
  ownerEpoch : Nat := 0
  pendingGateway : Option StartRequest := none
  deferredGatewayLoser : Option StartRequest := none
  pendingExternal : List StartRequest := []
  hasOwner : Bool := false
  currentOwner : Nat := 0
  currentInitiator : UInt8 := 0
deriving DecidableEq

def gatewaySessionID : Nat := 0

/-- Results sent, each to its channel. -/
abbrev Sends := List (Nat × StartResult)

/-- Bids frozen at a SYN, by identity and channel. -/
abbrev Bids := List (Nat × Nat)

def StartRequest.cancelledResult (request : StartRequest) : Nat × StartResult :=
  (request.notify,{cancelled := true, initiator := request.initiator})

def higherPriority (a b : StartRequest) : Bool :=
  if a.initiator &&& 0x0f ≠ b.initiator &&& 0x0f then a.initiator &&& 0x0f < b.initiator &&& 0x0f
  else if a.initiator ≠ b.initiator then a.initiator >>> 4 < b.initiator >>> 4
  else a.sessionID < b.sessionID

def Sends.countFor (sends : Sends) (ch : Nat) : Nat := (sends.map (·.1)).count ch

namespace Arbitrator

/-- A bid takes the place of its session's earlier one, whose channel is told. -/
def submit (request : StartRequest) : List StartRequest → List StartRequest × Sends
  | [] => ([request],[])
  | old :: rest =>
    if old.sessionID ≠ request.sessionID then
      let (queue,sends) := submit request rest
      (old :: queue,sends)
    else if old.initiator = request.initiator then
      ({old with notify := request.notify} :: rest,[old.cancelledResult])
    else (request :: rest,[old.cancelledResult])

variable (a : Arbitrator) (sessionID : Nat)

def requestStart (initiator : UInt8) (ch : Nat) : Arbitrator × Sends :=
  let request : StartRequest := {id := ch, sessionID := sessionID, initiator := initiator, notify := ch}
  if sessionID = gatewaySessionID then
    ({a with pendingGateway := some request, deferredGatewayLoser := none},
      a.pendingGateway.toList.map StartRequest.cancelledResult ++
        a.deferredGatewayLoser.toList.map StartRequest.cancelledResult)
  else
    let (queue,sends) := submit request a.pendingExternal
    ({a with pendingExternal := queue},sends)

def takeSession (sessionID : Nat) : List StartRequest → Option (StartRequest × List StartRequest)
  | [] => none
  | request :: rest =>
    if request.sessionID = sessionID then some (request,rest)
    else (takeSession sessionID rest).map fun (found,others) => (found,request :: others)

def cancelStart : Arbitrator × Sends :=
  if sessionID = gatewaySessionID then
    match a.pendingGateway,a.deferredGatewayLoser with
    | some old,_ => ({a with pendingGateway := none},[old.cancelledResult])
    | none,some old => ({a with deferredGatewayLoser := none},[old.cancelledResult])
    | none,none => (a,[])
  else
    match takeSession sessionID a.pendingExternal with
    | some (request,others) => ({a with pendingExternal := others},[request.cancelledResult])
    | none => (a,[])

def snapshotBids : Bids :=
  (a.pendingGateway.toList ++ a.pendingExternal).map fun request => (request.id,request.notify)

def eligible (bids : Option Bids) (request : StartRequest) : Bool :=
  match bids with
  | none => true
  | some frozen => frozen.contains (request.id,request.notify)

def eligibleBids (bids : Option Bids) : List StartRequest :=
  (a.pendingGateway.toList ++ a.pendingExternal).filter (eligible bids)

/-- The first of the bids with the highest priority. -/
def selectWinner : List StartRequest → Option StartRequest
  | [] => none
  | first :: rest => some (rest.foldl (fun winner request => if higherPriority request winner then request else winner) first)

/-- All eligible bids leave the queues; a losing gateway bid is kept as the deferred loser. -/
def selectBidsAtSYN (busIdle : Bool) (bids : Option Bids) :
    Arbitrator × Option (StartRequest × List StartRequest) :=
  if a.hasOwner || !busIdle then (a,none)
  else match selectWinner (a.eligibleBids bids) with
    | none => (a,none)
    | some winner =>
      let losers := (a.eligibleBids bids).filter (·.id ≠ winner.id)
      ({a with
        deferredGatewayLoser := (losers.filter (·.sessionID = gatewaySessionID)).getLast?.or a.deferredGatewayLoser
        pendingGateway := a.pendingGateway.filter (!eligible bids ·)
        pendingExternal := a.pendingExternal.filter (!eligible bids ·)},some (winner,losers))

def takeDeferredGatewayLoser (request : Option StartRequest) : Arbitrator × Bool :=
  match request,a.deferredGatewayLoser with
  | some wanted,some deferred => if wanted.id = deferred.id then ({a with deferredGatewayLoser := none},true) else (a,false)
  | _,_ => (a,false)

def confirmOwnership (initiator : UInt8) : Arbitrator :=
  {a with
    ownershipGen := a.ownershipGen + 1, ownerEpoch := a.lifecycleEpoch
    hasOwner := true, currentOwner := sessionID, currentInitiator := initiator}

def isOwner : Bool := a.hasOwner && a.currentOwner == sessionID

def releaseOwnership : Arbitrator :=
  if a.isOwner sessionID then
    {a with ownershipGen := a.ownershipGen + 1, hasOwner := false, currentOwner := 0, currentInitiator := 0}
  else a

def fenceLifecycle : Arbitrator := {a with lifecycleEpoch := a.lifecycleEpoch + 1}

def forceRelease : Arbitrator :=
  {a with ownershipGen := a.ownershipGen + 1, hasOwner := false, currentOwner := 0, currentInitiator := 0}

def hasPending : Bool := a.pendingGateway.isSome || !a.pendingExternal.isEmpty

def hasExternalPending : Bool := !a.pendingExternal.isEmpty

def failAllPending (err : StartError) : Arbitrator × Sends :=
  ({a with pendingGateway := none, deferredGatewayLoser := none, pendingExternal := []},
    (a.pendingGateway.toList ++ a.deferredGatewayLoser.toList ++ a.pendingExternal).map fun request =>
      (request.notify,{initiator := request.initiator, err := some err}))

structure OwnershipToken where
  sessionID : Nat
  gen : Nat
  epoch : Nat
deriving DecidableEq

def currentOwnershipToken : Option OwnershipToken :=
  if a.isOwner sessionID then some ⟨sessionID,a.ownershipGen,a.ownerEpoch⟩ else none

def waiters : List Nat :=
  (a.pendingGateway.toList ++ a.deferredGatewayLoser.toList ++ a.pendingExternal).map (·.notify)

/-- How many answers a channel is still to get from the bids that wait. -/
def owed (ch : Nat) : Nat := a.waiters.count ch

theorem submit_waiters (req : StartRequest) (queue : List StartRequest) (ch : Nat) :
    ((submit req queue).1.map (·.notify)).count ch + (submit req queue).2.countFor ch =
      (queue.map (·.notify)).count ch + [req.notify].count ch := by
  induction queue with
  | nil => simp [submit,Sends.countFor]
  | cons old rest ih =>
    simp only [submit]
    split
    · simp only [map_cons,count_cons] at ih ⊢
      omega
    split
    · simp only [map_cons,map_nil,count_cons,count_nil,Sends.countFor,StartRequest.cancelledResult]
      omega
    · simp only [map_cons,map_nil,count_cons,count_nil,Sends.countFor,StartRequest.cancelledResult]
      omega

variable {queue others losers : List StartRequest} {winner : StartRequest} {req bid found : StartRequest}

theorem submit_mem (mem : bid ∈ (submit req queue).1) :
    bid = req ∨ ∃ old ∈ queue, bid.sessionID = old.sessionID ∧ bid.initiator = old.initiator ∧ bid.cancelled = old.cancelled := by
  induction queue with
  | nil => exact .inl (by simpa [submit] using mem)
  | cons first rest ih =>
    simp only [submit] at mem
    split at mem
    · rcases mem_cons.mp mem with rfl | inside
      · exact .inr ⟨bid,.head _,rfl,rfl,rfl⟩
      · exact (ih inside).imp id fun ⟨old,present,facts⟩ => ⟨old,mem_cons_of_mem _ present,facts⟩
    split at mem
    · rcases mem_cons.mp mem with rfl | inside
      · exact .inr ⟨first,.head _,rfl,rfl,rfl⟩
      · exact .inr ⟨bid,mem_cons_of_mem _ inside,rfl,rfl,rfl⟩
    · rcases mem_cons.mp mem with rfl | inside
      · exact .inl rfl
      · exact .inr ⟨bid,mem_cons_of_mem _ inside,rfl,rfl,rfl⟩

/-- The sessions in the queue stay as they are, or a new one comes last. -/
theorem submit_sessions (req : StartRequest) (queue : List StartRequest) :
    (submit req queue).1.map (·.sessionID) = queue.map (·.sessionID) ∨ req.sessionID ∉ queue.map (·.sessionID) ∧
        (submit req queue).1.map (·.sessionID) = queue.map (·.sessionID) ++ [req.sessionID] := by
  induction queue with
  | nil => exact .inr ⟨not_mem_nil,rfl⟩
  | cons first rest ih =>
    simp only [submit]
    split
    · rename_i other
      rcases ih with same | ⟨absent,added⟩
      · exact .inl (by simp [same])
      · exact .inr ⟨by simpa using ⟨Ne.symm other,by simpa using absent⟩,by simp [added]⟩
    · rename_i same
      split
      · exact .inl rfl
      · exact .inl (by simp_all)

theorem submit_initiator (distinct : (queue.map (·.sessionID)).Nodup)
    (mem : bid ∈ (submit req queue).1) (same : bid.sessionID = req.sessionID) : bid.initiator = req.initiator := by
  induction queue with
  | nil =>
    rw [submit,mem_singleton] at mem
    rw [mem]
  | cons first rest ih =>
    rw [map_cons,nodup_cons] at distinct
    have later : first.sessionID = req.sessionID → bid ∉ rest := by
      intro equal inside
      exact distinct.1 (mem_map.mpr ⟨bid,inside,same.trans equal.symm⟩)
    simp only [submit] at mem
    split at mem
    · rename_i other
      rcases mem_cons.mp mem with rfl | inside
      · exact absurd same other
      · exact ih distinct.2 inside
    rename_i equal
    rw [not_not] at equal
    split at mem
    · rename_i initiator
      rcases mem_cons.mp mem with rfl | inside
      · exact initiator
      · exact absurd inside (later equal)
    · rcases mem_cons.mp mem with rfl | inside
      · rfl
      · exact absurd inside (later equal)

theorem submit_present (req : StartRequest) (queue : List StartRequest) :
    ∃ bid ∈ (submit req queue).1, bid.sessionID = req.sessionID ∧ bid.initiator = req.initiator := by
  induction queue with
  | nil => exact ⟨req,mem_singleton_self _,rfl,rfl⟩
  | cons first rest ih =>
    simp only [submit]
    split
    · obtain ⟨bid,mem,facts⟩ := ih
      exact ⟨bid,mem_cons_of_mem _ mem,facts⟩
    rename_i same
    split
    · rename_i initiator
      exact ⟨_,.head _,not_not.mp same,initiator⟩
    · exact ⟨req,.head _,rfl,rfl⟩

/-- The new channel is owed an answer; a displaced one has been sent its own. -/
theorem requestStart_owed (initiator : UInt8) (new ch : Nat) :
    (a.requestStart sessionID initiator new).1.owed ch
      + (a.requestStart sessionID initiator new).2.countFor ch = a.owed ch + [new].count ch := by
  unfold requestStart
  dsimp only
  split
  · simp only [owed,waiters,Sends.countFor,StartRequest.cancelledResult,map_append,map_map,Function.comp_def,
      count_append,Option.toList_some,Option.toList_none,map_cons,map_nil,count_nil]
    omega
  · have submitted := submit_waiters {id := new, sessionID := sessionID, initiator := initiator, notify := new} a.pendingExternal ch
    simp only [owed,waiters,map_append,count_append] at submitted ⊢
    omega

theorem takeSession_split {sessionID : Nat} (taken : takeSession sessionID queue = some (found,others)) :
    found.sessionID = sessionID ∧ ∃ front back, queue = front ++ found :: back ∧ others = front ++ back := by
  induction queue generalizing found others with
  | nil => cases taken
  | cons req rest ih =>
    simp only [takeSession] at taken
    split at taken
    · rename_i same
      cases taken
      exact ⟨same,[],rest,rfl,rfl⟩
    obtain ⟨⟨other,left⟩,inner,equal⟩ := Option.map_eq_some_iff.mp taken
    cases equal
    obtain ⟨same,front,back,rfl,rfl⟩ := ih inner
    exact ⟨same,req :: front,back,rfl,rfl⟩

theorem takeSession_waiters {sessionID : Nat}
    (taken : takeSession sessionID queue = some (found,others)) : queue.Perm (found :: others) := by
  obtain ⟨_,front,back,rfl,rfl⟩ := takeSession_split taken
  exact perm_middle

theorem takeSession_sublist {sessionID : Nat} (taken : takeSession sessionID queue = some (found,others)) : others.Sublist queue := by
  obtain ⟨_,front,back,rfl,rfl⟩ := takeSession_split taken
  exact (sublist_cons_self found back).append_left front

theorem takeSession_none {sessionID : Nat} (none : takeSession sessionID queue = none) :
    ∀ req ∈ queue, req.sessionID ≠ sessionID := by
  induction queue with
  | nil => exact nofun
  | cons first rest ih =>
    simp only [takeSession] at none
    split at none
    · cases none
    rename_i other
    intro req mem
    rcases mem_cons.mp mem with rfl | inside
    · exact other
    · exact ih (Option.map_eq_none_iff.mp none) req inside

theorem cancelStart_owed (sessionID ch : Nat) :
    (a.cancelStart sessionID).1.owed ch + (a.cancelStart sessionID).2.countFor ch = a.owed ch := by
  unfold cancelStart
  split
  · split
    · simp_all [owed,waiters,Sends.countFor,StartRequest.cancelledResult,count_append,count_cons]
    · simp_all [owed,waiters,Sends.countFor,StartRequest.cancelledResult,count_cons]
    · simp [Sends.countFor]
  split
  · rename_i req others taken
    have split := ((takeSession_waiters taken).map (·.notify)).count_eq ch
    simp only [owed,waiters,Sends.countFor,StartRequest.cancelledResult,map_append,count_append,map_cons,
      count_cons,map_nil,count_nil] at split ⊢
    omega
  · simp [Sends.countFor]

theorem takeDeferredGatewayLoser_owed (loser : StartRequest) (ch : Nat)
    (named : ∀ deferred ∈ a.deferredGatewayLoser, loser.id = deferred.id → loser.notify = deferred.notify) :
    (a.takeDeferredGatewayLoser (some loser)).1.owed ch +
      (if (a.takeDeferredGatewayLoser (some loser)).2 then [loser.notify].count ch else 0) = a.owed ch := by
  unfold takeDeferredGatewayLoser
  split
  · rename_i wanted deferred some_ equal
    cases some_
    split
    · rename_i same
      have notify := named deferred (by simp [equal]) same
      simp [owed,waiters,equal,notify,count_append,count_cons]
      omega
    · simp
  · simp

theorem failAllPending_owed (err : StartError) (ch : Nat) :
    (a.failAllPending err).1.owed ch + (a.failAllPending err).2.countFor ch = a.owed ch := by
  simp [failAllPending,owed,waiters,Sends.countFor,Function.comp_def]

theorem selectWinner_mem {bids : List StartRequest} (won : selectWinner bids = some winner) : winner ∈ bids := by
  cases bids with
  | nil => cases won
  | cons first rest =>
    cases won
    suffices kept : ∀ best, best ∈ first :: rest → ∀ remaining, remaining ⊆ first :: rest →
        remaining.foldl (fun winner req => if higherPriority req winner then req else winner) best ∈ first :: rest from
      kept first mem_cons_self rest (subset_cons_self first rest)
    intro best mem remaining
    induction remaining generalizing best with
    | nil => exact fun _ => mem
    | cons req others ih =>
      intro inside
      rw [foldl_cons]
      refine ih _ ?_ (cons_subset.mp inside).2
      split
      · exact (cons_subset.mp inside).1
      · exact mem

/-- What a selection is when there is a winner. -/
theorem selectBidsAtSYN_cases {a next : Arbitrator} {bids : Option Bids}
    (selected : a.selectBidsAtSYN true bids = (next,some (winner,losers))) :
    a.hasOwner = false ∧ winner ∈ a.eligibleBids bids ∧ losers = (a.eligibleBids bids).filter (·.id ≠ winner.id) ∧ next = {a with
        deferredGatewayLoser := (losers.filter (·.sessionID = gatewaySessionID)).getLast?.or a.deferredGatewayLoser
        pendingGateway := a.pendingGateway.filter (!eligible bids ·)
        pendingExternal := a.pendingExternal.filter (!eligible bids ·)} := by
  unfold selectBidsAtSYN at selected
  split at selected
  · cases selected
  rename_i free
  split at selected
  · cases selected
  · rename_i won
    cases selected
    exact ⟨by simpa using free,selectWinner_mem won,rfl,rfl⟩

private theorem count_filter_add (keep : StartRequest → Bool) (requests : List StartRequest) (ch : Nat) :
    ((requests.filter keep).map (·.notify)).count ch + ((requests.filter (!keep ·)).map (·.notify)).count ch =
      (requests.map (·.notify)).count ch := by
  induction requests with
  | nil => rfl
  | cons req rest ih =>
    cases kept : keep req <;> simp [kept,count_cons,← ih] <;> omega

private theorem count_getLast? (requests : List StartRequest) (ch : Nat) :
    (requests.getLast?.toList.map (·.notify)).count ch ≤ (requests.map (·.notify)).count ch := by
  apply List.Sublist.count_le
  apply List.Sublist.map
  cases last : requests.getLast? with
  | none => exact nil_sublist _
  | some req => exact singleton_sublist.mpr (mem_of_getLast? last)

/-- What stays, the winner and the external losers are owed no more than before. -/
theorem selectBidsAtSYN_owed {a next : Arbitrator} {bids : Option Bids}
    (selected : a.selectBidsAtSYN true bids = (next,some (winner,losers))) (ch : Nat) :
    next.owed ch + [winner.notify].count ch + ((losers.filter (·.sessionID ≠ gatewaySessionID)).map
      (·.notify)).count ch ≤ a.owed ch := by
  obtain ⟨_,mem,losersEq,rfl⟩ := selectBidsAtSYN_cases selected
  have eligibleSplit := count_filter_add (eligible bids) (a.pendingGateway.toList ++ a.pendingExternal) ch
  have winnerSplit := count_filter_add (fun req => decide (req.id ≠ winner.id)) (a.eligibleBids bids) ch
  have loserSplit := count_filter_add (fun req => req.sessionID = gatewaySessionID) losers ch
  have last := count_getLast? (losers.filter (·.sessionID = gatewaySessionID)) ch
  have won : [winner.notify].count ch ≤ (((a.eligibleBids bids).filter fun req =>
    !decide (req.id ≠ winner.id)).map (·.notify)).count ch := by
    apply List.Sublist.count_le
    apply singleton_sublist.mpr
    exact mem_map_of_mem (mem_filter.mpr ⟨mem,by simp⟩)
  have deferred : (((losers.filter (·.sessionID = gatewaySessionID)).getLast?.or
    a.deferredGatewayLoser).toList.map (·.notify)).count ch ≤
      ((losers.filter (·.sessionID = gatewaySessionID)).getLast?.toList.map (·.notify)).count ch +
        (a.deferredGatewayLoser.toList.map (·.notify)).count ch := by
    cases (losers.filter (·.sessionID = gatewaySessionID)).getLast? <;> simp
  have gateway : (a.pendingGateway.filter (!eligible bids ·)).toList = a.pendingGateway.toList.filter (!eligible bids ·) := by
    cases a.pendingGateway <;> simp [Option.filter,filter_cons]
    split <;> rfl
  have external : (losers.filter fun req => !decide (req.sessionID = gatewaySessionID)) =
      losers.filter (·.sessionID ≠ gatewaySessionID) := by simp
  rw [← losersEq] at winnerSplit
  rw [external] at loserSplit
  rw [eligibleBids] at won winnerSplit
  simp only [owed,waiters,map_append,count_append,gateway]
  simp only [filter_append,map_append,count_append] at eligibleSplit won winnerSplit
  omega

def ownership : Bool × Nat := (a.hasOwner,a.currentOwner)

theorem isOwner_congr {a b : Arbitrator} (same : a.ownership = b.ownership) (session : Nat) :
    a.isOwner session = b.isOwner session := by
  simp only [ownership,Prod.mk.injEq] at same
  simp [isOwner,same.1,same.2]

section Ownership
variable (a : Arbitrator)

theorem requestStart_ownership (session : Nat) (initiator : UInt8) (ch : Nat) :
    (a.requestStart session initiator ch).1.ownership = a.ownership := by
  unfold requestStart
  dsimp only
  split <;> rfl

theorem cancelStart_ownership (session : Nat) : (a.cancelStart session).1.ownership = a.ownership := by
  unfold cancelStart
  split <;> split <;> rfl

theorem takeDeferredGatewayLoser_ownership (loser : Option StartRequest) :
    (a.takeDeferredGatewayLoser loser).1.ownership = a.ownership := by
  unfold takeDeferredGatewayLoser
  split
  · split <;> rfl
  · rfl

end Ownership
end Arbitrator
end EbusGateway
