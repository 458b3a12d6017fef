import EbusGateway.Mux.Book

/-! Every START waiter is answered at most once. The right to answer is in one place at a time; actions move
it and only a new request makes it.
-/
namespace EbusGateway.Mux
open Library List

def Act.waiters : Act → List Nat
  | .notify _ waiter _ => [waiter]
  | _ => []

def Act.gatewayLoser : Act → Option StartRequest
  | .callRequestStart selection | .settleLocalLosses selection _ | .failRequestStart selection _
  | .startBlocking selection | .abortClosing selection | .abortUnsupported selection
  | .callStartArbitration selection _ | .blockingFailed selection _ _ | .blockingStarted selection _ => selection.gatewayLoser
  | .takeGatewayLoser loser => loser
  | _ => none

def owedBy (acts : List Act) (ch : Nat) : Nat := (acts.flatMap Act.waiters).count ch

namespace Book

def held (b : Book) (ch : Nat) : Nat :=
  ((b.pendingGateway.toList ++ b.deferredGatewayLoser.toList ++ b.pendingExternal).map (·.notify)).count ch +
    (b.pendingStart.toList.map (·.request.notify)).count ch + b.results.countFor ch

end Book

structure RegularBids (gateway deferred : Option StartRequest) (external : List StartRequest) (pending : Option PendingStart) :
    Prop where
  gateway : ∀ request ∈ gateway, request.id = request.notify
  deferred : ∀ request ∈ deferred, request.id = request.notify
  external : ∀ request ∈ external, request.sessionID ≠ gatewaySessionID
  pending : ∀ p ∈ pending, ∀ request ∈ p.gatewayLoser, request.id = request.notify

abbrev Book.Regular (b : Book) : Prop := RegularBids b.pendingGateway b.deferredGatewayLoser b.pendingExternal b.pendingStart

structure Answerable (b : Book) (acts : List Act) : Prop where
  once : ∀ ch, b.held ch + owedBy acts ch ≤ 1
  fresh : ∀ ch, b.nextWaiter ≤ ch → b.held ch + owedBy acts ch = 0
  unblocked : b.wedged = false
  regular : b.Regular
  losers : ∀ act ∈ acts, ∀ request ∈ act.gatewayLoser, request.id = request.notify

def Named (loser : Option StartRequest) : Prop := ∀ request ∈ loser, request.id = request.notify

@[simp] theorem Named.none : Named none := fun _ mem => absurd mem (Option.not_mem_none _)

theorem owedBy_append (first second : List Act) (ch : Nat) : owedBy (first ++ second) ch = owedBy first ch + owedBy second ch := by
  simp [owedBy]

theorem owedBy_cons (act : Act) (rest : List Act) (ch : Nat) : owedBy (act :: rest) ch = act.waiters.count ch + owedBy rest ch := by
  simp [owedBy]

theorem owedBy_plain {acts : List Act} (plain : ∀ act ∈ acts, act.plain = true) (ch : Nat) : owedBy acts ch = 0 := by
  have none : acts.flatMap Act.waiters = [] := by
    rw [flatMap_eq_nil_iff]
    intro act mem
    have isPlain := plain act mem
    cases act <;> first | rfl | cases isPlain
  simp [owedBy,none]

theorem plain_gatewayLoser {act : Act} (plain : act.plain = true) : act.gatewayLoser = none := by
  cases act <;> first | rfl | cases plain

theorem Named.of_plain {act : Act} (plain : act.plain = true) : Named act.gatewayLoser := plain_gatewayLoser plain ▸ .none

theorem held_book (m : State) (ch : Nat) :
    m.book.held ch = m.arb.owed ch + (m.pendingStart.toList.map (·.request.notify)).count ch + m.results.countFor ch := rfl

namespace Answerable
variable {b later : Book} {act : Act} {others pushed : List Act} {acts : List Act}

theorem perm {acts' : List Act} (same : acts.Perm acts') (answerable : Answerable b acts) : Answerable b acts' := by
  obtain ⟨once,fresh,unblocked,regular,losers⟩ := answerable
  have equal : ∀ ch, owedBy acts' ch = owedBy acts ch := fun ch => (same.flatMap_right Act.waiters).symm.count_eq ch
  exact ⟨fun ch => by rw [equal]; exact once ch,fun ch bound => by rw [equal]; exact fresh ch bound,unblocked,regular,
    fun act mem => losers act (same.mem_iff.mpr mem)⟩

theorem move (answerable : Answerable b (act :: others))
    (held : ∀ ch, later.held ch + owedBy pushed ch ≤ b.held ch + act.waiters.count ch)
    (waiter : later.nextWaiter = b.nextWaiter) (unblocked : later.wedged = false) (regular : later.Regular)
    (losers : ∀ new ∈ pushed, Named new.gatewayLoser) : Answerable later (pushed ++ others) := by
  obtain ⟨once,fresh,_,_,oldLosers⟩ := answerable
  refine ⟨?_,?_,unblocked,regular,?_⟩
  · intro ch
    have before := once ch
    have moved := held ch
    rw [owedBy_cons] at before
    rw [owedBy_append]
    omega
  · intro ch bound
    have before := fresh ch (waiter ▸ bound)
    have moved := held ch
    rw [owedBy_cons] at before
    rw [owedBy_append]
    omega
  · exact forall_mem_append.mpr ⟨losers,fun new old => oldLosers new (.tail _ old)⟩

theorem room (answerable : Answerable b acts) (ch : Nat) : b.held ch + owedBy acts ch + [b.nextWaiter].count ch ≤ 1 := by
  by_cases same : ch = b.nextWaiter
  · subst same
    have unused := answerable.fresh b.nextWaiter (Nat.le_refl _)
    rw [count_cons_self,count_nil]
    omega
  · have before := answerable.once ch
    rw [count_singleton,if_neg (by simpa using fun equal => same equal.symm)]
    omega

theorem loser (answerable : Answerable b (act :: others)) : Named act.gatewayLoser :=
  answerable.losers act mem_cons_self

theorem idle (answerable : Answerable b (act :: others))
    (plain : ∀ new ∈ pushed, new.plain = true) : Answerable b (pushed ++ others) := by
  refine answerable.move (fun ch => ?_) rfl answerable.unblocked answerable.regular ?_
  · rw [owedBy_plain plain]
    omega
  · exact fun new mem => .of_plain (plain new mem)

theorem drop (answerable : Answerable b (act :: others)) : Answerable b others := answerable.idle (forall_mem_nil _)

end Answerable

section Sends
variable {m : State}

theorem send_eq {message : Nat × StartResult} (free : m.results.countFor message.1 = 0) :
    m.send message = {m with results := m.results ++ [message]} := by
  have empty : m.results.filter (·.1 == message.1) = [] := by
    rw [filter_eq_nil_iff]
    intro sent mem same
    have present : message.1 ∈ m.results.map (·.1) := mem_map.mpr ⟨sent,mem,by simpa using same⟩
    rw [Sends.countFor,count_eq_zero] at free
    exact free present
  unfold State.send State.buffered
  simp [empty]

theorem countFor_append (first second : Sends) (ch : Nat) :
    Sends.countFor (first ++ second) ch = first.countFor ch + second.countFor ch := by
  simp [Sends.countFor]

theorem countFor_snoc (sent : Sends) (message : Nat × StartResult) (ch : Nat) :
    Sends.countFor (sent ++ [message]) ch = sent.countFor ch + [message.1].count ch := countFor_append sent [message] ch

theorem countFor_cons (message : Nat × StartResult) (rest : Sends) (ch : Nat) :
    Sends.countFor (message :: rest) ch = [message.1].count ch + rest.countFor ch := by
  simp [Sends.countFor,count_cons]
  omega

theorem sendAll_eq {sends : Sends} (free : ∀ ch, m.results.countFor ch + sends.countFor ch ≤ 1) :
    m.sendAll sends = {m with results := m.results ++ sends} := by
  unfold State.sendAll
  induction sends generalizing m with
  | nil => simp
  | cons message rest ih =>
    have here := free message.1
    rw [countFor_cons,count_cons_self] at here
    rw [foldl_cons,send_eq (by omega),ih]
    · simp
    · intro ch
      have bound := free ch
      rw [countFor_cons] at bound
      change Sends.countFor (m.results ++ [message]) ch + Sends.countFor rest ch ≤ 1
      rw [countFor_snoc]
      omega

end Sends

variable {m : State} {event : Event} {name : Name}

theorem Releases.owed {later : State} (releases : Releases m later) (ch : Nat) : later.arb.owed ch = m.arb.owed ch := by
  have gateway : later.arb.pendingGateway = m.arb.pendingGateway := congrArg Ledger.pendingGateway releases.ledger
  have deferred : later.arb.deferredGatewayLoser = m.arb.deferredGatewayLoser := congrArg Ledger.deferredGatewayLoser releases.ledger
  have outer : later.arb.pendingExternal = m.arb.pendingExternal := congrArg Ledger.pendingExternal releases.ledger
  simp only [Arbitrator.owed,Arbitrator.waiters,gateway,deferred,outer]

theorem Answerable.request {b later : Book} {act : Act} {others pushed : List Act} (answerable : Answerable b (act :: others))
    (new : Nat) (next : b.nextWaiter = new) (held : ∀ ch, later.held ch ≤ b.held ch + [new].count ch)
    (waiter : later.nextWaiter = new + 1) (unblocked : later.wedged = false) (regular : later.Regular)
    (plain : ∀ act ∈ pushed, act.plain = true) : Answerable later (pushed ++ others) := by
  subst next
  have counts : ∀ ch, later.held ch + owedBy (pushed ++ others) ch ≤
      b.held ch + owedBy (act :: others) ch + [b.nextWaiter].count ch := by
    intro ch
    have more := held ch
    rw [owedBy_append,owedBy_plain plain,owedBy_cons]
    omega
  refine ⟨fun ch => (counts ch).trans (answerable.room ch),?_,unblocked,regular,?_⟩
  · intro ch bound
    have before := answerable.fresh ch (by omega)
    have total := counts ch
    rw [count_singleton,if_neg (by simp; omega)] at total
    omega
  · exact forall_mem_append.mpr ⟨fun act mem => Named.of_plain (plain act mem),fun act old => answerable.losers act (.tail _ old)⟩

section Acts
variable {cfg : Config} {choice : Choice} {m : State} {others : List Act} {effect : Step}

variable {a : Arbitrator} {pending : Option PendingStart} {act : Act} {waiter : Nat}
    {loser : Option StartRequest} {b later : Book} {pushed : List Act}
  {p : PendingStart} {safe : Bool} {result : StartResult} {losers : List StartRequest}
  {session : Nat} {initiator : UInt8} {rest : List Act} {bids : Option Bids}

theorem requestStart_regular {new : Nat} (regular : RegularBids a.pendingGateway a.deferredGatewayLoser a.pendingExternal pending) :
    RegularBids (a.requestStart session initiator new).1.pendingGateway (a.requestStart session initiator new).1.deferredGatewayLoser
      (a.requestStart session initiator new).1.pendingExternal (pending.map (markInFlightCancelled session)) := by
  obtain ⟨gateway,deferred,outer,losers⟩ := regular
  have marked : ∀ p ∈ pending.map (markInFlightCancelled session), Named p.gatewayLoser := by
    intro p mem
    obtain ⟨old,present,rfl⟩ := Option.map_eq_some_iff.mp mem
    have same : (markInFlightCancelled session old).gatewayLoser = old.gatewayLoser := by
      unfold markInFlightCancelled
      split <;> rfl
    rw [same]
    exact losers old present
  unfold Arbitrator.requestStart
  dsimp only
  split
  · refine ⟨?_,?_,outer,marked⟩
    · intro req mem
      cases mem
      rfl
    · intro req mem
      cases mem
  rename_i other
  refine ⟨gateway,deferred,?_,marked⟩
  intro req mem
  rcases Arbitrator.submit_mem mem with rfl | ⟨old,present,same,_⟩
  · exact other
  · rw [same]
    exact outer old present

theorem requestStart_answerable (answerable : Answerable m.book (.requestStart session initiator :: others))
    (found : requestStartForSession choice m session initiator = effect) : Answerable effect.shared.book (effect.acts ++ others) := by
  have unused := answerable.fresh m.nextWaiter (Nat.le_refl _)
  rw [held_book] at unused
  have unsent : m.results.countFor m.nextWaiter = 0 := by omega
  unfold requestStartForSession at found
  extract_lets ch entered waiting logged retired marked queued at found
  have plain : ∀ later : State, ∀ new ∈ ({shared := later, forked := waiting} : Step).acts, new.plain = true :=
    fun _ => forall_mem_singleton.mpr rfl
  split at found
  · subst found
    rw [send_eq unsent]
    refine answerable.request ch rfl (fun c => ?_) rfl answerable.unblocked answerable.regular (plain _)
    rw [held_book,held_book,countFor_snoc]
    dsimp only [entered]
    omega
  · have releases : Releases logged retired := .ite (retirePreviousGatewayTxn_releases _) (.refl _)
    have owed : ∀ c, retired.arb.owed c = m.arb.owed c := releases.owed
    have gateway : retired.arb.pendingGateway = m.arb.pendingGateway := congrArg Ledger.pendingGateway releases.ledger
    have deferred : retired.arb.deferredGatewayLoser = m.arb.deferredGatewayLoser :=
      congrArg Ledger.deferredGatewayLoser releases.ledger
    have outer : retired.arb.pendingExternal = m.arb.pendingExternal := congrArg Ledger.pendingExternal releases.ledger
    have pending : retired.pendingStart = m.pendingStart := congrArg Ledger.pendingStart releases.ledger
    have results : retired.results = m.results := congrArg Ledger.results releases.ledger
    have next : retired.nextWaiter = ch + 1 := congrArg Ledger.nextWaiter releases.ledger
    have unblocked : retired.wedged = false := (congrArg Ledger.wedged releases.ledger).trans answerable.unblocked
    have regular : RegularBids retired.arb.pendingGateway retired.arb.deferredGatewayLoser retired.arb.pendingExternal
        retired.pendingStart := by
      rw [gateway,deferred,outer,pending]
      exact answerable.regular
    split at found
    · subst found
      rw [send_eq (by rw [results]; exact unsent)]
      refine answerable.request ch rfl (fun c => ?_) next unblocked regular (plain _)
      rw [held_book,held_book,countFor_snoc]
      dsimp only
      rw [owed,pending,results]
      omega
    · have counts : ∀ c, queued.1.owed c + queued.2.countFor c = m.arb.owed c + [ch].count c := by
        intro c
        rw [← owed]
        exact retired.arb.requestStart_owed session initiator ch c
      have notifies : (retired.pendingStart.map (markInFlightCancelled session)).toList.map (·.request.notify) =
          m.pendingStart.toList.map (·.request.notify) := by
        rw [pending]
        cases m.pendingStart with
        | none => rfl
        | some p =>
          simp only [Option.map_some,Option.toList_some,map_cons,map_nil,markInFlightCancelled]
          split <;> rfl
      have free : ∀ c, m.results.countFor c + queued.2.countFor c ≤ 1 := by
        intro c
        have room := answerable.room c
        have count := counts c
        rw [held_book] at room
        change m.arb.owed c + _ + _ + _ + [ch].count c ≤ 1 at room
        omega
      subst found
      rw [sendAll_eq (by rw [show marked.results = m.results from results]; exact free)]
      refine answerable.request ch rfl (fun c => ?_) next unblocked (requestStart_regular regular) (plain _)
      have count := counts c
      rw [held_book,held_book,countFor_append]
      dsimp only [marked]
      rw [notifies,results]
      omega

theorem cancelStart_regular (session : Nat)
    (regular : RegularBids a.pendingGateway a.deferredGatewayLoser a.pendingExternal pending) :
    RegularBids (a.cancelStart session).1.pendingGateway (a.cancelStart session).1.deferredGatewayLoser
      (a.cancelStart session).1.pendingExternal pending := by
  obtain ⟨gateway,deferred,outer,losers⟩ := regular
  unfold Arbitrator.cancelStart
  split
  · split
    · exact ⟨by simp,deferred,outer,losers⟩
    · exact ⟨gateway,by simp,outer,losers⟩
    · exact ⟨gateway,deferred,outer,losers⟩
  split
  · rename_i req left taken
    refine ⟨gateway,deferred,?_,losers⟩
    intro bid mem
    exact outer bid ((Arbitrator.takeSession_waiters taken).mem_iff.mpr (.tail _ mem))
  · exact ⟨gateway,deferred,outer,losers⟩

theorem sendAll_answerable (arb : Arbitrator) (sends : Sends) (answerable : Answerable m.book (act :: others))
    (owed : ∀ ch, arb.owed ch + sends.countFor ch = m.arb.owed ch)
    (regular : RegularBids arb.pendingGateway arb.deferredGatewayLoser arb.pendingExternal m.pendingStart) :
    Answerable (({m with arb := arb}.sendAll sends).book) others := by
  have free : ∀ ch, m.results.countFor ch + sends.countFor ch ≤ 1 := by
    intro ch
    have once := answerable.once ch
    have moved := owed ch
    rw [held_book] at once
    omega
  rw [sendAll_eq (m := {m with arb := arb}) free]
  change Answerable _ ([] ++ others)
  refine answerable.move (fun ch => ?_) rfl answerable.unblocked regular (by simp)
  have moved := owed ch
  have none : owedBy [] ch = 0 := rfl
  rw [held_book,held_book,countFor_append]
  dsimp only
  omega

theorem expireGatewayAdmission_answerable (answerable : Answerable m.book (.expireGatewayAdmission waiter :: others))
    (found : expireGatewayAdmission m waiter = effect) : Answerable effect.shared.book (effect.acts ++ others) := by
  obtain ⟨gateway,deferred,outer,losers⟩ := answerable.regular
  unfold expireGatewayAdmission at found
  dsimp only at found
  split at found
  · rename_i req _ queued
    subst found
    obtain ⟨present,_⟩ := Option.filter_eq_some_iff.mp queued
    refine sendAll_answerable {m.arb with pendingGateway := none} [_] answerable ?_ ⟨by simp,deferred,outer,losers⟩
    intro ch
    simp [Arbitrator.owed,Arbitrator.waiters,present,Sends.countFor,count_cons]
  · rename_i req _ waiting
    subst found
    obtain ⟨present,_⟩ := Option.filter_eq_some_iff.mp waiting
    refine sendAll_answerable {m.arb with deferredGatewayLoser := none} [_] answerable ?_ ⟨gateway,by simp,outer,losers⟩
    intro ch
    simp [Arbitrator.owed,Arbitrator.waiters,present,Sends.countFor,count_cons]
    omega
  · subst found
    exact answerable.drop

theorem takeDeferred_owed (result : StartRequest → StartResult) (named : Named loser)
    (deferred : Named a.deferredGatewayLoser) (ch : Nat) :
    (a.takeDeferredGatewayLoser loser).1.owed ch +
      owedBy (if (a.takeDeferredGatewayLoser loser).2 then loser.toList.map fun req => .notify false req.notify (result req)
        else []) ch = a.owed ch := by
  cases loser with
  | none => simp [Arbitrator.takeDeferredGatewayLoser,owedBy]
  | some req =>
    have count := a.takeDeferredGatewayLoser_owed req ch fun waiting present same => by
      rw [← named req rfl,← deferred waiting present,same]
    split at count
    next owned => simpa [owedBy,Act.waiters,owned] using count
    next kept => simpa [owedBy,kept] using count

def Book.queue (b : Book) : Option StartRequest × Option StartRequest × List StartRequest × Nat × Sends × Bool :=
  (b.pendingGateway,b.deferredGatewayLoser,b.pendingExternal,b.nextWaiter,b.results,b.wedged)

section
variable (answerable : Answerable b (act :: others))
include answerable

section
variable (same : later.queue = b.queue)
include same

theorem Answerable.repend (pending : ∀ ch, (later.pendingStart.toList.map (·.request.notify)).count ch + owedBy pushed ch ≤
      (b.pendingStart.toList.map (·.request.notify)).count ch) (won : ∀ p ∈ later.pendingStart, Named p.gatewayLoser)
    (losers : ∀ new ∈ pushed, Named new.gatewayLoser) : Answerable later (pushed ++ others) := by
  simp only [Book.queue,Prod.mk.injEq] at same
  obtain ⟨gateway,deferred,outer,next,results,wedged⟩ := same
  obtain ⟨gatewayOk,deferredOk,externalOk,_⟩ := answerable.regular
  refine answerable.move (fun ch => ?_) next (wedged.trans answerable.unblocked) ?_ losers
  · have moved := pending ch
    simp only [Book.held,gateway,deferred,outer,results]
    omega
  · rw [Book.Regular,gateway,deferred,outer]
    exact ⟨gatewayOk,deferredOk,externalOk,won⟩

theorem Answerable.keep (pending : later.pendingStart = b.pendingStart) (silent : ∀ new ∈ pushed, new.waiters = [])
    (losers : ∀ new ∈ pushed, Named new.gatewayLoser) : Answerable later (pushed ++ others) := by
  refine answerable.repend same (fun ch => ?_) (pending ▸ answerable.regular.pending) losers
  have none : pushed.flatMap Act.waiters = [] := flatMap_eq_nil_iff.mpr silent
  rw [pending,owedBy,none,count_nil]
  omega

theorem Answerable.retire (before : b.pendingStart = some p)
    (after : later.pendingStart = none) (answer : ∀ ch, owedBy pushed ch ≤ [p.request.notify].count ch)
    (losers : ∀ new ∈ pushed, Named new.gatewayLoser) : Answerable later (pushed ++ others) := by
  refine answerable.repend same (fun ch => ?_) (by simp [after]) losers
  have once := answer ch
  rw [after,before]
  simpa using once

end

end

theorem owedBy_notify (safe : Bool) (waiter : Nat) (result : StartResult) (plain : ∀ act ∈ rest, act.plain = true)
    (ch : Nat) : owedBy (.notify safe waiter result :: rest) ch = [waiter].count ch := by
  rw [owedBy_cons,owedBy_plain plain]
  rfl

theorem notify_loser (plain : ∀ act ∈ rest, act.plain = true) :
    ∀ new ∈ Act.notify safe waiter result :: rest, Named new.gatewayLoser :=
  forall_mem_cons.mpr ⟨.none,fun _ mem => .of_plain (plain _ mem)⟩

theorem clearStart_answerable {err : StartError} {before : State} (answerable : Answerable m.book (act :: others))
    (same : before.book.queue = m.book.queue) (pending : before.pendingStart = m.pendingStart) :
    Answerable (clearStart err before).shared.book ((clearStart err before).acts ++ others) := by
  refine answerable.repend same ?_ (by intro p mem; cases mem) ?_
  · intro ch
    simp only [clearStart,Effect.acts,pending,flatMap_nil,append_nil]
    cases won : m.pendingStart with
    | none => simp [State.book,State.ledger,Ledger.book,owedBy]
    | some p => simp [State.book,State.ledger,Ledger.book,won,owedBy,Act.waiters]
  · intro new mem req captured
    simp only [clearStart,Effect.acts_code,mem_map] at mem
    obtain ⟨p,_,rfl⟩ := mem
    cases captured

theorem announceLoser_counts {source : UInt8} {before : State}
    (free : ∀ ch, before.results.countFor ch + ((losers.filter (·.sessionID ≠ gatewaySessionID)).map (·.notify)).count ch ≤ 1) :
    (∀ ch, (losers.foldl (announceLoser choice source) before).results.countFor ch = before.results.countFor ch +
      ((losers.filter (·.sessionID ≠ gatewaySessionID)).map (·.notify)).count ch) ∧
    (losers.foldl (announceLoser choice source) before).wedged = before.wedged := by
  induction losers generalizing before with
  | nil => simp
  | cons loser rest ih =>
    rw [foldl_cons]
    by_cases own : loser.sessionID = gatewaySessionID
    · have skipped : announceLoser choice source before loser = before := by simp [announceLoser,own]
      have filtered : (loser :: rest).filter (·.sessionID ≠ gatewaySessionID) = rest.filter (·.sessionID ≠ gatewaySessionID) := by
        simp [own]
      rw [skipped]
      rw [filtered] at free ⊢
      exact ih free
    · have filtered : (loser :: rest).filter (·.sessionID ≠ gatewaySessionID) = loser :: rest.filter
        (·.sessionID ≠ gatewaySessionID) := by
        simp [own]
      rw [filtered] at free ⊢
      have told : ∃ result, (announceLoser choice source before loser).results = before.results ++ [(loser.notify,result)] ∧
          (announceLoser choice source before loser).wedged = before.wedged := by
        have unsent := free loser.notify
        rw [map_cons,count_cons_self] at unsent
        have none : before.results.countFor loser.notify = 0 := by omega
        unfold announceLoser
        rw [if_neg own]
        dsimp only
        split <;> rw [send_eq none] <;> exact ⟨_,rfl,rfl⟩
      obtain ⟨result,sent,open_⟩ := told
      have split : ∀ ch, (announceLoser choice source before loser).results.countFor ch =
          before.results.countFor ch + [loser.notify].count ch := by
        intro ch
        rw [sent,countFor_snoc]
      have onward := @ih (announceLoser choice source before loser) fun ch => by
        have bound := free ch
        rw [map_cons,count_cons] at bound
        rw [split,count_singleton]
        omega
      refine ⟨fun ch => ?_,onward.2.trans open_⟩
      rw [onward.1,split,count_singleton,map_cons,count_cons]
      omega

theorem startTransport_pushes (transport : Transport) (selection : Selection) :
    ∀ new ∈ startTransport transport selection, new.waiters = [] ∧
    (new.gatewayLoser = selection.gatewayLoser ∨ new.gatewayLoser = none) := by
  cases transport <;> simp [startTransport,Act.waiters,Act.gatewayLoser]

theorem select_regular {next : Arbitrator} {winner : StartRequest} (won : a.selectBidsAtSYN true bids = (next,some (winner,losers)))
    (regular : RegularBids a.pendingGateway a.deferredGatewayLoser a.pendingExternal pending) :
    (Named (⟨winner,losers⟩ : Selection).gatewayLoser) ∧
    ∀ later : Option PendingStart, (∀ p ∈ later, p.gatewayLoser = (⟨winner,losers⟩ : Selection).gatewayLoser) →
      RegularBids next.pendingGateway next.deferredGatewayLoser next.pendingExternal later := by
  obtain ⟨gateway,deferred,outer,_⟩ := regular
  obtain ⟨_,_,losersEq,rfl⟩ := Arbitrator.selectBidsAtSYN_cases won
  have loserOk : Named (⟨winner,losers⟩ : Selection).gatewayLoser := by
    intro req mem
    have inside := mem_of_getLast? mem
    rw [mem_filter,losersEq,mem_filter,Arbitrator.eligibleBids,mem_filter,mem_append] at inside
    obtain ⟨⟨⟨queued | queued,_⟩,_⟩,own⟩ := inside
    · exact gateway req (by simpa using queued)
    · exact absurd (by simpa using own) (outer req queued)
  refine ⟨loserOk,fun later captured => ⟨?_,?_,?_,?_⟩⟩
  · intro req mem
    exact gateway req (Option.filter_eq_some_iff.mp mem).1
  · intro req mem
    rcases Option.or_eq_some_iff.mp mem with lost | ⟨_,kept⟩
    · exact loserOk req lost
    · exact deferred req kept
  · intro req mem
    exact outer req (mem_filter.mp mem).1
  · intro p mem req captured'
    rw [captured p mem] at captured'
    exact loserOk req captured'

theorem tryGrantAndStart_answerable (answerable : Answerable m.book (.tryGrantAndStart bids :: others))
    (found : tryGrantAndStart choice m bids = effect) : Answerable effect.shared.book (effect.acts ++ others) := by
  unfold tryGrantAndStart at found
  split at found
  · subst found
    exact answerable.drop
  rename_i admitted
  have none : m.pendingStart = none := by simp_all
  split at found
  · subst found
    exact answerable.drop
  rename_i arb req losers won
  subst found
  obtain ⟨loserOk,regular⟩ := select_regular won answerable.regular
  have owed := fun ch => Arbitrator.selectBidsAtSYN_owed won ch
  have total : ∀ ch, m.arb.owed ch + m.results.countFor ch ≤ 1 := by
    intro ch
    have once := answerable.once ch
    rw [held_book] at once
    omega
  have free : ∀ ch, m.results.countFor ch + ((losers.filter (·.sessionID ≠ gatewaySessionID)).map (·.notify)).count ch ≤ 1 := by
    intro ch
    have once := total ch
    have taken := owed ch
    omega
  obtain ⟨results,wedged,told⟩ := announceLoser_foldl choice req.initiator {m with arb := arb} losers
  have counts := @announceLoser_counts choice losers req.initiator {m with arb := arb} free
  have pushes := startTransport_pushes m.transport ⟨req,losers⟩
  dsimp only
  rw [told] at counts ⊢
  refine answerable.move (fun ch => ?_) rfl (counts.2.trans answerable.unblocked) (regular _ ?_) ?_
  · have silent : (startTransport m.transport ⟨req,losers⟩).flatMap Act.waiters = [] :=
      flatMap_eq_nil_iff.mpr fun new mem => (pushes new mem).1
    have quiet : owedBy (startTransport m.transport ⟨req,losers⟩) ch = 0 := by rw [owedBy,silent,count_nil]
    have sent : Sends.countFor results ch = _ := counts.1 ch
    have taken := owed ch
    rw [held_book,held_book]
    simp only [Effect.acts_code,Option.toList_some,map_cons,map_nil]
    rw [quiet,sent]
    dsimp only
    omega
  · intro p mem
    cases mem
    rfl
  · intro new mem
    simp only [Effect.acts_code] at mem
    rcases (pushes new mem).2 with same | none
    · exact same ▸ loserOk
    · exact none ▸ .none

theorem Answerable.settle (answerable : Answerable b (act :: others))
    (before : b.pendingStart = some p) (after : later.pendingStart = none)
    (same : later.queue = b.queue ∨ ∃ result, later.queue = {b with results := b.results ++ [(p.request.notify,result)]}.queue) :
    Answerable later others := by
  change Answerable later ([] ++ others)
  rcases same with unsent | ⟨result,sent⟩
  · exact answerable.retire unsent before after (fun ch => Nat.zero_le _) (by simp)
  simp only [Book.queue,Prod.mk.injEq] at sent
  obtain ⟨gateway,deferred,outer,next,results,wedged⟩ := sent
  obtain ⟨gatewayOk,deferredOk,externalOk,_⟩ := answerable.regular
  refine answerable.move (fun ch => ?_) next (wedged.trans answerable.unblocked) ?_ (by simp)
  · have empty : owedBy [] ch = 0 := rfl
    simp only [Book.held,gateway,deferred,outer,results,before,after,countFor_snoc,Option.toList_none,
      Option.toList_some,map_nil,map_cons,count_nil]
    omega
  · rw [Book.Regular,gateway,deferred,outer,after]
    exact ⟨gatewayOk,deferredOk,externalOk,by simp⟩

section
variable (answerable : Answerable m.book (act :: others))
include answerable

section
variable (before : m.pendingStart = some p)
include before

theorem Answerable.selected_free : m.results.countFor p.request.notify = 0 := by
  have once := answerable.once p.request.notify
  rw [held_book,before] at once
  simp only [Option.toList_some,map_cons,map_nil,count_cons_self] at once
  omega

theorem rejectGrant_answerable : Answerable (rejectGrant {m with pendingStart := none} p.request).book others := by
  unfold rejectGrant
  rcases trySend_update ({m with pendingStart := none} : State).fenceArbitrationUntilSYN
    (p.request.notify,{cancelled := true, initiator := p.request.initiator}) with unsent | sent
  · rw [unsent]
    exact answerable.settle before rfl (.inl rfl)
  · rw [sent]
    exact answerable.settle before rfl (.inr ⟨_,rfl⟩)

theorem commitGrant_answerable {now : Nat} {ready : State} (same : ready.book.queue = m.book.queue)
    (after : ready.pendingStart = none) :
    Answerable (commitGrant cfg now ready p.request).book others := by
  obtain ⟨granted,sent,book,_⟩ := commitGrant_update cfg now ready p.request
  have queue : granted.book.queue = m.book.queue := by
    rw [book]
    exact same
  have results : granted.results = m.results := congrArg (·.2.2.2.2.1) queue
  have pending : granted.book.pendingStart = none := by
    rw [book]
    exact after
  rw [sent,send_eq (by rw [results]; exact answerable.selected_free before)]
  refine answerable.settle before pending (.inr ⟨{granted := true, initiator := p.request.initiator
                                                  startedQueued := p.request.sessionID ≠ gatewaySessionID},?_⟩)
  simp only [Book.queue,Prod.mk.injEq] at queue ⊢
  obtain ⟨gateway,deferred,outer,next,_,wedged⟩ := queue
  exact ⟨gateway,deferred,outer,next,congrArg (· ++ _) results,wedged⟩

end

end

theorem completeArbitrationGrant_answerable {pending : PendingStart}
    (answerable : Answerable m.book (.completeArbitrationGrant pending :: others))
    (found : completeArbitrationGrant cfg choice m pending = effect) : Answerable effect.shared.book (effect.acts ++ others) := by
  unfold completeArbitrationGrant at found
  split at found
  · subst found
    exact answerable.drop
  split at found
  · subst found
    exact answerable.keep rfl rfl (by simp [Effect.acts]) (by simp [Effect.acts])
  rename_i p won
  obtain ⟨before,_⟩ := Option.filter_eq_some_iff.mp won
  dsimp only at found
  repeat' split at found
  all_goals subst found
  · exact rejectGrant_answerable answerable before
  on_goal 4 => exact rejectGrant_answerable answerable before
  all_goals exact commitGrant_answerable answerable before rfl rfl

theorem handleArbitrationResponse_answerable {snap : ResponseSnapshot} {data : UInt8} {answers : Nat}
    (answerable : Answerable m.book (.handleArbitrationResponse snap data answers :: others))
    (found : handleArbitrationResponse cfg choice m snap data answers = effect) :
    Answerable effect.shared.book (effect.acts ++ others) := by
  have plain : ∀ bidderFailed, ∀ new ∈ [Act.expectForeignTelegram snap.data,.deliverResponse snap bidderFailed],
      new.plain = true := fun _ => forall_mem_cons.mpr ⟨rfl,forall_mem_singleton.mpr rfl⟩
  unfold handleArbitrationResponse at found
  extract_lets cleared after at found
  split at found
  · subst found
    refine answerable.keep rfl rfl ?_ ?_ <;> simp [Effect.acts,after,Act.waiters,Act.gatewayLoser]
  split at found
  · subst found
    refine answerable.keep (by dsimp only; split <;> rfl) (by dsimp only; split <;> rfl) ?_ ?_ <;>
      simp [Effect.acts,after,Act.waiters,Act.gatewayLoser]
  rename_i p won
  have before : m.pendingStart = some p := won
  have answered : ∀ (later : State) (safe bidderFailed : Bool) (result : StartResult),
      later.book.queue = m.book.queue → later.pendingStart = none →
      Answerable later.book
        ((({shared := later, code := .notify safe p.request.notify result :: after bidderFailed} : Step).acts) ++ others) := by
    intro later safe bidderFailed result same none
    refine answerable.retire same before none (fun ch => ?_) ?_
    · simp only [Effect.acts_code]
      rw [owedBy_notify safe _ result (plain bidderFailed)]
    · simp only [Effect.acts_code]
      exact notify_loser (plain bidderFailed)
  have decided : ∀ later : State, (decideExternal later p.request).book.queue = later.book.queue ∧
      (decideExternal later p.request).pendingStart = later.pendingStart := by
    intro later
    unfold decideExternal
    split <;> exact ⟨rfl,rfl⟩
  extract_lets req logged retired at found
  repeat' split at found
  all_goals subst found
  -- all but a grant give the answer now
  all_goals try first
    | exact answered _ _ _ _ rfl rfl
    | exact answered _ _ _ _ (decided _).1 (decided _).2
  refine answerable.repend rfl ?_ ?_ ?_
  · intro ch
    simp [State.book,State.ledger,Ledger.book,before,Effect.acts,after,owedBy,Act.waiters]
  · intro q mem
    cases mem
    exact answerable.regular.pending p before
  · simp [Effect.acts,after,Act.gatewayLoser]

theorem notify_answerable (answerable : Answerable m.book (.notify safe waiter result :: others)) :
    Answerable (if safe then m.trySend (waiter,result) else m.send (waiter,result)).book others := by
  have unsent : m.results.countFor waiter = 0 := by
    have once := answerable.once waiter
    rw [held_book,owedBy_cons,Act.waiters,count_cons_self] at once
    omega
  have sent : Answerable (({m with results := m.results ++ [(waiter,result)]} : State).book) ([] ++ others) := by
    refine answerable.move (fun ch => ?_) rfl answerable.unblocked answerable.regular (by simp)
    have empty : owedBy [] ch = 0 := rfl
    rw [held_book,held_book,countFor_snoc]
    dsimp only [Act.waiters]
    omega
  split
  · rcases trySend_update m (waiter,result) with same | added
    · rw [same]
      change Answerable _ ([] ++ others)
      refine answerable.move (fun ch => ?_) rfl answerable.unblocked answerable.regular (by simp)
      exact Nat.le_add_right _ _
    · rw [added]
      exact sent
  · rw [send_eq unsent]
    exact sent

theorem take_answerable {later : State} (result : StartRequest → StartResult)
    (answerable : Answerable m.book (act :: others)) (named : Named loser)
    (arb : later.arb = (m.arb.takeDeferredGatewayLoser loser).1) (pending : later.pendingStart = m.pendingStart)
    (results : later.results = m.results) (next : later.nextWaiter = m.nextWaiter) (wedged : later.wedged = m.wedged) :
    Answerable later.book ((if (m.arb.takeDeferredGatewayLoser loser).2 then
      loser.toList.map fun req => .notify false req.notify (result req) else []) ++ others) := by
  obtain ⟨gateway,deferred,outer,losers⟩ := answerable.regular
  refine answerable.move (fun ch => ?_) next (wedged.trans answerable.unblocked) ?_ ?_
  · have moved := takeDeferred_owed result named deferred ch
    rw [held_book,held_book,arb,pending,results]
    omega
  · have same : (m.arb.takeDeferredGatewayLoser loser).1.pendingGateway = m.arb.pendingGateway ∧
        (m.arb.takeDeferredGatewayLoser loser).1.pendingExternal = m.arb.pendingExternal ∧
        ((m.arb.takeDeferredGatewayLoser loser).1.deferredGatewayLoser = m.arb.deferredGatewayLoser ∨
          (m.arb.takeDeferredGatewayLoser loser).1.deferredGatewayLoser = none) := by
      unfold Arbitrator.takeDeferredGatewayLoser
      split
      · split <;> simp
      · simp
    obtain ⟨sameGateway,sameExternal,kept | taken⟩ := same
    · change RegularBids later.arb.pendingGateway later.arb.deferredGatewayLoser later.arb.pendingExternal later.pendingStart
      rw [arb,pending,sameGateway,sameExternal,kept]
      exact ⟨gateway,deferred,outer,losers⟩
    · change RegularBids later.arb.pendingGateway later.arb.deferredGatewayLoser later.arb.pendingExternal later.pendingStart
      rw [arb,pending,sameGateway,sameExternal,taken]
      exact ⟨gateway,by simp,outer,losers⟩
  · intro new mem req captured
    split at mem
    · obtain ⟨_,_,rfl⟩ := mem_map.mp mem
      cases captured
    · cases mem

theorem fail_answerable {later : State}
    (answerable : Answerable m.book (act :: others)) (won : m.pendingStart.filter (·.request.notify = waiter) = some p)
    (same : later.book.queue = m.book.queue) (none : later.pendingStart = none) :
    Answerable later.book ([.notify safe p.request.notify result] ++ others) := by
  refine answerable.retire same (Option.filter_eq_some_iff.mp won).1 none (fun ch => ?_) (notify_loser (by simp))
  rw [owedBy_notify _ _ _ (by simp)]

theorem pendingIs_iff : m.pendingIs waiter = true ↔ ∃ p, m.pendingStart = some p ∧ p.request.notify = waiter := by
  unfold State.pendingIs
  cases m.pendingStart <;> simp

theorem abort_answerable {req : StartRequest} {later : State}
    (answerable : Answerable m.book (act :: others)) (owns : m.pendingIs req.notify = true)
    (same : later.book.queue = m.book.queue) (none : later.pendingStart = none) :
    Answerable later.book ([.notify safe req.notify result] ++ others) := by
  obtain ⟨p,won,notify⟩ := pendingIs_iff.mp owns
  rw [← notify]
  refine answerable.retire same won none (fun ch => ?_) (notify_loser (by simp))
  rw [owedBy_notify _ _ _ (by simp)]

/-- What an abort after a selection needs: that its bid is still the selected one. -/
def abortsOwn (m : State) : Act → Bool
  | .abortClosing selection | .abortUnsupported selection => m.pendingIs selection.request.notify
  | _ => true

theorem perform_writes_answerable (idle : act.idle = false) (owns : abortsOwn m act = true)
    (answerable : Answerable m.book (act :: others)) (found : perform cfg choice act m = some effect) :
    Answerable effect.shared.book (effect.acts ++ others) := by
  have loser := answerable.loser
  cases act
  all_goals cases idle
  all_goals cases found
  case requestStart session initiator => exact requestStart_answerable answerable rfl
  case cancelStart session =>
    exact sendAll_answerable _ _ answerable (m.arb.cancelStart_owed session) (cancelStart_regular session answerable.regular)
  case cancelPendingStart session =>
    unfold cancelPendingStart
    split
    · rename_i p won
      split
      · refine answerable.retire (by dsimp only; split <;> rfl) won (by dsimp only; split <;> rfl) (fun ch => ?_) ?_
        · simp [Effect.acts,owedBy,Act.waiters]
        · simp [Effect.acts,Act.gatewayLoser]
      · exact answerable.drop
    · exact answerable.drop
  case expireGatewayAdmission waiter => exact expireGatewayAdmission_answerable answerable rfl
  case deadline =>
    unfold deadline
    split
    · rename_i p won
      split
      · exact answerable.drop
      refine answerable.retire rfl won rfl (fun ch => ?_) ?_
      · simp [Effect.acts,owedBy,Act.waiters]
      · intro new mem req captured
        simp only [Effect.acts_code,mem_cons,not_mem_nil,or_false] at mem
        rcases mem with rfl | rfl
        · exact answerable.regular.pending p won req captured
        · cases captured
    · exact answerable.drop
  case takeGatewayLoser captured =>
    have named : Named captured := loser
    have taken := take_answerable (fun req => {initiator := req.initiator, err := some .deadlineTimeout})
      answerable named (show State.arb {m with arb := (m.arb.takeDeferredGatewayLoser captured).1} = _ from rfl) rfl rfl rfl rfl
    simpa only [takeGatewayLoser,Effect.acts_code] using taken
  case tryGrantAndStart bids => exact tryGrantAndStart_answerable answerable rfl
  case callRequestStart selection | startBlocking selection | callStartArbitration selection gen =>
    try simp only [callRequestStart,startBlocking,callStartArbitration]
    repeat' split
    all_goals exact answerable.keep rfl rfl (by simp [Effect.acts,Act.waiters]) (by simpa [Effect.acts,Act.gatewayLoser] using loser)
  case settleLocalLosses selection err =>
    have named : Named selection.gatewayLoser := loser
    have taken := take_answerable (localLossResult selection err) answerable named
      (show State.arb (settleLocalLosses cfg m selection err).shared = _ from rfl) rfl rfl rfl rfl
    simpa only [settleLocalLosses,Effect.acts_code] using taken
  case failRequestStart selection err =>
    unfold failRequestStart
    split
    · rename_i p won
      exact fail_answerable answerable won rfl rfl
    · refine answerable.keep (by dsimp only; split <;> rfl) (by dsimp only; split <;> rfl) (by
        simp [Effect.acts]) (by simp [Effect.acts])
  case abortClosing selection | abortUnsupported selection =>
    have owned : m.pendingIs selection.request.notify = true := owns
    simp only [abortClosing,abortUnsupported]
    rw [if_pos owned]
    exact abort_answerable answerable owned rfl rfl
  case blockingFailed selection gen err =>
    unfold blockingFailed
    extract_lets current cleared
    have same : cleared.pendingStart = m.pendingStart ∧ cleared.book.queue = m.book.queue := by
      dsimp only [cleared]
      split <;> exact ⟨rfl,rfl⟩
    split
    · rename_i p won
      rw [same.1] at won
      exact fail_answerable answerable won same.2 rfl
    refine answerable.keep ?_ ?_ (by simp [Effect.acts]) (by simp [Effect.acts])
    · dsimp only
      split
      · exact same.2
      · exact same.2
    · dsimp only
      split
      · exact same.1
      · exact same.1
  case blockingStarted selection gen =>
    unfold blockingStarted
    extract_lets current
    split
    · rename_i p won
      obtain ⟨before,_⟩ := Option.filter_eq_some_iff.mp won
      refine answerable.repend rfl (fun ch => ?_) ?_ ?_
      · simp [State.book,State.ledger,Ledger.book,before,Effect.acts,owedBy,Act.waiters]
      · intro q mem
        cases mem
        exact answerable.regular.pending p before
      · simp [Effect.acts,Act.gatewayLoser]
    · refine answerable.keep (by dsimp only; split <;> rfl) (by dsimp only; split <;> rfl) (by
        simp [Effect.acts]) (by simp [Effect.acts])
  case completeArbitrationGrant pending => exact completeArbitrationGrant_answerable answerable rfl
  case snapshotResponse started data answers =>
    exact answerable.keep rfl rfl (by simp [snapshotResponse,Effect.acts,Act.waiters]) (by
      simp [snapshotResponse,Effect.acts,Act.gatewayLoser])
  case handleArbitrationResponse snap data answers => exact handleArbitrationResponse_answerable answerable rfl
  case notify safe waiter result => exact notify_answerable answerable
  case resetState | reconnectState | closeState =>
    exact clearStart_answerable answerable (congrArg Book.queue (endGatewayTxn_releases _ _).book)
      (congrArg Ledger.pendingStart (endGatewayTxn_releases _ _).ledger)
  case cancelReturn | closeUpstream | fireAbsorbReset =>
    try unfold fireAbsorbReset
    try split
    all_goals exact answerable.keep rfl rfl (by simp [Effect.acts]) (by simp [Effect.acts])
  case failAllPending err =>
    exact sendAll_answerable _ _ answerable (m.arb.failAllPending_owed err)
      ⟨by simp [Arbitrator.failAllPending],by simp [Arbitrator.failAllPending],by
        simp [Arbitrator.failAllPending],answerable.regular.pending⟩

theorem perform_answerable (owns : abortsOwn m act = true) (answerable : Answerable m.book (act :: others))
    (found : perform cfg choice act m = some effect) : Answerable effect.shared.book (effect.acts ++ others) := by
  cases idle : act.idle with
  | true =>
    rw [show effect.shared.book = m.book from (perform_idles idle found).book]
    exact answerable.idle fun _ mem => (perform_pushes found mem).plain idle
  | false => exact perform_writes_answerable idle owns answerable found

end Acts

theorem launch_pushes {effect : Step} (began : launch event m = some (effect,name)) :
    ∀ act ∈ effect.acts, act.waiters = [] ∧ act.gatewayLoser = none := by
  have silent : effect.acts.all (fun act => act.waiters.isEmpty && act.gatewayLoser.isNone) = true := by
    cases event
    all_goals simp only [launch] at began
    case symbol raw logical dropped =>
      cases began
      unfold symbolCode
      split
      · rfl
      · split <;> rfl
    all_goals try split at began
    all_goals cases began
    all_goals rfl
  simpa only [all_eq_true,Bool.and_eq_true,List.isEmpty_iff,Option.isNone_iff_eq_none] using silent

theorem launch_answerable {effect : Step} {acts : List Act} (answerable : Answerable m.book acts)
    (began : launch event m = some (effect,name)) :
    Answerable effect.shared.book (effect.acts ++ acts) := by
  obtain ⟨_,outstanding,book⟩ := launch_book began
  have pushes := launch_pushes began
  have silent : ∀ ch, owedBy (effect.acts ++ acts) ch = owedBy acts ch := by
    intro ch
    have none : effect.acts.flatMap Act.waiters = [] := flatMap_eq_nil_iff.mpr fun act mem => (pushes act mem).1
    rw [owedBy_append,owedBy,none,count_nil,Nat.zero_add]
  rw [book]
  refine ⟨fun ch => ?_,fun ch bound => ?_,answerable.unblocked,answerable.regular,?_⟩
  · rw [silent]
    exact answerable.once ch
  · rw [silent]
    exact answerable.fresh ch bound
  · exact forall_mem_append.mpr ⟨fun act new => (pushes act new).2 ▸ Named.none,answerable.losers⟩

def AbortsOwnStart (system : System) (label : Label) : Prop := (system.performs label).all (abortsOwn system.shared) = true

instance (system : System) (label : Label) : Decidable (AbortsOwnStart system label) := inferInstanceAs (Decidable (_ = true))

theorem answerable_initially (transport : Transport) : Answerable (initially transport).shared.book (initially transport).acts := by
  refine ⟨fun _ => Nat.zero_le 1,fun _ _ => rfl,rfl,⟨?_,?_,?_,?_⟩,?_⟩ <;> (intro _ mem; cases mem)

theorem run_answerable {cfg : Config} {transport : Transport} {labels : List Label} {final : System}
    (run : Run (step cfg) AbortsOwnStart (initially transport) labels final) : Answerable final.shared.book final.acts := by
  refine Run.invariant (fun system : System => Answerable system.shared.book system.acts) ?_ run (answerable_initially transport)
  intro system label next answerable permitted ran
  refine Machine.acts_step (fun m acts => Answerable m.book acts) (fun _ _ _ same => Answerable.perm same) ?_ ?_ answerable ran
  · intro event effect name _ began
    exact launch_answerable answerable began
  · intro choice act others effect _ performs _ held found
    have owns : abortsOwn system.shared act = true := by
      rw [AbortsOwnStart,performs] at permitted
      exact permitted
    exact perform_answerable owns held found

/-- In a run whose aborts find their own bid selected, every waiter channel is sent at most one result,
and no send without a guard ever finds its channel full. -/
theorem start_waiters_answered_once (cfg : Config) (transport : Transport) (labels : List Label) (final : System)
    (run : Run (step cfg) AbortsOwnStart (initially transport) labels final) :
    (∀ waiter, (final.shared.results.filter (·.1 = waiter)).length ≤ 1) ∧ final.shared.wedged = false := by
  have answerable := run_answerable run
  refine ⟨fun waiter => ?_,answerable.unblocked⟩
  have once := answerable.once waiter
  have counted : (final.shared.results.filter (·.1 = waiter)).length = final.shared.results.countFor waiter := by
    rw [Sends.countFor,List.count,countP_map,countP_eq_length_filter]
    congr 1
  rw [held_book] at once
  omega

theorem granted_start_answered_once : ∃ final,
    Run (step defaultConfig) AbortsOwnStart (initially .requester) grantedStart final ∧
      final.shared.results.map (·.1) = [0] ∧
      (∀ waiter, (final.shared.results.filter (·.1 = waiter)).length ≤ 1) ∧ final.shared.wedged = false := by
  refine Exists.imp (fun final found => and_assoc.mp ⟨found,?_⟩) (Run.exists_of_executeWhere _ (by decide +kernel))
  exact start_waiters_answered_once defaultConfig .requester grantedStart final found.1

def cancelBeforeAbort : List Label :=
  [.start .connect,.run 0 {},.start (.sessionStart 1 0x31),.run 0 {},.run 0 {},
   .start (.symbol none (some (symbolSyn,false)) false),.run 1 {},.run 1 {},.run 1 {},.run 1 {},
   .start (.sessionCancel 1),.run 2 {},.run 2 {},.run 2 {},.run 2 {}]

def abortAfterwards : List Label := [.run 1 {},.run 1 {},.run 1 {},.run 1 {}]

/-- The session cancels a bid that is about to be aborted: its waiter is answered twice, or the second answer blocks. -/
theorem abort_after_cancel_answers_twice :
    (∃ final, Run (step defaultConfig) anyStep (initially .unsupported) (cancelBeforeAbort ++ .run 0 {} :: abortAfterwards) final ∧
      (final.shared.results.filter (·.1 = 0)).length = 2) ∧
    ∃ final, Run (step defaultConfig) anyStep (initially .unsupported) (cancelBeforeAbort ++ abortAfterwards) final ∧
      final.shared.wedged = true := by
  constructor
  all_goals exact Run.exists_of_execute _ (by decide +kernel)

end EbusGateway.Mux
