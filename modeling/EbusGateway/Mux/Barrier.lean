import EbusGateway.Mux.Posting

/-! The absorb barrier by itself: which request is selected, how many answers are to be absorbed, which
requests are unanswered, and which answers were applied to which request.
-/
namespace EbusGateway.Mux
open Library

structure Barrier where
  transport : Transport
  selected : Option (Nat × Bool)
  absorb : Nat
  outstanding : List Nat
  closed : Bool
  applied : List (Nat × Nat)

def Trace.application : Trace → Option (Nat × Nat)
  | .applied answers pending => some (answers,pending)
  | _ => none

def Book.barrier (b : Book) : Barrier where
  transport := b.transport
  selected := b.pendingStart.map fun p => (p.request.id,p.responseReceived)
  absorb := b.pendingStartAbsorb
  outstanding := b.outstanding
  closed := b.upstreamClosed
  applied := b.history.filterMap Trace.application

def State.barrier (m : State) : Barrier := m.book.barrier

inductive Shift (b : Barrier) : Act → Barrier → Prop
  | keep act : Shift b act b
  | absorbed act (consuming : act.consuming = true) : Shift b act {b with absorb := b.absorb - 1}
  | retire act (selected : b.selected.isSome = true) : Shift b act {b with selected := none, absorb := b.absorb + 1}
  | drop act (consuming : act.consuming = true) : Shift b act {b with selected := none}
  | answered session id (selected : b.selected = some (id,true)) : Shift b (.cancelPendingStart session) {b with selected := none}
  | granted pending : Shift b (.completeArbitrationGrant pending) {b with selected := none}
  | clear act (clearing : act = .resetState ∨ act = .reconnectState ∨ act = .closeState) :
    Shift b act {b with selected := none, absorb := 0}
  | reset (positive : 0 < b.absorb) : Shift b .fireAbsorbReset {b with absorb := 0}
  | select bids id (free : b.selected = none) (passed : b.absorb = 0) :
    Shift b (.tryGrantAndStart bids) {b with selected := some (id,false)}
  | call selection (running : b.closed = false) :
    Shift b (.callRequestStart selection) {b with outstanding := b.outstanding ++ [selection.request.id]}
  | applies snapshot data answers id received selected absorb (found : b.selected = some (id,received)) (passed : b.absorb = 0)
    (outcome : selected = none ∧ absorb ≤ 1 ∨ selected = some (id,true) ∧ absorb = 0) :
    Shift b (.handleArbitrationResponse snapshot data answers)
      {b with selected := selected, absorb := absorb, applied := b.applied ++ [(answers,id)]}
  | started selection gen id received (found : b.selected = some (id,received)) :
    Shift b (.blockingStarted selection gen) {b with selected := some (id,true)}
  | close : Shift b .closeUpstream {b with outstanding := [], closed := true}

theorem Shift.of_eq {b later : Barrier} (act : Act) (same : later = b) : Shift b act later := same ▸ .keep act

theorem Shift.transport {b later : Barrier} {act : Act} (shift : Shift b act later) : later.transport = b.transport := by
  cases shift <;> rfl

section Functions
variable {cfg : Config} {choice : Choice} {m : State} {effect : Step}

theorem selected_some {p : PendingStart} (found : m.pendingStart = some p) :
    m.barrier.selected = some (p.request.id,p.responseReceived) :=
  congrArg (Option.map fun p : PendingStart => (p.request.id,p.responseReceived)) found

theorem post_barrier (ledger : Ledger) (entries : List Trace) : (ledger.post entries).book.barrier = {ledger.book.barrier with
      applied := ledger.book.barrier.applied ++ (entries.filter Trace.isHistory).filterMap Trace.application} := by
  simp [Ledger.post,Ledger.book,Book.barrier]

theorem barrier_quiet {ledger : Ledger} {entries : List Trace}
    (quiet : (entries.filter Trace.isHistory).filterMap Trace.application = []) :
    (ledger.post entries).book.barrier = ledger.book.barrier := by
  rw [post_barrier,quiet,List.append_nil]

theorem Posts.shift {act : Act} {later : Ledger} (posts : Posts choice m act later) : Shift m.barrier act later.book.barrier := by
  cases posts with
  | keep | withdraw => exact .keep _
  | absorb _ consuming => exact .absorbed _ consuming
  | retire _ p selected => exact .retire _ (by rw [selected_some selected]; rfl)
  | drop _ consuming => exact .drop _ consuming
  | answered session p selected received => exact .answered session p.request.id (received ▸ selected_some selected)
  | clear _ clearing => exact .clear _ clearing
  | reset positive => exact .reset positive
  | select bids arb request losers _ _ free passed =>
    rw [barrier_quiet (by rw [announcement_silent]; rfl)]
    exact .select bids request.id (congrArg (Option.map fun p : PendingStart => (p.request.id,p.responseReceived)) free) passed
  | call selection running => exact .call selection running
  | refuse snapshot data answers p absorb entries selected passed arms told =>
    rw [post_barrier]
    have applies := Shift.applies snapshot data answers _ _ none absorb (selected_some selected) passed (.inl ⟨rfl,arms⟩)
    rcases told with rfl | ⟨_,_,rfl⟩ <;> exact applies
  | answer snapshot data answers p selected passed =>
    rw [post_barrier]
    exact .applies snapshot data answers _ _ _ _ (selected_some selected) passed (.inr ⟨rfl,passed⟩)
  | started selection gen p selected => exact .started selection gen _ p.responseReceived (selected_some selected)
  | close => exact .close
  | returns | called | again => exact .of_eq _ (barrier_quiet rfl)
  | request session initiator ch =>
    rw [barrier_quiet rfl]
    refine .of_eq _ (congrArg (fun selected => {m.barrier with selected := selected}) (markInFlightCancelled_map _ _ _ fun p => ?_))
    unfold markInFlightCancelled
    split <;> rfl
  | reject pending => exact .granted pending
  | grant pending p entries _ _ told =>
    rw [barrier_quiet (by rcases told with rfl | rfl | ⟨_,rfl⟩ <;> rfl)]
    exact .granted pending

theorem tryGrantAndStart_barrier (choice : Choice) (m : State) (bids : Option Bids) :
    (tryGrantAndStart choice m bids).acts = [] ∧ (tryGrantAndStart choice m bids).shared.barrier = m.barrier ∨
    ∃ selection, (tryGrantAndStart choice m bids).acts = startTransport m.transport selection ∧
      m.barrier.selected = none ∧ m.barrier.absorb = 0 ∧
      (tryGrantAndStart choice m bids).shared.barrier = {m.barrier with selected := some (selection.request.id,false)} := by
  rcases tryGrantAndStart_posts choice m bids with ⟨nothing,same⟩ | ⟨arb,request,losers,_,_,acts,free,passed,_,same⟩
  · exact .inl ⟨nothing,congrArg (·.book.barrier) same⟩
  · refine .inr ⟨⟨request,losers⟩,acts,congrArg (Option.map fun p : PendingStart => (p.request.id,p.responseReceived)) free,passed,?_⟩
    exact (congrArg (·.book.barrier) same).trans (barrier_quiet (by rw [announcement_silent]; rfl))

theorem perform_shift {act : Act} (found : perform cfg choice act m = some effect) : Shift m.barrier act effect.shared.barrier := by
  cases idle : act.idle with
  | true => exact .of_eq _ (congrArg Book.barrier (perform_idles idle found).book)
  | false => exact (perform_posts idle found).shift

theorem launch_barrier {event : Event} {name : Name} (launched : launch event m = some (effect,name)) :
    effect.shared.barrier = {m.barrier with outstanding := effect.shared.outstanding} := by
  obtain ⟨_,outstanding,book⟩ := launch_book launched
  have same : effect.shared.outstanding = outstanding := congrArg Book.outstanding book
  rw [State.barrier,book,same]
  rfl

end Functions
end EbusGateway.Mux
