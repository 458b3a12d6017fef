import EbusGateway.Mux.System

/-! What the wire side leaves alone: symbol handling, the ownership limit and the gateway's own writes
never touch the START bookkeeping or the journal.
-/
namespace EbusGateway.Mux
open Library

structure Ledger where
  pendingGateway : Option StartRequest
  deferredGatewayLoser : Option StartRequest
  pendingExternal : List StartRequest
  pendingStart : Option PendingStart
  pendingStartAbsorb : Nat
  transport : Transport
  closing : Bool
  upstreamClosed : Bool
  sessions : List Nat
  closedSessions : List Nat
  nextSession : Nat
  nextWaiter : Nat
  results : Sends
  received : List Nat
  wedged : Bool
  outstanding : List Nat
  items : Nat
  journal : List Trace

variable (m : State) (reason : InactiveReason) {a : Arbitrator} {released session : Nat}

def State.ledger : Ledger where
  pendingGateway := m.arb.pendingGateway
  deferredGatewayLoser := m.arb.deferredGatewayLoser
  pendingExternal := m.arb.pendingExternal
  pendingStart := m.pendingStart
  pendingStartAbsorb := m.pendingStartAbsorb
  transport := m.transport
  closing := m.closing
  upstreamClosed := m.upstreamClosed
  sessions := m.sessions
  closedSessions := m.closedSessions
  nextSession := m.nextSession
  nextWaiter := m.nextWaiter
  results := m.results
  received := m.received
  wedged := m.wedged
  outstanding := m.outstanding
  items := m.items
  journal := m.journal

structure Releases (m later : State) : Prop where
  ledger : later.ledger = m.ledger
  owner : ∀ session, later.arb.isOwner session = true → m.arb.isOwner session = true
  gate : later.gatewayTxnActive = true → m.gatewayTxnActive = true ∧
    (m.arb.isOwner gatewaySessionID = true → later.arb.isOwner gatewaySessionID = true)

namespace Releases
variable {m middle later : State}

theorem refl (m : State) : Releases m m := ⟨rfl,fun _ owns => owns,fun active => ⟨active,id⟩⟩

theorem trans (first : Releases m middle) (second : Releases middle later) : Releases m later where
  ledger := second.ledger.trans first.ledger
  owner session owns := first.owner session (second.owner session owns)
  gate active := by
    obtain ⟨open_,kept⟩ := second.gate active
    obtain ⟨before,keptBefore⟩ := first.gate open_
    exact ⟨before,fun owns => kept (keptBefore owns)⟩

theorem before (second : Releases middle later) (first : Releases m middle) : Releases m later := first.trans second

theorem of_arb_eq (ledger : later.ledger = m.ledger) (arb : later.arb = m.arb)
    (gate : later.gatewayTxnActive = true → m.gatewayTxnActive = true) : Releases m later := by
  refine ⟨ledger,?_,fun active => ⟨gate active,?_⟩⟩ <;> rw [arb]
  · exact fun _ owns => owns
  · exact id

theorem ite {condition : Prop} [Decidable condition] {other : State} (yes : Releases m later) (no : Releases m other) :
    Releases m (if condition then later else other) := by
  split
  · exact yes
  · exact no

end Releases

theorem isOwner_releaseOwnership (owns : (a.releaseOwnership released).isOwner session = true) :
    a.isOwner session = true ∧ a.isOwner released = false := by
  unfold Arbitrator.releaseOwnership at owns
  split at owns
  · simp [Arbitrator.isOwner] at owns
  · exact ⟨owns,by simp_all⟩

theorem releaseOwnership_of_other (owns : a.isOwner session = true) (other : released ≠ session) :
    a.releaseOwnership released = a := by
  have different : a.isOwner released = false := by
    simp only [Arbitrator.isOwner,Bool.and_eq_true,beq_iff_eq,Bool.and_eq_false_iff,beq_eq_false_iff_ne] at owns ⊢
    exact .inr (owns.2 ▸ other.symm)
  simp [Arbitrator.releaseOwnership,different]

theorem releaseOwnership_ledger (session : Nat) : State.ledger {m with arb := m.arb.releaseOwnership session} = m.ledger := by
  simp only [State.ledger,Arbitrator.releaseOwnership]
  split <;> rfl

theorem releaseOwnership_releases (session : Nat) (closed : session = gatewaySessionID → m.gatewayTxnActive = false) :
    Releases m {m with arb := m.arb.releaseOwnership session} := by
  refine ⟨releaseOwnership_ledger m session,fun _ owns => (isOwner_releaseOwnership owns).1,?_⟩
  intro active
  refine ⟨active,fun owns => ?_⟩
  have other : session ≠ gatewaySessionID := by
    intro same
    simp_all
  simpa [releaseOwnership_of_other owns other] using owns

theorem endGatewayTxn_releases : Releases m (endGatewayTxn m reason) := by
  unfold endGatewayTxn
  split
  · exact .of_arb_eq rfl rfl fun active => by cases active
  · exact .refl m

theorem endGatewayTxn_inactive : (endGatewayTxn m reason).gatewayTxnActive = false := by
  unfold endGatewayTxn
  split
  · rfl
  · simp_all

theorem releaseOwner_releases (owner : Nat) (reason : InactiveReason) : Releases m (m.releaseOwner owner reason) := by
  unfold State.releaseOwner
  split
  next same =>
    have commutes : endGatewayTxn {m with arb := m.arb.releaseOwnership owner} reason =
        {endGatewayTxn m reason with arb := (endGatewayTxn m reason).arb.releaseOwnership owner} := by
      unfold endGatewayTxn
      split <;> rfl
    rw [commutes]
    exact (endGatewayTxn_releases m reason).trans
      (releaseOwnership_releases _ owner fun _ => endGatewayTxn_inactive m reason)
  next other => exact releaseOwnership_releases m owner fun same => absurd same other

theorem releaseGatewayOwnership_releases (closed : m.gatewayTxnActive = false) : Releases m m.releaseGatewayOwnership := by
  unfold State.releaseGatewayOwnership
  split
  · exact (releaseOwnership_releases m gatewaySessionID fun _ => closed).trans (.of_arb_eq rfl rfl id)
  · exact .refl m

theorem releaseGatewayAfterFailure_releases : Releases m (m.releaseGatewayAfterFailure reason) := by
  unfold State.releaseGatewayAfterFailure
  split
  · have ended : Releases m ({m with gatewayTxnActive := false}.recordGatewayInactive reason) :=
      .of_arb_eq rfl rfl fun active => by cases active
    exact (ended.trans (releaseGatewayOwnership_releases _ rfl)).trans (.of_arb_eq rfl rfl id)
  · exact .refl m

theorem releaseGatewayAfterFailure_inactive : (m.releaseGatewayAfterFailure reason).gatewayTxnActive = false := by
  unfold State.releaseGatewayAfterFailure State.releaseGatewayOwnership
  split
  · split <;> rfl
  · simp_all

theorem releaseGatewayOnArbitrationLoss_releases (cfg : Config) (m : State) : Releases m (m.releaseGatewayOnArbitrationLoss cfg) := by
  unfold State.releaseGatewayOnArbitrationLoss
  split
  · exact (releaseGatewayAfterFailure_releases m .arbitrationCollision).trans (.of_arb_eq rfl rfl id)
  · exact .refl m

theorem sendActive_releases (event : ActiveEvent) : Releases m (m.sendActive event).1 := by
  unfold State.sendActive
  split
  · exact .of_arb_eq rfl rfl id
  · exact .refl m

theorem deliverToActive_releases (symbol : UInt8) (wasEscaped : Bool) : Releases m (m.deliverToActive symbol wasEscaped) := by
  have sent := sendActive_releases m (.byte symbol wasEscaped)
  unfold State.deliverToActive
  split
  next middle equal =>
    rw [equal] at sent
    exact sent.trans (.of_arb_eq rfl rfl id)
  next middle equal => rwa [equal] at sent

theorem payOwedResync_releases : Releases m (payOwedResync m) := by
  have sent := sendActive_releases m (.byte symbolSyn false)
  unfold payOwedResync
  split
  · split
    next middle equal =>
      rw [equal] at sent
      exact sent.trans (.of_arb_eq rfl rfl id)
    next middle equal => rwa [equal] at sent
  · exact .refl m

theorem terminateGatewayTxn_releases : Releases m (terminateGatewayTxn m) :=
  (deliverToActive_releases m symbolSyn false).trans (.of_arb_eq rfl rfl fun active => by cases active)

theorem expireOwnership_releases (owner : Nat) : Releases m (expireOwnership m owner) := by
  have ledger : State.ledger {m with arb := m.arb.releaseOwnership owner, gatewayEcho := m.gatewayEcho.reset} = m.ledger :=
    releaseOwnership_ledger m owner
  unfold expireOwnership
  dsimp only
  split
  · exact ⟨ledger,fun _ owns => (isOwner_releaseOwnership owns).1,fun active => by cases active⟩
  rename_i other
  have closed : owner = gatewaySessionID → m.gatewayTxnActive = false := by
    intro same
    simpa [same] using other
  exact (releaseOwnership_releases m owner closed).trans (.of_arb_eq rfl rfl id)

section
variable (cfg : Config)
include cfg

theorem onSYN_releases (now : Nat) (m : State) (phaseEvent : WirePhaseEvent) (owner : Nat) (hasOwner : Bool) :
    Releases m (onSYN cfg now m phaseEvent owner hasOwner).1 := by
  unfold onSYN
  extract_lets paid _ _ _ _ flushed terminated _ finished _ timedOut _ _ drained idle _
  have toPaid : Releases m paid := (payOwedResync_releases _).before (.of_arb_eq rfl rfl id)
  have toFlushed : Releases paid flushed := .ite (.refl _) (.of_arb_eq rfl rfl id)
  have toTerminated : Releases flushed terminated := .ite (terminateGatewayTxn_releases _) (.refl _)
  have toFinished : Releases terminated finished := .ite (releaseOwner_releases ..) (.refl _)
  have toTimedOut : Releases finished timedOut := .ite (releaseOwner_releases ..) (.refl _)
  have toDrained : Releases timedOut drained := .ite (.of_arb_eq rfl rfl id) (.refl _)
  have toIdle : Releases timedOut idle := .ite (toDrained.trans (releaseOwner_releases ..)) (.refl _)
  exact toPaid.trans (toFlushed.trans (toTerminated.trans (toFinished.trans (toTimedOut.trans toIdle))))

theorem advanceWire_releases (now : Nat) (m : State) (symbol : UInt8) (wasEscaped : Bool) :
    Releases m (advanceWire cfg now m symbol wasEscaped).1 := by
  unfold advanceWire
  extract_lets _ _ _ seen
  have toSeen : Releases m seen := .ite (.of_arb_eq rfl rfl id) (.of_arb_eq rfl rfl id)
  split
  dsimp only
  split
  · exact toSeen.trans ((expireOwnership_releases _ _).before (.of_arb_eq rfl rfl id))
  · exact toSeen.trans (.of_arb_eq rfl rfl id)

theorem releaseOnForeignInitiator_releases (m : State) (symbol : UInt8) (expected : Option UInt8) :
    Releases m (releaseOnForeignInitiator cfg m symbol expected).1 := by
  unfold releaseOnForeignInitiator
  split
  · exact .refl m
  split
  · exact (releaseGatewayOnArbitrationLoss_releases cfg _).before (.of_arb_eq rfl rfl id)
  split
  next ended =>
    have closed : m.gatewayTxnActive = false := by simp_all
    exact (releaseGatewayOwnership_releases m closed).trans (.of_arb_eq rfl rfl id)
  next => exact .refl m

theorem receiveGatewayByte_releases (m : State) (symbol : UInt8) (wasEscaped gatewayOwned : Bool) :
    Releases m (receiveGatewayByte cfg m symbol wasEscaped gatewayOwned).1 := by
  unfold receiveGatewayByte
  dsimp only
  split
  · exact (releaseOnForeignInitiator_releases cfg _ symbol _).before (.ite (.of_arb_eq rfl rfl id) (.refl m))
  · exact .refl m

theorem onLogicalReceived_releases (choice : Choice) (m : State) (symbol : UInt8)
    (wasEscaped deliver : Bool) (bids : Option Bids) (item : Nat) :
    Releases m (onLogicalReceived cfg choice m symbol wasEscaped deliver bids item).shared := by
  have advanced := advanceWire_releases cfg choice.now m symbol wasEscaped
  unfold onLogicalReceived
  dsimp only
  split
  · exact advanced.trans (onSYN_releases ..)
  · exact advanced.trans ((receiveGatewayByte_releases ..).trans (.of_arb_eq rfl rfl id))

end

theorem releaseAfterFrame_releases (owner : Nat) (reason : InactiveReason) :
    Releases m (releaseAfterFrame m owner reason) := .ite (releaseOwner_releases m owner reason) (.refl m)

theorem quietBus_releases (cfg : Config) (choice : Choice) (m : State) : Releases m (quietBus cfg choice m) :=
  .ite (expireOwnership_releases m _) (.refl m)

theorem rollbackSend_releases : Releases m (rollbackSend m) :=
  (releaseGatewayAfterFailure_releases _ _).before (.of_arb_eq rfl rfl id)

theorem enterWriteCollisionRecovery_releases (cfg : Config) (m : State) : Releases m (enterWriteCollisionRecovery cfg m) :=
  .ite ((releaseGatewayOnArbitrationLoss_releases cfg _).before (.of_arb_eq rfl rfl id)) (.refl m)

theorem markActiveFailure_releases : Releases m (markActiveFailure m reason) := by
  have released := releaseGatewayAfterFailure_releases m reason
  exact .ite (released.trans (.of_arb_eq rfl rfl id)) released

theorem retirePreviousGatewayTxn_releases : Releases m m.retirePreviousGatewayTxn := by
  unfold State.retirePreviousGatewayTxn
  extract_lets retired
  have toRetired : Releases m retired := by
    refine .ite ?_ (.refl m)
    have ended : Releases m ({m with gatewayTxnActive := false}.recordGatewayInactive .abandonedOnRebid) :=
      .of_arb_eq rfl rfl fun active => by cases active
    exact ended.trans (releaseGatewayOwnership_releases _ rfl)
  exact toRetired.trans (.of_arb_eq rfl rfl id)

end EbusGateway.Mux
