import EbusGateway.Mux.System

/-! A SYN inside the gateway's own telegram: between a write and its echo, or between the echo of one byte
and the write of the next, while the grace period of the grant runs.
-/
namespace EbusGateway.Mux
open Library

def withinGrace (cfg : Config) (now : Nat) (m : State) : Bool := m.busOwned.any fun since => now - since ≤ cfg.idleReleaseGrace

theorem releaseOwner_gateway (m : State) (reason : InactiveReason) :
    (m.releaseOwner gatewaySessionID reason).gatewayTxnActive = false := by
  unfold State.releaseOwner endGatewayTxn
  simp only [if_true]
  split
  · rfl
  · exact Bool.eq_false_of_not_eq_true (by assumption)

def unfenced (m : State) : State :=
  {m with
    deferRegrantUntilNextSyn := false
    arbitrationRecovery := if m.arbitrationRecovery = .reset then .reset else .none}

theorem onSYN_midFrame {cfg : Config} {now : Nat} {m : State} (active : m.gatewayTxnActive = true)
    (grace : withinGrace cfg now m = true)
    (midFrame : midWriteSyn m = true ∨ betweenWritesSyn m = true) : (onSYN cfg now m .synIdle gatewaySessionID true).1 =
      if m.activeTxn.bytesDeliveredToActive = 0 ∧ m.arb.hasExternalPending = true then
        {unfenced m with gatewayEcho := m.gatewayEcho.clearQueueJustDrained}.releaseOwner gatewaySessionID .synIdle
      else unfenced m := by
  have mid : (midWriteSyn m || betweenWritesSyn m) = true := by simpa using midFrame
  unfold onSYN
  extract_lets paid own midWrite between inside flushed terminated ended finished left timedOut within suppressed drained idle first
  have toPaid : paid = unfenced m := by simp [paid,payOwedResync,unfenced,active]
  have isInside : inside = true := by
    simp only [inside,own,midWrite,between,toPaid]
    change (true && m.gatewayTxnActive && (midWriteSyn m || betweenWritesSyn m)) = true
    rw [active,mid]
    rfl
  have toFlushed : flushed = unfenced m := by
    simp only [flushed,isInside,if_true]
    exact toPaid
  have toTerminated : terminated = unfenced m := by
    simp only [terminated,isInside,Bool.not_true,Bool.and_false,Bool.false_eq_true,if_false]
    exact toFlushed
  have toTimedOut : timedOut = unfenced m := by
    simp [timedOut,finished,ended,toTerminated]
  have isWithin : within = true := by
    simp only [within,toTimedOut]
    exact grace
  have isSuppressed : suppressed = decide (0 < m.activeTxn.bytesDeliveredToActive) := by
    simp only [suppressed,own,midWrite,between,isWithin,toPaid,toTimedOut]
    change (true && m.gatewayTxnActive && decide (0 < m.activeTxn.bytesDeliveredToActive)
      && (midWriteSyn m || betweenWritesSyn m && true)) = _
    rw [active,Bool.and_true (betweenWritesSyn m),mid,Bool.and_true]
    rfl
  have releases : idleRelease cfg now (unfenced m) gatewaySessionID = m.arb.hasExternalPending := by
    change (!(m.busOwned.any fun since => now - since ≤ cfg.idleReleaseGrace) || m.arb.hasExternalPending) = _
    rw [show (m.busOwned.any fun since => now - since ≤ cfg.idleReleaseGrace) = true from grace]
    rfl
  have toDrained : drained = {unfenced m with gatewayEcho := m.gatewayEcho.clearQueueJustDrained} := by
    simp only [drained,toTimedOut]
    change (if (true && m.gatewayTxnActive) = true then _ else _) = _
    rw [active]
    rfl
  change idle = _
  simp only [idle,left,ended,isSuppressed,toDrained,toTimedOut,releases]
  by_cases delivered : m.activeTxn.bytesDeliveredToActive = 0
  · cases waiting : m.arb.hasExternalPending
    all_goals simp [delivered]
    rfl
  · simp [delivered,Nat.pos_of_ne_zero delivered]

/-- A SYN inside the gateway's telegram leaves the grant, the transaction and the echo queue alone exactly if a byte
reached the active path before or no client waits. -/
theorem stray_syn_kept {cfg : Config} {now : Nat} {m : State} (owned : m.arb.isOwner gatewaySessionID = true)
    (active : m.gatewayTxnActive = true) (grace : withinGrace cfg now m = true)
    (midFrame : midWriteSyn m = true ∨ betweenWritesSyn m = true) :
    ((onSYN cfg now m .synIdle gatewaySessionID true).1.arb.isOwner gatewaySessionID = true ∧
      (onSYN cfg now m .synIdle gatewaySessionID true).1.gatewayTxnActive = true ∧
      (onSYN cfg now m .synIdle gatewaySessionID true).1.gatewayEcho = m.gatewayEcho) ↔
      0 < m.activeTxn.bytesDeliveredToActive ∨ m.arb.hasExternalPending = false := by
  rw [onSYN_midFrame active grace midFrame]
  by_cases released : m.activeTxn.bytesDeliveredToActive = 0 ∧ m.arb.hasExternalPending = true
  · rw [if_pos released]
    refine iff_of_false (fun kept => ?_) (by simp [released])
    exact clash kept.2.1 (releaseOwner_gateway _ _)
  · rw [if_neg released]
    refine iff_of_true ⟨owned,active,rfl⟩ ?_
    by_cases delivered : m.activeTxn.bytesDeliveredToActive = 0
    · exact .inr (by simpa [delivered] using released)
    · exact .inl (Nat.pos_of_ne_zero delivered)

def firstEchoDue : State where
  arb := {hasOwner := true, pendingExternal := [⟨1,7,0x31,1,false⟩]}
  gatewayTxnActive := true
  busOwned := some 0
  gatewayEcho := ({} : EchoTracker).recordSentStructural 0x71 false

def betweenBytes : State :=
  {firstEchoDue with gatewayEcho := (firstEchoDue.gatewayEcho.matchEcho 0x71 false).1, activeTxn := {bytesDeliveredToActive := 1}}

theorem between_bytes_kept :
    betweenBytes.arb.hasExternalPending = true ∧
      (onSYN defaultConfig 30000000 betweenBytes .synIdle gatewaySessionID true).1.arb.isOwner gatewaySessionID = true := by
  have grace : withinGrace defaultConfig 30000000 betweenBytes = true := by decide
  have delivered : 0 < betweenBytes.activeTxn.bytesDeliveredToActive := by decide
  exact ⟨rfl,((stray_syn_kept (by decide) rfl grace (.inr (by decide))).mpr (.inl delivered)).1⟩

/-- Before the first echo the waiting client's bid takes the grant away within its grace. -/
theorem first_echo_released :
    firstEchoDue.arb.isOwner gatewaySessionID = true ∧ firstEchoDue.gatewayTxnActive = true ∧
      withinGrace defaultConfig 30000000 firstEchoDue = true ∧ midWriteSyn firstEchoDue = true ∧
      (onSYN defaultConfig 30000000 firstEchoDue .synIdle gatewaySessionID true).1.arb.isOwner gatewaySessionID = false ∧
      (onSYN defaultConfig 30000000 firstEchoDue .synIdle gatewaySessionID true).1.gatewayTxnActive = false := by decide

end EbusGateway.Mux
