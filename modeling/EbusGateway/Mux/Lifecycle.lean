import EbusGateway.Mux.Start

/-! Lifecycle boundaries: adapter RESETTED, loss of the connection, shutdown, and the removal of
sessions. Each boundary clears the multiplexer's state in one critical section and answers the selected
waiter, the queued bids and the owner in later ones.
-/
namespace EbusGateway.Mux
open Library

def clearStart (err : StartError) (m : State) : Step :=
  {shared := {m with
      pendingStart := none
      pendingStartAbsorb := 0
      pendingAbsorbResetDueAt := none
      localLosers := []
      deferRegrantUntilNextSyn := false
      arbitrationRecovery := .reset
      retiredSelection := false
      collisionResyncOwed := 0
      gatewayEcho := m.gatewayEcho.reset}
   code := m.pendingStart.toList.map fun p =>
      .notify true p.request.notify {initiator := p.request.initiator, err := some err}}

variable (m : State)

def endGatewayTxn (reason : InactiveReason) : State :=
  if m.gatewayTxnActive then {m with gatewayTxnActive := false}.recordGatewayInactive reason else m

def resetState : Step :=
  let m := endGatewayTxn {m with
    phase := m.phase.reset .idle, blockingArbGen := m.blockingArbGen + 1, blockingArbActive := false} .reset
  clearStart .adapterReset m

def reconnectState : Step :=
  let m := endGatewayTxn {m with
    phase := m.phase.reset .idle, arb := m.arb.forceRelease
    blockingArbGen := m.blockingArbGen + 1, blockingArbActive := false} .reconnect
  clearStart .adapterDisconnected m

def closeState : Step :=
  let m := endGatewayTxn m .contextCancel
  clearStart .closed {m with activeTxn := {m.activeTxn with firstByteSuspectArbLoss := false}}

def failAllPending (m : State) (err : StartError) : Step :=
  let failed := m.arb.failAllPending err
  {shared := {m with arb := failed.1}.sendAll failed.2}

def enqueueReset : State :=
  {m with activeCh := ((Channel.empty : Channel ActiveEvent activeChCapacity).send .adapterReset).getD .empty}

def closeSessions : Step :=
  {shared := {m with sessions := []}
   code := m.sessions.flatMap fun session => [.cancelStart session,.releaseOwnership session,.closeSession session]}

def deleteSession (session : Nat) : Step :=
  if m.sessions.contains session then
    {shared := {m with sessions := m.sessions.filter (· ≠ session)}
     code := [.releaseSessionGrant session,.cancelStart session,.cancelPendingStart session,.closeSession session]}
  else {shared := m}

end EbusGateway.Mux
