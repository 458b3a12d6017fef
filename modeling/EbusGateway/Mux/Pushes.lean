import EbusGateway.Mux.System

/-! What each action can leave behind for its goroutine, or for one that it starts. -/
namespace EbusGateway.Mux
open Library List

inductive Pushes (m : State) : Act → Act → Prop
  | waiter session initiator waiter : Pushes m (.requestStart session initiator) (.awaitResult session waiter)
  | cancelNotice session guarded waiter result : Pushes m (.cancelPendingStart session) (.notify guarded waiter result)
  | removeGrant session : Pushes m (.deleteSession session) (.releaseSessionGrant session)
  | removeBid session : Pushes m (.deleteSession session) (.cancelStart session)
  | removePending session : Pushes m (.deleteSession session) (.cancelPendingStart session)
  | removeClose session : Pushes m (.deleteSession session) (.closeSession session)
  | report session waiter result : Pushes m (.awaitResult session waiter) (.reportResult session waiter result)
  | deadlineLoser loser : Pushes m .deadline (.takeGatewayLoser loser)
  | deadlineNotice guarded waiter result : Pushes m .deadline (.notify guarded waiter result)
  | loserNotice loser guarded waiter result : Pushes m (.takeGatewayLoser loser) (.notify guarded waiter result)
  | request bids selection (requester : m.transport = .requester) : Pushes m (.tryGrantAndStart bids) (.callRequestStart selection)
  | block bids selection (blocking : m.transport = .blocking) : Pushes m (.tryGrantAndStart bids) (.startBlocking selection)
  | unsupportedUndo bids selection : Pushes m (.tryGrantAndStart bids) (.undoLocalLosses selection)
  | unsupportedSettle bids selection err : Pushes m (.tryGrantAndStart bids) (.settleLocalLosses selection err)
  | unsupported bids selection (unsupported : m.transport = .unsupported) :
    Pushes m (.tryGrantAndStart bids) (.abortUnsupported selection)
  | requestSettle selection err : Pushes m (.callRequestStart selection) (.settleLocalLosses selection err)
  | requestUndo selection : Pushes m (.callRequestStart selection) (.undoLocalLosses selection)
  | requestFailed selection err : Pushes m (.callRequestStart selection) (.failRequestStart selection err)
  | undo selection losers : Pushes m (.undoLocalLosses selection) (.resetLocalLoserSources losers m.items)
  | settleNotice selection err guarded waiter result : Pushes m (.settleLocalLosses selection err) (.notify guarded waiter result)
  | failNotice selection err guarded waiter result : Pushes m (.failRequestStart selection err) (.notify guarded waiter result)
  | closingUndo selection : Pushes m (.startBlocking selection) (.undoLocalLosses selection)
  | closingSettle selection err : Pushes m (.startBlocking selection) (.settleLocalLosses selection err)
  | closing selection : Pushes m (.startBlocking selection) (.abortClosing selection)
  | blockingCall selection gen : Pushes m (.startBlocking selection) (.callStartArbitration selection gen)
  | closingNotice selection guarded waiter result : Pushes m (.abortClosing selection) (.notify guarded waiter result)
  | unsupportedNotice selection guarded waiter result : Pushes m (.abortUnsupported selection) (.notify guarded waiter result)
  | blockingUndo selection gen : Pushes m (.callStartArbitration selection gen) (.undoLocalLosses selection)
  | blockingSettle selection gen err : Pushes m (.callStartArbitration selection gen) (.settleLocalLosses selection err)
  | blockingFail selection gen err : Pushes m (.callStartArbitration selection gen) (.blockingFailed selection gen err)
  | blockingStart selection gen : Pushes m (.callStartArbitration selection gen) (.blockingStarted selection gen)
  | blockingNotice selection gen err guarded waiter result :
    Pushes m (.blockingFailed selection gen err) (.notify guarded waiter result)
  | blockingGrant selection gen pending : Pushes m (.blockingStarted selection gen) (.completeArbitrationGrant pending)
  | blockingReturn selection gen : Pushes m (.blockingStarted selection gen) (.blockingReturned gen)
  | handle started data answers snapshot notifyByte (current : snapshot.item = m.items) :
    Pushes m (.snapshotResponse started data answers) (.handleArbitrationResponse snapshot notifyByte answers)
  | answerNotice snapshot data answers guarded waiter result :
    Pushes m (.handleArbitrationResponse snapshot data answers) (.notify guarded waiter result)
  | answerGrant snapshot data answers pending :
    Pushes m (.handleArbitrationResponse snapshot data answers) (.completeArbitrationGrant pending)
  | answerForeign snapshot data answers winner :
    Pushes m (.handleArbitrationResponse snapshot data answers) (.expectForeignTelegram winner)
  | answerDeliver snapshot data answers bidderFailed :
    Pushes m (.handleArbitrationResponse snapshot data answers) (.deliverResponse snapshot bidderFailed)
  | responseReset snapshot bidderFailed losers :
    Pushes m (.deliverResponse snapshot bidderFailed) (.resetLocalLoserSources losers snapshot.item)
  | responseDeliver snapshot bidderFailed except :
    Pushes m (.deliverResponse snapshot bidderFailed) (.deliverToSessions except snapshot.item)
  | resetNotice guarded waiter result : Pushes m .resetState (.notify guarded waiter result)
  | reconnectNotice guarded waiter result : Pushes m .reconnectState (.notify guarded waiter result)
  | closeNotice guarded waiter result : Pushes m .closeState (.notify guarded waiter result)
  | closeBid session : Pushes m .closeSessions (.cancelStart session)
  | closeOwner session (registered : session ∈ m.sessions) : Pushes m .closeSessions (.releaseOwnership session)
  | closeSession session : Pushes m .closeSessions (.closeSession session)
  | rawDeliver symbol logical item except : Pushes m (.onRawSymbol symbol logical item) (.deliverToSessions except item)
  | rawLogical symbol logical item byte wasEscaped deliver bids :
    Pushes m (.onRawSymbol symbol logical item) (.onLogicalReceived byte wasEscaped deliver bids item)
  | logicalActive symbol wasEscaped deliver bids item byte escaped whileActive :
    Pushes m (.onLogicalReceived symbol wasEscaped deliver bids item) (.deliverActive byte escaped whileActive)
  | logicalDeliver symbol wasEscaped deliver bids item except :
    Pushes m (.onLogicalReceived symbol wasEscaped deliver bids item) (.deliverToSessions except item)
  | logicalGrant symbol wasEscaped deliver bids item frozen :
    Pushes m (.onLogicalReceived symbol wasEscaped deliver bids item) (.tryGrantAndStart frozen)
  | logicalRelease symbol wasEscaped deliver bids item owner reason :
    Pushes m (.onLogicalReceived symbol wasEscaped deliver bids item) (.releaseAfterFrame owner reason)
  | check data structural : Pushes m (.armSend data structural) .checkSend
  | write : Pushes m .checkSend .writeSymbols
  | refuse : Pushes m .checkSend .rollbackSend
  | collide : Pushes m .writeSymbols .enterWriteCollisionRecovery
  | rollback : Pushes m .writeSymbols .rollbackSend

theorem announceLoser_transport (choice : Choice) (source : UInt8) (m : State) (losers : List StartRequest) :
    (losers.foldl (announceLoser choice source) m).transport = m.transport := by
  induction losers generalizing m with
  | nil => rfl
  | cons loser rest ih =>
    rw [foldl_cons,ih]
    unfold announceLoser
    split
    · rfl
    · dsimp only [State.send]
      split <;> split <;> rfl

section Functions
variable {cfg : Config} {choice : Choice} {m : State} {pushed : Act} {bids : Option Bids} {snap : ResponseSnapshot} {effect : Step}

theorem requestStart_pushes {session : Nat} {initiator : UInt8}
    (mem : pushed ∈ (requestStartForSession choice m session initiator).acts) :
    Pushes m (.requestStart session initiator) pushed := by
  unfold requestStartForSession at mem
  extract_lets _ _ waiting at mem
  split at mem
  · exact mem_singleton.mp mem ▸ .waiter ..
  · split at mem <;>
    · exact mem_singleton.mp mem ▸ .waiter ..

theorem tryGrantAndStart_pushes (mem : pushed ∈ (tryGrantAndStart choice m bids).acts) :
    Pushes m (.tryGrantAndStart bids) pushed := by
  unfold tryGrantAndStart at mem
  split at mem
  · cases mem
  split at mem
  · cases mem
  rename_i arb request losers _
  extract_lets selection announced at mem
  have same : announced.transport = m.transport := announceLoser_transport ..
  rw [same] at mem
  simp only [Effect.acts_code] at mem
  cases transport : m.transport with
  | requester =>
    simp only [transport,startTransport,mem_singleton] at mem
    exact mem ▸ .request bids selection transport
  | blocking =>
    simp only [transport,startTransport,mem_singleton] at mem
    exact mem ▸ .block bids selection transport
  | unsupported =>
    simp only [transport,startTransport,mem_cons,not_mem_nil,or_false] at mem
    rcases mem with rfl | rfl | rfl
    · exact .unsupportedUndo bids selection
    · exact .unsupportedSettle bids selection _
    · exact .unsupported bids selection transport

theorem handleArbitrationResponse_pushes {data : UInt8} {answers : Nat}
    (mem : pushed ∈ (handleArbitrationResponse cfg choice m snap data answers).acts) :
    Pushes m (.handleArbitrationResponse snap data answers) pushed := by
  have after : ∀ bidderFailed, pushed ∈ [Act.expectForeignTelegram snap.data,.deliverResponse snap bidderFailed] →
      Pushes m (.handleArbitrationResponse snap data answers) pushed := by
    intro bidderFailed mem
    rcases mem_pair.mp mem with rfl | rfl
    · exact .answerForeign ..
    · exact .answerDeliver ..
  have first : ∀ act bidderFailed, Pushes m (.handleArbitrationResponse snap data answers) act →
      pushed ∈ act :: [Act.expectForeignTelegram snap.data,.deliverResponse snap bidderFailed] →
      Pushes m (.handleArbitrationResponse snap data answers) pushed := by
    intro act bidderFailed pushes mem
    exact (mem_cons.mp mem).elim (fun same => same ▸ pushes) (after bidderFailed)
  unfold handleArbitrationResponse at mem
  extract_lets cleared tail at mem
  split at mem
  · exact after _ (by simpa [Effect.acts,tail] using mem)
  split at mem
  · exact after _ (by simpa [Effect.acts,tail] using mem)
  extract_lets request logged retired at mem
  repeat' split at mem
  all_goals first
    | exact first _ _ (.answerNotice ..) (by simpa [Effect.acts,tail] using mem)
    | exact first _ _ (.answerGrant ..) (by simpa [Effect.acts,tail] using mem)

theorem deliverResponse_pushes {bidderFailed : Bool}
    (mem : pushed ∈ (deliverResponse m snap bidderFailed).acts) : Pushes m (.deliverResponse snap bidderFailed) pushed := by
  have either : pushed = .resetLocalLoserSources snap.losers snap.item ∨
      (∃ except, pushed = .deliverToSessions except snap.item) →
      Pushes m (.deliverResponse snap bidderFailed) pushed := by
    rintro (rfl | ⟨except,rfl⟩)
    · exact .responseReset ..
    · exact .responseDeliver ..
  apply either
  unfold deliverResponse at mem
  extract_lets resets toAll toAllBut at mem
  split at mem
  · cases mem
  split at mem
  · split at mem
    · split at mem
      · simp only [Effect.acts,resets,toAll,flatMap_nil,append_nil,mem_cons,not_mem_nil,or_false] at mem
        exact mem.imp_right fun same => ⟨_,same⟩
      · cases mem
    · split at mem
      · simp only [Effect.acts_code,mem_singleton] at mem
        exact .inr ⟨_,mem⟩
      · simp only [Effect.acts,resets,toAll,toAllBut,flatMap_nil,append_nil,mem_cons,not_mem_nil,or_false] at mem
        refine mem.imp_right fun same => ?_
        split at same
        · exact ⟨_,same⟩
        · exact ⟨_,same⟩
  · simp only [Effect.acts,resets,flatMap_nil,append_nil,mem_cons] at mem
    refine mem.imp_right fun inner => ?_
    split at inner
    · cases inner
    rw [mem_singleton] at inner
    dsimp only [toAll,toAllBut] at inner
    split at inner
    · exact ⟨_,inner⟩
    · exact ⟨_,inner⟩

theorem onLogicalReceived_pushes {symbol : UInt8} {wasEscaped deliver : Bool} {item : Nat}
    (mem : pushed ∈ (onLogicalReceived cfg choice m symbol wasEscaped deliver bids item).acts) :
    Pushes m (.onLogicalReceived symbol wasEscaped deliver bids item) pushed := by
  unfold onLogicalReceived receiveSYN receiveByte at mem
  dsimp only at mem
  split at mem
  · simp only [Effect.acts_code,mem_append,mem_ite_nil_right,mem_singleton] at mem
    rcases mem with (⟨_,rfl⟩ | ⟨_,rfl⟩) | ⟨_,rfl⟩
    · exact .logicalActive ..
    · exact .logicalDeliver ..
    · exact .logicalGrant ..
  simp only [Effect.acts_code,mem_append,mem_ite_nil_right,mem_singleton] at mem
  rcases mem with ((⟨_,rfl⟩ | ⟨_,rfl⟩) | ⟨_,rfl⟩) | released
  · exact .logicalActive ..
  · exact .logicalActive ..
  · exact .logicalDeliver ..
  · split at released
    · exact mem_singleton.mp released ▸ .logicalRelease ..
    · exact mem_singleton.mp released ▸ .logicalRelease ..
    · cases released

theorem clearStart_pushes {err : StartError} (mem : pushed ∈ (clearStart err m).acts) :
    ∃ guarded waiter result, pushed = .notify guarded waiter result := by
  simp only [clearStart,Effect.acts_code,mem_map] at mem
  obtain ⟨_,_,rfl⟩ := mem
  exact ⟨_,_,_,rfl⟩

theorem perform_pushes {act : Act} (found : perform cfg choice act m = some effect)
    (mem : pushed ∈ effect.acts) : Pushes m act pushed := by
  cases act
  case awaitResult session waiter =>
    simp only [perform,awaitResult] at found
    split at found
    · cases found
      cases mem
    split at found
    · obtain ⟨_,_,rfl⟩ := Option.map_eq_some_iff.mp found
      exact mem_singleton.mp mem ▸ .report ..
    · cases found
  all_goals cases found
  case requestStart session initiator => exact requestStart_pushes mem
  case takeGatewayLoser loser =>
    simp only [takeGatewayLoser,Effect.acts_code,mem_ite_nil_right,mem_map] at mem
    obtain ⟨_,_,_,rfl⟩ := mem
    exact .loserNotice ..
  case tryGrantAndStart bids => exact tryGrantAndStart_pushes mem
  case settleLocalLosses selection err =>
    simp only [settleLocalLosses,Effect.acts_code,mem_ite_nil_right,mem_map] at mem
    obtain ⟨_,_,_,rfl⟩ := mem
    exact .settleNotice ..
  case snapshotResponse started data answers =>
    exact mem_singleton.mp mem ▸ .handle _ _ _ _ _ rfl
  case handleArbitrationResponse snap data answers => exact handleArbitrationResponse_pushes mem
  case deliverResponse snap bidderFailed => exact deliverResponse_pushes mem
  case resetState | reconnectState | closeState =>
    obtain ⟨_,_,_,rfl⟩ := clearStart_pushes mem
    constructor
  case closeSessions =>
    simp only [closeSessions,Effect.acts_code,mem_flatMap,mem_cons,not_mem_nil,or_false] at mem
    obtain ⟨session,registered,rfl | rfl | rfl⟩ := mem
    · exact .closeBid session
    · exact .closeOwner session registered
    · exact .closeSession session
  case onRawSymbol symbol logical item =>
    simp only [onRawSymbol,Effect.acts_code,mem_cons,mem_map] at mem
    rcases mem with rfl | ⟨_,_,rfl⟩
    · exact .rawDeliver ..
    · exact .rawLogical ..
  case onLogicalReceived symbol wasEscaped deliver bids item => exact onLogicalReceived_pushes mem
  -- the others write out what they push, one constructor of the relation each
  all_goals
    try simp only [cancelPendingStart,deleteSession,deadline,callRequestStart,undoLocalLosses,failRequestStart,startBlocking,
      callStartArbitration,blockingFailed,blockingStarted,completeArbitrationGrant,expectForeignTelegram,checkSend,writeSymbols,
      expireGatewayAdmission,fireAbsorbReset,Effect.acts_code] at mem
    repeat' split at mem
    all_goals first
      | exact mem_singleton.mp mem ▸ by constructor
      | (simp only [Effect.acts_code,mem_cons,not_mem_nil,or_false] at mem
         obtain rfl | rfl := mem <;> constructor)
      | (simp only [Effect.acts_code,mem_cons,not_mem_nil,or_false] at mem
         obtain rfl | rfl | rfl := mem <;> constructor)
      | (simp only [Effect.acts_code,mem_cons,not_mem_nil,or_false] at mem
         obtain rfl | rfl | rfl | rfl := mem <;> constructor)
      | cases mem

theorem perform_forks {act : Act} {thread : Thread Name Act}
    (found : perform cfg choice act m = some effect) (mem : thread ∈ effect.forked) :
    (∃ session waiter, thread = ⟨.task,[.awaitResult session waiter]⟩) ∨ ∃ selection gen,
      thread = ⟨.task,[.callStartArbitration selection gen]⟩ := by
  cases act
  case awaitResult session waiter =>
    simp only [perform,awaitResult] at found
    split at found
    · cases found
      cases mem
    split at found
    · obtain ⟨_,_,rfl⟩ := Option.map_eq_some_iff.mp found
      cases mem
    · cases found
  all_goals cases found
  case requestStart session initiator =>
    unfold requestStartForSession at mem
    extract_lets _ _ waiting at mem
    left
    split at mem
    · exact ⟨_,_,mem_singleton.mp mem⟩
    split at mem
    · exact ⟨_,_,mem_singleton.mp mem⟩
    · exact ⟨_,_,mem_singleton.mp mem⟩
  case startBlocking selection =>
    unfold startBlocking at mem
    split at mem
    · cases mem
    · exact .inr ⟨_,_,mem_singleton.mp mem⟩
  -- the other actions start no goroutine on any path
  all_goals
    try simp only [deliverResponse,handleArbitrationResponse,completeArbitrationGrant,
      tryGrantAndStart,onLogicalReceived,blockingFailed,
      blockingStarted,undoLocalLosses,cancelPendingStart,deadline,deleteSession,expireGatewayAdmission,fireAbsorbReset,callRequestStart,
      failRequestStart,callStartArbitration,expectForeignTelegram] at mem
    repeat' split at mem
    all_goals cases mem

end Functions

end EbusGateway.Mux
