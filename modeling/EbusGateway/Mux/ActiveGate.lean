import EbusGateway.Mux.Book

/-! The gateway's active path is open only while the gateway owns the bus. Every release of its ownership
closes the path in the same critical section, except that of `handleReset` and `Close`.
-/
namespace EbusGateway.Mux
open Library List

structure Keeps (m later : State) : Prop where
  sessions : later.sessions ⊆ m.sessions
  nextSession : later.nextSession = m.nextSession
  pending : later.pendingStart.isSome = true → m.pendingStart.isSome = true
  owner : ∀ session, later.arb.isOwner session = true → m.arb.isOwner session = true
  gate : later.gatewayTxnActive = true → m.gatewayTxnActive = true ∧
    (m.arb.isOwner gatewaySessionID = true → later.arb.isOwner gatewaySessionID = true)

theorem Releases.keeps {m later : State} (releases : Releases m later) : Keeps m later := {releases with
  sessions := by
    rw [show later.sessions = m.sessions from congrArg Ledger.sessions releases.ledger]
    exact List.Subset.refl _
  nextSession := congrArg Ledger.nextSession releases.ledger
  pending some_ := by
    have same : later.pendingStart = m.pendingStart := congrArg Ledger.pendingStart releases.ledger
    rwa [same] at some_}

namespace Keeps
variable {m middle later : State}

theorem trans (first : Keeps m middle) (second : Keeps middle later) : Keeps m later where
  sessions := List.Subset.trans second.sessions first.sessions
  nextSession := second.nextSession.trans first.nextSession
  pending some_ := first.pending (second.pending some_)
  owner session owns := first.owner session (second.owner session owns)
  gate active := by
    obtain ⟨open_,kept⟩ := second.gate active
    obtain ⟨before,keptBefore⟩ := first.gate open_
    exact ⟨before,fun owns => kept (keptBefore owns)⟩

theorem before (second : Keeps middle later) (first : Keeps m middle) : Keeps m later := first.trans second

theorem of_ownership (same : later.arb.ownership = m.arb.ownership) (gate : later.gatewayTxnActive = true → m.gatewayTxnActive = true)
    (pending : later.pendingStart.isSome = true → m.pendingStart.isSome = true)
    (sessions : later.sessions ⊆ m.sessions) (nextSession : later.nextSession = m.nextSession) : Keeps m later := by
  refine ⟨sessions,nextSession,pending,?_,fun active => ⟨gate active,?_⟩⟩
  · intro session owns
    rwa [Arbitrator.isOwner_congr same] at owns
  · intro owns
    rwa [Arbitrator.isOwner_congr same]

theorem aside (same : later.arb.ownership = m.arb.ownership)
    (rest : (later.sessions,later.nextSession,later.gatewayTxnActive) = (m.sessions,m.nextSession,m.gatewayTxnActive))
    (pending : later.pendingStart.isSome = true → m.pendingStart.isSome = true) : Keeps m later := by
  simp only [Prod.mk.injEq] at rest
  obtain ⟨sessions,next,gate⟩ := rest
  exact .of_ownership same (gate ▸ id) pending (sessions ▸ List.Subset.refl _) next

theorem refl (m : State) : Keeps m m := aside rfl rfl id

end Keeps

theorem sendAll_keeps {m : State} {arb : Arbitrator} (sends : Sends)
    (same : arb.ownership = m.arb.ownership) : Keeps m ({m with arb := arb}.sendAll sends) := by
  obtain ⟨results,wedged,sent⟩ := sendAll_update {m with arb := arb} sends
  rw [sent]
  exact .aside same rfl id

variable (m : State) {session : Nat}

theorem send_keeps (message : Nat × StartResult) : Keeps m (m.send message) := by
  obtain ⟨results,wedged,sent⟩ := send_update m message
  rw [sent]
  exact .aside rfl rfl id

theorem trySend_keeps (message : Nat × StartResult) : Keeps m (m.trySend message) := by
  rcases trySend_update m message with same | sent
  · rw [same]
    exact .refl m
  · rw [sent]
    exact .aside rfl rfl id

theorem releaseOwnership_keeps (outer : session ≠ gatewaySessionID) : Keeps m {m with arb := m.arb.releaseOwnership session} :=
  (releaseOwnership_releases m session fun same => absurd same outer).keeps

theorem requestStart_keeps (choice : Choice) (m : State) (session : Nat) (initiator : UInt8) :
    Keeps m (requestStartForSession choice m session initiator).shared := by
  unfold requestStartForSession
  extract_lets ch entered waiting logged retired marked queued
  split
  · exact (Keeps.aside rfl rfl id : Keeps m entered).trans (send_keeps _ _)
  have toRetired : Keeps m retired :=
    (Keeps.aside rfl rfl id : Keeps m logged).trans
      (Releases.ite (retirePreviousGatewayTxn_releases _) (.refl _) : Releases logged retired).keeps
  split
  · exact toRetired.trans (send_keeps _ _)
  · have toMarked : Keeps retired marked := .aside rfl rfl (by simp [marked])
    exact toRetired.trans (toMarked.trans (sendAll_keeps _ (Arbitrator.requestStart_ownership _ _ _ _)))

theorem clearStart_keeps {m before : State} (err : StartError) (keeps : Keeps m before) : Keeps m (clearStart err before).shared :=
  keeps.trans (.aside rfl rfl fun some_ => by cases some_)

def Act.external : Act → Bool
  | .releaseOwnership session | .releaseSessionGrant session | .deleteSession session => session ≠ gatewaySessionID
  | _ => true

theorem releaseSessionGrant_keeps (outer : session ≠ gatewaySessionID) : Keeps m (releaseSessionGrant m session).shared := by
  unfold releaseSessionGrant
  extract_lets fenced
  have toFenced : Keeps m fenced := by
    dsimp only [fenced]
    split
    · exact .aside rfl rfl id
    · exact .refl m
  exact toFenced.trans (releaseOwnership_keeps fenced outer)

theorem handleArbitrationResponse_keeps (cfg : Config) (choice : Choice) (m : State) (snap : ResponseSnapshot)
    (data : UInt8) (answers : Nat) : Keeps m (handleArbitrationResponse cfg choice m snap data answers).shared := by
  have decided : ∀ later req, Keeps m later → Keeps m (decideExternal later req) := by
    intro later req keeps
    unfold decideExternal
    split
    · exact keeps
    · exact keeps.trans (.aside rfl rfl id)
  unfold handleArbitrationResponse
  extract_lets cleared after
  split
  · exact .aside rfl rfl id
  split
  · dsimp only
    split <;> exact .aside rfl rfl id
  rename_i p won
  extract_lets req logged gone
  split
  · split
    · split
      · exact .aside rfl rfl fun some_ => by cases some_
      · exact decided _ _ (.aside rfl rfl fun some_ => by cases some_)
    · split
      · exact .aside rfl rfl fun some_ => by cases some_
      · exact .aside rfl rfl fun _ => by rw [show m.pendingStart = some p from won]; rfl
  · split
    · exact .aside rfl rfl fun some_ => by cases some_
    · exact decided _ _ (.aside rfl rfl fun some_ => by cases some_)

def Act.gating : Act → Bool
  | .armSend .. | .forceRelease | .tryGrantAndStart .. | .completeArbitrationGrant .. => true
  | _ => false

theorem perform_keeps {cfg : Config} {choice : Choice} {act : Act} {m : State} {effect : Step} (gating : act.gating = false)
    (outer : act.external = true) (found : perform cfg choice act m = some effect) : Keeps m effect.shared := by
  cases act
  all_goals cases gating
  case awaitResult session waiter =>
    simp only [perform,awaitResult] at found
    split at found
    · cases found
      exact .refl m
    split at found
    · obtain ⟨_,_,rfl⟩ := Option.map_eq_some_iff.mp found
      exact .aside rfl rfl id
    · cases found
  all_goals cases found
  case requestStart session initiator => exact requestStart_keeps choice m session initiator
  case cancelStart session => exact sendAll_keeps _ (m.arb.cancelStart_ownership session)
  case releaseSessionGrant session => exact releaseSessionGrant_keeps m (of_decide_eq_true outer)
  case deleteSession session =>
    unfold deleteSession
    split
    · exact .of_ownership rfl id id (filter_subset_self _) rfl
    · exact .refl m
  case expireGatewayAdmission waiter =>
    unfold expireGatewayAdmission
    dsimp only
    split
    · exact sendAll_keeps [_] rfl
    · exact sendAll_keeps [_] rfl
    · exact .refl m
  case takeGatewayLoser loser => exact .aside (m.arb.takeDeferredGatewayLoser_ownership loser) rfl id
  case releaseOwnership session => exact releaseOwnership_keeps m (of_decide_eq_true outer)
  case resetLocalLoserSources losers item =>
    unfold resetLocalLoserSources
    dsimp only
    rw [deliverReceived_foldl]
    exact .aside rfl rfl id
  case settleLocalLosses selection err => exact .aside (m.arb.takeDeferredGatewayLoser_ownership _) rfl id
  case blockingFailed selection gen err =>
    unfold blockingFailed
    extract_lets current cleared
    have toCleared : Keeps m cleared := by
      dsimp only [cleared]
      split <;> exact .aside rfl rfl id
    split
    · exact toCleared.trans (.aside rfl rfl fun some_ => by cases some_)
    dsimp only
    split
    · exact toCleared.trans (.aside rfl rfl id)
    · exact toCleared
  case blockingStarted selection gen =>
    unfold blockingStarted
    extract_lets current
    split
    · rename_i p won
      exact .aside rfl rfl fun _ => by rw [(Option.filter_eq_some_iff.mp won).1]; rfl
    · dsimp only
      split <;> exact .aside rfl rfl id
  case handleArbitrationResponse snap data answers => exact handleArbitrationResponse_keeps cfg choice m snap data answers
  case deliverResponse snap bidderFailed =>
    rw [deliverResponse_shared]
    exact .refl m
  case notify guarded waiter result =>
    dsimp only
    split
    · exact trySend_keeps m _
    · exact send_keeps m _
  case resetState => exact clearStart_keeps .adapterReset ((endGatewayTxn_releases _ .reset).keeps.before (.aside rfl rfl id))
  case reconnectState =>
    have ends (before : State) := And.intro (endGatewayTxn_releases before .reconnect) (endGatewayTxn_inactive before .reconnect)
    obtain ⟨ended,closed⟩ := ends {m with
      phase := m.phase.reset .idle, arb := m.arb.forceRelease
      blockingArbGen := m.blockingArbGen + 1, blockingArbActive := false}
    refine ⟨ended.keeps.sessions,ended.keeps.nextSession,?_,?_,?_⟩
    · intro won
      cases won
    · intro session owns
      have released := ended.owner session owns
      simp [Arbitrator.isOwner,Arbitrator.forceRelease] at released
    · intro active
      exact absurd (active.symm.trans closed) (by simp)
  case closeState =>
    exact clearStart_keeps .closed ((endGatewayTxn_releases m .contextCancel).keeps.trans (.aside rfl rfl id))
  case failAllPending err => exact sendAll_keeps _ rfl
  case closeSessions => exact .of_ownership rfl id id (nil_subset _) rfl
  case onLogicalReceived symbol wasEscaped deliver bids item => exact (onLogicalReceived_releases ..).keeps
  case deliverActive symbol wasEscaped whileActive =>
    dsimp only
    unfold deliverActive
    split
    · exact .refl m
    · exact (deliverToActive_releases m symbol wasEscaped).keeps
  case deliverToSessions except item =>
    dsimp only
    unfold deliverToSessions
    rw [deliverReceived_foldl]
    exact .aside rfl rfl id
  case releaseAfterFrame owner reason => exact (releaseAfterFrame_releases m owner reason).keeps
  case quietBus => exact (quietBus_releases cfg choice m).keeps
  case enterWriteCollisionRecovery => exact (enterWriteCollisionRecovery_releases cfg m).keeps
  case rollbackSend => exact (rollbackSend_releases m).keeps
  case markActiveFailure reason => exact (markActiveFailure_releases m reason).keeps
  -- the others leave the owner, the window and the sessions alone, and a selection they touch they drop
  all_goals
    try simp only [cancelPendingStart,reportResult,deadline,fireAbsorbReset,callRequestStart,
      undoLocalLosses,failRequestStart,startBlocking,
      abortClosing,abortUnsupported,callStartArbitration,blockingReturned,expectForeignTelegram,reconcileArbitrationClassifier,onRawSymbol,
      completeCollisionRecovery]
    repeat' split
    all_goals first
      | exact .aside rfl rfl id
      | exact .aside rfl rfl fun some_ => by cases some_

def Act.unchecked : Act → Bool
  | .checkSend | .rollbackSend => true
  | _ => false

def Act.writing : Act → Bool
  | .checkSend | .writeSymbols | .enterWriteCollisionRecovery | .rollbackSend => true
  | _ => false

structure Gated (m : State) (acts : List Act) : Prop where
  gate : m.gatewayTxnActive = true → m.arb.isOwner gatewaySessionID = true ∨ ∃ act ∈ acts, act.unchecked = true
  unowned : m.pendingStart.isSome = true → m.arb.hasOwner = false
  external : ∀ act ∈ acts, act.external = true
  sessions : 0 < m.nextSession ∧ ∀ session ∈ m.sessions, session ≠ gatewaySessionID

theorem hasOwner_of_isOwner {a : Arbitrator} (owns : a.isOwner session = true) : a.hasOwner = true := by
  simp only [Arbitrator.isOwner,Bool.and_eq_true] at owns
  exact owns.1

section Steps
variable {cfg : Config} {choice : Choice} {act : Act} {m : State} {effect : Step} {others : List Act}

theorem Pushes.external {pushed : Act} (pushes : Pushes m act pushed) (outer : act.external = true)
    (sessions : ∀ session ∈ m.sessions, session ≠ gatewaySessionID) : pushed.external = true := by
  cases pushes
  case closeOwner session registered => exact decide_eq_true (sessions session registered)
  all_goals first | rfl | exact outer

namespace Gated

theorem next (gated : Gated m (act :: others)) (found : perform cfg choice act m = some effect)
    (sessions : effect.shared.sessions ⊆ m.sessions) (nextSession : effect.shared.nextSession = m.nextSession)
    (gate : effect.shared.gatewayTxnActive = true →
      effect.shared.arb.isOwner gatewaySessionID = true ∨ ∃ pending ∈ effect.acts ++ others, pending.unchecked = true)
    (unowned : effect.shared.pendingStart.isSome = true → effect.shared.arb.hasOwner = false) :
    Gated effect.shared (effect.acts ++ others) := by
  obtain ⟨_,_,outer,positive,registered⟩ := gated
  refine ⟨gate,unowned,?_,nextSession ▸ positive,fun session mem => registered session (sessions mem)⟩
  intro pending mem
  rcases mem_append.mp mem with pushed | old
  · exact (perform_pushes found pushed).external (outer act mem_cons_self) registered
  · exact outer pending (.tail _ old)

theorem excused (gated : Gated m (act :: others)) (checked : act.unchecked = false) (active : m.gatewayTxnActive = true) :
    m.arb.isOwner gatewaySessionID = true ∨ ∃ pending ∈ others, pending.unchecked = true := by
  refine (gated.gate active).imp_right ?_
  rintro ⟨pending,mem,unchecked⟩
  rcases mem_cons.mp mem with rfl | old
  · exact absurd (unchecked.symm.trans checked) (by simp)
  · exact ⟨pending,old,unchecked⟩

theorem uncheck (found : perform cfg choice act m = some effect) (unchecked : act.unchecked = true)
    (active : effect.shared.gatewayTxnActive = true) :
    effect.shared.arb.isOwner gatewaySessionID = true ∨ ∃ pending ∈ effect.acts, pending.unchecked = true := by
  cases act
  all_goals simp only [Act.unchecked,Bool.false_eq_true] at unchecked
  case checkSend =>
    cases found
    unfold checkSend at active ⊢
    dsimp only at active ⊢
    by_cases passes : (choice.admitted && m.gatewayOwned) = true
    · exact .inl (Bool.and_eq_true_iff.mp passes).2
    · rw [if_neg passes]
      exact .inr ⟨.rollbackSend,by simp [Effect.acts],rfl⟩
  case rollbackSend =>
    cases found
    exact absurd (active.symm.trans (releaseGatewayAfterFailure_inactive ..)) (by simp)

theorem keeps (gated : Gated m (act :: others)) (keeps : Keeps m effect.shared)
    (found : perform cfg choice act m = some effect) : Gated effect.shared (effect.acts ++ others) := by
  refine gated.next found keeps.sessions keeps.nextSession ?_ ?_
  · intro active
    obtain ⟨before,kept⟩ := keeps.gate active
    cases unchecked : act.unchecked with
    | true =>
      refine (uncheck found unchecked active).imp_right ?_
      rintro ⟨pending,mem,still⟩
      exact ⟨pending,mem_append_left _ mem,still⟩
    | false =>
      rcases gated.excused unchecked before with owns | ⟨pending,mem,still⟩
      · exact .inl (kept owns)
      · exact .inr ⟨pending,mem_append_right _ mem,still⟩
  · intro won
    have free := gated.unowned (keeps.pending won)
    cases owned : effect.shared.arb.hasOwner with
    | false => rfl
    | true =>
      have before := hasOwner_of_isOwner (keeps.owner effect.shared.arb.currentOwner (by simp [Arbitrator.isOwner,owned]))
      exact absurd (before.symm.trans free) (by simp)

end Gated

theorem tryGrantAndStart_gated {bids : Option Bids} (gated : Gated m (.tryGrantAndStart bids :: others))
    (found : perform cfg choice (.tryGrantAndStart bids) m = some effect) : Gated effect.shared (effect.acts ++ others) := by
  have selection : tryGrantAndStart choice m bids = effect := Option.some.inj found
  unfold tryGrantAndStart at selection
  split at selection
  · subst selection
    exact gated.keeps (.refl m) found
  split at selection
  · subst selection
    exact gated.keeps (.refl m) found
  rename_i arb req losers won
  obtain ⟨free,_,_,rfl⟩ := Arbitrator.selectBidsAtSYN_cases won
  obtain ⟨results,wedged,announced⟩ := announceLoser_foldl choice req.initiator {m with arb := _} losers
  rw [announced] at selection
  subst selection
  refine gated.next found (List.Subset.refl _) rfl ?_ (fun _ => free)
  intro active
  refine (gated.excused rfl active).imp_right ?_
  rintro ⟨pending,mem,unchecked⟩
  exact ⟨pending,mem_append_right _ mem,unchecked⟩

theorem commitGrant_gate (cfg : Config) (now : Nat) (m : State) (req : StartRequest) :
    (commitGrant cfg now m req).sessions = m.sessions ∧ (commitGrant cfg now m req).nextSession = m.nextSession ∧
      (commitGrant cfg now m req).pendingStart = m.pendingStart ∧
      ((commitGrant cfg now m req).gatewayTxnActive = true → m.gatewayTxnActive = true) := by
  unfold commitGrant
  extract_lets outer claimed recorded confirmed
  obtain ⟨results,wedged,sent⟩ := send_update (confirmed.log (.granted req.sessionID req.initiator))
    (req.notify,{granted := true, initiator := req.initiator, startedQueued := outer})
  rw [sent]
  by_cases own : req.sessionID = gatewaySessionID
  · simp [State.log,confirmed,recorded,claimed,outer,own,recordGatewayGrant]
  · simp [State.log,confirmed,recorded,claimed,outer,own]

theorem completeArbitrationGrant_gated {pending : PendingStart} (gated : Gated m (.completeArbitrationGrant pending :: others))
    (found : perform cfg choice (.completeArbitrationGrant pending) m = some effect) :
    Gated effect.shared (effect.acts ++ others) := by
  have grant : completeArbitrationGrant cfg choice m pending = effect := Option.some.inj found
  have excuse : m.arb.hasOwner = false → m.gatewayTxnActive = true → ∃ act ∈ effect.acts ++ others, act.unchecked = true := by
    intro free active
    rcases gated.excused rfl active with owns | ⟨act,mem,unchecked⟩
    · exact absurd ((hasOwner_of_isOwner owns).symm.trans free) (by simp)
    · exact ⟨act,mem_append_right _ mem,unchecked⟩
  have commits : ∀ ready req, effect.shared = commitGrant cfg choice.now ready req → m.arb.hasOwner = false →
      ready.sessions = m.sessions → ready.nextSession = m.nextSession → ready.pendingStart = none →
      ready.gatewayTxnActive = m.gatewayTxnActive → Gated effect.shared (effect.acts ++ others) := by
    intro ready req equal free sessions nextSession none active
    obtain ⟨sameSessions,sameNext,samePending,kept⟩ := commitGrant_gate cfg choice.now ready req
    rw [← equal] at sameSessions sameNext samePending kept
    refine gated.next found (by rw [sameSessions,sessions]; exact List.Subset.refl _) (sameNext.trans nextSession) ?_ ?_
    · intro later
      exact .inr (excuse free (active ▸ kept later))
    · intro won
      rw [samePending,none] at won
      cases won
  have rejects : ∀ req, effect.shared = rejectGrant {m with pendingStart := none} req →
    Gated effect.shared (effect.acts ++ others) := by
    intro req equal
    refine gated.keeps ?_ found
    rw [equal]
    exact (trySend_keeps _ _).before (.aside rfl rfl fun won => by cases won)
  unfold completeArbitrationGrant at grant
  split at grant
  · subst grant
    exact gated.keeps (.refl m) found
  split at grant
  · subst grant
    exact gated.keeps (.aside rfl rfl id) found
  rename_i p won
  have free : m.arb.hasOwner = false := by
    apply gated.unowned
    rw [(Option.filter_eq_some_iff.mp won).1]
    rfl
  extract_lets taken session decided at grant
  split at grant
  · exact rejects p.request (grant ▸ rfl)
  split at grant
  · exact commits taken p.request (grant ▸ rfl) free rfl rfl rfl rfl
  split at grant
  · refine commits (decided.log (.reported session p.request.notify)) p.request (grant ▸ rfl) free ?_ ?_ ?_ ?_
    all_goals
      dsimp only [decided]
      split <;> rfl
  · exact rejects p.request (grant ▸ rfl)

def releasesClosed (system : System) : Act → Bool
  | .forceRelease => !system.shared.gatewayTxnActive || system.acts.any Act.unchecked
  | _ => true

theorem perform_gated (legal : act = .forceRelease → m.gatewayTxnActive = true → ∃ pending ∈ others, pending.unchecked = true)
    (gated : Gated m (act :: others)) (found : perform cfg choice act m = some effect) :
    Gated effect.shared (effect.acts ++ others) := by
  cases gating : act.gating with
  | false => exact gated.keeps (perform_keeps gating (gated.external act mem_cons_self) found) found
  | true =>
    cases act
    all_goals cases gating
    case armSend.refl data structural =>
      cases Option.some.inj found
      refine gated.next found (List.Subset.refl _) rfl ?_ gated.unowned
      exact fun _ => .inr ⟨.checkSend,by simp [Effect.acts],rfl⟩
    case forceRelease.refl =>
      cases Option.some.inj found
      refine gated.next found (List.Subset.refl _) rfl ?_ (fun _ => rfl)
      intro active
      obtain ⟨pending,mem,unchecked⟩ := legal rfl active
      exact .inr ⟨pending,mem_append_right _ mem,unchecked⟩
    case tryGrantAndStart.refl bids => exact tryGrantAndStart_gated gated found
    case completeArbitrationGrant.refl pending => exact completeArbitrationGrant_gated gated found

theorem launch_gated {event : Event} {name : Name} {acts : List Act} (gated : Gated m acts)
    (began : launch event m = some (effect,name)) : Gated effect.shared (effect.acts ++ acts) := by
  have excuse : m.gatewayTxnActive = true → m.arb.isOwner gatewaySessionID = true ∨
      ∃ act ∈ effect.acts ++ acts, act.unchecked = true := by
    intro active
    refine (gated.gate active).imp_right ?_
    rintro ⟨act,mem,unchecked⟩
    exact ⟨act,mem_append_right _ mem,unchecked⟩
  have externals : (∀ act ∈ effect.acts, act.external = true) → ∀ act ∈ effect.acts ++ acts, act.external = true := by
    intro new act mem
    exact (mem_append.mp mem).elim (new act) (gated.external act)
  have positive : ∀ session, m.known session = true → session ≠ gatewaySessionID := by
    intro session known
    simp only [State.known,Bool.and_eq_true,decide_eq_true_eq] at known
    exact Nat.ne_of_gt known.1
  cases event
  all_goals simp only [launch] at began
  case connect =>
    cases began
    refine ⟨excuse,gated.unowned,externals (by simp [Effect.acts]),Nat.succ_pos _,?_⟩
    intro session mem
    rcases mem_append.mp mem with old | new
    · exact gated.sessions.2 session old
    · rw [mem_singleton.mp new]
      exact Nat.ne_of_gt gated.sessions.1
  case symbol raw logical dropped =>
    cases began
    refine ⟨excuse,gated.unowned,externals ?_,gated.sessions⟩
    unfold symbolCode
    split
    · simp [Effect.acts,Act.external]
    · split <;> simp [Effect.acts,Act.external]
  case close =>
    split at began
    · cases began
    · cases began
      exact ⟨excuse,gated.unowned,externals (by simp [Effect.acts,Act.external,closeCode]),gated.sessions⟩
  case sessionStart session _ | sessionCancel session | removeSession session | abandonTimer session | sessionSend session =>
    split at began
    next known =>
      cases began
      exact ⟨excuse,gated.unowned,externals (by simp [Effect.acts,Act.external,cancelCode,positive session known]),gated.sessions⟩
    next => cases began
  all_goals cases began
  all_goals exact ⟨excuse,gated.unowned,externals (by simp [Effect.acts,Act.external,handleReset,reconnect]),gated.sessions⟩

end Steps

def ReleasesClosed (system : System) (label : Label) : Prop := (system.performs label).all (releasesClosed system) = true

instance (system : System) (label : Label) : Decidable (ReleasesClosed system label) :=
  inferInstanceAs (Decidable ((system.performs label).all (releasesClosed system) = true))

theorem run_gated {cfg : Config} {transport : Transport} {labels : List Label} {final : System}
    (run : Run (step cfg) ReleasesClosed (initially transport) labels final) : Gated final.shared final.acts := by
  refine Run.invariant (fun system : System => Gated system.shared system.acts) ?_ run ?_
  · intro system label next gated legal ran
    refine Machine.acts_step Gated ?_ ?_ ?_ gated ran
    · intro m first second same held
      refine ⟨fun active => (held.gate active).imp_right ?_,held.unowned,?_,held.sessions⟩
      · rintro ⟨act,mem,unchecked⟩
        exact ⟨act,same.mem_iff.mp mem,unchecked⟩
      · exact fun act mem => held.external act (same.mem_iff.mpr mem)
    · intro event effect name _ began
      exact launch_gated gated began
    · intro choice act others effect _ performs split held found
      refine perform_gated ?_ held found
      rintro rfl active
      rw [ReleasesClosed,performs] at legal
      simp only [Option.all_some,releasesClosed,active,Bool.not_true,Bool.false_or,any_eq_true] at legal
      obtain ⟨pending,mem,unchecked⟩ := legal
      rcases mem_cons.mp (split.mem_iff.mp mem) with rfl | other
      · cases unchecked
      · exact ⟨pending,other,unchecked⟩
  · exact ⟨nofun,fun _ => rfl,forall_mem_nil _,Nat.one_pos,forall_mem_nil _⟩

/-- In a run that never forces ownership free under a checked write, an open active path means that the
gateway owns the bus, whenever no write is between its arm step and its end. -/
theorem active_path_owned (cfg : Config) (transport : Transport) (labels : List Label) (final : System)
    (run : Run (step cfg) ReleasesClosed (initially transport) labels final)
    (quiet : ∀ act ∈ final.acts, act.writing = false) (active : final.shared.gatewayTxnActive = true) :
    final.shared.arb.isOwner gatewaySessionID = true := by
  rcases (run_gated run).gate active with owns | ⟨act,mem,unchecked⟩
  · exact owns
  · have still := quiet act mem
    cases act <;> simp_all [Act.unchecked,Act.writing]

def gatewayGrant : List Label :=
  [.start (.gatewayStart 0x31),.run 0 {},.run 0 {},
   .start (.symbol none (some (symbolSyn,false)) false),.run 1 {},.run 1 {},.run 1 {},.run 1 {},.run 1 {},.run 1 {},.run 1 {},
   .start (.response true 0x31 0),.run 1 {},.run 1 {},.run 1 {},.run 1 {},.run 1 {},.run 1 {},.run 1 {},.run 1 {}]

def gatewaySend : List Label := [.start (.gatewayWrite 0x10 false),.run 1 {},.run 1 {},.run 1 {}]

theorem granted_write_keeps_path_owned : ∃ final,
    Run (step defaultConfig) ReleasesClosed (initially .requester) (gatewayGrant ++ gatewaySend) final ∧
      final.shared.gatewayTxnActive = true ∧ final.shared.arb.isOwner gatewaySessionID = true := by
  refine Exists.imp (fun final (found : _ ∧ _ ∧ ∀ act ∈ final.acts, act.writing = false) => ⟨found.1,found.2.1,?_⟩)
    (Run.exists_of_executeWhere _ (by decide +kernel))
  exact active_path_owned defaultConfig .requester _ final found.1 found.2.2 found.2.1

def resetUnderWrite : List Label :=
  [.start (.resetted false),.run 1 {},.run 1 {},.start (.gatewayWrite 0x10 false),.run 2 {},.run 2 {},.run 1 {},.run 2 {}]

theorem reset_leaves_path_open_unowned : ∃ final,
    Run (step defaultConfig) anyStep (initially .requester) (gatewayGrant ++ resetUnderWrite) final ∧
      (∀ act ∈ final.acts, act.writing = false) ∧ final.shared.gatewayTxnActive = true ∧ final.shared.arb.hasOwner = false :=
  Run.exists_of_execute _ (by decide +kernel)

end EbusGateway.Mux
