import EbusGateway.Mux.StraySyn

/-! The regrant fence and the classifier. In enforce mode readLoop drops what the classifier's telegram machine
takes for injected SYNs, so a fence needs a SYN that the machine lets through.
-/
namespace EbusGateway.Mux
open Library List

inductive ClassifierMode
  | off
  | shadow
  | enforce
deriving DecidableEq

/-- The telegram machine of the classifier is outside this repository; it forwards a SYN when it is idle. `feed`
says whether the symbol is taken for an injected SYN. -/
structure TelegramFsm where
  Phase : Type
  idle : Phase
  feed : Phase → UInt8 → Bool → Phase × Bool
  aborted : Phase → Bool
  forwards : (feed idle symbolSyn false).2 = false

def TelegramFsm.observe (fsm : TelegramFsm) (mode : ClassifierMode) (phase : fsm.Phase)
    (symbol : UInt8) (wasEscaped : Bool) : fsm.Phase × Bool :=
  match mode with
  | .off => (phase,false)
  | .shadow => ((fsm.feed phase symbol wasEscaped).1,false)
  | .enforce => fsm.feed phase symbol wasEscaped

structure Loop (fsm : TelegramFsm) where
  mux : State
  phase : fsm.Phase

variable (cfg : Config) (m : State)

def judgedRecovery (isSYN : Bool) : ArbitrationRecovery :=
  if m.arbitrationRecovery = .atSYN && isSYN && m.phase.telegramLive then .foreign else m.arbitrationRecovery

def resetsClassifier (aborted isSYN : Bool) : Bool :=
  let recovery := judgedRecovery m isSYN
  if recovery = .foreign || recovery = .foreignAfterAA then isSYN && (recovery = .foreignAfterAA || aborted)
  else recovery = .reset || (recovery = .atSYN && isSYN)

variable {fsm : TelegramFsm}

def Loop.reconcile (mode : ClassifierMode) (loop : Loop fsm) (isSYN : Bool) : Loop fsm :=
  let aborted := mode ≠ .off && fsm.aborted loop.phase
  {mux := reconcileArbitrationClassifier {classifierAborted := aborted} loop.mux isSYN
   phase := if resetsClassifier loop.mux aborted isSYN then fsm.idle else loop.phase}

structure SynItem where
  observing : Choice
  delivering : Choice
  handling : Choice
  raw : Option UInt8
  item : Nat

def handleSYN (syn : SynItem) (m : State) : Step :=
  match syn.raw with
  | some symbol =>
    let seen := (onRawSymbol syn.observing m symbol (some (symbolSyn,false)) syn.item).shared
    onLogicalReceived cfg syn.handling (deliverToSessions syn.delivering seen [] syn.item) symbolSyn false false
      (if symbol = symbolSyn then some m.arb.snapshotBids else none) syn.item
  | none => onLogicalReceived cfg syn.handling m symbolSyn false true none syn.item

def Loop.readSYN (mode : ClassifierMode) (syn : SynItem) (loop : Loop fsm) : Loop fsm × List Act :=
  let loop := loop.reconcile mode true
  let observed := fsm.observe mode loop.phase symbolSyn false
  if observed.2 then ({loop with phase := observed.1},[])
  else ({mux := (handleSYN cfg syn loop.mux).shared, phase := observed.1},(handleSYN cfg syn loop.mux).code)

inductive Executes (cfg : Config) : List Act → State → State → Prop
  | nil (m : State) : Executes cfg [] m m
  | cons (choice : Choice) {act : Act} {rest : List Act} {m last : State} {effect : Step} :
    perform cfg choice act m = some effect → Executes cfg (effect.code ++ rest) effect.shared last → Executes cfg (act :: rest) m last

variable {last : State} {effect : Step} {mode : ClassifierMode} {acts : List Act} {loop : Loop fsm}

structure Fence where
  defer : Bool
  recovery : ArbitrationRecovery
  phase : WirePhaseTracker
  transport : Transport

def State.fence : Fence := ⟨m.deferRegrantUntilNextSyn,m.arbitrationRecovery,m.phase,m.transport⟩

def SameFence (m next : State) : Prop := next.fence = m.fence

namespace SameFence

variable {m next last : State}

theorem trans (first : SameFence m next) (second : SameFence next last) : SameFence m last := Eq.trans second first

theorem ite {p : Prop} [Decidable p] (yes : SameFence m next) (no : SameFence m last) : SameFence m (if p then next else last) := by
  split
  · exact yes
  · exact no

end SameFence

theorem foldl_fence {α : Type} {f : State → α → State} (each : ∀ m a, SameFence m (f m a)) (items : List α) (m : State) :
    SameFence m (items.foldl f m) := by
  induction items generalizing m with
  | nil => rfl
  | cons item rest ih => exact (each m item).trans (ih _)

theorem deliverReceived_fence (choice : Choice) (item : Nat) (m : State) (session : Nat) :
    SameFence m (State.deliverReceived choice item m session) := .ite rfl rfl

theorem deliverToSessions_fence (choice : Choice) (m : State) (except : List Nat) (item : Nat) :
    SameFence m (deliverToSessions choice m except item) := foldl_fence (deliverReceived_fence choice item) _ m

theorem send_fence (message : Nat × StartResult) : SameFence m (m.send message) := .ite rfl rfl

theorem trySend_fence (message : Nat × StartResult) : SameFence m (m.trySend message) := .ite rfl rfl

theorem sendActive_fence (event : ActiveEvent) : SameFence m (m.sendActive event).1 := by
  unfold State.sendActive
  split
  · exact rfl
  · rfl

theorem deliverToActive_fence (symbol : UInt8) (wasEscaped : Bool) : SameFence m (m.deliverToActive symbol wasEscaped) := by
  have sent := sendActive_fence m (.byte symbol wasEscaped)
  unfold State.deliverToActive
  split
  next middle equal =>
    rw [equal] at sent
    exact sent.trans rfl
  next middle equal => rwa [equal] at sent

theorem payOwedResync_fence : SameFence m (payOwedResync m) := by
  have sent := sendActive_fence m (.byte symbolSyn false)
  unfold payOwedResync
  split
  · split
    next middle equal =>
      rw [equal] at sent
      exact sent.trans rfl
    next middle equal => rwa [equal] at sent
  · rfl

theorem releaseOwner_fence (owner : Nat) (reason : InactiveReason) : SameFence m (m.releaseOwner owner reason) := by
  have ended (m : State) : SameFence m (endGatewayTxn m reason) := .ite rfl rfl
  have released : SameFence m {m with arb := m.arb.releaseOwnership owner} := rfl
  exact .ite (released.trans (ended _)) released

theorem expireOwnership_fence (owner : Nat) : SameFence m (expireOwnership m owner) := .ite rfl rfl

theorem onSYN_fence (now : Nat) (m : State) (phaseEvent : WirePhaseEvent) (owner : Nat) (hasOwner : Bool) :
    SameFence (unfenced m) (onSYN cfg now m phaseEvent owner hasOwner).1 := by
  unfold onSYN
  extract_lets paid _ _ _ _ flushed terminated _ finished _ timedOut _ _ drained idle _
  have toPaid : SameFence (unfenced m) paid := payOwedResync_fence (unfenced m)
  have toFlushed : SameFence paid flushed := .ite rfl rfl
  have toTerminated : SameFence flushed terminated := .ite ((deliverToActive_fence _ symbolSyn false).trans rfl) rfl
  have toFinished : SameFence terminated finished := .ite (releaseOwner_fence ..) rfl
  have toTimedOut : SameFence finished timedOut := .ite (releaseOwner_fence ..) rfl
  have toDrained : SameFence timedOut drained := .ite rfl rfl
  have toIdle : SameFence timedOut idle := .ite (toDrained.trans (releaseOwner_fence ..)) rfl
  exact toPaid.trans (toFlushed.trans (toTerminated.trans (toFinished.trans (toTimedOut.trans toIdle))))

theorem onRawSymbol_fence (choice : Choice) (m : State) (symbol : UInt8) (logical : Option (UInt8 × Bool)) (item : Nat) :
    SameFence m (onRawSymbol choice m symbol logical item).shared := by
  unfold onRawSymbol
  extract_lets bids cleared touched
  have toCleared : SameFence m cleared := .ite rfl rfl
  exact toCleared.trans (.ite rfl rfl)

theorem advanceWire_fence (now : Nat) (m : State) (symbol : UInt8) (wasEscaped : Bool) :
    ∃ phase, (advanceWire cfg now m symbol wasEscaped).1.fence = {m.fence with phase := phase} ∧
      (symbol = symbolSyn → wasEscaped = false → phase.phase = .idle) := by
  unfold advanceWire
  extract_lets owned owner isWireSyn seen
  have toSeen : SameFence m seen := .ite rfl rfl
  split
  next phase event advanced =>
    have moved : {seen with phase := phase}.fence = {m.fence with phase := phase} :=
      congrArg (fun f : Fence => {f with phase := phase}) toSeen
    refine ⟨phase,?_,fun syn plain => ?_⟩
    · dsimp only
      split
      · exact Eq.trans (expireOwnership_fence ..) moved
      · exact moved
    · have wireSyn : isWireSyn = true := by simp [isWireSyn,syn,plain]
      rw [wireSyn,syn] at advanced
      change (phase,event).1.phase = .idle
      rw [← advanced]
      split
      · rfl
      unfold WirePhaseTracker.advanceWithProvenance
      split
      · rfl
      simp only [if_true]
      split
      all_goals rfl

def Fence.lifted (f : Fence) : Fence := {f with defer := false, recovery := if f.recovery = .reset then .reset else .none}

theorem handleSYN_fence (syn : SynItem) (m : State) :
    ∃ phase, phase.phase = .idle ∧ (handleSYN cfg syn m).shared.fence = {m.fence.lifted with phase := phase} := by
  have handled (seen : State) (deliver : Bool) (bids : Option Bids) (same : SameFence m seen) :
      ∃ phase, phase.phase = .idle ∧
        (onLogicalReceived cfg syn.handling seen symbolSyn false deliver bids
          syn.item).shared.fence = {m.fence.lifted with phase := phase} := by
    obtain ⟨phase,advanced,idle⟩ := advanceWire_fence cfg syn.handling.now seen symbolSyn false
    refine ⟨phase,idle rfl rfl,Eq.trans (onSYN_fence ..) ?_⟩
    change Fence.lifted (advanceWire cfg syn.handling.now seen symbolSyn false).1.fence = _
    rw [advanced,same]
    rfl
  unfold handleSYN
  split
  · exact handled _ _ _ ((onRawSymbol_fence ..).trans (deliverToSessions_fence ..))
  · exact handled _ _ _ rfl

structure Settled (f : Fence) : Prop where
  quiet : f.phase.telegramLive = false
  fence : (f.defer = false ∧ f.recovery = .none) ∨ (f.transport = .unsupported ∧ f.recovery = .atSYN)

def Act.followsSYN (transport : Transport) : Act → Bool
  | .deliverActive .. | .deliverToSessions .. | .tryGrantAndStart _ | .callRequestStart _ | .undoLocalLosses _ => true
  | .resetLocalLoserSources .. | .settleLocalLosses .. | .failRequestStart .. | .startBlocking _ | .abortClosing _ => true
  | .notify .. => true
  | .abortUnsupported _ => transport = .unsupported
  | _ => false

theorem announceLoser_fence (choice : Choice) (source : UInt8) (m : State) (loser : StartRequest) :
    SameFence m (announceLoser choice source m loser) := by
  unfold announceLoser
  extract_lets queued decided reported
  have toReported : SameFence m reported := .ite rfl rfl
  exact .ite rfl (toReported.trans (send_fence ..))

structure FollowsSYN (m : State) (effect : Step) : Prop where
  settled : Settled effect.shared.fence
  transport : effect.shared.transport = m.transport
  code : ∀ act ∈ effect.code, act.followsSYN m.transport = true

section
variable {m : State} {choice : Choice} (settled : Settled m.fence)
include settled

theorem FollowsSYN.same (same : SameFence m effect.shared)
    (code : ∀ act ∈ effect.code, act.followsSYN m.transport = true) : FollowsSYN m effect :=
  ⟨same.symm ▸ settled,congrArg Fence.transport same,code⟩

theorem tryGrantAndStart_follows (bids : Option Bids) : FollowsSYN m (tryGrantAndStart choice m bids) := by
  unfold tryGrantAndStart
  split
  · exact .same settled rfl (forall_mem_nil _)
  split
  next => exact .same settled rfl (forall_mem_nil _)
  next arb request losers selected =>
    extract_lets selection announced
    have toAnnounced : SameFence m announced := foldl_fence (announceLoser_fence choice request.initiator) losers {m with arb := arb}
    refine .same settled toAnnounced ?_
    rw [show announced.transport = m.transport from congrArg Fence.transport toAnnounced]
    cases m.transport <;> simp [startTransport,Act.followsSYN]

theorem failRequestStart_follows (selection : Selection) (err : StartError) : FollowsSYN m (failRequestStart m selection err) := by
  unfold failRequestStart
  split
  next => exact .same settled rfl (by simp [Act.followsSYN])
  next =>
    refine ⟨?_,?_,forall_mem_nil _⟩
    · dsimp only
      split
      · refine ⟨settled.quiet,.inl ⟨rfl,?_⟩⟩
        rcases settled.fence with ⟨_,lifted⟩ | ⟨_,atSYN⟩
        · exact (if_neg (by rw [show m.arbitrationRecovery = .none from lifted]; decide)).trans lifted
        · exact if_pos atSYN
      · exact settled
    · dsimp only
      split
      all_goals rfl

theorem abortUnsupported_follows (selection : Selection) (unsupported : m.transport = .unsupported) :
    FollowsSYN m (abortUnsupported m selection) := by
  unfold abortUnsupported
  by_cases current : m.pendingIs selection.request.notify = true
  · simp only [current,if_true]
    refine ⟨⟨settled.quiet,.inr ⟨unsupported,?_⟩⟩,rfl,by simp [Act.followsSYN]⟩
    rcases settled.fence with ⟨_,lifted⟩ | ⟨_,atSYN⟩
    · exact if_pos lifted
    · exact (if_neg (by rw [show m.arbitrationRecovery = .atSYN from atSYN]; decide)).trans atSYN
  · simp only [current]
    exact .same settled rfl (by simp [Act.followsSYN])

theorem perform_followsSYN {cfg : Config} {act : Act} (ran : perform cfg choice act m = some effect)
    (follows : act.followsSYN m.transport = true) : FollowsSYN m effect := by
  cases act
  case deliverActive =>
    cases ran
    exact .same settled (.ite rfl (deliverToActive_fence ..)) (forall_mem_nil _)
  case deliverToSessions =>
    cases ran
    exact .same settled (deliverToSessions_fence ..) (forall_mem_nil _)
  case tryGrantAndStart =>
    cases ran
    exact tryGrantAndStart_follows settled _
  case callRequestStart =>
    cases ran
    unfold callRequestStart
    split
    all_goals exact .same settled rfl (by simp [Act.followsSYN])
  case undoLocalLosses =>
    cases ran
    unfold undoLocalLosses
    extract_lets current
    split
    all_goals exact .same settled rfl (by simp [Act.followsSYN])
  case resetLocalLoserSources =>
    cases ran
    exact .same settled (foldl_fence (deliverReceived_fence choice _) _ m) (forall_mem_nil _)
  case settleLocalLosses =>
    cases ran
    refine .same settled rfl ?_
    unfold settleLocalLosses
    dsimp only
    split
    · simp [Act.followsSYN]
    · exact forall_mem_nil _
  case failRequestStart =>
    cases ran
    exact failRequestStart_follows settled _ _
  case startBlocking =>
    cases ran
    unfold startBlocking
    split
    · exact .same settled rfl (by simp [Act.followsSYN])
    · exact .same settled rfl (forall_mem_nil _)
  case abortClosing =>
    cases ran
    exact .same settled (.ite rfl rfl) (by simp [abortClosing,Act.followsSYN])
  case abortUnsupported =>
    cases ran
    exact abortUnsupported_follows settled _ (by simpa [Act.followsSYN] using follows)
  case notify =>
    cases ran
    exact .same settled (.ite (trySend_fence ..) (send_fence ..)) (forall_mem_nil _)
  all_goals exact nomatch follows

end

theorem executes_followsSYN {cfg : Config} {m : State} (executes : Executes cfg acts m last)
    (settled : Settled m.fence) (follows : ∀ act ∈ acts, act.followsSYN m.transport = true) :
    Settled last.fence ∧ last.transport = m.transport := by
  induction executes with
  | nil m => exact ⟨settled,rfl⟩
  | cons choice ran later ih =>
    have next := perform_followsSYN settled ran (follows _ (mem_cons_self ..))
    have rest := ih next.settled fun act acts => by
      rw [next.transport]
      rcases mem_append.mp acts with pushed | old
      · exact next.code _ pushed
      · exact follows _ (.tail _ old)
    exact ⟨rest.1,rest.2.trans next.transport⟩

theorem handleSYN_follows (syn : SynItem) (m : State) (transport : Transport) :
    ∀ act ∈ (handleSYN cfg syn m).code, act.followsSYN transport = true := by
  have received (seen : State) (deliver : Bool) (bids : Option Bids) :
      ∀ act ∈ (onLogicalReceived cfg syn.handling seen symbolSyn false deliver bids syn.item).code,
        act.followsSYN transport = true := by
    intro act pushed
    simp only [onLogicalReceived,receiveSYN,decide_true,Bool.not_false,Bool.and_self,if_true,mem_append,mem_ite_nil_right,
      mem_singleton] at pushed
    rcases pushed with (⟨_,rfl⟩ | ⟨_,rfl⟩) | ⟨_,rfl⟩
    all_goals rfl
  unfold handleSYN
  split
  all_goals exact received _ _ _

theorem reconcile_cases (mode : ClassifierMode) (loop : Loop fsm) :
    (loop.reconcile mode true).mux.deferRegrantUntilNextSyn = loop.mux.deferRegrantUntilNextSyn ∧
      (loop.reconcile mode true).mux.transport = loop.mux.transport ∧
      (((loop.reconcile mode true).phase = fsm.idle ∧ (loop.reconcile mode true).mux.arbitrationRecovery = .none) ∨
        (loop.mux.arbitrationRecovery = .none ∧ (loop.reconcile mode true).mux.arbitrationRecovery = .none) ∨
        ((loop.mux.arbitrationRecovery = .atSYN ∧ loop.mux.phase.telegramLive = true ∨ loop.mux.arbitrationRecovery = .foreign) ∧
          (loop.reconcile mode true).mux.arbitrationRecovery = .foreignAfterAA)) := by
  unfold Loop.reconcile
  dsimp only
  generalize (decide (mode ≠ .off) && fsm.aborted loop.phase) = aborted
  refine ⟨?_,?_,?_⟩
  · unfold reconcileArbitrationClassifier
    extract_lets
    split
    all_goals rfl
  · unfold reconcileArbitrationClassifier
    extract_lets
    split
    all_goals rfl
  · unfold reconcileArbitrationClassifier resetsClassifier judgedRecovery
    cases recovery : loop.mux.arbitrationRecovery
    all_goals cases live : loop.mux.phase.telegramLive
    all_goals cases aborted
    all_goals simp

theorem readSYN_cases (mode : ClassifierMode) (syn : SynItem) (loop : Loop fsm) :
    (Settled (loop.readSYN cfg mode syn).1.mux.fence ∧ (loop.readSYN cfg mode syn).1.mux.deferRegrantUntilNextSyn = false ∧
        (loop.readSYN cfg mode syn).1.mux.arbitrationRecovery = .none ∧
        (loop.readSYN cfg mode syn).1.mux.transport = loop.mux.transport ∧
        ∀ act ∈ (loop.readSYN cfg mode syn).2,
          act.followsSYN loop.mux.transport = true) ∨ (mode = .enforce ∧
          (loop.readSYN cfg mode syn).2 = [] ∧
        (loop.readSYN cfg mode syn).1.mux.deferRegrantUntilNextSyn = loop.mux.deferRegrantUntilNextSyn ∧
        (loop.readSYN cfg mode syn).1.mux.transport = loop.mux.transport ∧
        (loop.mux.arbitrationRecovery = .none ∧ (loop.readSYN cfg mode syn).1.mux.arbitrationRecovery = .none ∨
          (loop.mux.arbitrationRecovery = .atSYN ∧ loop.mux.phase.telegramLive = true ∨ loop.mux.arbitrationRecovery = .foreign) ∧
            (loop.readSYN cfg mode syn).1.mux.arbitrationRecovery = .foreignAfterAA)) := by
  obtain ⟨defer,transport,recovery⟩ := reconcile_cases mode loop
  unfold Loop.readSYN
  extract_lets judged observed
  by_cases dropped : observed.2 = true
  · rw [if_pos dropped]
    have enforced : mode = .enforce := by
      cases mode
      all_goals first | rfl | exact nomatch dropped
    refine .inr ⟨enforced,rfl,defer,transport,recovery.resolve_left fun reset => ?_⟩
    have forwarded : observed.2 = false := by
      simp only [observed,enforced]
      rw [show judged.phase = fsm.idle from reset.1]
      exact fsm.forwards
    exact clash dropped forwarded
  · rw [if_neg dropped]
    obtain ⟨phase,idle,handled⟩ := handleSYN_fence cfg syn judged.mux
    have unreset : judged.mux.arbitrationRecovery ≠ .reset := by
      rcases recovery with ⟨_,known⟩ | ⟨_,known⟩ | ⟨_,known⟩
      all_goals
        rw [show judged.mux.arbitrationRecovery = _ from known]
        decide
    have lifted : (handleSYN cfg syn judged.mux).shared.arbitrationRecovery = .none :=
      (congrArg Fence.recovery handled).trans (if_neg unreset)
    refine .inl ⟨?_,congrArg Fence.defer handled,lifted,
      (congrArg Fence.transport handled).trans transport,handleSYN_follows cfg syn judged.mux _⟩
    rw [handled]
    exact ⟨by simp [WirePhaseTracker.telegramLive,idle],.inl ⟨rfl,if_neg unreset⟩⟩

theorem receiveGatewayByte_defer {m : State} (symbol : UInt8) (wasEscaped gatewayOwned : Bool)
    (fenced : m.deferRegrantUntilNextSyn = true) :
    (receiveGatewayByte cfg m symbol wasEscaped gatewayOwned).1.deferRegrantUntilNextSyn = true := by
  have released (m : State) (fenced : m.deferRegrantUntilNextSyn = true) (expected : Option UInt8) :
      (releaseOnForeignInitiator cfg m symbol expected).1.deferRegrantUntilNextSyn = true := by
    unfold releaseOnForeignInitiator
    split
    · exact fenced
    split
    · unfold State.releaseGatewayOnArbitrationLoss
      dsimp only
      split
      · rfl
      · exact fenced
    · split
      · rfl
      · exact fenced
  unfold receiveGatewayByte
  dsimp only
  split
  · refine released _ ?_ _
    split
    all_goals exact fenced
  · exact fenced

def Act.keepsFence : Act → Bool
  | .reconcileArbitrationClassifier _ | .deliverActive .. | .deliverToSessions .. | .releaseAfterFrame .. => true
  | .onRawSymbol _ logical _ => !isSYN logical
  | .onLogicalReceived symbol wasEscaped _ _ _ => !isSYN (some (symbol,wasEscaped))
  | _ => false

theorem receiveByte_keepsFence (symbol : UInt8) (wasEscaped : Bool) (event : WirePhaseEvent)
    (owner : Nat) (hasOwner deliver : Bool) (item : Nat) :
    ∀ act ∈ (receiveByte cfg m symbol wasEscaped event owner hasOwner deliver item).code, act.keepsFence = true := by
  intro act pushed
  simp only [receiveByte,mem_append,mem_ite_nil_right,mem_singleton] at pushed
  rcases pushed with ((⟨_,rfl⟩ | ⟨_,rfl⟩) | ⟨_,rfl⟩) | ended
  · rfl
  · rfl
  · rfl
  · split at ended
    · exact mem_singleton.mp ended ▸ rfl
    · exact mem_singleton.mp ended ▸ rfl
    · exact nomatch ended

theorem perform_keepsFence {cfg : Config} {choice : Choice} {act : Act} {m : State}
    (ran : perform cfg choice act m = some effect) (keeps : act.keepsFence = true) (fenced : m.deferRegrantUntilNextSyn = true) :
    effect.shared.deferRegrantUntilNextSyn = true ∧ ∀ next ∈ effect.code, next.keepsFence = true := by
  have same {next : State} (same : SameFence m next) : next.deferRegrantUntilNextSyn = true :=
    (congrArg Fence.defer same).trans fenced
  cases act
  case reconcileArbitrationClassifier =>
    cases ran
    refine ⟨?_,forall_mem_nil _⟩
    unfold reconcileArbitrationClassifier
    extract_lets
    split
    all_goals exact fenced
  case deliverActive =>
    cases ran
    exact ⟨same (.ite rfl (deliverToActive_fence ..)),forall_mem_nil _⟩
  case deliverToSessions =>
    cases ran
    exact ⟨same (deliverToSessions_fence ..),forall_mem_nil _⟩
  case releaseAfterFrame =>
    cases ran
    exact ⟨same (.ite (releaseOwner_fence ..) rfl),forall_mem_nil _⟩
  case onRawSymbol symbol logical item =>
    cases ran
    refine ⟨same (onRawSymbol_fence ..),?_⟩
    cases logical with
    | none => simp [onRawSymbol,Act.keepsFence]
    | some byte => simpa [onRawSymbol,Act.keepsFence] using keeps
  case onLogicalReceived symbol wasEscaped deliver bids item =>
    cases ran
    obtain ⟨phase,advanced,_⟩ := advanceWire_fence cfg choice.now m symbol wasEscaped
    have plain : (decide (symbol = symbolSyn) && !wasEscaped) = false := by
      simpa [Act.keepsFence,isSYN,imp_iff_not_or] using keeps
    unfold onLogicalReceived
    dsimp only
    rw [plain]
    refine ⟨receiveGatewayByte_defer cfg symbol wasEscaped _ ((congrArg Fence.defer advanced).trans fenced),?_⟩
    exact receiveByte_keepsFence cfg _ symbol wasEscaped _ _ _ deliver item
  all_goals exact nomatch keeps

theorem executes_keepsFence {cfg : Config} {m : State} (executes : Executes cfg acts m last)
    (fenced : m.deferRegrantUntilNextSyn = true) (keeps : ∀ act ∈ acts, act.keepsFence = true) :
    last.deferRegrantUntilNextSyn = true := by
  induction executes with
  | nil m => exact fenced
  | cons choice ran later ih =>
    obtain ⟨still,pushes⟩ := perform_keepsFence ran (keeps _ (mem_cons_self ..)) fenced
    exact ih still fun act acts => (mem_append.mp acts).elim (pushes act) fun old => keeps _ (.tail _ old)

theorem symbolCode_keepsFence (raw : Option UInt8) {logical : Option (UInt8 × Bool)} (dropped : Bool) (item : Nat)
    (other : isSYN logical = false) : ∀ act ∈ symbolCode raw logical dropped item, act.keepsFence = true := by
  cases dropped with
  | true => simp [symbolCode,Act.keepsFence]
  | false =>
    cases raw with
    | some symbol => simp [symbolCode,Act.keepsFence,other]
    | none =>
      cases logical with
      | none => simp [symbolCode,Act.keepsFence]
      | some byte => simpa [symbolCode,Act.keepsFence] using other

def State.unfencedNow : Prop := m.deferRegrantUntilNextSyn = false ∧ m.arbitrationRecovery = .none

def Recoverable (mode : ClassifierMode) (m : State) : Prop :=
  mode ≠ .enforce ∨ m.deferRegrantUntilNextSyn = false ∨ m.arbitrationRecovery ≠ .none

theorem Executes.eq_of_nil {cfg : Config} {m : State} (executes : Executes cfg [] m last) : last = m := by
  cases executes
  rfl

theorem readSYN_executes {cfg : Config} {syn : SynItem}
    (executes : Executes cfg (loop.readSYN cfg mode syn).2 (loop.readSYN cfg mode syn).1.mux last) :
    last.transport = loop.mux.transport ∧ (Settled last.fence ∨ (loop.readSYN cfg mode syn).1.mux = last) := by
  rcases readSYN_cases cfg mode syn loop with ⟨settled,_,_,transport,follows⟩ | ⟨_,dropped,_,transport,_⟩
  · obtain ⟨after,same⟩ := executes_followsSYN executes settled (transport.symm ▸ follows)
    exact ⟨same.trans transport,.inl after⟩
  · rw [dropped] at executes
    exact ⟨executes.eq_of_nil ▸ transport,.inr executes.eq_of_nil.symm⟩

theorem second_syn_lifts {cfg : Config} {syn₁ : SynItem} {mid : State} (syn₂ : SynItem) (recoverable : Recoverable mode loop.mux)
    (executes : Executes cfg (loop.readSYN cfg mode syn₁).2 (loop.readSYN cfg mode syn₁).1.mux mid) :
    (Loop.readSYN cfg mode syn₂ ⟨mid,(loop.readSYN cfg mode syn₁).1.phase⟩).1.mux.unfencedNow := by
  rcases readSYN_cases cfg mode syn₂ ⟨mid,(loop.readSYN cfg mode syn₁).1.phase⟩ with ⟨_,defer,
    recovery,_⟩ | ⟨enforced,_,defer,_,recovery⟩
  · exact ⟨defer,recovery⟩
  -- the second SYN is dropped, so the first one's work left nothing to recover from
  have waited : mid.unfencedNow ∨ mid.arbitrationRecovery = .foreignAfterAA ∨
      (mid.phase.telegramLive = false ∧ mid.arbitrationRecovery = .atSYN) := by
    rcases readSYN_cases cfg mode syn₁ loop with ⟨settled,_,_,transport,follows⟩ | ⟨_,dropped,kept,_,first⟩
    · obtain ⟨quiet,fence⟩ := (executes_followsSYN executes settled (transport.symm ▸ follows)).1
      exact fence.imp id fun raised => .inr ⟨quiet,raised.2⟩
    · rw [dropped] at executes
      rw [executes.eq_of_nil]
      rcases first with ⟨unraised,lifted⟩ | ⟨_,waiting⟩
      · exact .inl ⟨kept.trans ((recoverable.resolve_left (not_not_intro enforced)).resolve_right (not_not_intro unraised)),lifted⟩
      · exact .inr (.inl waiting)
  rcases waited with ⟨unfenced,lifted⟩ | waiting | ⟨quiet,atSYN⟩
  · simp_all [State.unfencedNow]
  · simp [waiting] at recovery
  · simp [quiet,atSYN] at recovery

/-- It follows a telegram from the STARTED on, and no byte takes it out of idle. -/
def dropping : TelegramFsm where
  Phase := Bool
  idle := false
  feed inside symbol wasEscaped := (inside,inside && symbol = symbolSyn && !wasEscaped)
  aborted _ := false
  forwards := rfl

theorem dropped_unraised {m : State} (unraised : m.arbitrationRecovery = .none)
    (syn : SynItem) : Loop.readSYN cfg .enforce syn (⟨m,true⟩ : Loop dropping) = (⟨m,true⟩,[]) := by
  have kept : Loop.reconcile .enforce (⟨m,true⟩ : Loop dropping) true = ⟨m,true⟩ := by
    cases m
    simp_all [Loop.reconcile,reconcileArbitrationClassifier,resetsClassifier,judgedRecovery]
  unfold Loop.readSYN
  rw [kept]
  rfl

/-- Two SYNs in a row leave nothing fenced, if a fence was raised with a recovery or the classifier drops nothing, and
only then; what the second one's own selection fences on a transport that cannot arbitrate is left for the next SYN. No
other symbol lifts a fence. -/
theorem fence_lifted_by_two_syns (mode : ClassifierMode) (m : State) :
    ((∀ (fsm : TelegramFsm) (phase : fsm.Phase) (syn₁ syn₂ : SynItem) (mid last : State),
        Executes cfg (Loop.readSYN cfg mode syn₁ ⟨m,phase⟩).2 (Loop.readSYN cfg mode syn₁ ⟨m,phase⟩).1.mux mid →
        Executes cfg (Loop.readSYN cfg mode syn₂ ⟨mid,(Loop.readSYN cfg mode syn₁ ⟨m,phase⟩).1.phase⟩).2
          (Loop.readSYN cfg mode syn₂ ⟨mid,(Loop.readSYN cfg mode syn₁ ⟨m,phase⟩).1.phase⟩).1.mux last →
        (Loop.readSYN cfg mode syn₂ ⟨mid,(Loop.readSYN cfg mode syn₁ ⟨m,phase⟩).1.phase⟩).1.mux.unfencedNow ∧
          (m.transport ≠ .unsupported → last.unfencedNow)) ↔
      Recoverable mode m) ∧
    ∀ (raw : Option UInt8) (logical : Option (UInt8 × Bool)) (dropped : Bool) (item : Nat) (last : State),
      isSYN logical = false → m.deferRegrantUntilNextSyn = true → Executes cfg (symbolCode raw logical dropped item) m last →
      last.deferRegrantUntilNextSyn = true := by
  refine ⟨⟨fun bounded => ?_,fun recoverable fsm phase syn₁ syn₂ mid last first second => ?_⟩,?_⟩
  · by_contra stuck
    obtain ⟨enforced,fenced,unraised⟩ : mode = .enforce ∧ m.deferRegrantUntilNextSyn = true ∧ m.arbitrationRecovery = .none := by
      simpa [Recoverable] using stuck
    subst enforced
    have kept := dropped_unraised cfg unraised ⟨{},{},{},none,0⟩
    have lifted := bounded dropping true ⟨{},{},{},none,0⟩ ⟨{},{},{},none,0⟩ m m
    simp only [kept] at lifted
    exact clash fenced (lifted (.nil m) (.nil m)).1.1
  · have lifted := second_syn_lifts syn₂ recoverable first
    refine ⟨lifted,fun supported => ?_⟩
    obtain ⟨same,settled | dropped⟩ := readSYN_executes second
    · refine settled.fence.resolve_right fun raised => supported ?_
      exact ((same.trans (readSYN_executes first).1).symm.trans raised.1)
    · exact dropped ▸ lifted
  · intro raw logical dropped item last other fenced executes
    exact executes_keepsFence executes fenced (symbolCode_keepsFence raw dropped item other)

def firstEchoAwaited : State where
  arb := {hasOwner := true}
  busOwned := some 0
  gatewayTxnActive := true
  gatewayEcho := ({} : EchoTracker).recordSentStructural 0x71 false

def fencedByForeign : State := (onLogicalReceived defaultConfig {} firstEchoAwaited 0xF1 false false none 1).shared

def enforcing : Config := {defaultConfig with enforcesClassifier := true}

def plainSyn : SynItem := ⟨{},{},{},some symbolSyn,2⟩

/-- A fence raised by a foreign initiator as the first echo has no recovery, so the SYNs that follow are dropped. -/
theorem foreign_fence_stays :
    let inside := dropping.observe .enforce true 0xF1 false
    let first := Loop.readSYN enforcing .enforce plainSyn (⟨fencedByForeign,inside.1⟩ : Loop dropping)
    let second := first.1.readSYN enforcing .enforce plainSyn
    inside.2 = false ∧ first.2 = [] ∧ second.2 = [] ∧ second.1.mux.deferRegrantUntilNextSyn = true := by
  have unraised : fencedByForeign.arbitrationRecovery = .none := by decide
  have dropped := dropped_unraised enforcing unraised plainSyn
  refine ⟨rfl,?_⟩
  rw [show (dropping.observe .enforce true 0xF1 false).1 = true from rfl,dropped]
  dsimp only
  rw [dropped]
  exact ⟨rfl,rfl,by decide⟩

def fencedWithRecovery : State := ({} : State).fenceArbitrationUntilSYN

theorem recovery_fence_lifted :
    let first := Loop.readSYN enforcing .enforce plainSyn (⟨fencedWithRecovery,true⟩ : Loop dropping)
    let second := first.1.readSYN enforcing .enforce plainSyn
    second.1.mux.unfencedNow ∧
      ∃ last, Executes enforcing (symbolCode none (some (symbolSyn,true)) false 1) fencedWithRecovery last ∧
        last.deferRegrantUntilNextSyn = true := by
  have ⟨bounded,kept⟩ := fence_lifted_by_two_syns enforcing .enforce fencedWithRecovery
  have escaped : Executes enforcing (symbolCode none (some (symbolSyn,true)) false 1) fencedWithRecovery _ :=
    .cons {} rfl (.cons {} rfl (.cons {} rfl (.nil _)))
  intro first second
  have quiet {m : State} {acts : List Act} (none : acts = []) : Executes enforcing acts m m := none ▸ .nil m
  refine ⟨?_,_,escaped,kept none _ false 1 _ rfl rfl escaped⟩
  exact (bounded.mpr (.inr (.inr (by decide))) dropping true plainSyn plainSyn first.1.mux
    second.1.mux (quiet (by decide +kernel)) (quiet (by decide +kernel))).1

end EbusGateway.Mux
