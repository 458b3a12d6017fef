import EbusGateway.Reconstructor.Reconstruction

/-! Escape provenance: in which states the parser tells a SYN value that came from an escape pair from a SYN
on the wire.
-/
namespace EbusGateway.Reconstructor
open Library List

inductive Decoded
  | symbol (byte : UInt8) (wasEscaped : Bool)
  | pending
  | fault

def push (escape : Bool) (raw : UInt8) : Bool × Decoded :=
  if escape then
    if raw = 0x00 then (false,.symbol symbolEscape true)
    else if raw = 0x01 then (false,.symbol symbolSyn true)
    else (false,.fault)
  else if raw = symbolEscape then (true,.pending)
  else (false,.symbol raw false)

def tapBytes (observedAt : Time) : Bool → List UInt8 → List Input
  | _, [] => []
  | escape, raw :: rest =>
    match push escape raw with
    | (escape,.symbol byte wasEscaped) => ⟨.symbol byte wasEscaped observedAt,none⟩ :: tapBytes observedAt escape rest
    | (escape,.pending) => tapBytes observedAt escape rest
    | (escape,.fault) => ⟨.decodeFault observedAt (some .invalidPayload),none⟩ :: tapBytes observedAt escape rest

def escapedSyn (observedAt : Time) : Heard := ⟨symbolSyn,true,observedAt⟩

def wireSyn (observedAt : Time) : Heard := ⟨symbolSyn,false,observedAt⟩

structure Honoured (cfg : Config) (r : Parser) (observedAt : Time) (localAddress : Option UInt8) : Prop where
  payload : (r.handleTapEventLocked cfg ((escapedSyn observedAt).input localAddress)).1.state ≠
    (r.handleTapEventLocked cfg ((wireSyn observedAt).input localAddress)).1.state
  gate : r.state.synced = false →
    (r.handleTapEventLocked cfg ((escapedSyn observedAt).input localAddress)).1.state.synced = false
  held : r.state.phase = .abandoned →
    (r.handleTapEventLocked cfg ((escapedSyn observedAt).input localAddress)).1.state.phase = .abandoned
  uncommitted : ∀ event ∈ (r.handleTapEventLocked cfg ((escapedSyn observedAt).input localAddress)).2,
    event.isFrame = false

section
variable {cfg : Config} {r : Parser} {history : List Input} {observedAt : Time} {localAddress : Option UInt8}

def Unframed (result : Parser × List ClassifiedEvent) : Prop :=
  result.1.state.synced = false ∧ ∀ event ∈ result.2, event.isFrame = false

section
variable (closed : r.state.synced = false)
include closed

theorem unframed_quiet : Unframed (r,[]) :=
  ⟨closed,fun _ mem => absurd mem not_mem_nil⟩

theorem unframed_abandons {event : ClassifiedEvent} (kind : event.kind = .abandonedTransaction) : Unframed (r,[event]) := by
  refine ⟨closed,?_⟩
  intro published mem
  rw [mem_singleton.mp mem,ClassifiedEvent.isFrame,kind]
  rfl

theorem checkRequest_unframed (p : Protocol) (byte : UInt8) (wasEscaped : Bool) :
    Unframed (r.checkRequest p localAddress byte wasEscaped observedAt) := by
  unfold Parser.checkRequest
  cases Parser.requestBound r.state.requestRaw with
  | some found => exact unframed_abandons rfl rfl
  | none =>
    dsimp only
    split
    · exact unframed_abandons rfl rfl
    split
    · cases committed : r.commitRequestFrameLocked p observedAt with
      | none =>
        dsimp only
        split
        · exact unframed_abandons rfl rfl
        · exact unframed_quiet closed
      | some result =>
        obtain ⟨f,_,addressed,rfl⟩ := commitRequestFrame_eq_some committed
        obtain type | type := addressed
        all_goals
          rw [Parser.dispatchParsedRequestLocked,type]
          exact unframed_quiet closed
    · exact unframed_quiet closed

theorem accumulateResponse_unframed (p : Protocol) (byte : UInt8) (wasEscaped : Bool) :
    Unframed (r.accumulateResponse p byte wasEscaped observedAt) := by
  unfold Parser.accumulateResponse
  dsimp only
  split
  · exact unframed_quiet closed
  split
  · exact unframed_abandons closed rfl
  · exact unframed_quiet closed

theorem escaped_unframed (inPayload : InPayload cfg r.state observedAt) :
    Unframed (r.handleTapEventLocked cfg ((escapedSyn observedAt).input localAddress)) := by
  obtain ⟨phase,fresh⟩ := inPayload
  rw [handleTapEvent_fresh fresh,Parser.handleSymbolLocked]
  obtain phase | phase := phase
  · rw [phase]
    dsimp only
    rw [Parser.handleRequestSymbolLocked,if_pos (.inr rfl)]
    apply checkRequest_unframed
    exact closed
  rw [phase]
  dsimp only
  rw [Parser.handleResponseSymbolLocked,if_neg (by rintro ⟨_,⟨⟩⟩)]
  dsimp only
  split
  · split
    · exact unframed_abandons rfl rfl
    · apply accumulateResponse_unframed
      exact closed
  · apply accumulateResponse_unframed
    exact closed

end

theorem handleACK_syn (r : Parser) (localAddress : Option UInt8) (wasEscaped : Bool) (observedAt : Time) :
    (r.handleACKSymbolLocked localAddress symbolSyn wasEscaped observedAt).1.state = {synced := true} := by
  rw [Parser.handleACKSymbolLocked,if_neg (by decide),if_neg (by decide),if_pos rfl]
  split
  · rfl
  split
  · rfl
  · rfl

theorem escaped_as_syn (outside : ¬ InPayload cfg r.state observedAt) :
    (r.handleTapEventLocked cfg ((escapedSyn observedAt).input localAddress)).1.state =
      (r.handleTapEventLocked cfg ((wireSyn observedAt).input localAddress)).1.state := by
  cases stale : Parser.stale cfg.watchdog r.state observedAt with
  | true =>
    rw [handleTapEvent_stale stale,handleTapEvent_stale stale]
    rfl
  | false =>
    rw [handleTapEvent_fresh stale,handleTapEvent_fresh stale]
    unfold Parser.handleSymbolLocked
    cases phase : r.state.phase with
    | idle => rfl
    | request => exact absurd ⟨.inl phase,stale⟩ outside
    | waitACK => exact (handleACK_syn r localAddress true observedAt).trans (handleACK_syn r localAddress false observedAt).symm
    | waitResponse => exact absurd ⟨.inr phase,stale⟩ outside
    | waitFinalACK => rfl
    | waitTerminal =>
      simp only [Parser.handleTerminalSymbolLocked,escapedSyn,wireSyn]
      cases r.state.frameType <;> rfl
    | abandoned => rfl

theorem payload_closed {wire : Bool → Prop} (tracked : Tracks cfg wire history r.state)
    (inPayload : InPayload cfg r.state observedAt) : r.state.synced = false := by
  generalize r.state = state at tracked inPayload
  cases tracked with
  | idle phase => obtain other | other := inPayload.1 <;> cases phase.symm.trans other
  | abandoned phase => obtain other | other := inPayload.1 <;> cases phase.symm.trans other
  | reading segment reads => cases reads <;> rfl

end

/-- The parser honours escape provenance exactly where it reads a request or a response in time; and along
every run that meets escaped SYN values only there, each reported frame begins after a SYN on the wire or
the NACK of a request and ends with a SYN on the wire. -/
theorem escape_provenance_honoured_iff (cfg : Config) :
    (∀ history r, Run (step cfg) anyStep newPassiveTransactionReconstructor history r → ∀ observedAt localAddress,
      (Honoured cfg r observedAt localAddress ↔ InPayload cfg r.state observedAt)) ∧
    (∀ history r, Run (step cfg) (Heeds cfg OnWire) newPassiveTransactionReconstructor history r → ∀ input,
      Heeds cfg OnWire r input → ∀ event ∈ (r.handleTapEventLocked cfg input).2, event.isFrame = true →
      Reported cfg OnWire (history ++ [input]) event) := by
  refine ⟨?_,?_⟩
  · intro history r run observedAt localAddress
    have tracked : Tracks cfg AnyProvenance history r.state := run_follow run ▸ follow_tracks cfg history
    refine ⟨fun honoured => ?_,fun inPayload => ?_⟩
    · by_contra outside
      exact honoured.payload (escaped_as_syn outside)
    · have closed := payload_closed tracked inPayload
      obtain ⟨shut,unframed⟩ := escaped_unframed closed inPayload
      refine ⟨?_,fun _ => shut,?_,unframed⟩
      · intro same
        have ready : Ready (r.handleTapEventLocked cfg ((wireSyn observedAt).input localAddress)).1.state :=
          syn_ready tracked rfl rfl
        rw [← same] at ready
        exact Bool.false_ne_true (shut.symm.trans ready.2)
      · intro abandoned
        obtain other | other := inPayload.1 <;> cases abandoned.symm.trans other
  · intro history r run input heeded event mem frame
    have plain : OnWire false := rfl
    exact (handleTapEvent_sound plain (run_tracks plain run) heeded).reported event mem frame

theorem heeds_raw {cfg : Config} {s : Heard} (raw : s.wasEscaped = false) (r : Parser) (localAddress : Option UInt8) :
    Heeds cfg OnWire r (s.input localAddress) := by
  obtain ⟨byte,wasEscaped,observedAt⟩ := s
  rintro ⟨other,otherEscaped,otherAt⟩ address same _
  cases same
  exact .inl raw

theorem raw_run (cfg : Config) (symbols : List Heard) (raw : ∀ s ∈ symbols, s.wasEscaped = false) :
    Run (step cfg) (Heeds cfg OnWire) newPassiveTransactionReconstructor (symbols.map (Heard.input · none))
      (follow cfg newPassiveTransactionReconstructor (symbols.map (Heard.input · none))) := by
  induction symbols using List.reverseRecOn with
  | nil => exact .refl
  | append_singleton earlier s ih =>
    rw [map_append,follow_append]
    exact (ih fun other mem => raw other (mem_append_left [s] mem)).snoc _
      (heeds_raw (raw s (mem_append_right earlier (mem_singleton_self s))) _ none) rfl

/-- A request takes an escaped SYN value for data, and a broadcast heard on the wire stands between SYNs on
the wire. -/
theorem request_reads_escaped_syn :
    (∃ r, Run (step sampleConfig) anyStep newPassiveTransactionReconstructor
        ((sampleSymbols [0xAA,0x10]).map (Heard.input · none)) r ∧ Honoured sampleConfig r 0 none) ∧
      Reported sampleConfig OnWire
        ((sampleSymbols [0xAA,0x10,0xFE,0x07,0x00,0x01,0x79,0xE6]).map (Heard.input · none) ++ [(wireSyn 0).input none])
        (broadcastEvent ⟨0x10,0xFE,0x07,0x00,[0x79]⟩ (sampleSymbols [0x10,0xFE,0x07,0x00,0x01,0x79,0xE6]) 0) := by
  obtain ⟨honoured,reported⟩ := escape_provenance_honoured_iff sampleConfig
  refine ⟨⟨_,follow_run sampleConfig _,?_⟩,?_⟩
  · exact (honoured _ _ (follow_run sampleConfig _) 0 none).mpr ⟨.inl (by decide +kernel),by decide +kernel⟩
  · exact reported _ _ (raw_run sampleConfig (sampleSymbols [0xAA,0x10,0xFE,0x07,0x00,0x01,0x79,0xE6]) (by decide))
      ((wireSyn 0).input none) (heeds_raw rfl _ none) _ (by decide +kernel) rfl

/-- In a telegram given up for its length, an escaped SYN value opens the gate and the data behind it is
reported as a broadcast; a given-up telegram is left and a master frame is committed on one. -/
theorem escaped_syn_taken_for_wire_syn :
    (∃ r, Run (step sampleConfig) anyStep newPassiveTransactionReconstructor
        (tapBytes 0 false [0xAA,0x10,0x08,0xB5,0x04,0xFF]) r ∧ r.state.synced = false ∧
      (published sampleConfig r (tapBytes 0 false [0xA9,0x01,0x10,0xFE,0x07,0x00,0x01,0x79,0xE6,0xAA])).map
        ClassifiedEvent.kind = [.broadcastFrame]) ∧
    (∃ r, Run (step sampleConfig) anyStep newPassiveTransactionReconstructor
        (tapBytes 0 false [0xAA,0x10,0x08,0xB5,0x04,0x00,0x82,0x33]) r ∧ r.state.phase = .abandoned ∧
      (r.handleTapEventLocked sampleConfig ((escapedSyn 0).input none)).1.state.phase = .idle) ∧
    (∃ r, Run (step sampleConfig) anyStep newPassiveTransactionReconstructor
        (tapBytes 0 false [0xAA,0x10,0x03,0xB5,0x04,0x00,0x3D,0x00]) r ∧ r.state.phase = .waitTerminal ∧
      (published sampleConfig r (tapBytes 0 false [0xA9,0x01])).map ClassifiedEvent.kind = [.masterFrame]) := by
  refine ⟨⟨_,follow_run sampleConfig _,?_⟩,⟨_,follow_run sampleConfig _,?_⟩,⟨_,follow_run sampleConfig _,?_⟩⟩
  all_goals decide +kernel

end EbusGateway.Reconstructor
