import Mathlib
import EbusGateway.Library.Transition
import EbusGateway.Reconstructor.Telegram

/-! What the parser has read: in every state that follows a telegram, the symbols heard since it began and
the exact state they lead to.
-/
namespace EbusGateway.Reconstructor
open Library List

def requestState (symbols : List Heard) (last : Time) : TransactionState :=
  {phase := .request, requestRaw := symbols.map Heard.byte
   timing := {requestStart := began symbols}, lastProgressAt := some last}

def ackState (p : Protocol) (f : Frame) (request : List Heard) (last : Time) : TransactionState :=
  {phase := .waitACK, requestRaw := request.map Heard.byte, request := f, frameType := p.frameType f
   timing := {requestStart := began request, requestEnd := ended request}, lastProgressAt := some last}

def announced (response : List Heard) : Nat := (response.head?.map fun s => s.byte.toNat + 2).getD 0

def responseState (p : Protocol) (f : Frame) (request response : List Heard) (last : Time) : TransactionState :=
  {ackState p f request last with
    phase := .waitResponse, ackCorrelation := some symbolAck, responseRaw := response.map Heard.byte
    responseExpectedLen := announced response
    timing := {requestStart := began request, requestEnd := ended request, responseStart := began response}}

def finalState (p : Protocol) (f : Frame) (request response : List Heard) (last : Time) : TransactionState :=
  {responseState p f request response last with
    phase := .waitFinalACK
    response := (parsePassiveResponse p f (response.map Heard.byte)).1
    responseCRCValid := (parsePassiveResponse p f (response.map Heard.byte)).2
    timing := {
      requestStart := began request, requestEnd := ended request
      responseStart := began response, responseEnd := ended response}}

def masterState (p : Protocol) (f : Frame) (request : List Heard) (last : Time) : TransactionState :=
  {ackState p f request last with phase := .waitTerminal, ackCorrelation := some symbolAck}

def transactionState (p : Protocol) (f : Frame) (request response : List Heard) (last : Time) : TransactionState :=
  {finalState p f request response last with phase := .waitTerminal}

structure Begun (symbols : List Heard) : Prop where
  nonempty : symbols ≠ []
  source : ∀ qq, (symbols.map Heard.byte)[0]? = some qq → isInitiatorAddr qq = true
  target : ∀ zz, (symbols.map Heard.byte)[1]? = some zz → zz ≠ 0xAA ∧ zz ≠ 0xA9
  size : ∀ nn, (symbols.map Heard.byte)[4]? = some nn → nn.toNat ≤ maxPassiveDataLen
  payload : ∀ s ∈ symbols, s.Payload

structure Answering (response : List Heard) : Prop where
  size : announced response ≤ maxPassiveDataLen + 2
  payload : ∀ s ∈ response, s.Payload

inductive Reads (p : Protocol) : List Heard → Time → TransactionState → Prop
  | request {symbols : List Heard} {last : Time} (begun : Begun symbols)
      (pending : ∀ f, parseFrame p (symbols.map Heard.byte) = some f → ¬ Addressed (p.frameType f)) :
      Reads p symbols last (requestState symbols last)
  | acknowledge {f : Frame} {request : List Heard} {last : Time} (spelled : IsRequest p f request) (legal : Legal f)
      (addressed : Addressed (p.frameType f)) : Reads p request last (ackState p f request last)
  | respond {f : Frame} {request response : List Heard} {ack : Heard} {last : Time} (spelled : IsRequest p f request)
      (type : p.frameType f = .initiatorTarget) (acknowledged : ack.byte = symbolAck)
      (answering : Answering response) (more : response = [] ∨ response.length < announced response) :
      Reads p (request ++ [ack] ++ response) last (responseState p f request response last)
  | confirm {f : Frame} {request response : List Heard} {ack : Heard} {last : Time} (spelled : IsRequest p f request)
      (type : p.frameType f = .initiatorTarget) (acknowledged : ack.byte = symbolAck)
      (answering : Answering response) :
      Reads p (request ++ [ack] ++ response) last (finalState p f request response last)
  | master {f : Frame} {request : List Heard} {ack : Heard} {last : Time} (spelled : IsRequest p f request)
      (type : p.frameType f = .initiatorInitiator) (acknowledged : ack.byte = symbolAck) :
      Reads p (request ++ [ack]) last (masterState p f request last)
  | transaction {f : Frame} {data : List UInt8} {request response : List Heard} {ack finalAck : Heard} {last : Time}
      (spelled : IsRequest p f request) (type : p.frameType f = .initiatorTarget)
      (acknowledged : ack.byte = symbolAck) (answered : IsResponse p data response)
      (confirmed : finalAck.byte = symbolAck) :
      Reads p (request ++ [ack] ++ response ++ [finalAck]) last (transactionState p f request response last)

inductive Tracks (cfg : Config) (wire : Bool → Prop) (history : List Input) : TransactionState → Prop
  | idle {s : TransactionState} (phase : s.phase = .idle) (gate : s.synced = true → Opening cfg wire history) :
      Tracks cfg wire history s
  | abandoned {s : TransactionState} (phase : s.phase = .abandoned) : Tracks cfg wire history s
  | reading {s : TransactionState} {symbols : List Heard} {last : Time}
      (segment : Segment cfg wire history symbols last) (reads : Reads cfg.protocol symbols last s) :
      Tracks cfg wire history s

structure Sound (cfg : Config) (wire : Bool → Prop) (history : List Input) (result : Parser × List ClassifiedEvent) :
    Prop where
  tracks : Tracks cfg wire history result.1.state
  reported : ∀ event ∈ result.2, event.isFrame = true → Reported cfg wire history event

section
variable {cfg : Config} {wire : Bool → Prop} {history : List Input}

namespace Sound

variable {r : Parser} {event : ClassifiedEvent}

theorem quiet (tracks : Tracks cfg wire history r.state) : Sound cfg wire history (r,[]) :=
  ⟨tracks,fun _ mem => absurd mem not_mem_nil⟩

theorem reading {symbols : List Heard} {last : Time} {s : TransactionState}
    (segment : Segment cfg wire history symbols last) (reads : Reads cfg.protocol symbols last s)
    (state : r.state = s) : Sound cfg wire history (r,[]) :=
  quiet (.reading segment (state ▸ reads))

theorem abandons (tracks : Tracks cfg wire history r.state)
    (kind : event.kind = .abandonedTransaction) : Sound cfg wire history (r,[event]) := by
  refine ⟨tracks,?_⟩
  intro published mem frame
  cases mem_singleton.mp mem
  rw [ClassifiedEvent.isFrame,kind] at frame
  cases frame

theorem abandonAndReset (r : Parser) (reason : AbandonReason) (observedAt : Time)
    (err : Option Fault) (byte : UInt8) (wasEscaped : Bool) :
    Sound cfg wire history (r.abandonAndReset reason observedAt err byte wasEscaped) :=
  abandons (.idle rfl nofun) rfl

theorem abandonAfterSyn (r : Parser) (reason : AbandonReason) (observedAt : Time) (err : Option Fault)
    (byte : UInt8) (wasEscaped : Bool) (opened : Opening cfg wire history) :
    Sound cfg wire history (r.abandonAfterSyn reason observedAt err byte wasEscaped) :=
  abandons (.idle rfl fun _ => opened) rfl

theorem abandonAndHold (r : Parser) (reason : AbandonReason) (observedAt : Time)
    (err : Option Fault) (byte : UInt8) (wasEscaped : Bool) :
    Sound cfg wire history (r.abandonAndHold reason observedAt err byte wasEscaped) :=
  abandons (.abandoned rfl) rfl

theorem reports (opened : Opening cfg wire history) (reported : Reported cfg wire history event) :
    Sound cfg wire history (r.resetStateLockedAfterSyn,[event]) := by
  refine ⟨.idle rfl fun _ => opened,?_⟩
  intro published mem _
  cases mem_singleton.mp mem
  exact reported

end Sound

theorem requestBound_eq_none {raw : List UInt8} :
    Parser.requestBound raw = none ↔ (raw.length = 2 → raw.getD 1 0 ≠ 0xAA ∧ raw.getD 1 0 ≠ 0xA9) ∧
      (raw.length = 5 → (raw.getD 4 0).toNat ≤ maxPassiveDataLen) := by
  unfold Parser.requestBound isValidTargetAddr
  grind

namespace Begun
variable {symbols : List Heard}

theorem isRequest {p : Protocol} {f : Frame} (begun : Begun symbols)
    (parsed : parseFrame p (symbols.map Heard.byte) = some f) : IsRequest p f symbols ∧ Legal f := by
  obtain ⟨spelled,short⟩ := parseFrame_eq_some parsed
  have size := begun.size (UInt8.ofNat f.data.length) (by rw [spelled]; rfl)
  rw [toNat_ofNat_length short] at size
  exact ⟨⟨spelled,size,begun.payload⟩,begun.source _ (by rw [spelled]; rfl),begun.target _ (by rw [spelled]; rfl)⟩

theorem start {s : Heard} (source : isInitiatorAddr s.byte = true) : Begun [s] where
  nonempty := cons_ne_nil _ _
  source := by
    rintro _ ⟨⟩
    exact source
  target := nofun
  size := nofun
  payload := by
    intro heard mem byte
    cases mem_singleton.mp mem
    rw [byte] at source
    cases source

theorem push (begun : Begun symbols) {s : Heard} (payload : s.Payload)
    (bounded : Parser.requestBound (symbols.map Heard.byte ++ [s.byte]) = none) : Begun (symbols ++ [s]) := by
  obtain ⟨target,size⟩ := requestBound_eq_none.mp bounded
  have long : 0 < symbols.length := length_pos_iff.mpr begun.nonempty
  have map : (symbols ++ [s]).map Heard.byte = symbols.map Heard.byte ++ [s.byte] := map_append
  have length : (symbols.map Heard.byte).length = symbols.length := length_map ..
  refine ⟨fun empty => begun.nonempty (append_eq_nil_iff.mp empty).1,?_,?_,?_,?_⟩
  · intro qq at_
    rw [map,List.getElem?_append_left (by omega)] at at_
    exact begun.source qq at_
  · intro zz at_
    rw [map] at at_
    by_cases before : 1 < symbols.length
    · rw [List.getElem?_append_left (by omega)] at at_
      exact begun.target zz at_
    · have two : (symbols.map Heard.byte ++ [s.byte]).length = 2 := by
        rw [length_append,length_singleton]
        omega
      have := target two
      rwa [getD_eq_getElem?_getD,at_] at this
  · intro nn at_
    rw [map] at at_
    by_cases before : 4 < symbols.length
    · rw [List.getElem?_append_left (by omega)] at at_
      exact begun.size nn at_
    · have four : 4 < (symbols.map Heard.byte ++ [s.byte]).length := (List.getElem?_eq_some_iff.mp at_).1
      rw [length_append,length_singleton,length] at four
      have := size (by rw [length_append,length_singleton]; omega)
      rwa [getD_eq_getElem?_getD,at_] at this
  · intro heard mem
    obtain old | new := mem_append.mp mem
    · exact begun.payload heard old
    · exact mem_singleton.mp new ▸ payload

end Begun

variable {symbols : List Heard} {r : Parser} {p : Protocol} {last observedAt : Time}

theorem began_append (nonempty : symbols ≠ []) (more : List Heard) : began (symbols ++ more) = began symbols := by
  rw [began,began,List.head?_append_of_ne_nil _ nonempty]

theorem ended_append (symbols : List Heard) (s : Heard) : ended (symbols ++ [s]) = some s.observedAt := by
  rw [ended,List.getLast?_concat]
  rfl

theorem pushRequest_state (nonempty : symbols ≠ []) (state : r.state = requestState symbols last) (s : Heard) :
    (r.pushRequest s.byte s.observedAt).state = requestState (symbols ++ [s]) s.observedAt := by
  rw [Parser.pushRequest,state,requestState,requestState,began_append nonempty,map_append]
  rfl

theorem committed_state {f : Frame} (state : r.state = requestState symbols last)
    (addressed : Addressed (p.frameType f)) (observedAt : Time) :
    r.dispatchParsedRequestLocked p f observedAt false = ({r with state := {ackState p f symbols observedAt with
        timing := {requestStart := began symbols, requestEnd := some observedAt}}},[]) := by
  obtain type | type := addressed
  all_goals
    rw [Parser.dispatchParsedRequestLocked,type,state]
    simp only [ackState,requestState,type]

theorem commitRequestFrame_eq_none : r.commitRequestFrameLocked p observedAt = none ↔
      ∀ f, parseFrame p r.state.requestRaw = some f → ¬ Addressed (p.frameType f) := by
  unfold Parser.commitRequestFrameLocked Addressed
  grind

theorem commitRequestFrame_eq_some {result : Parser × List ClassifiedEvent}
    (committed : r.commitRequestFrameLocked p observedAt = some result) :
    ∃ f, parseFrame p r.state.requestRaw = some f ∧ Addressed (p.frameType f) ∧
      result = r.dispatchParsedRequestLocked p f observedAt false := by
  unfold Parser.commitRequestFrameLocked at committed
  unfold Addressed
  grind

section
variable {r : Parser} {symbols request response : List Heard} {last : Time} {f : Frame} {s : Heard}
  {own : Option UInt8}

theorem checkRequest_sound (segment : Segment cfg wire history symbols last)
    (begun : Parser.requestBound (symbols.map Heard.byte) = none → Begun symbols)
    (state : r.state = requestState symbols last) (at_ : ended symbols = some last) (byte : UInt8) (wasEscaped : Bool) :
    Sound cfg wire history (r.checkRequest cfg.protocol own byte wasEscaped last) := by
  have raw : r.state.requestRaw = symbols.map Heard.byte := by rw [state]; rfl
  unfold Parser.checkRequest
  cases bound : Parser.requestBound r.state.requestRaw with
  | some found => exact .abandonAndReset ..
  | none =>
    have begun := begun (raw ▸ bound)
    dsimp only
    split
    · exact .abandonAndReset ..
    split
    · cases committed : r.commitRequestFrameLocked cfg.protocol last with
      | some result =>
        obtain ⟨f,parsed,addressed,rfl⟩ := commitRequestFrame_eq_some committed
        rw [committed_state state addressed,← at_]
        obtain ⟨spelled,legal⟩ := begun.isRequest (raw ▸ parsed)
        exact .reading segment (.acknowledge spelled legal addressed) rfl
      | none =>
        dsimp only
        split
        · exact .abandonAndReset ..
        · exact .reading segment (.request begun (raw ▸ commitRequestFrame_eq_none.mp committed)) state
    · rename_i incomplete
      refine .reading segment (.request begun ?_) state
      intro f parsed
      rw [← raw] at parsed
      exact absurd ⟨by have := parseFrame_length parsed; omega,parseFrame_length parsed⟩ incomplete

theorem handleRequest_sound (plain : wire false) (segment : Segment cfg wire history symbols last)
    (begun : Begun symbols) (pending : ∀ f, parseFrame cfg.protocol
      (symbols.map Heard.byte) = some f → ¬ Addressed (cfg.protocol.frameType f))
    (state : r.state = requestState symbols last) (prompt : s.observedAt - last ≤ cfg.watchdog) :
    Sound cfg wire (history ++ [s.input own])
      (r.handleRequestSymbolLocked cfg.protocol own s.byte s.wasEscaped s.observedAt) := by
  unfold Parser.handleRequestSymbolLocked
  split
  · rename_i data
    refine checkRequest_sound (segment.symbol s own prompt) ?_ (pushRequest_state begun.nonempty state s)
      (ended_append symbols s) s.byte s.wasEscaped
    rw [map_append]
    exact begun.push fun byte => data.resolve_left (not_not.mpr byte)
  rename_i syn
  obtain ⟨byte,escaped⟩ := not_or.mp syn
  have taken : wire s.wasEscaped := by rwa [(Bool.not_eq_true _).mp escaped]
  have opened : Opening cfg wire (history ++ [s.input own]) :=
    .syn history s own (not_not.mp byte) taken
  have raw : r.state.requestRaw = symbols.map Heard.byte := by rw [state]; rfl
  dsimp only
  cases parsed : parseFrame cfg.protocol r.state.requestRaw with
  | none => exact .abandonAfterSyn _ _ _ _ _ _ opened
  | some f =>
    have := pending f (raw ▸ parsed)
    rw [raw] at parsed
    dsimp only
    unfold Parser.dispatchParsedRequestLocked
    cases type : cfg.protocol.frameType f with
    | unknown => exact .abandonAfterSyn _ _ _ _ _ _ opened
    | broadcast =>
      refine .reports opened ⟨_,_,segment.symbol s own prompt,?_⟩
      have reported : r.state.timing.requestStart = began symbols := by rw [state]; rfl
      dsimp only
      rw [reported]
      exact .broadcast (begun.isRequest parsed).1 type (not_not.mp byte) taken
    | initiatorInitiator => exact absurd (.inl type) this
    | initiatorTarget => exact absurd (.inr type) this

theorem handleACK_sound (segment : Segment cfg wire history request last) (spelled : IsRequest cfg.protocol f request)
    (legal : Legal f) (addressed : Addressed (cfg.protocol.frameType f)) (state : r.state = ackState cfg.protocol f request last)
    (prompt : s.observedAt - last ≤ cfg.watchdog) (taken : s.byte = symbolSyn → wire s.wasEscaped) :
    Sound cfg wire (history ++ [s.input own]) (r.handleACKSymbolLocked own s.byte s.wasEscaped s.observedAt) := by
  have segment' := segment.symbol s own prompt
  have type : r.state.frameType = cfg.protocol.frameType f := by rw [state]; rfl
  unfold Parser.handleACKSymbolLocked
  split
  · rename_i ack
    dsimp only
    split
    · rename_i initiator
      refine .reading segment' (.master spelled (type ▸ initiator) ack) ?_
      rw [state,ack]
      rfl
    rename_i other
    have reads : Reads cfg.protocol (request ++ [s] ++ []) s.observedAt
        (responseState cfg.protocol f request [] s.observedAt) :=
      .respond spelled (addressed.resolve_left (type ▸ other)) ack ⟨Nat.zero_le _,nofun⟩ (.inl rfl)
    refine .reading (by rwa [append_nil]) reads ?_
    rw [state,ack]
    rfl
  split
  · rename_i nack
    exact .abandonAfterSyn _ _ _ _ _ _ (segment.nack spelled legal addressed s own nack prompt)
  split
  · rename_i syn
    have opened : Opening cfg wire (history ++ [s.input own]) :=
      .syn history s own syn (taken syn)
    split
    · exact .abandonAfterSyn _ _ _ _ _ _ opened
    split
    · exact .abandonAfterSyn _ _ _ _ _ _ opened
    · exact .abandonAfterSyn _ _ _ _ _ _ opened
  · exact .abandonAndHold ..

variable {ack : Heard} {p : Protocol} {state : TransactionState} {data : List UInt8}

theorem accumulateResponse_sound (segment : Segment cfg wire history (request ++ [ack] ++ (response ++ [s])) s.observedAt)
    (spelled : IsRequest cfg.protocol f request) (type : cfg.protocol.frameType f = .initiatorTarget)
    (acked : ack.byte = symbolAck) (answering : Answering (response ++ [s]))
    (state : r.state = {responseState cfg.protocol f request (response ++ [s]) s.observedAt with
      responseRaw := response.map
        Heard.byte}) : Sound cfg wire history (r.accumulateResponse cfg.protocol s.byte s.wasEscaped s.observedAt) := by
  have raw : r.state.responseRaw ++ [s.byte] = (response ++ [s]).map Heard.byte := by
    rw [state,map_append]
    rfl
  have expected : r.state.responseExpectedLen = announced (response ++ [s]) := by rw [state]; rfl
  unfold Parser.accumulateResponse
  simp only [raw,expected,length_map]
  split
  · rename_i more
    refine .reading segment (.respond spelled type acked answering (.inr more)) ?_
    rw [state]
    rfl
  split
  · exact .abandonAndHold ..
  refine .reading segment (.confirm spelled type acked answering) ?_
  rw [state,finalState,ended_append]
  rfl

theorem announced_append (nonempty : response ≠ []) (more : List Heard) : announced (response ++ more) = announced response := by
  rw [announced,announced,List.head?_append_of_ne_nil _ nonempty]

theorem announced_of_bytes (spelled : response.map Heard.byte = responseBytes p data)
    (short : data.length < 256) : announced response = data.length + 2 := by
  cases response with
  | nil => cases spelled
  | cons nn rest =>
    have byte : nn.byte = UInt8.ofNat data.length := (List.cons.inj spelled).1
    rw [← toNat_ofNat_length short,← byte]
    rfl

theorem handleResponse_sound (plain : wire false) (segment : Segment cfg wire history (request ++ [ack] ++ response) last)
    (spelled : IsRequest cfg.protocol f request) (type : cfg.protocol.frameType f = .initiatorTarget)
    (acked : ack.byte = symbolAck) (answering : Answering response)
    (state : r.state = responseState cfg.protocol f request response last)
    (prompt : s.observedAt - last ≤ cfg.watchdog) : Sound cfg wire (history ++ [s.input own])
      (r.handleResponseSymbolLocked cfg.protocol s.byte s.wasEscaped s.observedAt) := by
  have segment' := segment.symbol s own prompt
  rw [append_assoc] at segment'
  unfold Parser.handleResponseSymbolLocked
  split
  · rename_i syn
    have opened : Opening cfg wire (history ++ [s.input own]) :=
      .syn history s own syn.1 (by rwa [syn.2])
    split
    · exact .abandonAfterSyn _ _ _ _ _ _ opened
    · exact .abandonAfterSyn _ _ _ _ _ _ opened
  rename_i data
  have payload : ∀ heard ∈ response ++ [s], heard.Payload := by
    intro heard mem
    obtain old | new := mem_append.mp mem
    · exact answering.payload heard old
    · rw [mem_singleton.mp new]
      intro byte
      by_contra raw
      exact data ⟨byte,(Bool.not_eq_true _).mp raw⟩
  have raw : r.state.responseRaw = response.map Heard.byte := by rw [state]; rfl
  simp only [raw,map_eq_nil_iff]
  split
  · rename_i empty
    subst empty
    split
    · exact .abandonAndReset ..
    rename_i bounded
    refine accumulateResponse_sound segment' spelled type acked ⟨?_,payload⟩ ?_
    · exact Nat.add_le_add_right (Nat.le_of_not_lt bounded) 2
    · rw [state]
      rfl
  · rename_i nonempty
    refine accumulateResponse_sound segment' spelled type acked ⟨?_,payload⟩ ?_
    · rw [announced_append nonempty]
      exact answering.size
    · rw [state,responseState,responseState,announced_append nonempty,began_append nonempty]
      rfl

theorem handleFinalACK_sound (segment : Segment cfg wire history (request ++ [ack] ++ response) last)
    (spelled : IsRequest cfg.protocol f request) (type : cfg.protocol.frameType f = .initiatorTarget)
    (acked : ack.byte = symbolAck) (answering : Answering response)
    (state : r.state = finalState cfg.protocol f request response last)
    (prompt : s.observedAt - last ≤ cfg.watchdog) (taken : s.byte = symbolSyn → wire s.wasEscaped) :
    Sound cfg wire (history ++ [s.input own]) (r.handleFinalACKSymbolLocked s.byte s.wasEscaped s.observedAt) := by
  unfold Parser.handleFinalACKSymbolLocked
  split
  · rename_i ack
    split
    · exact .abandonAndHold ..
    rename_i valid
    have valid : (parsePassiveResponse cfg.protocol f (response.map Heard.byte)).2 = true := by
      rw [state] at valid
      exact (Bool.not_eq_false _).mp valid
    obtain ⟨data,spelledOut,short,framed⟩ := parsePassiveResponse_valid valid
    have length : data.length ≤ maxPassiveDataLen := by
      have := answering.size
      rw [announced_of_bytes spelledOut short] at this
      exact Nat.le_of_add_le_add_right this
    refine .reading (segment.symbol s own prompt)
      (.transaction spelled type acked ⟨spelledOut,length,answering.payload⟩ ack) ?_
    rw [state]
    rfl
  split
  · exact .abandonAndHold ..
  split
  · rename_i syn
    exact .abandonAfterSyn _ _ _ _ _ _ (.syn history s own syn (taken syn))
  · exact .abandonAndHold ..

theorem handleTerminal_master (type : p.frameType f = .initiatorInitiator)
    (state : r.state = masterState p f request last) (syn : s.byte = symbolSyn) :
    r.handleTerminalSymbolLocked s.byte s.wasEscaped s.observedAt =
      (r.recordRecoveryLocked.resetStateLockedAfterSyn,[masterEvent f request s.observedAt]) := by
  have known : r.state.frameType = .initiatorInitiator := by rw [state]; exact type
  unfold Parser.handleTerminalSymbolLocked
  rw [if_neg (not_not.mpr syn),known]
  rw [state]
  rfl

theorem handleTerminal_transaction (type : p.frameType f = .initiatorTarget)
    (answered : IsResponse p data response)
    (state : r.state = transactionState p f request response last) (syn : s.byte = symbolSyn) :
    r.handleTerminalSymbolLocked s.byte s.wasEscaped s.observedAt =
      (r.recordRecoveryLocked.resetStateLockedAfterSyn,[transactionEvent f data request response s.observedAt]) := by
  have known : r.state.frameType = .initiatorTarget := by rw [state]; exact type
  have framed : r.state.response = answer f data := by
    rw [state,transactionState,finalState,answered.bytes,
      parsePassiveResponse_responseBytes f (Nat.lt_of_le_of_lt answered.length (by decide))]
  unfold Parser.handleTerminalSymbolLocked
  rw [if_neg (not_not.mpr syn),known]
  dsimp only
  rw [framed,state]
  rfl

theorem handleTerminal_sound {event : ClassifiedEvent} (segment : Segment cfg wire history symbols last)
    (completes : s.byte = symbolSyn → wire s.wasEscaped → Telegram cfg.protocol wire (symbols ++ [s]) event)
    (handled : s.byte = symbolSyn → r.handleTerminalSymbolLocked s.byte s.wasEscaped s.observedAt =
      (r.recordRecoveryLocked.resetStateLockedAfterSyn,[event]))
    (prompt : s.observedAt - last ≤ cfg.watchdog) (taken : s.byte = symbolSyn → wire s.wasEscaped) :
    Sound cfg wire (history ++ [s.input own]) (r.handleTerminalSymbolLocked s.byte s.wasEscaped s.observedAt) := by
  by_cases syn : s.byte = symbolSyn
  · rw [handled syn]
    exact .reports (.syn history s own syn (taken syn))
      ⟨_,_,segment.symbol s own prompt,completes syn (taken syn)⟩
  · unfold Parser.handleTerminalSymbolLocked
    rw [if_pos syn]
    exact .abandonAndHold ..

theorem handleIdle_sound (gate : r.state.synced = true → Opening cfg wire history) (phase : r.state.phase = .idle)
    (taken : s.byte = symbolSyn → wire s.wasEscaped) : Sound cfg wire (history ++ [s.input own])
      (r.handleIdleSymbol cfg.protocol s.byte s.wasEscaped s.observedAt) := by
  unfold Parser.handleIdleSymbol
  split
  · rename_i syn
    exact .quiet (.idle phase fun _ => .syn history s own syn (taken syn))
  split
  · rename_i closed
    refine .quiet (.idle ?_ ?_)
    · split <;> exact phase
    · intro opened
      split at opened
      all_goals
        rw [closed] at opened
        cases opened
  rename_i opened
  split
  · exact .quiet (.idle phase nofun)
  split
  · exact .abandonAndReset ..
  · rename_i source
    exact .reading (.start (gate ((Bool.not_eq_false _).mp opened)) s own)
      (.request (.start ((Bool.not_eq_false _).mp source)) nofun) rfl

def InPayload (cfg : Config) (s : TransactionState) (observedAt : Time) : Prop :=
  (s.phase = .request ∨ s.phase = .waitResponse) ∧ Parser.stale cfg.watchdog s observedAt = false

def Heeds (cfg : Config) (wire : Bool → Prop) (r : Parser) (input : Input) : Prop :=
  ∀ (s : Heard) (localAddress : Option UInt8), input = s.input localAddress → s.byte = symbolSyn →
    wire s.wasEscaped ∨ InPayload cfg r.state s.observedAt

theorem Reads.prompt {watchdog : Int} {observedAt : Time}
    (reads : Reads p symbols last state) (fresh : Parser.stale watchdog state observedAt = false) : observedAt - last ≤ watchdog := by
  have following : Parser.following state = true ∧ state.lastProgressAt = some last := by
    cases reads <;> exact ⟨rfl,rfl⟩
  rw [Parser.stale,following.1,following.2,Bool.true_and] at fresh
  exact Int.not_lt.mp (of_decide_eq_false fresh)

theorem Tracks.timeout (tracked : Tracks cfg wire history state) (observedAt : Time)
    (fresh : Parser.stale cfg.watchdog state observedAt = false) :
    Tracks cfg wire (history ++ [⟨.readTimeout observedAt,own⟩]) state := by
  cases tracked with
  | idle phase gate => exact .idle phase fun synced => (gate synced).timeout observedAt own
  | abandoned phase => exact .abandoned phase
  | reading segment reads => exact .reading (segment.timeout observedAt own (reads.prompt fresh)) reads

theorem handleSymbol_sound (plain : wire false) (tracked : Tracks cfg wire history r.state)
    (fresh : Parser.stale cfg.watchdog r.state s.observedAt = false)
    (heeded : s.byte = symbolSyn → wire s.wasEscaped ∨ InPayload cfg r.state s.observedAt) : Sound cfg wire (history ++ [s.input own])
      (r.handleSymbolLocked cfg.protocol own s.byte s.wasEscaped s.observedAt) := by
  have taken (phase : ¬ (r.state.phase = .request ∨ r.state.phase = .waitResponse)) (syn : s.byte = symbolSyn) :
      wire s.wasEscaped := (heeded syn).resolve_right fun payload => phase payload.1
  unfold Parser.handleSymbolLocked
  generalize known : r.state = state at tracked fresh
  cases tracked with
  | idle phase gate =>
    have phase : r.state.phase = .idle := known ▸ phase
    rw [← known,phase]
    exact handleIdle_sound (known ▸ gate) phase (taken (by rw [phase]; simp))
  | abandoned phase =>
    have phase : r.state.phase = .abandoned := known ▸ phase
    rw [← known,phase]
    dsimp only
    split
    · rename_i syn
      exact .quiet (.idle rfl fun _ => .syn history s own syn (taken (by rw [phase]; simp) syn))
    · exact .quiet (.abandoned phase)
  | reading segment reads =>
    have prompt := reads.prompt fresh
    cases reads with
    | request begun pending => exact handleRequest_sound plain segment begun pending known prompt
    | acknowledge spelled legal addressed =>
      exact handleACK_sound segment spelled legal addressed known prompt (taken (by rw [known]; exact nofun))
    | respond spelled type acked answering =>
      exact handleResponse_sound plain segment spelled type acked answering known prompt
    | confirm spelled type acked answering =>
      exact handleFinalACK_sound segment spelled type acked answering known prompt
        (taken (by rw [known]; exact nofun))
    | master spelled type acked =>
      refine handleTerminal_sound segment (fun syn ok => .master spelled type acked syn ok) ?_ prompt
        (taken (by rw [known]; exact nofun))
      exact handleTerminal_master type known
    | transaction spelled type acked answered confirmed =>
      refine handleTerminal_sound segment (fun syn ok => .transaction spelled type acked answered confirmed syn ok)
        ?_ prompt (taken (by rw [known]; exact nofun))
      exact handleTerminal_transaction type answered known

theorem discontinuity_sound {events : List ClassifiedEvent}
    (kinds : ∀ event ∈ events, event.kind = .abandonedTransaction ∨ event.kind = .discontinuity) :
    Sound cfg wire history (r.resetStateLocked,events) := by
  refine ⟨.idle rfl nofun,?_⟩
  intro event mem frame
  rw [ClassifiedEvent.isFrame] at frame
  obtain kind | kind := kinds event mem
  all_goals
    rw [kind] at frame
    cases frame

theorem handleTransportDiscontinuity_sound (r : Parser) (observedAt : Time) (reason : DiscontinuityReason)
    (abandonReason : AbandonReason) (err : Option Fault) :
    Sound cfg wire history (r.handleTransportDiscontinuityLocked observedAt reason abandonReason err) := by
  apply discontinuity_sound
  intro event mem
  obtain abandon | notice := mem_append.mp mem
  · unfold Parser.abandonFollowed at abandon
    split at abandon
    · exact .inl (mem_singleton.mp abandon ▸ rfl)
    · cases abandon
  · exact .inr (mem_singleton.mp notice ▸ rfl)

theorem handleTapEvent_fresh (fresh : Parser.stale cfg.watchdog r.state s.observedAt = false) :
    r.handleTapEventLocked cfg (s.input own) = r.handleSymbolLocked cfg.protocol own s.byte s.wasEscaped s.observedAt := by
  have unexpired : r.expireIfStaleLocked cfg.watchdog s.observedAt = (r,[]) :=
    if_neg (by rw [fresh]; exact Bool.false_ne_true)
  simp only [Heard.input,Parser.handleTapEventLocked,unexpired,nil_append]

theorem handleTapEvent_stale (stale : Parser.stale cfg.watchdog r.state s.observedAt = true) :
    let expired := r.abandonAndHold .noProgress s.observedAt (some .timeout) 0 false
    r.handleTapEventLocked cfg (s.input own) =
      (if s.byte = symbolSyn then expired.1.resetStateLockedAfterSyn else expired.1,expired.2) := by
  have expires : r.expireIfStaleLocked cfg.watchdog s.observedAt =
      r.abandonAndHold .noProgress s.observedAt (some .timeout) 0 false := if_pos stale
  have held : (r.abandonAndHold .noProgress s.observedAt (some .timeout) 0 false).1.state.phase = .abandoned := rfl
  simp only [Heard.input,Parser.handleTapEventLocked,expires,Parser.handleSymbolLocked,held]
  split <;> rw [append_nil]

theorem handleTapEvent_sound (plain : wire false) {input : Input}
    (tracked : Tracks cfg wire history r.state) (heeded : Heeds cfg wire r input) :
    Sound cfg wire (history ++ [input]) (r.handleTapEventLocked cfg input) := by
  obtain ⟨event,own⟩ := input
  cases event with
  | symbol byte wasEscaped observedAt =>
    let s : Heard := ⟨byte,wasEscaped,observedAt⟩
    have heeded := heeded s own rfl
    change Sound cfg wire (history ++ [s.input own]) (r.handleTapEventLocked cfg (s.input own))
    cases stale : Parser.stale cfg.watchdog r.state s.observedAt with
    | false =>
      rw [handleTapEvent_fresh stale]
      exact handleSymbol_sound plain tracked stale heeded
    | true =>
      have taken (syn : s.byte = symbolSyn) : wire s.wasEscaped :=
        (heeded syn).resolve_right fun payload => by
          rw [payload.2] at stale
          cases stale
      rw [handleTapEvent_stale stale]
      refine .abandons ?_ rfl
      split
      · rename_i syn
        exact .idle rfl fun _ => .syn history s own syn (taken syn)
      · exact .abandoned rfl
  | connected observedAt err =>
    apply discontinuity_sound
    intro event mem
    exact .inr (mem_singleton.mp mem ▸ rfl)
  | disconnected observedAt err => exact handleTransportDiscontinuity_sound r observedAt .disconnected .disconnected err
  | reset observedAt err => exact handleTransportDiscontinuity_sound r observedAt .transportReset .transportReset err
  | decodeFault observedAt err => exact handleTransportDiscontinuity_sound r observedAt .decodeFault .decodeFault err
  | readTimeout observedAt =>
    change Sound cfg wire _ (r.expireIfStaleLocked cfg.watchdog observedAt)
    unfold Parser.expireIfStaleLocked
    split
    · exact .abandonAndHold ..
    · rename_i fresh
      exact .quiet (tracked.timeout observedAt ((Bool.not_eq_true _).mp fresh))

theorem run_tracks (plain : wire false) (run : Run (step cfg) (Heeds cfg wire) newPassiveTransactionReconstructor history r) :
    Tracks cfg wire history r.state := by
  induction run with
  | refl => exact .idle rfl nofun
  | snoc _ input heeded ran tracked =>
    cases ran
    exact (handleTapEvent_sound plain tracked heeded).tracks

end
end
end EbusGateway.Reconstructor
