import Mathlib.Data.List.Induction
import EbusGateway.Reconstructor.Reading

/-! Passive reconstruction against the grammar of telegrams. Soundness is read off the invariant of the
runs; completeness follows a telegram symbol by symbol from a place where the gate is open.
-/
namespace EbusGateway.Reconstructor
open Library List

def follow (cfg : Config) (r : Parser) (inputs : List Input) : Parser :=
  inputs.foldl (fun r input => (r.handleTapEventLocked cfg input).1) r

def Leads (cfg : Config) (r : Parser) (inputs : List Input) (s : TransactionState) : Prop :=
  (follow cfg r inputs).state = s ∧ published cfg r inputs = []

def OnWire (wasEscaped : Bool) : Prop := wasEscaped = false

def AnyProvenance (_ : Bool) : Prop := True

section
variable {cfg : Config} {r : Parser} {history inputs : List Input} {symbols request response more : List Heard}
  {f : Frame} {data : List UInt8} {ack s : Heard} {localAddress : Option UInt8} {last : Time} {state next : TransactionState}

theorem follow_append (r : Parser) (first second : List Input) :
    follow cfg r (first ++ second) = follow cfg (follow cfg r first) second := foldl_append

theorem published_append (r : Parser) (first second : List Input) :
    published cfg r (first ++ second) = published cfg r first ++ published cfg (follow cfg r first) second := by
  induction first generalizing r with
  | nil => rfl
  | cons input rest ih => simp only [cons_append,published,ih,append_assoc,follow,foldl_cons]

theorem published_singleton (r : Parser) (input : Input) :
    published cfg r [input] = (r.handleTapEventLocked cfg input).2 := append_nil _

theorem run_follow (run : Run (step cfg) anyStep newPassiveTransactionReconstructor history r) :
    r = follow cfg newPassiveTransactionReconstructor history := by
  induction run with
  | refl => rfl
  | snoc _ input _ ran ih =>
    cases ran
    rw [follow_append,← ih]
    rfl

theorem follow_run (cfg : Config) (history : List Input) : Run (step cfg) anyStep newPassiveTransactionReconstructor history
      (follow cfg newPassiveTransactionReconstructor history) := by
  induction history using List.reverseRecOn with
  | nil => exact .refl
  | append_singleton earlier input ih =>
    rw [follow_append]
    exact ih.snoc input trivial rfl

theorem follow_tracks (cfg : Config) (history : List Input) :
    Tracks cfg AnyProvenance history (follow cfg newPassiveTransactionReconstructor history).state := by
  apply run_tracks trivial
  exact (follow_run cfg history).weaken fun _ _ _ _ _ _ _ => .inl trivial

theorem Leads.snoc {input : Input} (leads : Leads cfg r inputs state) (handled : ∀ r : Parser, r.state = state →
      (r.handleTapEventLocked cfg input).1.state = next ∧
      (r.handleTapEventLocked cfg input).2 = []) : Leads cfg r (inputs ++ [input]) next := by
  obtain ⟨reached,silent⟩ := leads
  obtain ⟨moved,quiet⟩ := handled (follow cfg r inputs) reached
  refine ⟨?_,?_⟩
  · rw [follow_append]
    exact moved
  · rw [published_append,silent,published_singleton,quiet]
    rfl

def Followed (state : Time → TransactionState) : Prop :=
  ∀ last, Parser.following (state last) = true ∧ (state last).lastProgressAt = some last

theorem Followed.fresh {state : Time → TransactionState} (followed : Followed state) {observedAt : Time}
    (prompt : observedAt - last ≤ cfg.watchdog) : Parser.stale cfg.watchdog (state last) observedAt = false := by
  rw [Parser.stale,(followed last).1,(followed last).2]
  exact decide_eq_false (Int.not_lt.mpr prompt)

theorem Listening.leads {state : Time → TransactionState} (followed : Followed state)
    (heard : Listening cfg.watchdog inputs symbols last)
    (starts : ∀ s localAddress, symbols = [s] → Leads cfg r [s.input localAddress] (state s.observedAt))
    (advances : ∀ earlier inputs s localAddress last, symbols = earlier ++ [s] →
      Listening cfg.watchdog inputs earlier last → s.observedAt - last ≤ cfg.watchdog →
      Leads cfg r (inputs ++ [s.input localAddress]) (state s.observedAt)) : Leads cfg r inputs (state last) := by
  induction heard with
  | start s localAddress => exact starts s localAddress rfl
  | symbol before s localAddress prompt => exact advances _ _ s localAddress _ rfl before prompt
  | timeout before observedAt localAddress prompt ih =>
    refine (ih starts advances).snoc ?_
    intro r known
    have unexpired : r.expireIfStaleLocked cfg.watchdog observedAt = (r,[]) :=
      if_neg (by rw [known,followed.fresh prompt]; exact Bool.false_ne_true)
    change (r.expireIfStaleLocked cfg.watchdog observedAt).1.state = _ ∧
      (r.expireIfStaleLocked cfg.watchdog observedAt).2 = []
    rw [unexpired]
    exact ⟨known,rfl⟩

/-- The telegram goes on after its first symbol, so the last one heard follows on others. -/
theorem Listening.leads_last {state : Time → TransactionState} (followed : Followed state)
    (heard : Listening cfg.watchdog inputs (symbols ++ [s]) last) (nonempty : symbols ≠ [])
    (advances : ∀ inputs localAddress last, Listening cfg.watchdog inputs symbols last → s.observedAt - last ≤ cfg.watchdog →
      Leads cfg r (inputs ++ [s.input localAddress]) (state s.observedAt)) : Leads cfg r inputs (state last) := by
  refine heard.leads followed ?_ ?_
  · intro other localAddress single
    have := congrArg List.length single
    rw [length_append,length_singleton,length_singleton] at this
    exact absurd (length_eq_zero_iff.mp (Nat.succ.inj this)) nonempty
  · intro earlier inputs other localAddress last same before prompt
    obtain ⟨rfl,heard⟩ := append_inj' same rfl
    cases heard
    exact advances inputs localAddress last before prompt

theorem Listening.dropLast (heard : Listening cfg.watchdog (inputs ++ [s.input localAddress])
      (symbols ++ [s]) last) (nonempty : symbols ≠ []) :
    ∃ last, Listening cfg.watchdog inputs symbols last ∧ s.observedAt - last ≤ cfg.watchdog := by
  generalize whole : inputs ++ [s.input localAddress] = all at heard
  generalize total : symbols ++ [s] = sum at heard
  cases heard with
  | start other =>
    have := congrArg List.length total
    rw [length_append,length_singleton,length_singleton] at this
    exact absurd (length_eq_zero_iff.mp (Nat.succ.inj this)) nonempty
  | symbol before other address prompt =>
    obtain ⟨rfl,same⟩ := append_inj' whole rfl
    obtain ⟨rfl,heard⟩ := append_inj' total rfl
    cases heard
    exact ⟨_,before,prompt⟩
  | timeout before observedAt address prompt =>
    obtain ⟨_,same⟩ := append_inj' whole rfl
    cases same

theorem Listening.nonempty (heard : Listening cfg.watchdog inputs symbols last) : symbols ≠ [] := by
  induction heard with
  | start => exact cons_ne_nil _ _
  | symbol => exact append_ne_nil_of_right_ne_nil _ (cons_ne_nil _ _)
  | timeout _ _ _ _ ih => exact ih

theorem handled_in_time {state : Time → TransactionState} (followed : Followed state) (known : r.state = state last)
    (prompt : s.observedAt - last ≤ cfg.watchdog) : r.handleTapEventLocked cfg (s.input localAddress) =
      r.handleSymbolLocked cfg.protocol localAddress s.byte s.wasEscaped s.observedAt := by
  apply handleTapEvent_fresh
  rw [known]
  exact followed.fresh prompt

section
variable {p : Protocol}

theorem IsRequest.getElem? (spelled : IsRequest p f (symbols ++ more)) {i : Nat} (read : i < symbols.length) :
    (symbols.map Heard.byte)[i]? = (requestBytes p f)[i]? := by
  rw [← spelled.bytes,map_append,List.getElem?_append_left (by rwa [length_map])]

theorem IsRequest.length_eq (spelled : IsRequest p f request) : request.length = 6 + f.data.length := by
  rw [← length_requestBytes (p := p),← spelled.bytes,length_map]

theorem IsRequest.short (spelled : IsRequest p f request) : f.data.length < 256 :=
  Nat.lt_of_le_of_lt spelled.length (by decide)

theorem IsRequest.unbounded (spelled : IsRequest p f (symbols ++ more)) (legal : Legal f) :
    Parser.requestBound (symbols.map Heard.byte) = none := by
  rw [requestBound_eq_none,length_map]
  refine ⟨fun two => ?_,fun five => ?_⟩
  · rw [getD_eq_getElem?_getD,spelled.getElem? (by omega)]
    exact legal.target
  · rw [getD_eq_getElem?_getD,spelled.getElem? (by omega)]
    exact Nat.le_trans (Nat.le_of_eq (toNat_ofNat_length spelled.short)) spelled.length

theorem checkRequest_keeps (spelled : IsRequest p f (symbols ++ more)) (legal : Legal f)
    (due : more ≠ [] ∨ ¬ Addressed (p.frameType f)) (known : r.state = requestState symbols last) (byte : UInt8)
    (wasEscaped : Bool) (observedAt : Time) : r.checkRequest p localAddress byte wasEscaped observedAt = (r,[]) := by
  have raw : r.state.requestRaw = symbols.map Heard.byte := by rw [known]; rfl
  have total := spelled.length_eq
  have bound : f.data.length ≤ 16 := spelled.length
  rw [length_append] at total
  unfold Parser.checkRequest
  rw [raw,spelled.unbounded legal]
  dsimp only
  rw [length_map,if_neg (by rw [maxPassiveLogicalRequestBytes]; omega)]
  split
  · rename_i complete
    obtain ⟨long,length⟩ := complete
    rw [getD_eq_getElem?_getD,spelled.getElem? long] at length
    have length : symbols.length = 6 + f.data.length := length.trans (congrArg (6 + ·) (toNat_ofNat_length spelled.short))
    have whole : more = [] := length_eq_zero_iff.mp (by omega)
    subst whole
    rw [append_nil] at spelled
    have parsed : parseFrame p r.state.requestRaw = some f := by
      rw [raw,spelled.bytes]
      exact parseFrame_requestBytes spelled.short
    have deferred : r.commitRequestFrameLocked p observedAt = none := by
      rw [commitRequestFrame_eq_none]
      intro other found
      rw [parsed] at found
      cases found
      exact due.resolve_left (not_not.mpr rfl)
    rw [deferred]
    dsimp only
    rw [← raw,parsed,if_neg (Option.some_ne_none f)]
  · rfl

theorem checkRequest_commits (spelled : IsRequest p f symbols) (legal : Legal f) (addressed : Addressed (p.frameType f))
    (known : r.state = requestState symbols last) (byte : UInt8) (wasEscaped : Bool) (observedAt : Time) :
    r.checkRequest p localAddress byte wasEscaped observedAt = r.dispatchParsedRequestLocked p f observedAt false := by
  have raw : r.state.requestRaw = symbols.map Heard.byte := by rw [known]; rfl
  have bound : f.data.length ≤ 16 := spelled.length
  have length := spelled.length_eq
  have unbounded : Parser.requestBound (symbols.map Heard.byte) = none :=
    IsRequest.unbounded (by rwa [append_nil]) legal
  have parsed : parseFrame p r.state.requestRaw = some f := by
    rw [raw,spelled.bytes]
    exact parseFrame_requestBytes spelled.short
  have committed : r.commitRequestFrameLocked p observedAt =
      some (r.dispatchParsedRequestLocked p f observedAt false) := by
    unfold Parser.commitRequestFrameLocked
    rw [parsed]
    dsimp only
    obtain type | type := addressed <;> rw [type]
  unfold Parser.checkRequest
  rw [raw,unbounded]
  dsimp only
  rw [length_map,if_neg (by rw [maxPassiveLogicalRequestBytes]; omega),← raw,
    if_pos ⟨by omega,by have := parseFrame_length parsed; rwa [raw,length_map,← raw] at this⟩,committed]

end

theorem followed_requestState (symbols : List Heard) : Followed (requestState symbols) := fun _ => ⟨rfl,rfl⟩

section
variable (p : Protocol)
include p

theorem followed_ackState (f : Frame) (request : List Heard) : Followed (ackState p f request) :=
  fun _ => ⟨rfl,rfl⟩

theorem followed_responseState (f : Frame) (request response : List Heard) :
    Followed (responseState p f request response) := fun _ => ⟨rfl,rfl⟩

theorem followed_finalState (f : Frame) (request response : List Heard) :
    Followed (finalState p f request response) := fun _ => ⟨rfl,rfl⟩

theorem followed_masterState (f : Frame) (request : List Heard) : Followed (masterState p f request) :=
  fun _ => ⟨rfl,rfl⟩

theorem followed_transactionState (f : Frame) (request response : List Heard) :
    Followed (transactionState p f request response) := fun _ => ⟨rfl,rfl⟩

end

def Ready (s : TransactionState) : Prop := s.phase = .idle ∧ s.synced = true

theorem handleSymbol_request (known : r.state = requestState symbols last) (payload : s.Payload) :
    r.handleSymbolLocked cfg.protocol localAddress s.byte s.wasEscaped s.observedAt =
      (r.pushRequest s.byte s.observedAt).checkRequest cfg.protocol localAddress s.byte s.wasEscaped s.observedAt := by
  have phase : r.state.phase = .request := by rw [known]; rfl
  unfold Parser.handleSymbolLocked Parser.handleRequestSymbolLocked
  rw [phase]
  dsimp only
  refine if_pos ?_
  by_cases syn : s.byte = symbolSyn
  · exact .inr (payload syn)
  · exact .inl syn

section
variable (ready : Ready r.state)
include ready

theorem request_starts (spelled : IsRequest cfg.protocol f (s :: more)) (legal : Legal f) :
    Leads cfg r [s.input localAddress] (requestState [s] s.observedAt) := by
  have byte : s.byte = f.source := by
    have := spelled.bytes
    exact (List.cons.inj this).1
  have initiator : isInitiatorAddr s.byte = true := byte ▸ legal.source
  have other : s.byte ≠ symbolSyn := by
    intro syn
    rw [syn] at initiator
    cases initiator
  have fresh : Parser.stale cfg.watchdog r.state s.observedAt = false := by
    rw [Parser.stale,Parser.following,ready.1]
    rfl
  have started : r.handleTapEventLocked cfg (s.input localAddress) = (r.startRequestLocked s.byte s.observedAt,[]) := by
    rw [handleTapEvent_fresh fresh]
    unfold Parser.handleSymbolLocked Parser.handleIdleSymbol
    rw [ready.1]
    dsimp only
    rw [if_neg other,if_neg (by rw [ready.2]; exact Bool.noConfusion),
      if_neg (not_not.mpr ((cfg.protocol.master_iff s.byte).mpr initiator)),
      if_neg (by rw [initiator]; exact Bool.noConfusion)]
  refine ⟨?_,?_⟩
  · rw [follow,foldl_cons,started]
    rfl
  · rw [published_singleton,started]

theorem request_leads (spelled : IsRequest cfg.protocol f (symbols ++ more)) (legal : Legal f)
    (due : more ≠ [] ∨ ¬ Addressed (cfg.protocol.frameType f))
    (heard : Listening cfg.watchdog inputs symbols last) : Leads cfg r inputs (requestState symbols last) := by
  induction symbols using List.reverseRecOn generalizing inputs last more with
  | nil => exact absurd rfl heard.nonempty
  | append_singleton earlier x ih =>
    refine heard.leads (followed_requestState _) ?_ ?_
    · intro s localAddress single
      rw [single]
      rw [single] at spelled
      exact request_starts ready spelled legal
    · intro others inputs s localAddress last same before prompt
      obtain ⟨rfl,heard⟩ := append_inj' same rfl
      cases heard
      have started : earlier ++ x :: more = earlier ++ [x] ++ more := append_cons ..
      refine (ih (by rwa [started]) (.inl (cons_ne_nil x more)) before).snoc ?_
      intro r known
      have pushed := pushRequest_state before.nonempty known x
      rw [handled_in_time (followed_requestState _) known prompt,
        handleSymbol_request known (spelled.payload x (by simp)),checkRequest_keeps spelled legal due pushed]
      exact ⟨pushed,rfl⟩

theorem ack_leads (spelled : IsRequest cfg.protocol f request) (legal : Legal f)
    (addressed : Addressed (cfg.protocol.frameType f)) (heard : Listening cfg.watchdog inputs request last) :
    Leads cfg r inputs (ackState cfg.protocol f request last) := by
  refine heard.leads (followed_ackState _ _ _) ?_ ?_
  · intro s localAddress single
    have length := spelled.length_eq
    rw [single,length_singleton] at length
    omega
  · intro earlier inputs s localAddress last same before prompt
    subst same
    refine (request_leads ready spelled legal (.inl (cons_ne_nil s [])) before).snoc ?_
    intro r known
    have pushed := pushRequest_state before.nonempty known s
    rw [handled_in_time (followed_requestState _) known prompt,
      handleSymbol_request known (spelled.payload s (by simp)),checkRequest_commits spelled legal addressed pushed,
      committed_state pushed addressed]
    refine ⟨?_,rfl⟩
    simp only [ackState,ended_append]

theorem master_leads (spelled : IsRequest cfg.protocol f request) (legal : Legal f)
    (type : cfg.protocol.frameType f = .initiatorInitiator) (acked : ack.byte = symbolAck)
    (heard : Listening cfg.watchdog inputs (request ++ [ack]) last) :
    Leads cfg r inputs (masterState cfg.protocol f request last) := by
  have long := spelled.length_eq
  refine heard.leads_last (followed_masterState _ _ _) (ne_nil_of_length_pos (by
    omega)) fun inputs localAddress last before prompt => ?_
  refine (ack_leads ready spelled legal (.inl type) before).snoc ?_
  intro r known
  have phase : r.state.phase = .waitACK := by rw [known]; rfl
  have known_type : r.state.frameType = .initiatorInitiator := by rw [known]; exact type
  rw [handled_in_time (followed_ackState _ _ _) known prompt,Parser.handleSymbolLocked,phase]
  dsimp only
  rw [Parser.handleACKSymbolLocked,if_pos acked]
  dsimp only
  rw [if_pos known_type,known,acked]
  exact ⟨rfl,rfl⟩

end

variable {p : Protocol}

theorem IsResponse.length_eq (answered : IsResponse p data response) : response.length = data.length + 2 := by
  rw [← length_responseBytes (p := p),← answered.bytes,length_map]

theorem IsResponse.announced (answered : IsResponse p data response) : announced response = data.length + 2 :=
  announced_of_bytes answered.bytes (Nat.lt_of_le_of_lt answered.length (by decide))

theorem handleSymbol_response (answered : IsResponse p data (response ++ s :: more))
    (known : r.state = responseState p f request response last) :
    ∃ r' : Parser, r'.state = {responseState p f request (response ++ [s]) s.observedAt with
        responseRaw := response.map Heard.byte} ∧ r.handleSymbolLocked p localAddress s.byte s.wasEscaped s.observedAt =
        r'.accumulateResponse p s.byte s.wasEscaped s.observedAt := by
  have phase : r.state.phase = .waitResponse := by rw [known]; rfl
  have raw : r.state.responseRaw = response.map Heard.byte := by rw [known]; rfl
  have data : ¬ (s.byte = symbolSyn ∧ s.wasEscaped = false) := by
    rintro ⟨syn,plain⟩
    rw [answered.payload s (by simp) syn] at plain
    cases plain
  rw [Parser.handleSymbolLocked,phase]
  dsimp only
  rw [Parser.handleResponseSymbolLocked,if_neg data]
  simp only [raw,map_eq_nil_iff]
  by_cases empty : response = []
  · subst empty
    have size : s.byte.toNat + 2 = _ := answered.announced
    have bound : _ ≤ 16 := answered.length
    rw [if_pos rfl,if_neg (by rw [maxPassiveDataLen]; omega)]
    refine ⟨_,?_,rfl⟩
    rw [known]
    rfl
  · rw [if_neg empty]
    refine ⟨_,?_,rfl⟩
    rw [known,responseState,responseState,announced_append empty,began_append empty]
    rfl

theorem accumulated (known : r.state = {responseState p f request (response ++ [s]) s.observedAt with
      responseRaw := response.map Heard.byte}) : r.state.responseRaw ++ [s.byte] = (response ++ [s]).map Heard.byte ∧
      r.state.responseExpectedLen = announced (response ++ [s]) := by
  rw [known,map_append]
  exact ⟨rfl,rfl⟩

theorem respond_leads (ready : Ready r.state) (spelled : IsRequest cfg.protocol f request) (legal : Legal f)
    (type : cfg.protocol.frameType f = .initiatorTarget) (acked : ack.byte = symbolAck)
    (answered : IsResponse cfg.protocol data (response ++ more)) (due : more ≠ [])
    (heard : Listening cfg.watchdog inputs (request ++ [ack] ++ response) last) :
    Leads cfg r inputs (responseState cfg.protocol f request response last) := by
  have long := spelled.length_eq
  induction response using List.reverseRecOn generalizing inputs last more with
  | nil =>
    rw [append_nil] at heard
    refine heard.leads_last (followed_responseState _ _ _ _) (ne_nil_of_length_pos (by
      omega)) fun inputs localAddress last before prompt => ?_
    refine (ack_leads ready spelled legal (.inr type) before).snoc ?_
    intro r known
    have phase : r.state.phase = .waitACK := by rw [known]; rfl
    have known_type : r.state.frameType = .initiatorTarget := by rw [known]; exact type
    rw [handled_in_time (followed_ackState _ _ _) known prompt,Parser.handleSymbolLocked,phase]
    dsimp only
    rw [Parser.handleACKSymbolLocked,if_pos acked]
    dsimp only
    rw [if_neg (by rw [known_type]; exact FrameType.noConfusion),known,acked]
    exact ⟨rfl,rfl⟩
  | append_singleton earlier x ih =>
    rw [← append_assoc] at heard
    refine heard.leads_last (followed_responseState _ _ _ _) (by simp) fun inputs localAddress last before prompt => ?_
    · have started : earlier ++ x :: more = earlier ++ [x] ++ more := append_cons ..
      rw [← started] at answered
      refine (ih answered (cons_ne_nil x more) before).snoc ?_
      intro r known
      obtain ⟨r',known',handled⟩ := handleSymbol_response answered known
      obtain ⟨raw,expected⟩ := accumulated known'
      have short : (earlier ++ [x]).length < announced (earlier ++ [x]) := by
        have total := answered.length_eq
        have size := answered.announced
        rw [started,announced_append (by simp)] at size
        have positive := length_pos_iff.mpr due
        rw [started,length_append] at total
        omega
      rw [handled_in_time (followed_responseState _ _ _ _) known prompt,handled,Parser.accumulateResponse]
      simp only [raw,expected,length_map]
      rw [if_pos short]
      refine ⟨?_,rfl⟩
      rw [known']
      rfl

theorem confirm_leads (ready : Ready r.state) (spelled : IsRequest cfg.protocol f request) (legal : Legal f)
    (type : cfg.protocol.frameType f = .initiatorTarget) (acked : ack.byte = symbolAck)
    (answered : IsResponse cfg.protocol data response)
    (heard : Listening cfg.watchdog inputs (request ++ [ack] ++ response) last) :
    Leads cfg r inputs (finalState cfg.protocol f request response last) := by
  have long := spelled.length_eq
  obtain rfl | ⟨earlier,s,rfl⟩ := response.eq_nil_or_concat
  · have := answered.length_eq
    rw [length_nil] at this
    omega
  rw [concat_eq_append] at heard answered ⊢
  rw [← append_assoc] at heard
  refine heard.leads_last (followed_finalState _ _ _ _) (by simp) fun inputs localAddress last before prompt => ?_
  refine (respond_leads ready spelled legal type acked answered (cons_ne_nil s []) before).snoc ?_
  intro r known
  obtain ⟨r',known',handled⟩ := handleSymbol_response answered known
  obtain ⟨raw,expected⟩ := accumulated known'
  have exactly : (earlier ++ [s]).length = announced (earlier ++ [s]) := by
    rw [answered.announced,answered.length_eq]
  rw [handled_in_time (followed_responseState _ _ _ _) known prompt,handled,Parser.accumulateResponse]
  simp only [raw,expected,length_map]
  rw [if_neg (by omega),if_neg (by omega)]
  refine ⟨?_,rfl⟩
  rw [known',finalState,ended_append]
  rfl

theorem transaction_leads {finalAck : Heard} (ready : Ready r.state) (spelled : IsRequest cfg.protocol f request) (legal : Legal f)
    (type : cfg.protocol.frameType f = .initiatorTarget) (acked : ack.byte = symbolAck)
    (answered : IsResponse cfg.protocol data response) (confirmed : finalAck.byte = symbolAck)
    (heard : Listening cfg.watchdog inputs (request ++ [ack] ++ response ++ [finalAck]) last) :
    Leads cfg r inputs (transactionState cfg.protocol f request response last) := by
  have long := spelled.length_eq
  refine heard.leads_last (followed_transactionState _ _ _ _) (by simp) fun inputs localAddress last before prompt => ?_
  refine (confirm_leads ready spelled legal type acked answered before).snoc ?_
  intro r known
  have phase : r.state.phase = .waitFinalACK := by rw [known]; rfl
  have valid : r.state.responseCRCValid = true := by
    rw [known,finalState,answered.bytes,
      parsePassiveResponse_responseBytes f (Nat.lt_of_le_of_lt answered.length (by decide))]
  rw [handled_in_time (followed_finalState _ _ _ _) known prompt,Parser.handleSymbolLocked,phase]
  dsimp only
  rw [Parser.handleFinalACKSymbolLocked,if_pos confirmed,if_neg (by rw [valid]; exact Bool.noConfusion),known]
  exact ⟨rfl,rfl⟩

theorem broadcast_not_addressed : ¬ Addressed .broadcast := by
  rintro (other | other) <;> cases other

theorem telegram_reported {event : ClassifiedEvent} {syn : Heard} (ready : Ready r.state)
    (telegram : Telegram cfg.protocol OnWire (symbols ++ [syn]) event) (legal : Legal event.request)
    (heard : Listening cfg.watchdog (inputs ++ [syn.input localAddress]) (symbols ++ [syn]) last) : published cfg r inputs = [] ∧
      ((follow cfg r inputs).handleTapEventLocked cfg (syn.input localAddress)).2 = [event] := by
  generalize whole : symbols ++ [syn] = all at telegram
  cases telegram with
  | @broadcast f _ _ spelled type byte accepted =>
    obtain ⟨rfl,same⟩ := append_inj' whole rfl
    cases same
    have long := spelled.length_eq
    obtain ⟨last,before,prompt⟩ := heard.dropLast (ne_nil_of_length_pos (by omega))
    obtain ⟨known,silent⟩ := request_leads (f := f) ready (by rwa [append_nil]) legal
      (.inr (by rw [type]; exact broadcast_not_addressed)) before
    refine ⟨silent,?_⟩
    have phase : (follow cfg r inputs).state.phase = .request := by rw [known]; rfl
    have raw : (follow cfg r inputs).state.requestRaw = symbols.map Heard.byte := by rw [known]; rfl
    have parsed := parseFrame_requestBytes (p := cfg.protocol) spelled.short
    rw [← spelled.bytes,← raw] at parsed
    have syn : ¬ (syn.byte ≠ symbolSyn ∨ syn.wasEscaped = true) := by
      rw [byte,show syn.wasEscaped = false from accepted]
      simp
    rw [handled_in_time (followed_requestState _) known prompt,Parser.handleSymbolLocked,phase]
    dsimp only
    rw [Parser.handleRequestSymbolLocked,if_neg syn]
    dsimp only
    rw [parsed]
    dsimp only
    rw [Parser.dispatchParsedRequestLocked,type,known]
    rfl
  | master spelled type acked byte accepted =>
    obtain ⟨rfl,same⟩ := append_inj' whole rfl
    cases same
    obtain ⟨last,before,prompt⟩ := heard.dropLast (by simp)
    obtain ⟨known,silent⟩ := master_leads ready spelled legal type acked before
    refine ⟨silent,?_⟩
    have phase : (follow cfg r inputs).state.phase = .waitTerminal := by rw [known]; rfl
    rw [handled_in_time (followed_masterState _ _ _) known prompt,Parser.handleSymbolLocked,phase]
    dsimp only
    rw [handleTerminal_master type known byte]
  | transaction spelled type acked answered confirmed byte accepted =>
    obtain ⟨rfl,same⟩ := append_inj' whole rfl
    cases same
    obtain ⟨last,before,prompt⟩ := heard.dropLast (by simp)
    obtain ⟨known,silent⟩ := transaction_leads ready spelled legal type acked answered confirmed before
    refine ⟨silent,?_⟩
    have phase : (follow cfg r inputs).state.phase = .waitTerminal := by rw [known]; rfl
    rw [handled_in_time (followed_transactionState _ _ _ _) known prompt,Parser.handleSymbolLocked,phase]
    dsimp only
    rw [handleTerminal_transaction type answered known byte]

theorem syn_ready (tracked : Tracks cfg AnyProvenance history r.state) (byte : s.byte = symbolSyn)
    (raw : s.wasEscaped = false) : Ready (r.handleTapEventLocked cfg (s.input localAddress)).1.state := by
  cases stale : Parser.stale cfg.watchdog r.state s.observedAt with
  | true =>
    rw [handleTapEvent_stale stale,if_pos byte]
    exact ⟨rfl,rfl⟩
  | false =>
    rw [handleTapEvent_fresh stale]
    unfold Parser.handleSymbolLocked
    generalize known : r.state = state at tracked
    cases tracked with
    | idle phase =>
      rw [phase]
      dsimp only
      rw [Parser.handleIdleSymbol,if_pos byte,known]
      exact ⟨phase,rfl⟩
    | abandoned phase =>
      rw [phase]
      dsimp only
      rw [if_pos byte]
      exact ⟨rfl,rfl⟩
    | reading segment reads =>
      cases reads with
      | request begun due =>
        change Ready (r.handleRequestSymbolLocked ..).1.state
        rw [Parser.handleRequestSymbolLocked,if_neg (by rw [byte,raw]; simp)]
        dsimp only
        split
        · exact ⟨rfl,rfl⟩
        rename_i f parsed
        have unaddressed := due f (by rwa [known] at parsed)
        rw [Parser.dispatchParsedRequestLocked]
        cases type : cfg.protocol.frameType f with
        | unknown | broadcast => exact ⟨rfl,rfl⟩
        | initiatorInitiator => exact absurd (.inl type) unaddressed
        | initiatorTarget => exact absurd (.inr type) unaddressed
      | acknowledge =>
        change Ready (r.handleACKSymbolLocked ..).1.state
        rw [Parser.handleACKSymbolLocked,byte,if_neg (by decide),if_neg (by decide),if_pos rfl]
        repeat' split
        all_goals exact ⟨rfl,rfl⟩
      | respond =>
        change Ready (r.handleResponseSymbolLocked ..).1.state
        rw [Parser.handleResponseSymbolLocked,if_pos ⟨byte,raw⟩]
        split <;> exact ⟨rfl,rfl⟩
      | confirm =>
        change Ready (r.handleFinalACKSymbolLocked ..).1.state
        rw [Parser.handleFinalACKSymbolLocked,byte,if_neg (by decide),if_neg (by decide),if_pos rfl]
        exact ⟨rfl,rfl⟩
      | master spelled type =>
        change Ready (r.handleTerminalSymbolLocked ..).1.state
        rw [handleTerminal_master type known byte]
        exact ⟨rfl,rfl⟩
      | transaction spelled type acked answered =>
        change Ready (r.handleTerminalSymbolLocked ..).1.state
        rw [handleTerminal_transaction type answered known byte]
        exact ⟨rfl,rfl⟩

theorem opening_ready (opened : Opening cfg OnWire history) :
    Ready (follow cfg newPassiveTransactionReconstructor history).state := by
  induction opened with
  | syn earlier s localAddress byte accepted =>
    rw [follow_append]
    exact syn_ready (follow_tracks cfg earlier) byte accepted
  | nack localAddress before heard spelled legal addressed byte ih =>
    have long := spelled.length_eq
    obtain ⟨last,read,prompt⟩ := heard.dropLast (ne_nil_of_length_pos (by omega))
    obtain ⟨known,_⟩ := ack_leads ih spelled legal addressed read
    rw [follow_append,follow_append]
    generalize follow cfg (follow cfg newPassiveTransactionReconstructor _) _ = r at known
    have phase : r.state.phase = .waitACK := by rw [known]; rfl
    change Ready (r.handleTapEventLocked cfg _).1.state
    rw [handled_in_time (followed_ackState _ _ _) known prompt,Parser.handleSymbolLocked,phase]
    dsimp only
    rw [Parser.handleACKSymbolLocked,byte,if_neg (by decide),if_pos rfl]
    exact ⟨rfl,rfl⟩
  | timeout before observedAt localAddress ih =>
    rw [follow_append]
    generalize follow cfg newPassiveTransactionReconstructor _ = r at ih
    have unexpired : r.expireIfStaleLocked cfg.watchdog observedAt = (r,[]) := by
      apply if_neg
      rw [Parser.stale,Parser.following,ih.1]
      exact Bool.false_ne_true
    change Ready (r.expireIfStaleLocked cfg.watchdog observedAt).1.state
    rw [unexpired]
    exact ih

theorem listening_at (cfg : Config) (instant : 0 ≤ cfg.watchdog) (symbols : List Heard) (nonempty : symbols ≠ [])
    (observedAt : Time) (together : ∀ s ∈ symbols, s.observedAt = observedAt) :
    Listening cfg.watchdog (symbols.map (Heard.input · none)) symbols observedAt := by
  induction symbols using List.reverseRecOn with
  | nil => exact absurd rfl nonempty
  | append_singleton earlier s ih =>
    have here : s.observedAt = observedAt := together s (mem_append_right earlier (mem_singleton_self s))
    by_cases first : earlier = []
    · subst first
      rw [← here]
      exact .start s none
    · have before := ih first fun other mem => together other (mem_append_left [s] mem)
      have next := before.symbol s none (by rw [here,Int.sub_self]; exact instant)
      rwa [here,← map_singleton (f := (Heard.input · none)),← map_append] at next

end

/-- Every frame event reports a telegram that the tap heard, uninterrupted, from a place where one may begin;
and every telegram heard from a raw SYN or from the NACK of a request on is reported by exactly one event, at
the SYN that ends it. -/
theorem passive_reconstruction (cfg : Config) (history : List Input) (r : Parser)
    (run : Run (step cfg) anyStep newPassiveTransactionReconstructor history r) :
    (∀ input, ∀ event ∈ (r.handleTapEventLocked cfg input).2, event.isFrame = true →
      Reported cfg AnyProvenance (history ++ [input]) event) ∧
    (Opening cfg OnWire history → ∀ inputs symbols syn localAddress last event,
      Telegram cfg.protocol OnWire (symbols ++ [syn]) event → Legal event.request →
      Listening cfg.watchdog (inputs ++ [syn.input localAddress]) (symbols ++ [syn]) last →
      published cfg r inputs = [] ∧ published cfg r (inputs ++ [syn.input localAddress]) = [event]) := by
  have known := run_follow run
  subst known
  refine ⟨?_,?_⟩
  · intro input event mem frame
    exact (handleTapEvent_sound trivial (follow_tracks cfg history) fun _ _ _ _ => .inl trivial).reported event mem frame
  · intro opened inputs symbols syn localAddress last event telegram legal heard
    obtain ⟨silent,reported⟩ := telegram_reported (opening_ready opened) telegram legal heard
    refine ⟨silent,?_⟩
    rw [published_append,silent,published_singleton,reported]
    rfl

def shiftCRC (crc : UInt8) : UInt8 := if crc &&& 0x80 = 0 then crc <<< 1 else crc <<< 1 ^^^ 0x9B

def escapeExpand (byte : UInt8) : List UInt8 :=
  if byte = symbolEscape ∨ byte = symbolSyn then [symbolEscape,byte - symbolEscape] else [byte]

/-- The CRC-8 of the bus: polynomial 0x9B over the bytes as the wire escapes them. -/
def ebusCRC (bytes : List UInt8) : UInt8 :=
  (bytes.flatMap escapeExpand).foldl (fun crc byte => Nat.repeat shiftCRC 8 crc ^^^ byte) 0

def sampleProtocol : Protocol where
  crc := ebusCRC
  frameType f :=
    if f.target = addressBroadcast then .broadcast
    else if isInitiatorAddr f.target then .initiatorInitiator else .initiatorTarget
  addressClassOf b := if isInitiatorAddr b then .master else .other
  master_iff b := by split <;> simp_all

def sampleConfig : Config := ⟨sampleProtocol,0⟩

def sampleSymbols (bytes : List UInt8) : List Heard := bytes.map fun byte => ⟨byte,false,0⟩

theorem broadcast_after_syn_reported :
    ∃ r, Run (step sampleConfig) anyStep newPassiveTransactionReconstructor [Heard.input ⟨0xAA,false,0⟩ none] r ∧
      published sampleConfig r ((sampleSymbols [0x10,0xFE,0x07,0x00,0x01,0x79,0xE6,0xAA]).map (Heard.input · none)) =
        [broadcastEvent ⟨0x10,0xFE,0x07,0x00,[0x79]⟩ (sampleSymbols [0x10,0xFE,0x07,0x00,0x01,0x79,0xE6]) 0] := by
  refine ⟨_,follow_run sampleConfig _,?_⟩
  have reported := passive_reconstruction sampleConfig _ _ (follow_run sampleConfig [Heard.input ⟨0xAA,false,0⟩ none])
  exact (reported.2 (.syn [] ⟨0xAA,false,0⟩ none rfl rfl)
    ((sampleSymbols [0x10,0xFE,0x07,0x00,0x01,0x79,0xE6]).map (Heard.input · none))
    (sampleSymbols [0x10,0xFE,0x07,0x00,0x01,0x79,0xE6]) ⟨0xAA,false,0⟩ none 0 _
    (.broadcast ⟨by decide +kernel,by decide,by unfold Heard.Payload; decide⟩ (by decide) rfl rfl) ⟨by decide,by decide⟩
    (listening_at sampleConfig (by decide) (sampleSymbols [0x10,0xFE,0x07,0x00,0x01,0x79,0xE6,0xAA]) (by decide) 0
      (by decide))).2

def Missed (opening final : Bool → Prop) (addresses : Frame → Prop) : Prop :=
  ∃ history r inputs symbols syn last event,
    Run (step sampleConfig) anyStep newPassiveTransactionReconstructor history r ∧
    Opening sampleConfig opening history ∧ Telegram sampleProtocol final (symbols ++ [syn]) event ∧
    addresses event.request ∧ Listening sampleConfig.watchdog (inputs ++ [syn.input none]) (symbols ++ [syn]) last ∧
    event ∉ published sampleConfig r (inputs ++ [syn.input none])

theorem missed_of {opening final : Bool → Prop} {addresses : Frame → Prop} {event : ClassifiedEvent}
    (history : List Input) (symbols : List Heard) (syn : Heard) (opened : Opening sampleConfig opening history)
    (telegram : Telegram sampleProtocol final (symbols ++ [syn]) event) (addressed : addresses event.request)
    (together : ∀ s ∈ symbols ++ [syn], s.observedAt = 0)
    (unreported : event ∉ published sampleConfig (follow sampleConfig newPassiveTransactionReconstructor history)
      ((symbols ++ [syn]).map (Heard.input · none))) : Missed opening final addresses := by
  have heard := listening_at sampleConfig (by decide) (symbols ++ [syn]) (by simp) 0 together
  rw [map_append] at heard unreported
  exact ⟨history,_,_,symbols,syn,0,event,follow_run sampleConfig history,opened,telegram,addressed,heard,unreported⟩

/-- Not reported are a telegram begun right after an escaped SYN value inside another telegram, one whose
source is no initiator's address, one whose target is the escape symbol, and a broadcast that an escaped
SYN value ends. -/
theorem telegrams_missed :
    Missed AnyProvenance OnWire Legal ∧ Missed OnWire OnWire (fun f => isInitiatorAddr f.source = false) ∧
      Missed OnWire OnWire (fun f => f.target = symbolEscape) ∧ Missed OnWire AnyProvenance Legal := by
  have raw : Opening sampleConfig OnWire ([] ++ [Heard.input ⟨0xAA,false,0⟩ none]) := .syn _ _ none rfl rfl
  have broadcast : IsRequest sampleProtocol ⟨0x10,0xFE,0x07,0x00,[0x79]⟩
      (sampleSymbols [0x10,0xFE,0x07,0x00,0x01,0x79,0xE6]) :=
    ⟨by decide +kernel,by decide,by unfold Heard.Payload; decide⟩
  have unaddressed : IsRequest sampleProtocol ⟨0x08,0xFE,0x07,0x00,[0x79]⟩
      (sampleSymbols [0x08,0xFE,0x07,0x00,0x01,0x79,0x1C]) :=
    ⟨by decide +kernel,by decide,by unfold Heard.Payload; decide⟩
  have escaped : IsRequest sampleProtocol ⟨0x11,0xA9,0x07,0x04,[]⟩ (sampleSymbols [0x11,0xA9,0x07,0x04,0x00,0xA3]) :=
    ⟨by decide +kernel,by decide,by unfold Heard.Payload; decide⟩
  have empty : IsResponse sampleProtocol [] (sampleSymbols [0x00,0x00]) :=
    ⟨by decide +kernel,by decide,by unfold Heard.Payload; decide⟩
  have answered : Telegram sampleProtocol OnWire (sampleSymbols [0x11,0xA9,0x07,0x04,0x00,0xA3] ++ [⟨0,false,0⟩] ++
      sampleSymbols [0x00,0x00] ++ [⟨0,false,0⟩] ++ [⟨0xAA,false,0⟩]) _ :=
    .transaction escaped (by decide) rfl empty rfl rfl rfl
  refine ⟨?_,?_,?_,?_⟩
  · exact missed_of ((sampleSymbols [0xAA,0x10,0x08,0xB5,0x04,0x05]).map (Heard.input · none) ++
      [Heard.input ⟨0xAA,true,0⟩ none]) _ ⟨0xAA,false,0⟩ (.syn _ _ none rfl trivial)
      (.broadcast broadcast (by decide) rfl rfl) ⟨by decide,by decide⟩ (by decide) (by decide +kernel)
  · exact missed_of _ _ ⟨0xAA,false,0⟩ raw (.broadcast unaddressed (by decide) rfl rfl) (by decide) (by decide)
      (by decide +kernel)
  · exact missed_of _ _ ⟨0xAA,false,0⟩ raw answered (by decide) (by decide) (by decide +kernel)
  · exact missed_of _ _ ⟨0xAA,true,0⟩ raw (.broadcast broadcast (by decide) rfl trivial) ⟨by decide,by decide⟩
      (by decide) (by decide +kernel)

end EbusGateway.Reconstructor
