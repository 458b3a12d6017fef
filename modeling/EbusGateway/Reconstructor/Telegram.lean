import EbusGateway.Reconstructor.Parser

/-! The telegrams of the bus as the passive tap hears them, where one may begin and which classified event
it stands for. None of this mentions the parser's state.
-/
namespace EbusGateway.Reconstructor
open List

structure Heard where
  byte : UInt8
  wasEscaped : Bool
  observedAt : Time

namespace Heard

def input (s : Heard) (localAddress : Option UInt8) : Input :=
  ⟨.symbol s.byte s.wasEscaped s.observedAt,localAddress⟩

def Payload (s : Heard) : Prop := s.byte = symbolSyn → s.wasEscaped = true

end Heard

def began (symbols : List Heard) : Option Time := symbols.head?.map Heard.observedAt

def ended (symbols : List Heard) : Option Time := symbols.getLast?.map Heard.observedAt

variable (f : Frame) (data : List UInt8)

def requestHeader : List UInt8 :=
  [f.source,f.target,f.primary,f.secondary,UInt8.ofNat f.data.length] ++ f.data

def requestBytes (p : Protocol) (f : Frame) : List UInt8 := requestHeader f ++ [p.crc (requestHeader f)]

def responseBody : List UInt8 := UInt8.ofNat data.length :: data

def responseBytes (p : Protocol) (data : List UInt8) : List UInt8 :=
  responseBody data ++ [p.crc (responseBody data)]

def answer : Frame := ⟨f.target,f.source,f.primary,f.secondary,data⟩

structure IsRequest (p : Protocol) (f : Frame) (symbols : List Heard) : Prop where
  bytes : symbols.map Heard.byte = requestBytes p f
  length : f.data.length ≤ maxPassiveDataLen
  payload : ∀ s ∈ symbols, s.Payload

structure Legal (f : Frame) : Prop where
  source : isInitiatorAddr f.source = true
  target : f.target ≠ 0xAA ∧ f.target ≠ 0xA9

structure IsResponse (p : Protocol) (data : List UInt8) (symbols : List Heard) : Prop where
  bytes : symbols.map Heard.byte = responseBytes p data
  length : data.length ≤ maxPassiveDataLen
  payload : ∀ s ∈ symbols, s.Payload

inductive Listening (watchdog : Int) : List Input → List Heard → Time → Prop
  | start (s : Heard) (localAddress : Option UInt8) :
      Listening watchdog [s.input localAddress] [s] s.observedAt
  | symbol {inputs : List Input} {symbols : List Heard} {last : Time} (before : Listening watchdog inputs symbols last)
      (s : Heard) (localAddress : Option UInt8) (prompt : s.observedAt - last ≤ watchdog) :
      Listening watchdog (inputs ++ [s.input localAddress]) (symbols ++ [s]) s.observedAt
  | timeout {inputs : List Input} {symbols : List Heard} {last : Time} (before : Listening watchdog inputs symbols last)
      (observedAt : Time) (localAddress : Option UInt8) (prompt : observedAt - last ≤ watchdog) :
      Listening watchdog (inputs ++ [⟨.readTimeout observedAt,localAddress⟩]) symbols last

def Addressed (type : FrameType) : Prop := type = .initiatorInitiator ∨ type = .initiatorTarget

inductive Opening (cfg : Config) (wire : Bool → Prop) : List Input → Prop
  | syn (history : List Input) (s : Heard) (localAddress : Option UInt8) (byte : s.byte = symbolSyn)
      (accepted : wire s.wasEscaped) : Opening cfg wire (history ++ [s.input localAddress])
  | nack {history inputs : List Input} {f : Frame} {request : List Heard} {nack : Heard} {last : Time}
      (localAddress : Option UInt8) (before : Opening cfg wire history)
      (heard : Listening cfg.watchdog (inputs ++ [nack.input localAddress]) (request ++ [nack]) last)
      (spelled : IsRequest cfg.protocol f request) (legal : Legal f)
      (addressed : Addressed (cfg.protocol.frameType f)) (byte : nack.byte = symbolNack) :
      Opening cfg wire (history ++ (inputs ++ [nack.input localAddress]))
  | timeout {history : List Input} (before : Opening cfg wire history) (observedAt : Time)
      (localAddress : Option UInt8) : Opening cfg wire (history ++ [⟨.readTimeout observedAt,localAddress⟩])

def broadcastEvent (request : List Heard) (terminal : Time) : ClassifiedEvent :=
  {kind := .broadcastFrame, frameType := .broadcast, request := f, hasRequest := true
   timing := {requestStart := began request, requestEnd := some terminal, terminal := some terminal}
   observedAt := terminal}

def masterEvent (request : List Heard) (terminal : Time) : ClassifiedEvent :=
  {kind := .masterFrame, frameType := .initiatorInitiator, request := f, hasRequest := true
   timing := {requestStart := began request, requestEnd := ended request, terminal := some terminal}
   observedAt := terminal, ackCorrelation := some symbolAck}

def transactionEvent (request response : List Heard) (terminal : Time) :
    ClassifiedEvent :=
  {kind := .transaction, frameType := .initiatorTarget, request := f, response := answer f data
   hasRequest := true, hasResponse := true
   timing := {
     requestStart := began request, requestEnd := ended request
     responseStart := began response, responseEnd := ended response, terminal := some terminal}
   observedAt := terminal, ackCorrelation := some symbolAck}

inductive Telegram (p : Protocol) (wire : Bool → Prop) : List Heard → ClassifiedEvent → Prop
  | broadcast {f : Frame} {request : List Heard} {syn : Heard} (spelled : IsRequest p f request)
      (type : p.frameType f = .broadcast) (byte : syn.byte = symbolSyn) (accepted : wire syn.wasEscaped) :
      Telegram p wire (request ++ [syn]) (broadcastEvent f request syn.observedAt)
  | master {f : Frame} {request : List Heard} {ack syn : Heard} (spelled : IsRequest p f request)
      (type : p.frameType f = .initiatorInitiator) (acknowledged : ack.byte = symbolAck)
      (byte : syn.byte = symbolSyn) (accepted : wire syn.wasEscaped) :
      Telegram p wire (request ++ [ack] ++ [syn]) (masterEvent f request syn.observedAt)
  | transaction {f : Frame} {data : List UInt8} {request response : List Heard} {ack finalAck syn : Heard}
      (spelled : IsRequest p f request) (type : p.frameType f = .initiatorTarget)
      (acknowledged : ack.byte = symbolAck) (answered : IsResponse p data response)
      (confirmed : finalAck.byte = symbolAck) (byte : syn.byte = symbolSyn) (accepted : wire syn.wasEscaped) :
      Telegram p wire (request ++ [ack] ++ response ++ [finalAck] ++ [syn])
        (transactionEvent f data request response syn.observedAt)

def Segment (cfg : Config) (wire : Bool → Prop) (history : List Input) (symbols : List Heard) (last : Time) : Prop :=
  ∃ before inputs, history = before ++ inputs ∧ Opening cfg wire before ∧
    Listening cfg.watchdog inputs symbols last

def ClassifiedEvent.isFrame (event : ClassifiedEvent) : Bool :=
  event.kind == .broadcastFrame || event.kind == .masterFrame || event.kind == .transaction

def Reported (cfg : Config) (wire : Bool → Prop) (history : List Input) (event : ClassifiedEvent) : Prop :=
  ∃ symbols last, Segment cfg wire history symbols last ∧ Telegram cfg.protocol wire symbols event

section
variable {cfg : Config} {wire : Bool → Prop} {history : List Input} {symbols : List Heard} {last : Time}

namespace Segment

theorem start (opened : Opening cfg wire history) (s : Heard) (own : Option UInt8) :
    Segment cfg wire (history ++ [s.input own]) [s] s.observedAt :=
  ⟨history,_,rfl,opened,.start s own⟩

section
variable (segment : Segment cfg wire history symbols last)
include segment

theorem symbol (s : Heard) (own : Option UInt8) (prompt : s.observedAt - last ≤ cfg.watchdog) :
    Segment cfg wire (history ++ [s.input own]) (symbols ++ [s]) s.observedAt := by
  obtain ⟨before,inputs,rfl,opened,heard⟩ := segment
  exact ⟨before,_,by rw [append_assoc],opened,heard.symbol s own prompt⟩

theorem timeout (observedAt : Time) (own : Option UInt8) (prompt : observedAt - last ≤ cfg.watchdog) :
    Segment cfg wire (history ++ [⟨.readTimeout observedAt,own⟩]) symbols last := by
  obtain ⟨before,inputs,rfl,opened,heard⟩ := segment
  exact ⟨before,_,by rw [append_assoc],opened,heard.timeout observedAt own prompt⟩

theorem nack {f : Frame} (spelled : IsRequest cfg.protocol f symbols) (legal : Legal f)
    (addressed : Addressed (cfg.protocol.frameType f))
    (s : Heard) (own : Option UInt8) (byte : s.byte = symbolNack) (prompt : s.observedAt - last ≤ cfg.watchdog) :
    Opening cfg wire (history ++ [s.input own]) := by
  obtain ⟨before,inputs,rfl,opened,heard⟩ := segment
  rw [append_assoc]
  exact .nack own opened (heard.symbol s own prompt) spelled legal addressed byte

end

end Segment
end

section
variable {p : Protocol} {data : List UInt8} {f : Frame}

theorem length_requestBytes (f : Frame) : (requestBytes p f).length = 6 + f.data.length := by
  simp only [requestBytes,requestHeader,length_append,length_cons,length_nil]
  omega

theorem length_responseBytes (data : List UInt8) : (responseBytes p data).length = data.length + 2 := by
  rw [responseBytes,length_append,responseBody,length_cons,length_singleton]

theorem toNat_ofNat_length (short : data.length < 256) : (UInt8.ofNat data.length).toNat = data.length := by
  rw [UInt8.toNat_ofNat']
  exact Nat.mod_eq_of_lt short

theorem exists_data (body : List UInt8) (size : Nat) (length : body.length = size + 1) :
    ∃ data last, body = data ++ [last] ∧ data.length = size := by
  obtain rfl | ⟨data,last,rfl⟩ := body.eq_nil_or_concat
  · simp at length
  · exact ⟨data,last,concat_eq_append ▸ rfl,by simpa using length⟩

theorem parseFrame_cons (source target primary secondary nn crc : UInt8) (data : List UInt8) (size : data.length = nn.toNat) :
    parseFrame p (source :: target :: primary :: secondary :: nn :: (data ++ [crc])) =
      if p.crc (source :: target :: primary :: secondary :: nn :: data) = crc then
        some ⟨source,target,primary,secondary,data⟩ else none := by
  have length : (source :: target :: primary :: secondary :: nn :: (data ++ [crc])).length = 6 + data.length := by
    simp only [length_cons,length_append,length_nil]
    omega
  have last : 6 + data.length - 1 = (source :: target :: primary :: secondary :: nn :: data).length := by
    simp only [length_cons]
    omega
  unfold parseFrame
  rw [if_neg (by omega),length,last]
  simp [size]

theorem parseFrame_requestBytes (short : f.data.length < 256) : parseFrame p (requestBytes p f) = some f := by
  have parsed := parseFrame_cons (p := p) f.source f.target f.primary f.secondary (UInt8.ofNat f.data.length)
    (p.crc (requestHeader f)) f.data (toNat_ofNat_length short).symm
  exact parsed.trans (if_pos rfl)

variable {raw : List UInt8}

theorem parseFrame_eq_some (parsed : parseFrame p raw = some f) : raw = requestBytes p f ∧ f.data.length < 256 := by
  match raw with
  | source :: target :: primary :: secondary :: nn :: body =>
    by_cases exactly : body.length = nn.toNat + 1
    case neg =>
      have unequal : ¬ body.length + 5 = 6 + nn.toNat := by omega
      simp [parseFrame,unequal] at parsed
    obtain ⟨data,crc,rfl,size⟩ := exists_data body nn.toNat exactly
    rw [parseFrame_cons source target primary secondary nn crc data size] at parsed
    split at parsed
    case isFalse => cases parsed
    rename_i valid
    cases parsed
    have nn_eq : UInt8.ofNat data.length = nn := by rw [size,UInt8.ofNat_toNat]
    refine ⟨?_,size ▸ nn.toNat_lt⟩
    simp only [requestBytes,requestHeader,nn_eq,cons_append,nil_append,valid]
  | [] | [_] | [_,_] | [_,_,_] | [_,_,_,_] => simp [parseFrame] at parsed

theorem parseFrame_length (parsed : parseFrame p raw = some f) : raw.length = 6 + (raw.getD 4 0).toNat := by
  obtain ⟨rfl,short⟩ := parseFrame_eq_some parsed
  rw [length_requestBytes,← toNat_ofNat_length short]
  rfl

theorem parsePassiveResponse_cons (req : Frame) (nn crc : UInt8) (data : List UInt8) (size : data.length = nn.toNat) :
    parsePassiveResponse p req (nn :: (data ++ [crc])) = (answer req data,p.crc (nn :: data) == crc) := by
  have length : (nn :: (data ++ [crc])).length = data.length + 2 := by
    simp only [length_cons,length_append,length_nil]
  have last : data.length + 2 - 1 = (nn :: data).length := rfl
  unfold parsePassiveResponse
  rw [if_neg (by omega),length,last]
  simp [size,answer]

theorem parsePassiveResponse_responseBytes (req : Frame) (short : data.length < 256) :
    parsePassiveResponse p req (responseBytes p data) = (answer req data,true) := by
  have parsed := parsePassiveResponse_cons (p := p) req (UInt8.ofNat data.length) (p.crc (responseBody data))
    data (toNat_ofNat_length short).symm
  rwa [show (p.crc (UInt8.ofNat data.length :: data) == p.crc (responseBody data)) = true from
    beq_self_eq_true _] at parsed

theorem parsePassiveResponse_valid {req : Frame} (valid : (parsePassiveResponse p req raw).2 = true) :
    ∃ data, raw = responseBytes p data ∧ data.length < 256 ∧ (parsePassiveResponse p req raw).1 = answer req data := by
  match raw with
  | nn :: body =>
    by_cases exactly : body.length = nn.toNat + 1
    case neg =>
      have unequal : ¬ body.length = nn.toNat + 1 := exactly
      simp [parsePassiveResponse,unequal] at valid
    obtain ⟨data,crc,rfl,size⟩ := exists_data body nn.toNat exactly
    rw [parsePassiveResponse_cons req nn crc data size] at valid ⊢
    have nn_eq : UInt8.ofNat data.length = nn := by rw [size,UInt8.ofNat_toNat]
    refine ⟨data,?_,size ▸ nn.toNat_lt,rfl⟩
    rw [responseBytes,responseBody,nn_eq,beq_iff_eq.mp valid,cons_append]
  | [] => simp [parsePassiveResponse] at valid

end
end EbusGateway.Reconstructor
