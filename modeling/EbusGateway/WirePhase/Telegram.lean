import EbusGateway.WirePhase
import Mathlib.Data.List.Forall2

/-! The wire phase tracker on whole telegrams, with one retransmission of the request and one of the
response, up to the SYN that closes the telegram.
-/
namespace EbusGateway.WirePhaseTracker
open List

inductive Mark
  | inner
  | requestCrc
  | responseCrc
  | trailing

structure Symbol where
  value : UInt8
  isWireSyn : Bool := false
  mark : Mark := .inner

structure Request where
  destination : UInt8
  primary : UInt8
  secondary : UInt8
  data : List UInt8
  crc : UInt8
  fits : data.length ≤ 255

structure Response where
  data : List UInt8
  crc : UInt8
  fits : data.length ≤ 255

def Request.symbols (r : Request) : List Symbol :=
  [{value := r.destination},{value := r.primary},{value := r.secondary},{value := .ofNat r.data.length}] ++
    (r.data.map fun value => {value := value}) ++ [{value := r.crc, mark := .requestCrc}]

def Response.symbols (r : Response) : List Symbol :=
  [{value := .ofNat r.data.length}] ++ (r.data.map fun value => {value := value}) ++ [{value := r.crc, mark := .responseCrc}]

inductive Ending
  | unacknowledged
  | acknowledged
  | refused
  | answered (rejected : Option Response) (response : Response) (confirmed : Bool)

def acknowledgement (positive : Bool) : Symbol := {value := if positive then symbolAck else symbolNack}

def Ending.symbols : Ending → List Symbol
  | .unacknowledged => []
  | .acknowledged => [acknowledgement true]
  | .refused => [acknowledgement false]
  | .answered rejected response confirmed =>
    [acknowledgement true] ++ (rejected.elim [] fun first => first.symbols ++ [acknowledgement false]) ++
      response.symbols ++ [acknowledgement confirmed]

def trailingSyn : Symbol := {value := symbolSyn, isWireSyn := true, mark := .trailing}

def withoutResponse (isInitiatorCapableAddress : UInt8 → Bool) (destination : UInt8) : Bool :=
  destination = addressBroadcast || isInitiatorCapableAddress destination

def Ending.Suits (isInitiatorCapableAddress : UInt8 → Bool) (refusedRequest : Option Request) (request : Request) : Ending → Prop
  | .unacknowledged => request.destination = addressBroadcast ∧ refusedRequest.isNone
  | .acknowledged => withoutResponse isInitiatorCapableAddress request.destination
  | .refused => refusedRequest.isSome
  | .answered rejected _ confirmed =>
    withoutResponse isInitiatorCapableAddress request.destination = false ∧ (confirmed = false → rejected.isSome)

structure Telegram (isInitiatorCapableAddress : UInt8 → Bool) where
  source : UInt8
  refusedRequest : Option Request
  request : Request
  ending : Ending
  suits : ending.Suits isInitiatorCapableAddress refusedRequest request

def Telegram.symbols {isInitiatorCapableAddress : UInt8 → Bool} (telegram : Telegram isInitiatorCapableAddress) : List Symbol :=
  (telegram.refusedRequest.elim [] fun first => first.symbols ++ [acknowledgement false,{value := telegram.source}]) ++
    telegram.request.symbols ++ telegram.ending.symbols ++ [trailingSyn]

def events (isInitiatorCapableAddress : UInt8 → Bool) (t : WirePhaseTracker) : List Symbol → List WirePhaseEvent
  | [] => []
  | symbol :: rest =>
    let (next,event) := t.advanceWithProvenance isInitiatorCapableAddress symbol.value symbol.isWireSyn
    event :: events isInitiatorCapableAddress next rest

def Agrees (symbol : Symbol) (event : WirePhaseEvent) : Prop :=
  (event = .requestComplete ↔ symbol.mark = .requestCrc) ∧ (event = .responseDone ↔ symbol.mark = .responseCrc) ∧
    (event = .transactionDone ↔ symbol.mark = .trailing) ∧ (symbol.mark ≠ .trailing → event ≠ .cmdNACK ∧ event ≠ .synTimeout)

def Follows (isInitiatorCapableAddress : UInt8 → Bool) (t : WirePhaseTracker) (symbols : List Symbol) : Prop :=
  List.Forall₂ Agrees symbols (t.events isInitiatorCapableAddress symbols)

def Leads (isInitiatorCapableAddress : UInt8 → Bool) (t : WirePhaseTracker) (symbols : List Symbol)
    (next : WirePhaseTracker) : Prop :=
  ∀ rest, t.Follows isInitiatorCapableAddress (symbols ++ rest) ↔ next.Follows isInitiatorCapableAddress rest

namespace Leads

variable {capable : UInt8 → Bool} {t next last : WirePhaseTracker} {symbols others : List Symbol}

theorem append (first : t.Leads capable symbols next) (second : next.Leads capable others last) :
    t.Leads capable (symbols ++ others) last := by
  intro rest
  rw [append_assoc,first,second]

theorem single {symbol : Symbol} (event : WirePhaseEvent)
    (advanced : t.advanceWithProvenance capable symbol.value symbol.isWireSyn = (next,event)) (agrees : Agrees symbol event) :
    t.Leads capable [symbol] next := by
  intro rest
  unfold Follows
  simp [events,advanced,agrees]

theorem cons {symbol : Symbol} (event : WirePhaseEvent)
    (advanced : t.advanceWithProvenance capable symbol.value symbol.isWireSyn = (next,event)) (agrees : Agrees symbol event)
    (later : next.Leads capable others last) : t.Leads capable (symbol :: others) last :=
  (single event advanced agrees).append later

end Leads

variable (capable : UInt8 → Bool)

theorem agrees_inner {value : UInt8} {event : WirePhaseEvent} (quiet : event = .none ∨ event = .cmdACK ∨ event = .cmdNACKRetry) :
    Agrees {value := value} event := by
  rcases quiet with rfl | rfl | rfl
  all_goals simp [Agrees]

structure Begun (t : WirePhaseTracker) : Prop where
  phase : t.phase = .collectRequest
  seen : t.requestBytesSeen = 1
  unknown : t.requestDataLength = none

def requested (t : WirePhaseTracker) (request : Request) : WirePhaseTracker :=
  {t with
    phase := .waitCmdAck
    requestBytesSeen := 6 + request.data.length
    requestDataLength := some request.data.length
    requestDst := request.destination}

theorem toNat_length {data : List UInt8} (fits : data.length ≤ 255) : (UInt8.ofNat data.length).toNat = data.length := by
  rw [UInt8.toNat_ofNat']
  omega

variable {t : WirePhaseTracker}

theorem advance_collect (collecting : t.phase = .collectRequest) (symbol : UInt8) :
    t.advanceWithProvenance capable symbol false = t.advanceCollectRequest symbol := by
  simp [advanceWithProvenance,collecting]

def collecting (t : WirePhaseTracker) (request : Request) (seen : Nat) : WirePhaseTracker :=
  {t with
    phase := .collectRequest
    requestBytesSeen := seen
    requestDataLength := some request.data.length
    requestDst := request.destination}

def inner (values : List UInt8) : List Symbol := values.map fun value => {value := value}

theorem leads_data (t : WirePhaseTracker) (req : Request) (values : List UInt8) (seen : Nat) (header : 5 ≤ seen)
    (left : seen + values.length = 5 + req.data.length) :
    (t.collecting req seen).Leads capable (inner values ++ [{value := req.crc, mark := .requestCrc}]) (t.requested req) := by
  induction values generalizing seen with
  | nil =>
    have last : seen = 5 + req.data.length := left
    refine .single .requestComplete ?_ (by simp [Agrees])
    rw [advance_collect capable rfl,advanceCollectRequest_later header,if_pos]
    · simp only [collecting,requested,last]
      congr 2
      omega
    · simp only [collecting,last,Option.any_some,decide_eq_true_eq]
      omega
  | cons value rest ih =>
    rw [length_cons] at left
    refine .cons .none ?_ (agrees_inner (.inl rfl)) (ih (seen + 1) (by omega) (by omega))
    have more : ¬ 6 + req.data.length ≤ seen + 1 := by omega
    rw [advance_collect capable rfl,advanceCollectRequest_later header,if_neg]
    · rfl
    · exact fun whole => more (of_decide_eq_true whole)

theorem leads_request (begun : Begun t) (req : Request) : t.Leads capable req.symbols (t.requested req) := by
  obtain ⟨phase,seen,unknown⟩ := begun
  have destination : t.Leads capable [{value := req.destination}]
      {t with requestBytesSeen := 2, requestDst := req.destination} :=
    .single .none (by simp [advanceWithProvenance,advanceCollectRequest,phase,seen,unknown]) (agrees_inner (.inl rfl))
  have primary : ({t with requestBytesSeen := 2, requestDst := req.destination} : WirePhaseTracker).Leads capable
      [{value := req.primary}] {t with requestBytesSeen := 3, requestDst := req.destination} :=
    .single .none (by simp [advanceWithProvenance,advanceCollectRequest,phase,unknown]) (agrees_inner (.inl rfl))
  have secondary : ({t with requestBytesSeen := 3, requestDst := req.destination} : WirePhaseTracker).Leads capable
      [{value := req.secondary}] {t with requestBytesSeen := 4, requestDst := req.destination} :=
    .single .none (by simp [advanceWithProvenance,advanceCollectRequest,phase,unknown]) (agrees_inner (.inl rfl))
  have length : ({t with requestBytesSeen := 4, requestDst := req.destination} : WirePhaseTracker).Leads capable
      [{value := .ofNat req.data.length}] (t.collecting req 5) :=
    .single .none (by simp [advanceWithProvenance,advanceCollectRequest_length,phase,collecting,
      toNat_length req.fits]) (agrees_inner (.inl rfl))
  exact destination.append <| primary.append <| secondary.append <| length.append <|
    leads_data capable t req req.data 5 (Nat.le_refl _) rfl

def awaitingBody (t : WirePhaseTracker) (remain : Nat) : WirePhaseTracker :=
  {t with phase := .waitResponseBody, responseBytesRemain := remain}

def responded (t : WirePhaseTracker) : WirePhaseTracker := {t with phase := .waitResponseAck, responseBytesRemain := 0}

theorem leads_body (t : WirePhaseTracker) (values : List UInt8) (crc : UInt8) :
    (t.awaitingBody (values.length + 1)).Leads capable (inner values ++ [{value := crc, mark := .responseCrc}]) t.responded := by
  induction values with
  | nil => exact .single .responseDone (by
    simp [advanceWithProvenance,advanceWaitResponseBody,awaitingBody,responded]) (by simp [Agrees])
  | cons value rest ih =>
    refine .cons .none ?_ (agrees_inner (.inl rfl)) ih
    simp [advanceWithProvenance,advanceWaitResponseBody,awaitingBody]

theorem leads_response (waiting : t.phase = .waitResponseLen) (response : Response) :
    t.Leads capable response.symbols t.responded := by
  have length : t.Leads capable [{value := .ofNat response.data.length}] (t.awaitingBody (response.data.length + 1)) :=
    .single .none (by simp [advanceWithProvenance,advanceWaitResponseLen,waiting,awaitingBody,
      toNat_length response.fits]) (agrees_inner (.inl rfl))
  exact length.append (leads_body capable t response.data response.crc)

theorem follows_trailing (waiting : t.phase = .waitTerminalSyn) : t.Follows capable [trailingSyn] := by
  simp [Follows,events,trailingSyn,advanceWithProvenance,waiting,Agrees]

theorem leads_acknowledged (waiting : t.phase = .waitCmdAck) (ends : withoutResponse capable t.requestDst = true) :
    t.Leads capable [acknowledgement true] {t with phase := .waitTerminalSyn} := by
  refine .single .none ?_ (agrees_inner (.inl rfl))
  unfold withoutResponse at ends
  simp only [advanceWithProvenance,advanceWaitCmdAck,acknowledgement,waiting,ends]
  rfl

theorem leads_response_expected (waiting : t.phase = .waitCmdAck) (expected : withoutResponse capable t.requestDst = false) :
    t.Leads capable [acknowledgement true] {t with phase := .waitResponseLen} := by
  refine .single .cmdACK ?_ (agrees_inner (.inr (.inl rfl)))
  unfold withoutResponse at expected
  simp only [advanceWithProvenance,advanceWaitCmdAck,acknowledgement,waiting,expected]
  rfl

def retried (t : WirePhaseTracker) (source : UInt8) : WirePhaseTracker :=
  {t with phase := .collectRequest, cmdRetried := true, requestBytesSeen := 1, requestDataLength := none, requestSrc := source}

theorem leads_retry (waiting : t.phase = .waitCmdAck) (first : t.cmdRetried = false) (source : UInt8) :
    t.Leads capable [acknowledgement false,{value := source}] (t.retried source) := by
  have refused : t.Leads capable [acknowledgement false]
      {t with phase := .collectRequest, cmdRetried := true, requestBytesSeen := 0, requestDataLength := none} := by
    refine .single .cmdNACKRetry ?_ (agrees_inner (.inr (.inr rfl)))
    simp [advanceWithProvenance,advanceWaitCmdAck,acknowledgement,waiting,first,symbolNack,symbolAck]
  refine refused.append (.single .none ?_ (agrees_inner (.inl rfl)))
  simp [advanceWithProvenance,advanceCollectRequest,retried]

theorem leads_refused (waiting : t.phase = .waitCmdAck) (second : t.cmdRetried = true) :
    t.Leads capable [acknowledgement false] {t with phase := .waitTerminalSyn} := by
  refine .single .none ?_ (agrees_inner (.inl rfl))
  simp [advanceWithProvenance,advanceWaitCmdAck,acknowledgement,waiting,second,symbolNack,symbolAck]

theorem leads_rejected (waiting : t.phase = .waitResponseAck) (first : t.responseRetried = false) :
    t.Leads capable [acknowledgement false] {t with phase := .waitResponseLen, responseRetried := true} := by
  refine .single .none ?_ (agrees_inner (.inl rfl))
  simp [advanceWithProvenance,advanceWaitResponseAck,acknowledgement,waiting,first]

theorem leads_confirmed (confirmed : Bool) (waiting : t.phase = .waitResponseAck)
    (last : confirmed = false → t.responseRetried = true) :
    t.Leads capable [acknowledgement confirmed] {t with phase := .waitTerminalSyn} := by
  refine .single .none ?_ (agrees_inner (.inl rfl))
  cases confirmed with
  | true => simp [advanceWithProvenance,advanceWaitResponseAck,acknowledgement,waiting,symbolNack,symbolAck]
  | false => simp [advanceWithProvenance,advanceWaitResponseAck,acknowledgement,waiting,last rfl]

structure Asked (t : WirePhaseTracker) (destination : UInt8) (retransmitted : Bool) : Prop where
  phase : t.phase = .waitCmdAck
  destination : t.requestDst = destination
  cmd : t.cmdRetried = retransmitted
  response : t.responseRetried = false

theorem request_asked (telegram : Telegram capable) (t : WirePhaseTracker) :
    ∃ asked, (t.startRequestWithSource telegram.source).Leads capable
        ((telegram.refusedRequest.elim [] fun first => first.symbols ++ [acknowledgement false,{value := telegram.source}]) ++
          telegram.request.symbols) asked ∧ Asked asked telegram.request.destination telegram.refusedRequest.isSome := by
  have started : Begun (t.startRequestWithSource telegram.source) := ⟨rfl,rfl,rfl⟩
  cases telegram.refusedRequest with
  | none => exact ⟨_,leads_request capable started telegram.request,rfl,rfl,rfl,rfl⟩
  | some first =>
    have again := (leads_request capable started first).append (leads_retry capable rfl rfl telegram.source)
    exact ⟨_,again.append (leads_request capable ⟨rfl,rfl,rfl⟩ telegram.request),rfl,rfl,rfl,rfl⟩

theorem not_follows_unacknowledged (waiting : t.phase = .waitCmdAck) : ¬ t.Follows capable [trailingSyn] := by
  simp [Follows,events,trailingSyn,advanceWithProvenance,waiting,WirePhase.isSYNTimeoutBoundary,Agrees]

theorem follows_answered {rejected : Option Response} {confirmed : Bool} (waiting : t.phase = .waitResponseLen)
    (first : t.responseRetried = false) (response : Response) (suits : confirmed = false → rejected.isSome) :
    t.Follows capable ((rejected.elim [] fun first => first.symbols ++ [acknowledgement false]) ++
      response.symbols ++ [acknowledgement confirmed] ++ [trailingSyn]) := by
  cases rejected with
  | none =>
    have whole := (leads_response capable waiting response).append
      (leads_confirmed capable confirmed rfl fun negative => nomatch suits negative)
    exact (whole _).mpr (follows_trailing capable rfl)
  | some bad =>
    have repeated := ((leads_response capable waiting bad).append
      (leads_rejected capable rfl first)).append (leads_response capable rfl response)
    have whole := repeated.append (leads_confirmed capable confirmed rfl fun _ => rfl)
    exact (whole _).mpr (follows_trailing capable rfl)

theorem ending_follows {refusedRequest : Option Request} {req : Request} {ending : Ending}
    (asked : Asked t req.destination refusedRequest.isSome) (suits : ending.Suits capable refusedRequest req) :
    t.Follows capable (ending.symbols ++ [trailingSyn]) ↔ ending ≠ .unacknowledged := by
  cases ending with
  | unacknowledged => simpa [Ending.symbols] using not_follows_unacknowledged capable asked.phase
  | acknowledged =>
    have closed := leads_acknowledged capable asked.phase (asked.destination ▸ suits)
    exact iff_of_true ((closed _).mpr (follows_trailing capable rfl)) nofun
  | refused =>
    have closed := leads_refused capable asked.phase (asked.cmd.trans suits)
    exact iff_of_true ((closed _).mpr (follows_trailing capable rfl)) nofun
  | answered rejected response confirmed =>
    obtain ⟨expected,negative⟩ := suits
    have accepted := leads_response_expected capable asked.phase (asked.destination ▸ expected)
    have first : ({t with phase := .waitResponseLen} : WirePhaseTracker).responseRetried = false := asked.response
    have answer := (accepted _).mpr (follows_answered capable rfl first response negative)
    refine iff_of_true ?_ nofun
    simpa only [Ending.symbols,append_assoc] using answer

/-- The tracker takes every symbol of a telegram for what it is, exactly unless the telegram is a broadcast that is left
unacknowledged. -/
theorem telegram_followed (telegram : Telegram capable) (t : WirePhaseTracker) :
    (t.startRequestWithSource telegram.source).Follows capable telegram.symbols ↔ telegram.ending ≠ .unacknowledged := by
  obtain ⟨state,leads,asked⟩ := request_asked capable telegram t
  unfold Telegram.symbols
  rw [append_assoc,leads]
  exact ending_follows capable asked telegram.suits

def broadcast : Telegram fun _ => false where
  source := 0x10
  refusedRequest := none
  request := ⟨addressBroadcast,0x07,0x00,[0x79],0x91,by decide⟩
  ending := .unacknowledged
  suits := ⟨rfl,rfl⟩

/-- The SYN that closes a broadcast is taken for a timeout. -/
theorem broadcast_timed_out :
    (({} : WirePhaseTracker).startRequestWithSource broadcast.source).events (fun _ => false) broadcast.symbols =
      [.none,.none,.none,.none,.none,.requestComplete,.synTimeout] := by decide

end EbusGateway.WirePhaseTracker
