import EbusGateway.Library.Channel
import EbusGateway.Library.Transition

/-! The outgoing side of an external session: the `deliver*` calls of the mux, the send buffer, the
writer with its three-frame look-ahead and flush counter, and the removal that closes the session. Every
select statement and every channel operation is a step of its own.
-/
namespace EbusGateway.SessionWriter
open Library

inductive FrameKind
  | received
  | resetted
  | started
  | failed
  | info
  | errorEBUS
  | errorHost
deriving DecidableEq

structure SessionFrame where
  kind : FrameKind
  payload : UInt8
  grantGen : UInt32 := 0
deriving DecidableEq

def defaultSessionSendBuffer : Nat := 8192
def maxSessionPacerBacklog : Nat := 2
def sessionWriterLookahead : Nat := maxSessionPacerBacklog + 1

def sendBuffer : Nat := defaultSessionSendBuffer - sessionWriterLookahead

def SessionFrame.blocks (frame : SessionFrame) : Bool := frame.kind == .resetted

inductive Writer
  | top
  | check
  | pacer
  | fill (left : Nat)
  | decide
  | pace
  | take
  | writing (frame : SessionFrame)
  | settling
  | failing
  | draining
  | returned
deriving DecidableEq

/-- `entered` are the frames past the closed check and not yet at the channel, `offered` those that reached it. -/
structure State where
  mailbox : Mailbox SessionFrame sendBuffer
  closed : Bool
  done : Bool
  cancelled : Bool
  entered : List SessionFrame
  writer : Writer
  pending : List SessionFrame
  flushBacklog : Bool
  flushRemaining : Int
  discarded : Nat
  offered : List SessionFrame
  refused : List SessionFrame
  dropped : Bool
  output : List SessionFrame

def initial : State := ⟨.empty,false,false,false,[],.top,[],false,0,0,[],[],false,[]⟩

/-- The steps of `deliver*` calls, of the session's removal, and from `receive` on of the writer. -/
inductive Label
  | call (frame : SessionFrame)
  | reach (index : Nat)
  | abandon (index : Nat)
  | withdraw (index : Nat)
  | markClosed
  | signalDone
  | cancel
  | receive
  | leave
  | proceed
  | paced (present : Bool)
  | fill
  | decide (delayed : Bool)
  | timer
  | take
  | write (succeeds : Bool)
  | settle
  | shut
  | drain

variable (state : State)

def deliver (frame : SessionFrame) : State :=
  if state.closed then {state with refused := state.refused ++ [frame]}
  else {state with entered := state.entered ++ [frame]}

def reachChannel (index : Nat) (frame : SessionFrame) : State :=
  let state := {state with entered := state.entered.eraseIdx index, offered := state.offered ++ [frame]}
  if frame.blocks then {state with mailbox := state.mailbox.send frame}
  else match state.mailbox.trySend frame with
    | some mailbox => {state with mailbox := mailbox}
    | none => {state with dropped := true}

def decideFlush : State :=
  let queuedSymbols := (state.pending.filter (·.kind == .received)).length
  if state.flushBacklog then state
  else if maxSessionPacerBacklog < queuedSymbols then
    {state with
      flushBacklog := true
      flushRemaining := state.pending.length + state.mailbox.channel.buffer.length}
  else match state.pending.findIdx? (·.kind != .received) with
    | none => state
    | some index =>
      match state.pending[index]? with
      | some frame =>
        if 0 < index ∧ (frame.kind = .started ∨ frame.kind = .failed) then
          {state with flushBacklog := true, flushRemaining := index + 1}
        else state
      | none => state

def settleFlush : State :=
  if state.flushBacklog then
    {state with
      flushRemaining := state.flushRemaining - 1
      flushBacklog := if state.flushRemaining - 1 = 0 then false else true}
  else state

def step : Label → Option State
  | .call frame => some (deliver state frame)
  | .reach index => state.entered[index]?.map fun frame => reachChannel state index frame
  | .abandon index =>
    match state.entered[index]? with
    | some frame =>
      if state.done && frame.blocks then
        some {state with entered := state.entered.eraseIdx index, refused := state.refused ++ [frame]}
      else none
    | none => none
  | .withdraw index => if state.done then some {state with mailbox := state.mailbox.withdraw index} else none
  | .markClosed => some {state with closed := true}
  | .signalDone => if state.closed then some {state with done := true} else none
  | .cancel => some {state with cancelled := true}
  | .receive =>
    match state.writer with
    | .top =>
      if state.pending = [] then
        state.mailbox.receive.map fun (frame,mailbox) =>
          {state with mailbox := mailbox, pending := [frame], writer := .check}
      else some {state with writer := .check}
    | .pace =>
      if state.pending.length ≤ maxSessionPacerBacklog then
        state.mailbox.receive.map fun (frame,mailbox) =>
          {state with mailbox := mailbox, pending := state.pending ++ [frame], writer := .top}
      else none
    | _ => none
  | .leave =>
    match state.writer with
    | .top => if (state.done || state.cancelled) && state.pending = [] then some {state with writer := .returned} else none
    | .check | .pace => if state.done || state.cancelled then some {state with writer := .returned} else none
    | _ => none
  | .proceed =>
    match state.writer with
    | .check => if state.done || state.cancelled then none else some {state with writer := .pacer}
    | _ => none
  | .paced present =>
    match state.writer with
    | .pacer => some {state with writer := if present then .fill state.mailbox.channel.buffer.length else .take}
    | _ => none
  | .fill =>
    match state.writer with
    | .fill left =>
      if 0 < left ∧ state.pending.length ≤ maxSessionPacerBacklog then
        state.mailbox.receive.map fun (frame,mailbox) =>
          {state with mailbox := mailbox, pending := state.pending ++ [frame], writer := .fill (left - 1)}
      else some {state with writer := .decide}
    | _ => none
  | .decide delayed =>
    match state.writer with
    | .decide =>
      let state := decideFlush state
      let paces := !state.flushBacklog && state.pending.head?.any (·.kind == .received) && delayed
      some {state with writer := if paces then .pace else .take}
    | _ => none
  | .timer =>
    match state.writer with
    | .pace => some {state with writer := .take}
    | _ => none
  | .take =>
    match state.writer,state.pending with
    | .take,frame :: rest => some {state with pending := rest, writer := .writing frame}
    | _,_ => none
  | .write succeeds =>
    match state.writer with
    | .writing frame =>
      if succeeds then some {state with output := state.output ++ [frame], writer := .settling}
      else some {state with writer := .failing}
    | _ => none
  | .settle =>
    match state.writer with
    | .settling => some {settleFlush state with writer := .top}
    | _ => none
  | .shut =>
    match state.writer with
    | .failing => some {state with closed := true, writer := .draining}
    | _ => none
  | .drain =>
    match state.writer with
    | .draining =>
      match state.mailbox.receive with
      | some (_,mailbox) => some {state with mailbox := mailbox, discarded := state.discarded + 1}
      | none => some {state with writer := .returned}
    | _ => none

end EbusGateway.SessionWriter
