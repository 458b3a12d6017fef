import EbusGateway.Library.Channel
import EbusGateway.Library.Transition

/-! The passive transport: a single producer feeds bus symbols and stream boundaries into a buffered
channel, a consumer reads them. Each select statement of `deliver` is one step. Every entry keeps the
number of the `deliver` call it came from.
-/
namespace EbusGateway.PassiveTransport
open Library

inductive PassiveEvent
  | symbol (symbol : UInt8) (wasEscaped : Bool)
  | reset
  | connected
  | disconnected

inductive StreamEvent
  | byte (byte : UInt8) (wasEscaped : Bool)
  | reset
deriving DecidableEq

def passiveTransportBuffer : Nat := 512

def streamEvent : PassiveEvent → StreamEvent
  | .symbol symbol wasEscaped => .byte symbol wasEscaped
  | .reset => .reset
  | .connected => .reset
  | .disconnected => .reset

inductive Entry
  | symbol (index : Nat) (byte : UInt8) (wasEscaped : Bool)
  | boundary (origin : Option Nat)
deriving DecidableEq

def entry (index : Nat) : StreamEvent → Entry
  | .byte byte wasEscaped => .symbol index byte wasEscaped
  | .reset => .boundary (some index)

def Entry.index? : Entry → Option Nat
  | .symbol index _ _ => some index
  | .boundary _ => none

/-- A symbol that finds the buffer full takes the oldest event out; a reset is put back (`restoring`), for a symbol
a loss marker is sent (`marking`). -/
inductive Producer
  | idle
  | sending (index : Nat) (event : StreamEvent)
  | overflowing
  | restoring (origin : Option Nat)
  | marking
deriving DecidableEq

inductive Mark
  | read (entry : Entry)
  | overflow
  | expired (index : Nat)
deriving DecidableEq

structure State where
  events : Channel Entry passiveTransportBuffer
  closed : Bool
  producer : Producer
  delivered : List StreamEvent
  history : List Mark

def newPassiveTransport : State := ⟨.empty,false,.idle,[],[]⟩

/-- `send`, `done`, `full` and `unmarked` are cases of the select the producer stands at; `expire` ends a reset's wait. -/
inductive Label
  | deliver (event : PassiveEvent)
  | send
  | done
  | expire
  | full
  | evict
  | unmarked
  | read
  | close

def evict (state : State) : State :=
  match state.events.receive with
  | none => {state with producer := .idle, history := .overflow :: state.history}
  | some (.boundary origin,events) =>
    {state with events := events, producer := .restoring origin, history := .overflow :: state.history}
  | some (.symbol _ _ _,events) =>
    {state with events := events, producer := .marking, history := .overflow :: state.history}

def step (state : State) : Label → Option State
  | .deliver event =>
    match state.producer with
    | .idle => some {state with
        delivered := state.delivered ++ [streamEvent event]
        producer := if state.closed then .idle else .sending state.delivered.length (streamEvent event)}
    | _ => none
  | .send =>
    match state.producer with
    | .sending index event => (state.events.send (entry index event)).map
        fun events => {state with events := events, producer := .idle}
    | .restoring origin => (state.events.send (.boundary origin)).map
        fun events => {state with events := events, producer := .idle}
    | .marking => (state.events.send (.boundary none)).map
        fun events => {state with events := events, producer := .idle}
    | _ => none
  | .done =>
    match state.closed,state.producer with
    | true,.sending _ _ | true,.restoring _ | true,.marking => some {state with producer := .idle}
    | _,_ => none
  | .expire =>
    match state.producer with
    | .sending index .reset =>
      if state.events.isFull then some {state with producer := .idle, history := .expired index :: state.history}
      else none
    | _ => none
  | .full =>
    match state.producer with
    | .sending _ (.byte _ _) => if state.events.isFull then some {state with producer := .overflowing} else none
    | _ => none
  | .evict =>
    match state.producer with
    | .overflowing => some (evict state)
    | _ => none
  | .unmarked =>
    match state.producer with
    | .marking => if state.events.isFull then some {state with producer := .idle} else none
    | _ => none
  | .read => state.events.receive.map
      fun (entry,events) => {state with events := events, history := .read entry :: state.history}
  | .close => some {state with closed := true}

end EbusGateway.PassiveTransport
