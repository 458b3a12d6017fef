import EbusGateway.Library.Channel
import EbusGateway.Library.Goroutine
import EbusGateway.Library.Transition

/-! The GraphQL broadcast hub: subscribers of raw broadcasts and of the semantic topics, each with a buffered channel
that is closed when its context is done, and publishers that copy the subscribers of a topic under the lock and send to
the copies after it. The `uint64` ids are natural numbers: a run is taken to count none of them up to 2^64.
-/
namespace EbusGateway.BroadcastHub
open Library

def broadcastBufferSize : Nat := 16

structure Frame where
  source : UInt8
  target : UInt8
  primary : UInt8
  secondary : UInt8
  data : List UInt8

structure BroadcastEvent where
  source : UInt8
  target : UInt8
  primary : UInt8
  secondary : UInt8
  data : List UInt8
deriving DecidableEq

structure BroadcastKey where
  primary : UInt8
  secondary : UInt8
deriving DecidableEq

inductive Topic
  | broadcast (key : BroadcastKey)
  | zones
  | dhw
  | energy
  | boiler
  | radioDevices
deriving DecidableEq

def Topic.isBroadcast : Topic → Bool
  | .broadcast _ => true
  | _ => false

inductive Payload (α : Type)
  | event (event : BroadcastEvent)
  | update (value : α)
deriving DecidableEq

inductive Publish (α : Type)
  | onBroadcast (frame : Frame)
  | publishZoneUpdate (zone : α)
  | publishDHWUpdate (status : Option α)
  | publishEnergyUpdate (totals : Option α)
  | publishBoilerStatusUpdate (status : Option α)
  | publishRadioDevicesUpdate (devices : α)

variable {α : Type}

def Publish.message : Publish α → Option (Topic × Payload α)
  | .onBroadcast frame =>
    some (.broadcast ⟨frame.primary,frame.secondary⟩,.event ⟨frame.source,frame.target,frame.primary,frame.secondary,frame.data⟩)
  | .publishZoneUpdate zone => some (.zones,.update zone)
  | .publishDHWUpdate status => status.map fun value => (.dhw,.update value)
  | .publishEnergyUpdate totals => totals.map fun value => (.energy,.update value)
  | .publishBoilerStatusUpdate status => status.map fun value => (.boiler,.update value)
  | .publishRadioDevicesUpdate devices => some (.radioDevices,.update devices)

structure Subscriber (α : Type) where
  ch : Channel (Nat × Payload α) broadcastBufferSize := .empty
  closeOnce : Bool := false
  closes : Nat := 0
  received : List (Nat × Payload α) := []

namespace Subscriber

def close (sub : Subscriber α) : Subscriber α :=
  if sub.closeOnce then sub else {sub with closeOnce := true, closes := sub.closes + 1}

def accepted (sub : Subscriber α) : List (Nat × Payload α) := sub.received ++ sub.ch.buffer

end Subscriber

structure Publication (α : Type) where
  publisher : Nat
  topic : Topic
  payload : Payload α
  subscribed : List Nat

/-- The hub. `done` says whose context has ended; `published` is the history of publications, and `panicked` stands
for the end of the process by a send on a closed channel. -/
structure Hub (α : Type) where
  subscribers : Topic → List Nat := fun _ => []
  nextID : Nat := 0
  subs : Nat → Subscriber α := fun _ => {}
  done : Nat → Bool := fun _ => false
  changes : Nat := 0
  published : List (Publication α) := []
  panicked : Bool := false

variable (hub : Hub α)

def Hub.setSub (id : Nat) (sub : Subscriber α) : Hub α := {hub with subs := Function.update hub.subs id sub}

inductive Name
  | publisher (id : Nat)
  | task
deriving DecidableEq

def sequential : Name → Bool
  | .publisher _ => true
  | .task => false

inductive Act (α : Type)
  | subscribe (topic : Topic)
  | notifyChange
  | await (topic : Topic) (id : Nat)
  | contextDone (topic : Topic) (id : Nat)
  | remove (topic : Topic) (id : Nat)
  | close (id : Nat)
  | copy (publisher : Nat) (topic : Topic) (payload : Payload α)
  | send (publisher id : Nat) (payload : Payload α)

inductive Event (α : Type)
  | subscribe (topic : Topic)
  | cancel (id : Nat)
  | publish (publisher : Nat) (call : Publish α)
  | receive (id : Nat)

structure Choice where
  order : List Nat := []

abbrev Outcome (α : Type) := Effect Name (Act α) (Hub α)

def subscribe (topic : Topic) : Outcome α :=
  let id := hub.nextID + 1
  {shared := {hub with nextID := id, subscribers := Function.update hub.subscribers topic (hub.subscribers topic ++ [id])}
   code := (if topic.isBroadcast && (hub.subscribers topic).isEmpty then [.notifyChange] else []) ++ [.await topic id]}

def removeSubscriber (topic : Topic) (id : Nat) : Outcome α :=
  let subscribers := hub.subscribers topic
  {shared := {hub with subscribers := Function.update hub.subscribers topic (subscribers.erase id)}
   code := (if subscribers.contains id then [.close id] else []) ++
    (if topic.isBroadcast && !subscribers.isEmpty && (subscribers.erase id).isEmpty then [.notifyChange] else [])}

def copySubscribers (choice : Choice) (hub : Hub α) (publisher : Nat) (topic : Topic) (payload : Payload α) : Outcome α :=
  let subscribers := hub.subscribers topic
  let list := if choice.order.isPerm subscribers then choice.order else subscribers
  {shared := {hub with published := hub.published ++ [⟨publisher,topic,payload,subscribers⟩]}
   code := list.map (.send publisher · payload)}

def sendTo (publisher id : Nat) (payload : Payload α) : Hub α :=
  let sub := hub.subs id
  if 0 < sub.closes then {hub with panicked := true}
  else match sub.ch.send (publisher,payload) with
    | some ch => hub.setSub id {sub with ch := ch}
    | none => hub

def perform (choice : Choice) (act : Act α) (hub : Hub α) : Option (Outcome α) :=
  match act with
  | .subscribe topic => some (subscribe hub topic)
  | .notifyChange => some {shared := {hub with changes := hub.changes + 1}}
  | .await topic id => some {shared := hub, forked := [⟨.task,[.contextDone topic id]⟩]}
  | .contextDone topic id => if hub.done id then some {shared := hub, code := [.remove topic id]} else none
  | .remove topic id => some (removeSubscriber hub topic id)
  | .close id => some {shared := hub.setSub id (hub.subs id).close}
  | .copy publisher topic payload => some (copySubscribers choice hub publisher topic payload)
  | .send publisher id payload => some {shared := sendTo hub publisher id payload}

def launch (event : Event α) (hub : Hub α) : Option (Outcome α × Name) :=
  match event with
  | .subscribe topic => some ({shared := hub, code := [.subscribe topic]},.task)
  | .cancel id => some ({shared := {hub with done := Function.update hub.done id true}},.task)
  | .publish publisher call =>
    some ({shared := hub, code := call.message.toList.map fun message => .copy publisher message.1 message.2},.publisher publisher)
  | .receive id =>
    (hub.subs id).ch.receive.map fun taken =>
      ({shared := hub.setSub id {hub.subs id with ch := taken.2, received := (hub.subs id).received ++ [taken.1]}},.task)

def program (α : Type) : Program Name (Act α) (Hub α) (Event α) Choice := ⟨sequential,launch,perform⟩

abbrev System (α : Type) := Machine Name (Act α) (Hub α)
abbrev Label (α : Type) := Move (Event α) Choice

def step (system : System α) (label : Label α) : Option (System α) := system.step (program α) label

def initially (α : Type) : System α := ⟨{},[]⟩

end EbusGateway.BroadcastHub
