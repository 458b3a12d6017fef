import EbusGateway.Semhub.Publication

/-! The hub as a whole: calls from anywhere start their first section, and the sections of different calls
interleave in every way. A call that gets a handle gets one that the hub gave out.
-/
namespace EbusGateway.Semhub
open Library
variable {Kernel : Type}

inductive Event
  | declare (asset source driver : Text) (packs : List Text)
  | reserve (driver : Text) (kind : Kind) (id : Text)
  | admitSource (request : Admission)
  | withdraw (handle : Handle) (journal : Bool)
  | admitSuccessor (previous : Handle) (operation : Text)
  | activate (previous : Handle) (generation : Nat)
  | retireProvisional (source epoch : Text) (journal : Bool)
  | begin (handle : Handle) (asset : Text) (mode : Mode)
  | control (source : Text) (request : Request)
  | retryControl (source : Text) (index : Nat)
  | abandonControl (source : Text) (index : Nat)
  | settle (asset : Text)

namespace Hub
variable (out : Outside Kernel) (cfg : Config)

def perform (choice : Choice) (act : Act Kernel) (hub : Hub Kernel) : Option (Step Kernel) :=
  match act with
  | .admitCheck request registered => hub.admitCheck request registered
  | .admitCommit request registered => some (hub.admitCommit out cfg choice request registered)
  | .succeedCommit previous operation => some (hub.succeedCommit out cfg choice previous operation)
  | .activateCommit previous generation => some (hub.activateCommit cfg choice previous generation)
  | .stage handle asset mode => hub.stage handle asset mode
  | .commit tx => some (hub.commit out cfg choice tx)
  | .controlRead source request => some (hub.controlRead source request)
  | .trial preflight todo published already => some (hub.trials out preflight todo published already)
  | .retrial preflight todo published skipped => some (hub.retrials out preflight todo published skipped)
  | .revoke source request published skipped => some (hub.revoke out cfg choice source request published skipped)
  | .cover source index => hub.cover source index
  | .process source index todo retry => some (hub.process source index todo retry)
  | .submit submission resubmit => hub.submit out cfg submission resubmit
  | .resume submission => hub.resume choice submission
  | .swap submission => some (hub.swap out cfg submission)
  | .delivered submission => hub.delivered choice submission

def holding (hub : Hub Kernel) (handle : Handle) (step : Option (Step Kernel)) : Option (Step Kernel × Unit) :=
  if hub.handles.contains handle then step.map (·,()) else none

def launch (event : Event) (hub : Hub Kernel) : Option (Step Kernel × Unit) :=
  match event with
  | .declare asset source driver packs => some ({shared := hub.declare out asset source driver packs},())
  | .reserve driver kind id => some ({shared := hub.reserve driver kind id},())
  | .admitSource request => some (hub.admitSource request,())
  | .withdraw handle journal => hub.holding handle (hub.withdraw out cfg {journal := journal} handle)
  | .admitSuccessor previous operation => hub.holding previous (hub.admitSuccessor previous operation)
  | .activate previous generation => hub.holding previous (hub.activate previous generation)
  | .retireProvisional source epoch journal => some (hub.revokeEpoch out cfg {journal := journal} source epoch,())
  | .begin handle asset mode => hub.holding handle (some (hub.startTx handle asset mode))
  | .control source request => (hub.control out source request).map (·,())
  | .retryControl source index => (hub.retryControl source index).map (·,())
  | .abandonControl source index => (hub.abandonControl source index).map (·,())
  | .settle asset => some (hub.settle asset,())

end Hub

def program (out : Outside Kernel) (cfg : Config) : Program Unit (Act Kernel) (Hub Kernel) Event Choice :=
  {sequential := fun _ => false, launch := Hub.launch out cfg, perform := Hub.perform out cfg}

abbrev System (Kernel : Type) := Machine Unit (Act Kernel) (Hub Kernel)

abbrev step (out : Outside Kernel) (cfg : Config) : System Kernel → Move Event Choice → Option (System Kernel) :=
  Machine.step (program out cfg)

def initially (incarnation : Text) : System Kernel := ⟨{incarnation := incarnation},[]⟩

end EbusGateway.Semhub
