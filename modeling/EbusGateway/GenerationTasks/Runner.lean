import EbusGateway.EbusControl.Bridge

/-! The runner of the tasks that a generation of the primary eBUS driver owns. A goroutine is a call of the runner,
a use of a scope, a task or a helper; its actions are the critical sections of the runner's lock, the acquisitions
of the gate and the runs of bodies and effects, which may use any scope at any time. What the admission predicate
answers and when a deadline expires is chosen. A ready task may be skipped as if the fence had been raised.
-/
namespace EbusGateway.GenerationTasks
open Library

structure Key where
  control : EbusControl.Key := {}
  native : Nat := 0
deriving DecidableEq

def Key.complete (key : Key) : Bool :=
  key.control.driverID ≠ "" && key.control.sourceID ≠ "" && key.control.epoch ≠ "" && key.control.generation ≠ 0 && key.native ≠ 0

structure Task where
  name : String
  requires : List String := []
  run : Bool := true

structure Config where
  tasks : List Task
  admitted : Bool := true
  failure : Bool := true

structure Spec where
  name : String
  requires : List Nat

def isLower (c : Char) : Bool := 'a' ≤ c && c ≤ 'z'

def isLowerOrDigit (c : Char) : Bool := isLower c || '0' ≤ c && c ≤ '9'

def nameTail : Bool → List Char → Bool
  | separated, [] => !separated
  | separated, c :: rest =>
    if isLowerOrDigit c then nameTail false rest
    else (c = '.' || c = '_' || c = '-') && !separated && nameTail true rest

def canonicalName (name : String) : Bool :=
  name.utf8ByteSize ≤ 64 && match name.toList with
    | [] => false
    | c :: rest => isLower c && nameTail false rest

def requirements (names requires : List String) : Option (List Nat) :=
  (requires.mapM names.idxOf?).filter fun found => found.Nodup

def freeze (names : List String) : List Task → Option (List Spec)
  | [] => some []
  | task :: rest =>
    if !canonicalName task.name || names.contains task.name || !task.run then none
    else
      (requirements names task.requires).bind fun requires =>
        (freeze (names ++ [task.name]) rest).map (⟨task.name,requires⟩ :: ·)

inductive TaskState
  | pending
  | running
  | succeeded
  | failed
  | cancelled
  | skipped
deriving DecidableEq

inductive Kind
  | task
  | helper
  | effect
  | report
deriving DecidableEq

def Kind.gated : Kind → Bool
  | .effect | .report => true
  | _ => false

structure Run where
  key : Key := {}
  fenced : Bool := false
  cancelled : Bool := false
  states : List TaskState := []
  active : Nat := 0
  units : List String := []
  joined : Bool := false
  serialized : Bool := false
  fencing : Bool := false
  locked : Bool := false

/-- What happened in order, by the number of the generation. A generation is silenced when a fence of its key
returned true, or a withdrawal of its key returned joined and had found the key admitted. -/
inductive Note
  | began (generation : Nat) (kind : Kind)
  | ended (generation : Nat) (kind : Kind)
  | silenced (generation : Nat)
deriving DecidableEq

structure Runner where
  tasks : List Spec
  failure : Bool := true
  readers : Nat := 0
  writer : Bool := false
  current : Option Nat := none
  lastNative : Nat := 0
  closed : Bool := false
  runs : Nat → Run := fun _ => {}
  count : Nat := 0
  journal : List Note := []

def newRunner (config : Config) : Option Runner :=
  if !config.admitted || config.tasks.isEmpty || 32 < config.tasks.length then none
  else (freeze [] config.tasks).map fun tasks => {tasks := tasks, failure := config.failure}

namespace Run

variable (run : Run)

def enter (unit : String) : Run := {run with active := run.active + 1, units := unit :: run.units}

def settle : Run := {run with joined := run.joined || run.fenced && run.serialized && run.active = 0}

def exit (unit : String) : Run := {run with active := run.active - 1, units := run.units.erase unit}.settle

def pending : List String := run.units.dedup.mergeSort

def live (admitted : Bool) : Bool := !run.fenced && !run.cancelled && admitted

def launch (i : Nat) (name : String) : Run := {run with states := run.states.set i .running}.enter name

def roots (tasks : List Spec) : List Nat := (List.range tasks.length).filter fun i => tasks[i]?.any (·.requires.isEmpty)

def launchAll (tasks : List Spec) (launched : List Nat) : Run :=
  launched.foldl (fun run i => run.launch i ((tasks[i]?.map (·.name)).getD "")) run

def verdict (states : List TaskState) (fenced : Bool) (spec : Spec) : Option Bool :=
  let blocked := spec.requires.any fun i => states[i]?.any fun state => state ≠ .succeeded && state ≠ .pending && state ≠ .running
  let ready := spec.requires.all fun i => states[i]?.all fun state => state ≠ .pending && state ≠ .running
  if blocked || ready && fenced then some false else if ready then some true else none

def advance (seen : Nat → Bool) : Nat → List Spec → List TaskState → List TaskState × List Nat
  | _, [], states => (states,[])
  | i, spec :: rest, states =>
    if states[i]? ≠ some .pending then advance seen (i + 1) rest states
    else
      match verdict states (seen i) spec with
      | some true =>
        let (states,launched) := advance seen (i + 1) rest (states.set i .running)
        (states,i :: launched)
      | some false => advance seen (i + 1) rest (states.set i .skipped)
      | none => advance seen (i + 1) rest states

end Run

namespace Runner

def update (r : Runner) (i : Nat) (f : Run → Run) : Runner := {r with runs := Function.update r.runs i (f (r.runs i))}

variable (r : Runner)

def note (notes : List Note) : Runner := {r with journal := r.journal ++ notes}

def admission (key : Key) (admitted : Bool) : Option Run :=
  if !key.complete || !admitted || r.closed then none
  else if r.current.any fun i => (r.runs i).key = key || !(r.runs i).fenced || !(r.runs i).joined then none
  else if key.native ≤ r.lastNative then none
  else some ({key := key, states := List.replicate r.tasks.length .pending : Run}.launchAll r.tasks (Run.roots r.tasks))

def install (run : Run) : Runner :=
  {r with runs := Function.update r.runs r.count run, count := r.count + 1, current := some r.count, lastNative := run.key.native}

def owner (key : Key) : Option Nat := r.current.filter fun i => (r.runs i).key = key

def admittedAs (key : Key) : List Nat := (List.range r.count).filter fun i => (r.runs i).key = key

def finish (i task : Nat) (state : TaskState) (seen : Nat → Bool) : Runner × List Nat :=
  let run := r.runs i
  let (states,launched) := Run.advance seen 0 r.tasks (run.states.set task state)
  let started := {run with states := states}.launchAll r.tasks launched
  (r.update i fun _ => started.exit ((r.tasks[task]?.map (·.name)).getD ""),launched)

end Runner

inductive Purpose
  | fence
  | withdraw
  | sync (key : Key) (admitted : Bool)
  | close
deriving DecidableEq

inductive Act
  | admitKey (key : Key)
  | fence (key : Key)
  | withdraw (key : Key)
  | sync (key : Key) (admitted : Bool)
  | syncCheck (run : Option Nat) (key : Key) (admitted : Bool)
  | syncAdmit (run : Option Nat) (key : Key) (admitted : Bool)
  | close
  | raise (run : Nat) (purpose : Purpose)
  | cancel (run : Nat) (purpose : Purpose)
  | awaitFence (run : Nat) (purpose : Purpose)
  | join (run : Nat) (purpose : Purpose)
  | lockGate (run : Nat)
  | serialize (run : Nat)
  | unlockGate (run : Nat)
  | closeLocked (run : Nat)
  | execute (run task : Nat)
  | runTask (run task : Nat)
  | taskBody (run task : Nat)
  | taskEnd (run task : Nat) (failed : Bool)
  | report (run task : Nat)
  | reported (run task : Nat)
  | finish (run task : Nat) (state : TaskState)
  | commit (run : Nat) (unit : String)
  | enter (run : Nat) (unit : String)
  | effect (run : Nat) (unit : String)
  | effectEnd (run : Nat) (unit : String)
  | leave (run : Nat) (unit : String) (gated : Bool)
  | release (run : Nat)
  | go (run : Nat) (unit : String) (unconditional : Bool)
  | goEnter (run : Nat) (unit : String) (unconditional : Bool)
  | goRelease (run : Nat) (unit : String) (unconditional : Bool)
  | helper (run : Nat) (unit : String) (unconditional : Bool)
  | helperRun (run : Nat) (unit : String)
  | helperEnd (run : Nat) (unit : String)

inductive Event
  | admitKey (key : Key)
  | fence (key : Key)
  | withdraw (key : Key)
  | sync (key : Key) (admitted : Bool)
  | close
  | commit (run : Nat) (task : String)
  | callback (run : Nat) (task : String)
  | go (run : Nat) (task : String)
  | goJoin (run : Nat) (task : String)

/-- What the surroundings choose in one action: the answer of the admission predicate, whether a deadline has
expired, whether a task fails, and from which task on a fence raised meanwhile is seen. -/
structure Choice where
  admitted : Bool := true
  expired : Bool := false
  fails : Bool := false
  seenFrom : Option Nat := none

abbrev Outcome := Effect Unit Act Runner

def launch (event : Event) (r : Runner) : Option (Outcome × Unit) :=
  let scope (run : Nat) (act : Act) : Option (Outcome × Unit) :=
    if run < r.count then some ({shared := r, code := [act]},()) else none
  match event with
  | .admitKey key => some ({shared := r, code := [.admitKey key]},())
  | .fence key => some ({shared := r, code := [.fence key]},())
  | .withdraw key => some ({shared := r, code := [.withdraw key]},())
  | .sync key admitted => some ({shared := r, code := [.sync key admitted]},())
  | .close => some ({shared := r, code := [.close]},())
  | .commit run task => scope run (.commit run (task ++ "/commit"))
  | .callback run task => scope run (.commit run (task ++ "/callback"))
  | .go run task => scope run (.go run (task ++ "/go") false)
  | .goJoin run task => scope run (.go run (task ++ "/go") true)

def executions (run : Nat) (launched : List Nat) : List (Thread Unit Act) := launched.map fun task => ⟨(),[.execute run task]⟩

def perform (choice : Choice) (act : Act) (r : Runner) : Option Outcome :=
  match act with
  | .admitKey key =>
    match r.admission key choice.admitted with
    | none => some {shared := r}
    | some run => some {shared := r.install run, forked := executions r.count (Run.roots r.tasks)}
  | .fence key =>
    match r.owner key with
    | none => some {shared := r}
    | some run => some {shared := r, code := [.raise run .fence]}
  | .withdraw key =>
    match r.owner key with
    | none => some {shared := r.note ((r.admittedAs key).map .silenced)}
    | some run => some {shared := r, code := [.raise run .withdraw]}
  | .sync key admitted => some {shared := r, code := [.syncCheck r.current key admitted]}
  | .syncCheck run key admitted =>
    match run.filter fun i => (!admitted || (r.runs i).key ≠ key) && !choice.admitted with
    | some i => some {shared := r, code := [.raise i (.sync key admitted)]}
    | none => some {shared := r, code := if admitted then [.syncAdmit run key admitted] else []}
  | .syncAdmit run key admitted =>
    if !admitted || run.any fun i => (r.runs i).key ≠ key && choice.admitted then some {shared := r} else some {shared := r, code := [.admitKey key]}
  | .close =>
    match r.current with
    | none => some {shared := {r with closed := true}}
    | some run => some {shared := {r with closed := true}, code := [.raise run .close]}
  | .raise run purpose => some {shared := r.update run fun run => {run with fenced := true}, code := [.cancel run purpose]}
  | .cancel run purpose =>
    some {
      shared := r.update run fun run => {run with cancelled := true, fencing := true}
      code := [.awaitFence run purpose]
      forked := if (r.runs run).fencing then [] else [⟨(),[.lockGate run]⟩]}
  | .awaitFence run purpose =>
    if !(r.runs run).locked && !choice.expired then none
    else if purpose = .fence then some {shared := if (r.runs run).locked then r.note [.silenced run] else r}
    else some {shared := r, code := [.join run purpose]}
  | .join run purpose =>
    if !(r.runs run).joined && !choice.expired then none
    else
      match purpose with
      | .fence | .close => some {shared := r}
      | .withdraw => some {shared := if (r.runs run).joined then r.note [.silenced run] else r}
      | .sync key admitted => some {shared := r, code := if (r.runs run).joined then [.syncAdmit (some run) key admitted] else []}
  | .lockGate run => if r.writer || r.readers ≠ 0 then none else some {shared := {r with writer := true}, code := [.serialize run]}
  | .serialize run => some {shared := r.update run fun run => {run with serialized := true}.settle, code := [.unlockGate run]}
  | .unlockGate run => some {shared := {r with writer := false}, code := [.closeLocked run]}
  | .closeLocked run => some {shared := r.update run fun run => {run with locked := true}}
  | .execute run task =>
    if r.writer then none
    else some {shared := r, code := [if (r.runs run).live choice.admitted then .runTask run task else .finish run task .cancelled]}
  | .runTask run task => some {shared := r.note [.began run .task], code := [.taskBody run task]}
  | .taskBody run task => some {shared := r.note [.ended run .task], code := [.taskEnd run task choice.fails]}
  | .taskEnd run task failed =>
    let state : TaskState := if !failed then .succeeded
      else if (r.runs run).fenced || (r.runs run).cancelled then .cancelled else .failed
    some {shared := r, code := [if state = .failed && r.failure then .report run task else .finish run task state]}
  | .report run task =>
    if r.writer then none
    else if (r.runs run).live choice.admitted then
      some {shared := {r with readers := r.readers + 1}.note [.began run .report], code := [.reported run task]}
    else some {shared := r, code := [.finish run task .failed]}
  | .reported run task => some {shared := {r with readers := r.readers - 1}.note [.ended run .report], code := [.finish run task .failed]}
  | .finish run task state =>
    let seen (i : Nat) : Bool := (r.runs run).fenced || choice.seenFrom.any (· ≤ i)
    let (next,launched) := r.finish run task state seen
    some {shared := next, forked := executions run launched}
  | .commit run unit =>
    if r.writer then none
    else if (r.runs run).live choice.admitted then some {shared := {r with readers := r.readers + 1}, code := [.enter run unit]}
    else some {shared := r}
  | .enter run unit => some {shared := r.update run (·.enter unit), code := [.effect run unit]}
  | .effect run unit => some {shared := r.note [.began run .effect], code := [.effectEnd run unit]}
  | .effectEnd run unit => some {shared := r.note [.ended run .effect], code := [.leave run unit true]}
  | .leave run unit gated => some {shared := r.update run (·.exit unit), code := if gated then [.release run] else []}
  | .release _ => some {shared := {r with readers := r.readers - 1}}
  | .go run unit unconditional =>
    if r.writer then none
    else if (r.runs run).live choice.admitted then
      some {shared := {r with readers := r.readers + 1}, code := [.goEnter run unit unconditional]}
    else some {shared := r}
  | .goEnter run unit unconditional => some {shared := r.update run (·.enter unit), code := [.goRelease run unit unconditional]}
  | .goRelease run unit unconditional =>
    some {shared := {r with readers := r.readers - 1}, forked := [⟨(),[.helper run unit unconditional]⟩]}
  | .helper run unit unconditional =>
    if r.writer then none
    else some {shared := r, code := [if (r.runs run).live choice.admitted || unconditional then .helperRun run unit
      else .leave run unit false]}
  | .helperRun run unit => some {shared := r.note [.began run .helper], code := [.helperEnd run unit]}
  | .helperEnd run unit => some {shared := r.note [.ended run .helper], code := [.leave run unit false]}

def program : Program Unit Act Runner Event Choice where
  sequential _ := false
  launch := launch
  perform := perform

abbrev System := Machine Unit Act Runner

def created (runner : Runner) : System := ⟨runner,[]⟩

def step : System → Move Event Choice → Option System := Machine.step program

end EbusGateway.GenerationTasks
