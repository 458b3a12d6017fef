import EbusGateway.Library.ReplacedFile
import EbusGateway.RuntimeState.Revisions

/-! What a crash leaves of the control namespace. Every write of the runtime-state file goes through one
temporary file and one rename, under the write semaphore; control transactions require the directory sync
that generic writes tolerate to fail. -/

namespace EbusGateway.RuntimeState
open Library List

variable {Rest : Type}

structure File (Rest : Type) where
  rest : Rest
  control : Option Namespace

inductive Purpose
  | generic
  | control (stage : Namespace)

inductive Writer (Rest : Type)
  | idle
  | writeFile (snap : File Rest) (purpose : Purpose)
  | fsyncFile (purpose : Purpose)
  | rename (purpose : Purpose)
  | fsyncDir (purpose : Purpose)
  | unlink
  | written (purpose : Purpose)
  | doubted (stage : Namespace)
  | readback (staged : Bool)
  | readBack (staged : Bool)

/-- `control` is the namespace exposed last. A readback that settles nothing sets `failed`, after which no namespace is
exposed any more and writes keep the `preserved` one; `blocked` is the block of all persistence. The code forgets which
namespace such a readback was about, `unsettled` does not. -/
structure Store (Rest : Type) where
  rest : Rest
  control : Option Namespace := none
  failed : Bool := false
  ambiguous : Option Namespace := none
  preserved : Option Namespace := none
  unsettled : Option Namespace := none
  blocked : Bool := false
  disk : Disk (File Rest) := {}
  writer : Writer Rest := .idle

inductive Found
  | staged
  | committed
  | neither
  | unreadable
  | corrupt

inductive Label (Rest : Type)
  | mutate (rest : Rest)
  | persistFlush
  | commitControl (stage : Namespace)
  | resolveControlReadback (found : Found)
  | hook (ok : Bool) (left : Option (File Rest))
  | finish
  | closeWrites
  | crash (index : Nat) (torn : File Rest)

namespace Store

/-- What a start finds in the file is taken to be durable: a process that ends without a crash of the system is no step. -/
def opened (fresh : Rest) (file : Option (File Rest)) : Store Rest :=
  {rest := (file.map (·.rest)).getD fresh
   control := (file.bind (·.control)).map (·.reload)
   disk := {file := file.map fun content => ⟨content,true⟩}}

def hook (s : Store Rest) (ok : Bool) (left : Option (File Rest)) : Option (Store Rest) :=
  match s.writer,ok with
  | .writeFile snap purpose,true => some {s with disk := s.disk.writeTemp snap, writer := .fsyncFile purpose}
  | .writeFile _ _,false =>
    some {s with disk := {s.disk with temp := left.map fun content => ⟨content,false⟩}, writer := .unlink}
  | .fsyncFile purpose,true => some {s with disk := s.disk.syncTemp, writer := .rename purpose}
  | .fsyncFile _,false => some {s with writer := .unlink}
  | .rename purpose,true => some {s with disk := s.disk.rename, writer := .fsyncDir purpose}
  | .rename _,false => some {s with writer := .unlink}
  | .fsyncDir purpose,true => some {s with disk := s.disk.syncDir, writer := .written purpose}
  | .fsyncDir .generic,false => some {s with writer := .written .generic}
  | .fsyncDir (.control stage),false => some {s with writer := .doubted stage}
  | .unlink,true => some {s with disk := s.disk.unlink, writer := .idle}
  | .unlink,false => some {s with writer := .idle}
  | .readback staged,true => some {s with disk := s.disk.syncDir, writer := .readBack staged}
  | .readback _,false => some {s with writer := .idle}
  | _,_ => none

def finish (s : Store Rest) : Option (Store Rest) :=
  match s.writer with
  | .written .generic => some {s with writer := .idle}
  | .written (.control stage) => some {s with control := some stage, writer := .idle}
  | .doubted stage => some {s with ambiguous := some stage, writer := .idle}
  | .readBack true => some {s with control := s.ambiguous, ambiguous := none, writer := .idle}
  | .readBack false => some {s with ambiguous := none, writer := .idle}
  | _ => none

def failControl (s : Store Rest) (preserved : Option Namespace) : Store Rest :=
  {s with
    failed := true, ambiguous := none, unsettled := s.ambiguous
    preserved := preserved, blocked := s.blocked || preserved.isNone}

/-- The readback decodes the file and compares encodings. A decoded failed record may be encoded with other
bytes than before, so agreement up to decoding permits, and exact agreement forces, a match. -/
def resolveControlReadback (s : Store Rest) (found : Found) : Option (Store Rest) :=
  match s.writer,s.ambiguous,s.disk.file with
  | .idle,some _,none => some (s.failControl none)
  | .idle,some stage,some inode =>
    let read := inode.content.control.map (·.reload)
    match found with
    | .staged => if read = some stage.reload then some {s with writer := .readback true} else none
    | .committed => if read = s.control.map (·.reload) then some {s with writer := .readback false} else none
    | .neither => if read = some stage ∨ read = s.control then none else some (s.failControl read)
    | .unreadable | .corrupt => some (s.failControl none)
  | _,_,_ => none

def kept (s : Store Rest) : Option Namespace := s.preserved.or s.control

def perform (fresh : Rest) (s : Store Rest) : Label Rest → Option (Store Rest)
  | .mutate rest => some {s with rest := rest}
  | .persistFlush =>
    match s.writer with
    | .idle =>
      if s.blocked || s.ambiguous.isSome then none
      else some {s with writer := .writeFile ⟨s.rest,s.kept⟩ .generic}
    | _ => none
  | .commitControl stage =>
    match s.writer with
    | .idle =>
      if s.blocked || s.ambiguous.isSome || s.failed then none
      else some {s with writer := .writeFile ⟨s.rest,some stage⟩ (.control stage)}
    | _ => none
  | .resolveControlReadback found => s.resolveControlReadback found
  | .hook ok left => s.hook ok left
  | .finish => s.finish
  | .closeWrites =>
    match s.writer with
    | .idle => some {s with blocked := true}
    | _ => none
  | .crash index torn => (s.disk.crash index torn).map (opened fresh)

/-- Being written or held ambiguous. -/
def staged (s : Store Rest) : Option Namespace :=
  match s.writer with
  | .writeFile _ (.control stage) | .fsyncFile (.control stage) | .rename (.control stage) | .fsyncDir (.control stage)
  | .written (.control stage) | .doubted stage => some stage
  | _ => s.ambiguous

def held (s : Store Rest) : Option Namespace := s.ambiguous.or s.unsettled

def renamed (s : Store Rest) : Option Namespace :=
  match s.writer with
  | .fsyncDir (.control stage) | .written (.control stage) | .doubted stage => some stage
  | _ => s.held

def target (s : Store Rest) : Purpose → Option Namespace
  | .generic => s.kept
  | .control stage => some stage

def Free (s : Store Rest) : Purpose → Prop
  | .generic => s.ambiguous = none ∧ (s.unsettled.isSome → s.preserved.isSome)
  | .control _ => s.ambiguous = none ∧ s.unsettled = none ∧ s.blocked = false

end Store

def Agree (a b : Option Namespace) : Prop := a.map (·.reload) = b.map (·.reload)

namespace Namespace

theorem reload_eq {ns : Namespace} (unripe : ns.failed.keys.filter (fun id =>
    ((ns.failed.lookup id).bind (·.record)).any (·.desiredRevision ≤ ns.mark)) = []) : ns.reload = ns := by
  unfold reload
  rw [unripe]
  rfl

theorem reload_reload (ns : Namespace) : ns.reload.reload = ns.reload := by
  apply reload_eq
  rw [filter_eq_nil_iff]
  intro id _ ripe
  have found : ns.reload.failed.lookup id = _ := lookup_eraseAll _ ns.failed id
  rw [found] at ripe
  split at ripe
  · cases ripe
  rename_i unripe
  refine unripe (mem_filter.mpr ⟨?_,ripe⟩)
  obtain ⟨r,held,_⟩ := (Option.any_eq_true _ _).mp ripe
  obtain ⟨f,listed,_⟩ := Option.bind_eq_some_iff.mp held
  exact AList.mem_keys.mp (AList.lookup_isSome.mp (by rw [listed]; rfl))

end Namespace

theorem Agree.reload (a : Option Namespace) : Agree (a.map (·.reload)) a := by
  cases a with
  | none => rfl
  | some ns => exact congrArg some ns.reload_reload

def Allowed (exposed staged : Option Namespace) (content : Option (File Rest)) : Prop :=
  Agree (content.bind (·.control)) exposed ∨ ∃ stage, staged = some stage ∧ Agree (content.bind (·.control)) (some stage)

namespace Store

def Writing (s : Store Rest) : Prop :=
  match s.writer with
  | .idle | .unlink => True
  | .writeFile snap purpose => s.Free purpose ∧ snap.control = s.target purpose
  | .fsyncFile purpose => s.Free purpose ∧ ∃ content synced, s.disk.temp = some ⟨content,synced⟩ ∧ content.control = s.target purpose
  | .rename purpose => s.Free purpose ∧ ∃ content, s.disk.temp = some ⟨content,true⟩ ∧ content.control = s.target purpose
  | .fsyncDir purpose => s.Free purpose
  | .doubted stage => s.Free (.control stage)
  | .written .generic => s.Free .generic
  | .written (.control stage) => s.Free (.control stage) ∧ s.disk.earlier = []
  | .readback staged => s.ambiguous.isSome ∧ (staged = false → Agree ((s.disk.file.map (·.content)).bind (·.control)) s.control)
  | .readBack staged =>
    s.ambiguous.isSome ∧ (staged = false → Agree ((s.disk.file.map (·.content)).bind (·.control)) s.control) ∧ s.disk.earlier = []

structure Remembers (ambiguous unsettled preserved : Option Namespace) (failed blocked : Bool) : Prop where
  apart : ambiguous.isSome → unsettled = none
  closed : unsettled.isSome → failed = true ∧ (preserved.isSome ∨ blocked = true)
  kept : ∀ ns, preserved = some ns → ∃ stage, unsettled = some stage ∧ Agree (some ns) (some stage)

structure Durable (s : Store Rest) : Prop where
  holds : s.disk.Holds (Allowed s.control s.renamed)
  visible : ∀ stage, s.renamed = some stage → Agree ((s.disk.file.map (·.content)).bind (·.control)) (some stage)
  writing : s.Writing
  remembers : Remembers s.ambiguous s.unsettled s.preserved s.failed s.blocked

theorem opened_durable (fresh : Rest) (file : Option (File Rest)) : (opened fresh file).Durable where
  holds := by
    refine ⟨fun inode inside => ?_,fun entry inside => .inl ?_⟩
    · have same := mem_singleton.mp inside
      obtain ⟨content,_,rfl⟩ := Option.map_eq_some_iff.mp same.symm
      rfl
    · rw [mem_singleton.mp inside]
      cases file with
      | none => rfl
      | some content => exact (Agree.reload content.control).symm
  visible stage held := by cases held
  writing := trivial
  remembers := by refine ⟨?_,?_,?_⟩ <;> intros <;> contradiction

variable {s next : Store Rest} {exposed : Option Namespace} {stage : Namespace}

theorem allowed_of_none {renamed : Option Namespace} (none : renamed = none) (staged : Option Namespace)
    (content : Option (File Rest)) (allowed : Allowed exposed renamed content) : Allowed exposed staged content := by
  rcases allowed with same | ⟨stage,held,_⟩
  · exact .inl same
  · cases none.symm.trans held

theorem Durable.kept_allowed (durable : s.Durable) (free : s.Free .generic) {content : File Rest} (same : content.control = s.kept) :
    Allowed s.control s.held (some content) ∧ ∀ stage, s.held = some stage → Agree content.control (some stage) := by
  unfold held kept at *
  rw [free.1,Option.none_or]
  cases preserved : s.preserved with
  | none =>
    rw [preserved,Option.none_or] at same
    refine ⟨.inl (congrArg _ same),fun stage held => ?_⟩
    have lost := free.2 (by rw [held]; rfl)
    rw [preserved] at lost
    cases lost
  | some ns =>
    rw [preserved,Option.some_or] at same
    obtain ⟨stage,held,agrees⟩ := durable.remembers.kept ns preserved
    have written : Agree content.control (some stage) := (congrArg _ same).trans agrees
    refine ⟨.inr ⟨stage,held,written⟩,fun other again => ?_⟩
    cases held.symm.trans again
    exact written

theorem hook_durable (durable : s.Durable) {ok : Bool} {left : Option (File Rest)}
    (ran : s.hook ok left = some next) : next.Durable := by
  obtain ⟨holds,visible,writing,remembers⟩ := id durable
  unfold hook at ran
  unfold renamed at holds visible
  unfold Writing at writing
  split at ran
  all_goals cases ran
  case h_1 snap purpose writer =>
    rw [writer] at holds visible writing
    exact ⟨holds.temp _,visible,⟨writing.1,snap,false,rfl,writing.2⟩,remembers⟩
  case h_2 writer | h_10 writer =>
    rw [writer] at holds visible
    exact ⟨holds.temp _,visible,trivial,remembers⟩
  case h_3 purpose writer =>
    rw [writer] at holds visible writing
    obtain ⟨free,content,synced,temp,same⟩ := writing
    refine ⟨holds.temp _,visible,⟨free,content,?_,same⟩,remembers⟩
    dsimp only [Disk.syncTemp]
    rw [temp]
    rfl
  case h_4 writer | h_6 writer | h_11 writer | h_13 writer =>
    rw [writer] at holds visible
    exact ⟨holds,visible,trivial,remembers⟩
  case h_5 purpose writer =>
    rw [writer] at holds visible writing
    obtain ⟨free,content,temp,same⟩ := writing
    have file : s.disk.rename.file = some ⟨content,true⟩ := Disk.rename_file temp
    cases purpose with
    | generic =>
      obtain ⟨allowed,agrees⟩ := durable.kept_allowed free same
      refine ⟨holds.rename temp allowed,fun stage held => ?_,free,remembers⟩
      dsimp only
      rw [file]
      exact agrees stage held
    | control stage =>
      have none : s.held = none := by rw [held,free.1,free.2.1]; rfl
      have exposed := holds.weaken (allowed_of_none none (some stage))
      refine ⟨exposed.rename temp (.inr ⟨stage,rfl,congrArg _ same⟩),fun staged held => ?_,free,remembers⟩
      cases held
      dsimp only
      rw [file]
      exact congrArg _ same
  case h_7 purpose writer =>
    rw [writer] at holds visible writing
    cases purpose with
    | generic => exact ⟨holds.syncDir (holds.allowed _ mem_cons_self),visible,writing,remembers⟩
    | control stage => exact ⟨holds.syncDir (holds.allowed _ mem_cons_self),visible,⟨writing,rfl⟩,remembers⟩
  case h_8 writer | h_9 stage writer =>
    rw [writer] at holds visible writing
    exact ⟨holds,visible,writing,remembers⟩
  case h_12 staged writer =>
    rw [writer] at holds visible writing
    exact ⟨holds.syncDir (holds.allowed _ mem_cons_self),visible,⟨writing.1,writing.2,rfl⟩,remembers⟩

theorem Durable.settle (durable : s.Durable) (settled : s.disk.earlier = []) {staged : Option Namespace}
    (file : Allowed exposed staged (s.disk.file.map (·.content))) : s.disk.Holds (Allowed exposed staged) := by
  have same : s.disk.syncDir = s.disk := by
    unfold Disk.syncDir
    rw [← settled]
  rw [← same]
  exact durable.holds.syncDir file

theorem finish_durable (durable : s.Durable) (ran : s.finish = some next) : next.Durable := by
  have holds := durable.holds
  have visible := durable.visible
  have writing := durable.writing
  unfold finish at ran
  unfold renamed at holds visible
  unfold Writing at writing
  split at ran
  all_goals cases ran
  case h_1 writer =>
    rw [writer] at holds visible
    exact ⟨holds,visible,trivial,durable.remembers⟩
  case h_2 stage writer =>
    rw [writer] at visible writing
    obtain ⟨⟨none,intact,_⟩,settled⟩ := writing
    refine ⟨durable.settle settled (.inl (visible stage rfl)),fun other held => ?_,trivial,durable.remembers⟩
    rw [renamed,Store.held,none,intact] at held
    cases held
  case h_3 stage writer =>
    rw [writer] at holds visible writing
    exact ⟨holds,visible,trivial,{durable.remembers with apart _ := writing.2.1}⟩
  case h_4 writer =>
    rw [writer] at visible writing
    obtain ⟨due,_,settled⟩ := writing
    obtain ⟨stage,waiting⟩ := Option.isSome_iff_exists.mp due
    have intact := durable.remembers.apart due
    have agrees := visible stage (by rw [held,waiting,Option.some_or])
    refine ⟨durable.settle settled (.inl ?_),fun other held => ?_,trivial,{durable.remembers with apart _ := intact}⟩
    · dsimp only
      rw [waiting]
      exact agrees
    · rw [renamed,Store.held] at held
      cases held.symm.trans intact
  case h_5 writer =>
    rw [writer] at visible writing
    obtain ⟨due,agrees,settled⟩ := writing
    have intact := durable.remembers.apart due
    refine ⟨durable.settle settled (.inl (agrees rfl)),fun other held => ?_,trivial,{durable.remembers with apart _ := intact}⟩
    rw [renamed,Store.held] at held
    cases held.symm.trans intact

theorem Agree.some_of {read : Option Namespace} (agrees : Agree read (some stage)) : read.isSome := by
  cases read with
  | none => cases agrees
  | some ns => rfl

theorem Durable.fail (durable : s.Durable) (idle : s.writer = .idle)
    (waiting : s.ambiguous = some stage) {preserved : Option Namespace}
    (read : preserved = none ∨ preserved.isSome ∧ ∀ ns, preserved = some ns → Agree (some ns) (some stage)) :
    (s.failControl preserved).Durable := by
  obtain ⟨holds,visible,_,remembers⟩ := durable
  have apart := remembers.apart (by rw [waiting]; rfl)
  have same : (s.failControl preserved).renamed = s.renamed := by
    rw [renamed,renamed,failControl,idle]
    dsimp only [held]
    rw [waiting,apart]
    rfl
  refine ⟨same ▸ holds,same ▸ visible,by
    rw [Writing,failControl,idle]; trivial,?_,fun _ => ⟨rfl,?_⟩,fun ns kept => ⟨stage,waiting,?_⟩⟩
  · intro impossible
    cases impossible
  · rcases read with rfl | ⟨found,_⟩
    · exact .inr (Bool.or_true _)
    · exact .inl found
  · rcases read with rfl | ⟨_,agrees⟩
    · cases kept
    · exact agrees ns kept

theorem resolveControlReadback_durable (durable : s.Durable) {found : Found}
    (ran : s.resolveControlReadback found = some next) : next.Durable := by
  have holds := durable.holds
  have visible := durable.visible
  unfold resolveControlReadback at ran
  unfold renamed at holds visible
  split at ran
  case h_1 stage writer waiting file =>
    rw [writer] at visible
    have wrong := visible stage (by rw [held,waiting,Option.some_or])
    rw [file] at wrong
    cases wrong
  case h_2 stage inode writer waiting file =>
    rw [writer] at holds visible
    have due : s.ambiguous.isSome := by rw [waiting]; rfl
    have held : s.held = some stage := by rw [held,waiting,Option.some_or]
    have same := visible stage held
    rw [file] at same
    dsimp only at ran
    cases found with
    | staged =>
      obtain ⟨_,same⟩ := Option.ite_none_right_eq_some.mp ran
      cases same
      exact ⟨holds,visible,⟨due,fun impossible => by cases impossible⟩,durable.remembers⟩
    | committed =>
      obtain ⟨agreed,same⟩ := Option.ite_none_right_eq_some.mp ran
      cases same
      refine ⟨holds,visible,⟨due,fun _ => ?_⟩,durable.remembers⟩
      dsimp only
      rw [file]
      exact agreed
    | neither =>
      obtain ⟨_,changed⟩ := Option.ite_none_left_eq_some.mp ran
      cases changed
      have read : Agree (inode.content.control.map (·.reload)) (some stage) := (Agree.reload _).trans same
      exact durable.fail writer waiting (.inr ⟨Agree.some_of read,fun ns preserved => preserved ▸ read⟩)
    | unreadable | corrupt =>
      cases ran
      exact durable.fail writer waiting (.inl rfl)
  case h_3 => cases ran

theorem idle_of_writes {s : Store Rest} {refused : Bool} {writer : Writer Rest} (ran : (match s.writer with
      | .idle => if refused then none else some {s with writer := writer}
      | _ => none) = some next) : s.writer = .idle ∧ refused = false ∧ next = {s with writer := writer} := by
  split at ran
  next idle =>
    obtain ⟨free,same⟩ := Option.ite_none_left_eq_some.mp ran
    exact ⟨idle,Bool.eq_false_of_not_eq_true free,(Option.some.inj same).symm⟩
  next => cases ran

theorem perform_durable (fresh : Rest) (durable : s.Durable) {label : Label Rest}
    (ran : s.perform fresh label = some next) : next.Durable := by
  obtain ⟨holds,visible,writing,remembers⟩ := id durable
  cases label with
  | mutate rest =>
    cases ran
    exact ⟨holds,visible,writing,remembers⟩
  | persistFlush =>
    obtain ⟨idle,free,rfl⟩ := idle_of_writes ran
    rw [Bool.or_eq_false_iff,Option.isSome_eq_false_iff,Option.isNone_iff_eq_none] at free
    unfold renamed at holds visible
    rw [idle] at holds visible
    have kept (lost : s.unsettled.isSome) : s.preserved.isSome :=
      (remembers.closed lost).2.resolve_right fun blocked => clash blocked free.1
    exact ⟨holds,visible,⟨⟨free.2,kept⟩,rfl⟩,remembers⟩
  | commitControl stage =>
    obtain ⟨idle,free,rfl⟩ := idle_of_writes ran
    rw [Bool.or_eq_false_iff,Bool.or_eq_false_iff,Option.isSome_eq_false_iff,Option.isNone_iff_eq_none] at free
    unfold renamed at holds visible
    rw [idle] at holds visible
    have intact : s.unsettled = none := by
      cases lost : s.unsettled with
      | none => rfl
      | some ns => cases free.2.symm.trans (remembers.closed (by rw [lost]; rfl)).1
    exact ⟨holds,visible,⟨⟨free.1.2,intact,free.1.1⟩,rfl⟩,remembers⟩
  | resolveControlReadback found => exact resolveControlReadback_durable durable ran
  | hook ok left => exact hook_durable durable ran
  | finish => exact finish_durable durable ran
  | closeWrites =>
    dsimp only [perform] at ran
    split at ran
    next idle =>
      cases ran
      exact ⟨holds,visible,by rw [Writing,idle]; trivial,{remembers with closed lost := ⟨(remembers.closed lost).1,.inr rfl⟩}⟩
    next => cases ran
  | crash index torn =>
    obtain ⟨file,_,rfl⟩ := Option.map_eq_some_iff.mp ran
    exact opened_durable fresh file

theorem run_durable (fresh : Rest) (file : Option (File Rest)) {labels : List (Label Rest)}
    (run : Run (perform fresh) anyStep (opened fresh file) labels s) : s.Durable :=
  Run.invariant Durable (fun _ _ _ durable _ ran => perform_durable fresh durable ran) run (opened_durable fresh file)

theorem Durable.staged (durable : s.Durable) (renamed : s.renamed = some stage) : s.staged.or s.unsettled = some stage := by
  have free (other : Namespace) (free : s.Free (.control other)) : s.held = none := by
    rw [held,free.1,free.2.1]
    rfl
  have writing := durable.writing
  unfold Writing at writing
  unfold Store.renamed at renamed
  unfold Store.staged
  cases writer : s.writer with
  | writeFile _ purpose | fsyncFile purpose | rename purpose =>
    rw [writer] at writing renamed
    cases purpose with
    | generic => exact renamed
    | control other => cases (free other writing.1).symm.trans renamed
  | fsyncDir purpose | written purpose =>
    rw [writer] at renamed
    cases purpose with
    | generic | control => exact renamed
  | idle | unlink | doubted | readback | readBack =>
    rw [writer] at renamed
    exact renamed

def manager (s : Store Rest) : Manager := {control := s.control, ambiguous := s.ambiguous, closed := s.blocked}

theorem finish_commits (durable : s.Durable) {write : Write}
    (ending : s.writer = .written (.control stage) ∧ write = .committed ∨ s.writer = .doubted stage ∧ write = .ambiguous) :
    ∃ next, s.finish = some next ∧ next.manager = (s.manager.commitControl stage write).1 := by
  have writing := durable.writing
  unfold Writing at writing
  rcases ending with ⟨writer,rfl⟩ | ⟨writer,rfl⟩
  · rw [writer] at writing
    refine ⟨_,by rw [finish,writer],?_⟩
    rw [Manager.commitControl,manager,if_neg (by rw [manager,writing.1.2.2]; exact Bool.false_ne_true)]
    rfl
  · rw [writer] at writing
    refine ⟨_,by rw [finish,writer],?_⟩
    rw [Manager.commitControl,manager,if_neg (by rw [manager,writing.2.2]; exact Bool.false_ne_true)]
    rfl

/-- Whatever the hooks do and wherever it crashes, a store reloads the namespace exposed last, the one that was
staged, or the one whose readback failed and closed the control namespace. -/
theorem crash_yields_exposed_or_staged (fresh : Rest) (file : Option (File Rest)) {labels : List (Label Rest)}
    (run : Run (perform fresh) anyStep (opened fresh file) labels s) {index : Nat} {torn : File Rest} {found : Option (File Rest)}
    (crashed : s.disk.crash index torn = some found) :
    (opened fresh found).control = s.control.map (·.reload) ∨
      ∃ stage, (s.staged = some stage ∨ s.unsettled = some stage ∧ s.failed = true) ∧
        (opened fresh found).control = some stage.reload := by
  have durable := run_durable fresh file run
  rcases durable.holds.crash crashed with exposed | ⟨stage,renamed,agrees⟩
  · exact .inl exposed
  · refine .inr ⟨stage,?_,agrees⟩
    rcases Option.or_eq_some_iff.mp (durable.staged renamed) with staged | ⟨_,unsettled⟩
    · exact .inl staged
    · exact .inr ⟨unsettled,(durable.remembers.closed (by rw [unsettled]; rfl)).1⟩

theorem crash_restarts (fresh : Rest) (durable : s.Durable) {index : Nat} {torn : File Rest} {next : Store Rest}
    (ran : s.perform fresh (.crash index torn) = some next) :
    ∃ staged, next.manager = {s.manager with ambiguous := s.staged.or s.unsettled}.restart
      staged := by
  obtain ⟨found,crashed,rfl⟩ := Option.map_eq_some_iff.mp ran
  rcases durable.holds.crash crashed with exposed | ⟨stage,renamed,agrees⟩
  · refine ⟨false,?_⟩
    unfold Manager.restart manager opened
    rw [show (found.bind (·.control)).map (·.reload) = s.control.map (·.reload) from exposed]
    rfl
  · refine ⟨true,?_⟩
    unfold Manager.restart manager opened
    rw [show (found.bind (·.control)).map (·.reload) = some stage.reload from agrees,durable.staged renamed]
    rfl

def commitsOnce : List (Label Unit) :=
  [.commitControl {mark := 1},.hook true none,.hook true none,.hook true none,.hook true none,
    .finish]

/-- A committed namespace survives a tolerated directory failure and the crash of the next transaction. -/
theorem crash_keeps_mark_one :
    ∃ (s : Store Unit) (found : Option (File Unit)), Run (perform ()) anyStep (opened () none)
        (commitsOnce ++ [.persistFlush,.hook true none,.hook true none,.hook true none,.hook false none,.finish,
          .commitControl {mark := 2},.hook true none,.hook true none,.hook true none]) s ∧
      s.disk.crash 2 ⟨(),none⟩ = some found ∧ (found.bind (·.control)).any (·.mark = 1) = true ∧
      ((opened () found).control = s.control.map (·.reload) ∨
        ∃ stage, (s.staged = some stage ∨ s.unsettled = some stage ∧ s.failed = true) ∧
          (opened () found).control = some stage.reload) := by
  refine Exists.imp (fun s (found : _ ∧
    (s.disk.crash 2 ⟨(),none⟩).any (fun found =>
      (found.bind (·.control)).any (·.mark = 1)) = true) =>
    have ⟨file,kept,marked⟩ := (Option.any_eq_true _ _).mp found.2
    ⟨file,found.1,kept,marked,?_⟩) (Run.exists_of_execute _ (by decide +kernel))
  exact crash_yields_exposed_or_staged () none found.1 kept

/-- A directory failure leaves the second commit ambiguous and its readback finds the file unreadable: the namespace exposed
is the first, nothing is staged, and a crash reloads the second. -/
theorem unreadable_readback_reloads_stage :
    ∃ s : Store Unit, Run (perform ()) anyStep (opened () none)
        (commitsOnce ++ [.commitControl {mark := 2},.hook true none,.hook true none,.hook true none,.hook false none,.finish,
          .resolveControlReadback .unreadable]) s ∧
      s.control.any (·.mark = 1) = true ∧ s.staged.isNone = true ∧
      (s.disk.crash 0 ⟨(),none⟩).any (fun found => (opened () found).control.any (·.mark = 2)) = true :=
  Run.exists_of_execute _ (by decide +kernel)

/-- How a step of the store looks to the manager. -/
inductive Refines (s next : Store Rest) : Prop
  | hidden (same : next.manager = s.manager)
  | commit (stage : Namespace) (write : Write) (staged : s.staged = some stage)
      (same : next.manager = (s.manager.commitControl stage write).1)
  | readback (found : Readback) (same : next.manager = s.manager.perform (.readback found))
  | close (same : next.manager = s.manager.perform .close)
  | restart (staged : Bool) (same : next.manager = {s.manager with ambiguous := s.staged.or s.unsettled}.restart staged)
  | fail (failed : next.failed = true) (kept : next.control = s.control) (settled : next.ambiguous = none)
      (unsettled : next.unsettled = s.ambiguous)

theorem finish_refines (durable : s.Durable) (ran : s.finish = some next) : s.Refines next := by
  have writing := durable.writing
  cases writer : s.writer with
  | written purpose =>
    cases purpose with
    | generic =>
      rw [finish,writer] at ran
      cases ran
      exact .hidden rfl
    | control stage =>
      obtain ⟨_,ended,commits⟩ := finish_commits durable (.inl ⟨writer,rfl⟩)
      cases ran.symm.trans ended
      exact .commit stage _ (by rw [staged,writer]) commits
  | doubted stage =>
    obtain ⟨_,ended,commits⟩ := finish_commits durable (.inr ⟨writer,rfl⟩)
    cases ran.symm.trans ended
    exact .commit stage _ (by rw [staged,writer]) commits
  | readBack found =>
    rw [Writing,writer] at writing
    obtain ⟨stage,held⟩ := Option.isSome_iff_exists.mp writing.1
    rw [finish,writer] at ran
    refine .readback (if found then .staged else .committed) ?_
    cases found
    all_goals
      cases ran
      simp [manager,Manager.perform,Manager.resolveControlReadback,held]
  | _ =>
    rw [finish,writer] at ran
    cases ran

/-- Whatever the hooks do and wherever it crashes, the store refines the manager: what it exposes changes only as
a commit of what is staged, a readback or a restart changes it. -/
theorem store_refines_manager (fresh : Rest) (file : Option (File Rest)) {labels : List (Label Rest)}
    (run : Run (perform fresh) anyStep (opened fresh file) labels s) {label : Label Rest} (ran : s.perform fresh label = some next) :
    s.Refines next := by
  have durable := run_durable fresh file run
  cases label with
  | mutate =>
    cases ran
    exact .hidden rfl
  | persistFlush | commitControl =>
    obtain ⟨_,_,rfl⟩ := idle_of_writes ran
    exact .hidden rfl
  | resolveControlReadback =>
    simp only [perform,resolveControlReadback] at ran
    repeat' split at ran
    all_goals cases ran
    all_goals first | exact .hidden rfl | exact .fail rfl rfl rfl rfl
  | hook =>
    simp only [perform,hook] at ran
    split at ran
    all_goals cases ran
    all_goals exact .hidden rfl
  | finish => exact finish_refines durable ran
  | closeWrites =>
    simp only [perform] at ran
    split at ran
    · cases ran
      exact .close rfl
    · cases ran
  | crash =>
    obtain ⟨staged,restarts⟩ := crash_restarts fresh durable ran
    exact .restart staged restarts

theorem doubted_commit_refines : ∃ s next : Store Unit, Run (perform ()) anyStep (opened () none)
        [.commitControl {mark := 1},.hook true none,.hook true none,.hook true none,.hook false none] s ∧
      s.perform () .finish = some next ∧ next.ambiguous.isSome = true ∧ s.Refines next := by
  refine Exists.imp (fun s (found : _ ∧ (s.perform () .finish).any (·.ambiguous.isSome) = true) =>
    have ⟨next,ran,held⟩ := (Option.any_eq_true _ _).mp found.2
    ⟨next,found.1,ran,held,?_⟩) (Run.exists_of_execute _ (by decide +kernel))
  exact store_refines_manager () none found.1 ran

end Store

end EbusGateway.RuntimeState
