import EbusGateway.EscapePair.Write

/-! The protocol around one wait of the escape pair: who may still resolve it, who holds its mutex, what its
state word means, and which symbols it has seen.
-/
namespace EbusGateway.EscapePair
open Library

namespace Reader

def wait : Reader → Option Nat
  | .idle => none
  | .advancing wait _ | .locking wait _ _ | .unpublishing wait _ _ | .refuting wait _ _ | .sending wait _ => some wait

def on (reader : Reader) (wait : Nat) : Reader := if reader.wait = some wait then reader else .idle

def holds : Reader → Bool
  | .unpublishing _ _ _ | .refuting _ _ _ | .sending _ _ => true
  | .idle | .advancing _ _ | .locking _ _ _ => false

def deciding : Reader → Bool
  | .refuting _ _ _ | .sending _ _ => true
  | .idle | .advancing _ _ | .locking _ _ _ | .unpublishing _ _ _ => false

end Reader

namespace Writer

def call : Writer → Option Call
  | .idle | .entering _ _ _ | .arming _ _ _ _ _ => none
  | .leadCheck call | .leadWrite call _ | .pacing call | .polling call | .suffixCheck call | .claiming call _
  | .receiving call | .suffixWrite call _ | .awaiting call | .dropping call _ => some call

def wait (writer : Writer) : Option Nat := writer.call.bind (·.wait)

def on (writer : Writer) (wait : Nat) : Writer := if writer.wait = some wait then writer else .idle

def holds : Writer → Bool
  | .receiving _ | .suffixWrite _ _ => true
  | _ => false

def early : Writer → Bool
  | .leadCheck _ | .leadWrite _ _ | .pacing _ | .polling _ | .suffixCheck _ | .claiming _ _ => true
  | _ => false

end Writer

structure View where
  wait : LeadWait
  published : Bool
  armed : Bool
  reader : Reader
  writer : Writer
  retiring : Nat

def State.view (s : State) (wait : Nat) : View :=
  ⟨s.waits wait,s.published = some wait,wait < s.armed,s.reader.on wait,s.writer.on wait,s.retiring.countP (·.1 = wait)⟩

def View.outcome (v : View) : Option LeadOutcome :=
  match v.reader with
  | .sending _ out => some out
  | _ => v.wait.result

theorem View.outcome_result {v : View} (undecided : v.reader.deciding = false) : v.outcome = v.wait.result := by
  unfold View.outcome
  split
  · rename_i known
    rw [known] at undecided
    cases undecided
  · rfl

theorem Reader.holds_of_deciding {reader : Reader} (deciding : reader.deciding = true) : reader.holds = true := by
  cases reader with
  | refuting | sending => rfl
  | _ => cases deciding

def Lead (w : LeadWait) (base : List Symbol) : Prop :=
  ∃ syns : List Symbol, (∀ symbol ∈ syns, symbol.2 = true) ∧ base = syns ++ if w.leadSeen then [(w.lead,false)] else []

def Answered (w : LeadWait) (observed : UInt8) (suffixStep : Bool) : Prop :=
  w.leadSeen = suffixStep ∧ ∃ base syn, Lead w base ∧ w.seen = base ++ [(observed,syn)]

structure Core (v : View) : Prop where
  unarmed : v.armed = false → v.wait = {} ∧ v.published = false ∧ v.reader = .idle ∧ v.writer = .idle ∧ v.retiring = 0
  owner : v.published = true → v.writer ≠ .idle ∧ v.wait.taken = 0
  taken : v.armed = true → v.published = false → v.wait.taken = 1
  outcomes : v.wait.sends + v.reader.deciding.toNat + v.retiring ≤ v.wait.taken
  result : v.wait.result.isSome = true → v.wait.sends = 1
  mutex : v.wait.held.toNat = v.reader.holds.toNat + v.writer.holds.toNat

structure Word (v : View) : Prop where
  own : ∀ wait out, v.reader = .sending wait out → out.err = none
  refuted : v.wait.suffixState = .refuted → (∃ wait out, v.reader = .sending wait out) ∨ v.wait.sends = 1
  decided : ∀ out, v.outcome = some out → out.err = none →
    v.wait.suffixState = (if out.early then .refuted else .committed) ∧ Answered v.wait out.observed out.suffixStep ∧
      (v.wait.transmitted = true → v.wait.decidedAfter = true)

structure Phase (v : View) : Prop where
  early : v.writer.early = true → v.wait.suffixState ≠ .committed ∧ v.wait.transmitted = false ∧
    (v.wait.sends = 1 → v.wait.result ≠ none)
  kept : v.writer.early = true → v.published = true ∨ v.reader.deciding = true ∨ v.wait.retired = true ∨
    v.wait.suffixState = .refuted
  claimed : ∀ call checked, v.writer = .suffixWrite call checked → v.wait.suffixState = .committed ∧
    (v.published = true ∨ v.wait.retired = true) ∧ ∀ out, v.outcome = some out → out.err ≠ none
  receiving : ∀ call, v.writer = .receiving call → v.wait.result ≠ none
  awaiting : ∀ call, v.writer = .awaiting call → v.wait.transmitted = true

theorem Phase.of_idle {v : View} (idle : v.writer = .idle) : Phase v := by
  constructor
  all_goals
    rw [idle]
    nofun

theorem Writer.unclaimed {writer : Writer} (free : writer.holds = false) :
    (∀ call checked, writer ≠ .suffixWrite call checked) ∧ ∀ call, writer ≠ .receiving call := by
  refine ⟨fun call checked same => ?_,fun call same => ?_⟩
  all_goals
    rw [same] at free
    cases free

def Reads (v : View) : Prop :=
  match v.reader with
  | .advancing _ symbol => ∃ base, Lead v.wait base ∧ v.wait.seen = base ++ [symbol]
  | .locking _ symbol suffixStep | .unpublishing _ symbol suffixStep => Answered v.wait symbol suffixStep
  | _ => Lead v.wait v.wait.seen

structure Seen (v : View) : Prop where
  reading : v.published = true → Reads v
  undecided : v.reader.deciding = false → v.reader ≠ .idle → ∀ out, v.wait.result = some out → out.err ≠ none
  refuting : ∀ wait symbol suffixStep, v.reader = .refuting wait symbol suffixStep → Answered v.wait symbol suffixStep

structure Good (v : View) : Prop where
  core : Core v
  word : Word v
  phase : Phase v
  seen : Seen v

namespace Good
variable {v : View}

theorem move (good : Good v) {writer : Writer} (busy : writer ≠ .idle) (armed : v.armed = true)
    (holds : writer.holds = v.writer.holds) (early : writer.early = true → v.writer.early = true)
    (claimed : ∀ call checked, writer ≠ .suffixWrite call checked) (receiving : ∀ call, writer ≠ .receiving call)
    (awaiting : ∀ call, writer ≠ .awaiting call) : Good {v with writer := writer} := by
  obtain ⟨core,word,phase,seen⟩ := good
  refine ⟨⟨clash armed,?_,core.taken,core.outcomes,core.result,?_⟩,{word with},⟨?_,?_,?_,?_,?_⟩,
    {seen with}⟩
  · intro shown
    exact ⟨busy,(core.owner shown).2⟩
  · rw [holds]
    exact core.mutex
  · exact fun still => phase.early (early still)
  · exact fun still => phase.kept (early still)
  · exact fun call checked same => (claimed call checked same).elim
  · exact fun call same => (receiving call same).elim
  · exact fun call same => (awaiting call same).elim

theorem quiet (good : Good v) (shown : v.published = true) :
    v.wait.sends = 0 ∧ v.reader.deciding = false ∧ v.retiring = 0 ∧ v.wait.result = none := by
  have taken := (good.core.owner shown).2
  have outcomes := good.core.outcomes
  rw [taken] at outcomes
  refine ⟨by omega,?_,by omega,?_⟩
  · cases deciding : v.reader.deciding with
    | false => rfl
    | true =>
      rw [deciding,Bool.toNat_true] at outcomes
      omega
  · cases result : v.wait.result with
    | none => rfl
    | some out =>
      have sent := good.core.result (by rw [result]; rfl)
      omega

theorem taken_le (good : Good v) : v.wait.taken ≤ 1 := by
  cases armed : v.armed with
  | false =>
    rw [(good.core.unarmed armed).1]
    exact Nat.zero_le _
  | true =>
    cases shown : v.published with
    | false => exact Nat.le_of_eq (good.core.taken armed shown)
    | true =>
      rw [(good.core.owner shown).2]
      exact Nat.zero_le _

theorem sender (good : Good v) (sending : 0 < v.reader.deciding.toNat + v.retiring) :
    v.published = false ∧ v.wait.sends = 0 ∧ v.wait.result = none ∧ v.reader.deciding.toNat + v.retiring = 1 := by
  have outcomes := good.core.outcomes
  have bound := good.taken_le
  refine ⟨?_,by omega,?_,by omega⟩
  · by_contra shown
    obtain ⟨_,deciding,retiring,_⟩ := good.quiet (Bool.not_eq_false _ |>.mp shown)
    rw [deciding,retiring] at sending
    cases sending
  · cases result : v.wait.result with
    | none => rfl
    | some out =>
      have sent := good.core.result (by rw [result]; rfl)
      omega

variable {out : LeadOutcome} {wait : Nat} {symbol : UInt8} {suffixStep : Bool}

section
variable (good : Good v) {held leadSeen leadEchoed : Bool} {reader : Reader}
include good

theorem delivered (result : v.wait.result = some out) : v.published = false ∧ v.reader.deciding = false ∧ v.retiring = 0 := by
  have alone : v.reader.deciding.toNat + v.retiring = 0 := by
    by_contra busy
    obtain ⟨_,_,empty,_⟩ := good.sender (Nat.pos_of_ne_zero busy)
    cases empty.symm.trans result
  refine ⟨?_,?_,by omega⟩
  · by_contra shown
    cases (good.quiet (Bool.not_eq_false _ |>.mp shown)).2.2.2.symm.trans result
  · cases deciding : v.reader.deciding with
    | false => rfl
    | true =>
      rw [deciding,Bool.toNat_true] at alone
      omega

theorem armed_of_writer (busy : v.writer ≠ .idle) : v.armed = true := by
  by_contra unarmed
  exact busy (good.core.unarmed ((Bool.not_eq_true _).mp unarmed)).2.2.2.1

theorem armed_of_reader (busy : v.reader ≠ .idle) : v.armed = true := by
  by_contra unarmed
  exact busy (good.core.unarmed ((Bool.not_eq_true _).mp unarmed)).2.2.1

theorem exclusive (reading : v.reader.holds = true) : v.writer.holds = false := by
  have mutex := good.core.mutex
  rw [reading] at mutex
  cases writing : v.writer.holds with
  | false => rfl
  | true =>
    rw [writing] at mutex
    cases held : v.wait.held <;> rw [held] at mutex <;> cases mutex

theorem free (held : v.wait.held = false) : v.reader.holds = false ∧ v.writer.holds = false := by
  have mutex := good.core.mutex
  rw [held] at mutex
  cases reading : v.reader.holds <;> cases writing : v.writer.holds <;> rw [reading,writing] at mutex
  · exact ⟨rfl,rfl⟩
  · cases mutex
  · cases mutex
  · cases mutex

theorem held_eq (writing : v.writer.holds = false) : v.wait.held = v.reader.holds := by
  have mutex := good.core.mutex
  rw [writing] at mutex
  cases held : v.wait.held <;> cases reading : v.reader.holds <;> rw [held,reading] at mutex
  · cases mutex
  · cases mutex

theorem undecided_of_free (held : v.wait.held = false) : v.reader.deciding = false := by
  cases deciding : v.reader.deciding with
  | false => rfl
  | true => cases (Reader.holds_of_deciding deciding).symm.trans (good.free held).1

theorem consume (result : v.wait.result = some out)
    (free : held = v.reader.holds) : Good {v with wait := {v.wait with result := none, held := held}, writer := .idle} := by
  obtain ⟨shown,undecided,_⟩ := good.delivered result
  have sent := good.core.result (by rw [result]; rfl)
  have empty : ({v with wait := {v.wait with result := none, held := held}, writer := .idle} : View).outcome = none :=
    View.outcome_result undecided
  refine ⟨⟨?_,(clash · shown),good.core.taken,good.core.outcomes,nofun,?_⟩,⟨good.word.own,fun _ => .inr sent,?_⟩,.of_idle rfl,
    ⟨(clash · shown),nofun,?_⟩⟩
  · intro unarmed
    rw [(good.core.unarmed unarmed).1] at result
    cases result
  · rw [free]
    rfl
  · intro other known
    cases empty.symm.trans known
  · intro wait symbol suffixStep known
    rw [show v.reader = _ from known] at undecided
    cases undecided

theorem drop (published : v.published = true) (holds : v.writer.holds = false) :
    Good {v with wait := {v.wait with taken := v.wait.taken + 1}, published := false, writer := .idle} := by
  obtain ⟨sends,undecided,retiring,result⟩ := good.quiet published
  have taken := (good.core.owner published).2
  have armed := good.armed_of_writer (good.core.owner published).1
  refine ⟨⟨clash armed,nofun,?_,Nat.le_succ_of_le good.core.outcomes,good.core.result,?_⟩,{good.word with},.of_idle rfl,
    ⟨nofun,good.seen.undecided,good.seen.refuting⟩⟩
  · intro _ _
    rw [taken]
  · have mutex := good.core.mutex
    rw [holds] at mutex
    exact mutex

theorem leave (shown : v.published = false) (holds : v.writer.holds = false) : Good {v with writer := .idle} := by
  refine ⟨⟨?_,(clash · shown),good.core.taken,good.core.outcomes,good.core.result,?_⟩,{good.word with},
    .of_idle rfl,{good.seen with}⟩
  · intro unarmed
    obtain ⟨wait,unpublished,reader,_,retiring⟩ := good.core.unarmed unarmed
    exact ⟨wait,unpublished,reader,rfl,retiring⟩
  · have mutex := good.core.mutex
    rw [holds] at mutex
    exact mutex

theorem claim (early : v.writer.early = true) (held : v.wait.held = false)
    (pending : v.wait.suffixState = .pending) (call : Call) (checked : Arbitrator) :
    Good {v with wait := {v.wait with held := true, suffixState := .committed}, writer := .suffixWrite call checked} := by
  obtain ⟨reading,writing⟩ := good.free held
  have undecided := good.undecided_of_free held
  have armed := good.armed_of_writer fun idle => by rw [idle] at early; cases early
  have unheard : ∀ out, v.outcome = some out → out.err ≠ none := by
    intro out known clear
    have word := (good.word.decided out known clear).1
    rw [pending] at word
    split at word <;> cases word
  have outcome : ({v with wait := {v.wait with held := true, suffixState := .committed}, writer := .suffixWrite call checked} : View).outcome =
      v.outcome := (View.outcome_result undecided).trans (View.outcome_result undecided).symm
  refine ⟨⟨clash armed,?_,good.core.taken,good.core.outcomes,good.core.result,?_⟩,⟨good.word.own,nofun,?_⟩,
    ⟨nofun,nofun,?_,nofun,nofun⟩,{good.seen with}⟩
  · intro shown
    exact ⟨by simp,(good.core.owner shown).2⟩
  · rw [reading]
    rfl
  · intro out known clear
    exact (unheard out (outcome.symm.trans known) clear).elim
  · intro _ _ _
    refine ⟨rfl,?_,fun out known => unheard out (outcome.symm.trans known)⟩
    rcases good.phase.kept early with shown | deciding | retired | refuted
    · exact .inl shown
    · cases undecided.symm.trans deciding
    · exact .inr retired
    · cases pending.symm.trans refuted

theorem refused (early : v.writer.early = true) (held : v.wait.held = false) (decided : v.wait.suffixState ≠ .pending) (call : Call) :
    Good {v with wait := {v.wait with held := true}, writer := .receiving call} := by
  obtain ⟨reading,writing⟩ := good.free held
  have undecided := good.undecided_of_free held
  have armed := good.armed_of_writer fun idle => by rw [idle] at early; cases early
  obtain ⟨uncommitted,untransmitted,waiting⟩ := good.phase.early early
  have refuted : v.wait.suffixState = .refuted := by
    cases word : v.wait.suffixState with
    | pending => exact (decided word).elim
    | committed => exact (uncommitted word).elim
    | refuted => rfl
  have sent : v.wait.sends = 1 := by
    rcases good.word.refuted refuted with ⟨wait,out,known⟩ | sent
    · rw [known] at undecided
      cases undecided
    · exact sent
  refine ⟨⟨clash armed,?_,good.core.taken,good.core.outcomes,good.core.result,?_⟩,{good.word with},
    ⟨nofun,nofun,nofun,fun _ _ => waiting sent,nofun⟩,{good.seen with}⟩
  · intro shown
    exact ⟨by simp,(good.core.owner shown).2⟩
  · rw [reading]
    rfl

theorem wrote {call : Call} {checked : Arbitrator} (writing : v.writer = .suffixWrite call checked)
    (written : Bool) {writer : Writer} (busy : writer ≠ .idle) (holds : writer.holds = false) (late : writer.early = false)
    (awaiting : ∀ call, writer = .awaiting call → written = true) :
    Good {v with wait := {v.wait with held := false, transmitted := written}, writer := writer} := by
  obtain ⟨committed,_,unheard⟩ := good.phase.claimed call checked writing
  have reading : v.reader.holds = false := by
    by_contra reading
    have free := good.exclusive ((Bool.not_eq_false _).mp reading)
    rw [writing] at free
    cases free
  have undecided : v.reader.deciding = false := by
    by_contra deciding
    cases (Reader.holds_of_deciding ((Bool.not_eq_false _).mp deciding)).symm.trans reading
  have armed := good.armed_of_writer fun idle => by rw [writing] at idle; cases idle
  refine ⟨⟨clash armed,?_,good.core.taken,good.core.outcomes,good.core.result,?_⟩,⟨good.word.own,good.word.refuted,?_⟩,
    ⟨(clash · late),(clash · late),?_,?_,awaiting⟩,{good.seen with}⟩
  · intro shown
    exact ⟨busy,(good.core.owner shown).2⟩
  · rw [reading,holds]
    rfl
  · intro out known clear
    exact (unheard out known clear).elim
  · exact fun call checked same => absurd same ((Writer.unclaimed holds).1 call checked)
  · exact fun call same => absurd same ((Writer.unclaimed holds).2 call)

/-- readLoop moves on without deciding the wait. -/
theorem reads {seen : List Symbol} (armed : v.armed = true) (before : v.reader.deciding = false) (after : reader.deciding = false)
    (mutex : held.toNat = reader.holds.toNat + v.writer.holds.toNat) (reading : v.published = true → Reads {v with
      wait := {v.wait with held := held, leadSeen := leadSeen, leadEchoed := leadEchoed, seen := seen}, reader := reader})
    (unheard : reader ≠ .idle → ∀ out, v.wait.result = some out → out.err ≠ none)
    (answered : ∀ out, v.wait.result = some out → out.err = none → Answered v.wait out.observed out.suffixStep →
      Answered {v.wait with held := held, leadSeen := leadSeen, leadEchoed := leadEchoed, seen := seen} out.observed out.suffixStep) :
    Good {v with wait := {v.wait with held := held, leadSeen := leadSeen, leadEchoed := leadEchoed, seen := seen}, reader := reader} := by
  have outcomes := good.core.outcomes
  have outcome {out : LeadOutcome} (result : v.wait.result = some out) : v.outcome = some out :=
    (View.outcome_result before).trans result
  rw [before] at outcomes
  refine ⟨⟨clash armed,good.core.owner,good.core.taken,?_,good.core.result,mutex⟩,⟨?_,?_,?_⟩,
    ⟨good.phase.early,?_,?_,good.phase.receiving,good.phase.awaiting⟩,⟨reading,fun _ => unheard,?_⟩⟩
  · rw [after]
    exact outcomes
  · intro _ _ same
    rw [show reader = _ from same] at after
    cases after
  · intro refuted
    rcases good.word.refuted refuted with ⟨_,_,known⟩ | sent
    · rw [known] at before
      cases before
    · exact .inr sent
  · intro out known clear
    rw [View.outcome_result after] at known
    obtain ⟨word,seen,transmitted⟩ := good.word.decided out (outcome known) clear
    exact ⟨word,answered out known clear seen,transmitted⟩
  · intro early
    rcases good.phase.kept early with shown | deciding | rest
    · exact .inl shown
    · cases before.symm.trans deciding
    · exact .inr (.inr rest)
  · intro call checked writing
    obtain ⟨committed,kept,silent⟩ := good.phase.claimed call checked writing
    refine ⟨committed,kept,fun out known => ?_⟩
    rw [View.outcome_result after] at known
    exact silent out (outcome known)
  · intro _ _ _ same
    rw [show reader = _ from same] at after
    cases after

theorem observe (shown : v.published = true) (idle : v.reader = .idle) (wait : Nat) (symbol : Symbol) :
    Good {v with wait := {v.wait with seen := v.wait.seen ++ [symbol]}, reader := .advancing wait symbol} := by
  obtain ⟨_,undecided,_,result⟩ := good.quiet shown
  have mutex := good.core.mutex
  have reading := good.seen.reading shown
  rw [idle] at mutex
  simp only [Reads,idle] at reading
  refine good.reads (good.armed_of_writer (good.core.owner shown).1) undecided rfl mutex (fun _ => ⟨_,reading,rfl⟩) ?_ ?_
  · intro _ out known
    cases result.symm.trans known
  · intro out known
    cases result.symm.trans known

theorem advance {old : Nat} {symbol : Symbol} (advancing : v.reader = .advancing old symbol)
    (holds : reader.holds = false) (undecided : reader.deciding = false)
    (reads : (∃ base, Lead v.wait base ∧ v.wait.seen = base ++ [symbol]) →
      Reads {v with wait := {v.wait with leadSeen := leadSeen, leadEchoed := leadEchoed}, reader := reader}) :
    Good {v with wait := {v.wait with leadSeen := leadSeen, leadEchoed := leadEchoed}, reader := reader} := by
  have busy : v.reader ≠ .idle := fun idle => by cases advancing.symm.trans idle
  have before : v.reader.deciding = false := by rw [advancing]; rfl
  have unheard : ∀ out, v.wait.result = some out → out.err ≠ none := good.seen.undecided before busy
  have mutex := good.core.mutex
  rw [advancing] at mutex
  refine good.reads (good.armed_of_reader busy) before undecided (by rw [holds]; exact mutex) (fun shown => ?_) (fun _ => unheard) ?_
  · have before := good.seen.reading shown
    simp only [Reads,advancing] at before
    exact reads before
  · intro out known clear
    exact (unheard out known clear).elim

theorem lock (locking : v.reader = .locking wait symbol suffixStep) (held : v.wait.held = false) :
    Good {v with wait := {v.wait with held := true}, reader := .unpublishing wait symbol suffixStep} := by
  have busy : v.reader ≠ .idle := fun idle => by cases locking.symm.trans idle
  have undecided := good.undecided_of_free held
  refine good.reads (good.armed_of_reader busy) undecided rfl (by rw [(good.free held).2]; rfl) (fun shown => ?_)
    (fun _ => good.seen.undecided undecided busy) fun _ _ _ answered => answered
  have before := good.seen.reading shown
  simp only [Reads,locking] at before
  exact before

section
variable (unpublishing : v.reader = .unpublishing wait symbol suffixStep)
include unpublishing

theorem take (published : v.published = true) :
    Good {v with wait := {v.wait with taken := v.wait.taken + 1}, published := false, reader := .refuting wait symbol suffixStep} := by
  obtain ⟨sends,undecided,retiring,result⟩ := good.quiet published
  have taken := (good.core.owner published).2
  have armed := good.armed_of_writer (good.core.owner published).1
  have writing : v.writer.holds = false := good.exclusive (by rw [unpublishing]; rfl)
  have mutex := good.core.mutex
  have reads := good.seen.reading published
  simp only [Reads,unpublishing] at reads
  rw [unpublishing] at mutex
  refine ⟨⟨clash armed,nofun,?_,?_,good.core.result,mutex⟩,⟨nofun,?_,?_⟩,
    ⟨good.phase.early,fun _ => .inr (.inl rfl),?_,good.phase.receiving,good.phase.awaiting⟩,⟨nofun,nofun,?_⟩⟩
  · intro _ _
    rw [taken]
  · rw [sends,retiring,taken]
    exact Nat.le_refl _
  · intro refuted
    rcases good.word.refuted refuted with ⟨_,_,known⟩ | sent
    · cases unpublishing.symm.trans known
    · exact .inr sent
  · intro out known
    cases result.symm.trans known
  · exact fun call checked same => absurd same ((Writer.unclaimed writing).1 call checked)
  · rintro _ _ _ ⟨⟩
    exact reads

theorem missed (shown : v.published = false) : Good {v with wait := {v.wait with held := false}, reader := .idle} := by
  have writing : v.writer.holds = false := good.exclusive (by rw [unpublishing]; rfl)
  refine good.reads (good.armed_of_reader fun idle => by cases unpublishing.symm.trans idle) (by rw [unpublishing]; rfl) rfl
    (by rw [writing]; rfl) (fun still => ?_) (fun busy => absurd rfl busy) fun _ _ _ answered => answered
  cases shown.symm.trans still

end

theorem refute (refuting : v.reader = .refuting wait symbol suffixStep) : Good {v with
      wait := {v.wait with
        suffixState := if v.wait.suffixState = .pending then .refuted else v.wait.suffixState
        decidedAfter := v.wait.transmitted}
      reader := .sending wait {observed := symbol, suffixStep := suffixStep, early := v.wait.suffixState = .pending}} := by
  have armed := good.armed_of_reader fun idle => by cases refuting.symm.trans idle
  have writing : v.writer.holds = false := good.exclusive (by rw [refuting]; rfl)
  obtain ⟨shown,sends,result,_⟩ := good.sender (by rw [refuting]; exact Nat.add_pos_left Nat.one_pos _)
  have answered := good.seen.refuting wait symbol suffixStep refuting
  have unrefuted : v.wait.suffixState ≠ .refuted := by
    intro refuted
    rcases good.word.refuted refuted with ⟨_,_,known⟩ | sent
    · cases refuting.symm.trans known
    · cases sends.symm.trans sent
  have outcomes := good.core.outcomes
  have mutex := good.core.mutex
  rw [refuting] at outcomes mutex
  refine ⟨⟨clash armed,good.core.owner,good.core.taken,outcomes,good.core.result,mutex⟩,⟨?_,fun _ => .inl ⟨_,_,rfl⟩,?_⟩,
    ⟨?_,fun _ => .inr (.inl rfl),?_,good.phase.receiving,good.phase.awaiting⟩,⟨(clash · shown),nofun,nofun⟩⟩
  · rintro _ _ ⟨⟩
    rfl
  · rintro _ ⟨⟩ _
    refine ⟨?_,answered,fun transmitted => transmitted⟩
    cases word : v.wait.suffixState with
    | pending => simp
    | committed => simp
    | refuted => exact (unrefuted word).elim
  · intro early
    obtain ⟨uncommitted,untransmitted,waiting⟩ := good.phase.early early
    refine ⟨?_,untransmitted,waiting⟩
    cases word : v.wait.suffixState with
    | pending => simp
    | committed => exact (uncommitted word).elim
    | refuted => simp
  · exact fun call checked same => absurd same ((Writer.unclaimed writing).1 call checked)

theorem send (sending : v.reader = .sending wait out) :
    Good {v with wait := {v.wait with result := some out, sends := v.wait.sends + 1, held := false}, reader := .idle} := by
  have armed := good.armed_of_reader fun idle => by cases sending.symm.trans idle
  have writing : v.writer.holds = false := good.exclusive (by rw [sending]; rfl)
  obtain ⟨shown,sends,result,alone⟩ := good.sender (by rw [sending]; exact Nat.add_pos_left Nat.one_pos _)
  have decided := good.word.decided out (by simp only [View.outcome,sending]) (good.word.own wait out sending)
  have taken := good.core.taken armed shown
  rw [sending] at alone
  refine ⟨⟨clash armed,good.core.owner,good.core.taken,?_,?_,?_⟩,⟨nofun,?_,?_⟩,⟨?_,?_,?_,?_,good.phase.awaiting⟩,
    ⟨(clash · shown),fun _ busy => absurd rfl busy,nofun⟩⟩
  · have none : v.retiring = 0 := by
      simp only [Reader.deciding,Bool.toNat_true] at alone
      omega
    rw [sends,none,taken]
    exact Nat.le_refl _
  · intro _
    rw [sends]
  · rw [writing]
    rfl
  · intro _
    exact .inr (by rw [sends])
  · rintro _ ⟨⟩ _
    exact decided
  · intro early
    obtain ⟨uncommitted,untransmitted,_⟩ := good.phase.early early
    exact ⟨uncommitted,untransmitted,fun _ => by simp⟩
  · intro early
    refine .inr (.inr (.inr ?_))
    have uncommitted := (good.phase.early early).1
    cases hasty : out.early with
    | true => simpa [hasty] using decided.1
    | false => exact (uncommitted (by simpa [hasty] using decided.1)).elim
  · exact fun call checked same => absurd same ((Writer.unclaimed writing).1 call checked)
  · exact fun call same => absurd same ((Writer.unclaimed writing).2 call)

theorem retire (published : v.published = true) :
    Good {v with wait := {v.wait with taken := v.wait.taken + 1, retired := true}, published := false, retiring := v.retiring + 1} := by
  obtain ⟨sends,undecided,retiring,result⟩ := good.quiet published
  have taken := (good.core.owner published).2
  have armed := good.armed_of_writer (good.core.owner published).1
  refine ⟨⟨clash armed,nofun,?_,?_,good.core.result,good.core.mutex⟩,{good.word with},
    ⟨good.phase.early,fun _ => .inr (.inr (.inl rfl)),?_,good.phase.receiving,good.phase.awaiting⟩,
    ⟨nofun,good.seen.undecided,good.seen.refuting⟩⟩
  · intro _ _
    rw [taken]
  · rw [sends,retiring,taken,undecided]
    exact Nat.le_refl _
  · intro call checked same
    obtain ⟨committed,_,unheard⟩ := good.phase.claimed call checked same
    exact ⟨committed,.inr rfl,unheard⟩

theorem sendRetired (boundary : Boundary) {retiring : Nat} (busy : v.retiring = retiring + 1) :
    Good {v with wait := {v.wait with result := some {err := some boundary}, sends := v.wait.sends + 1}, retiring := retiring} := by
  obtain ⟨shown,sends,result,alone⟩ := good.sender (by rw [busy]; exact Nat.succ_pos _)
  have undecided : v.reader.deciding = false := by
    cases deciding : v.reader.deciding with
    | false => rfl
    | true =>
      rw [deciding,busy,Bool.toNat_true] at alone
      omega
  have armed : v.armed = true := by
    by_contra unarmed
    cases busy.symm.trans (good.core.unarmed ((Bool.not_eq_true _).mp unarmed)).2.2.2.2
  have outcome : ({v with
      wait := {v.wait with result := some {err := some boundary}, sends := v.wait.sends + 1}, retiring := retiring} : View).outcome =
      some {err := some boundary} := View.outcome_result undecided
  have outcomes := good.core.outcomes
  refine ⟨⟨clash armed,good.core.owner,good.core.taken,?_,?_,good.core.mutex⟩,⟨good.word.own,fun _ => .inr (by rw [sends]),?_⟩,
    ⟨?_,good.phase.kept,?_,?_,good.phase.awaiting⟩,⟨(clash · shown),?_,good.seen.refuting⟩⟩
  · rw [busy] at outcomes
    simp only
    omega
  · intro _
    rw [sends]
  · intro out known clear
    cases outcome.symm.trans known
    cases clear
  · intro early
    obtain ⟨uncommitted,untransmitted,_⟩ := good.phase.early early
    exact ⟨uncommitted,untransmitted,fun _ => by simp⟩
  · intro call checked same
    obtain ⟨committed,kept,_⟩ := good.phase.claimed call checked same
    refine ⟨committed,kept,fun out known => ?_⟩
    cases outcome.symm.trans known
    simp
  · intro call _
    simp
  · rintro _ _ _ ⟨⟩
    simp

end

theorem armed (lead suffix : UInt8) (call : Call) : Good ⟨{lead := lead, suffix := suffix},true,true,.idle,.leadCheck call,0⟩ := by
  refine ⟨⟨nofun,fun _ => ⟨by simp,rfl⟩,nofun,Nat.le_refl _,nofun,rfl⟩,⟨nofun,nofun,nofun⟩,
    ⟨fun _ => ⟨by simp,rfl,nofun⟩,fun _ => .inl rfl,nofun,nofun,nofun⟩,⟨fun _ => ⟨[],by simp,rfl⟩,nofun,nofun⟩⟩

end Good
end EbusGateway.EscapePair
