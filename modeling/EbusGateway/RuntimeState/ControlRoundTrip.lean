import EbusGateway.RuntimeState.ControlCodec

/-! What is decoded from a namespace is decoded again from its encoding. -/

namespace EbusGateway.RuntimeState
open Library List

variable {α β : Type} {f : α → Except String β} {reason : String}

theorem bind_ok {x : Except String α} {b : β} : (x >>= f) = .ok b ↔ ∃ a, x = .ok a ∧ f a = .ok b := by
  cases x with
  | error reason =>
    constructor
    · intro failed
      cases failed
    · rintro ⟨_,failed,_⟩
      cases failed
  | ok a =>
    constructor
    · exact fun done => ⟨a,rfl,done⟩
    · rintro ⟨_,same,done⟩
      cases same
      exact done

theorem orFail_ok {x : Option α} {a : α} : orFail reason x = .ok a ↔ x = some a := by
  cases x <;> simp [orFail]

theorem read_ok {x : Option α} {a : α} {b : β} (found : x = some a)
    (rest : f a = .ok b) : (orFail reason x >>= f) = .ok b := bind_ok.mpr ⟨a,orFail_ok.mpr found,rest⟩

theorem require_ok {condition : Bool} {u : Unit} : require condition reason = .ok u ↔ condition = true := by
  cases condition <;> simp [require]

theorem failWith_ok {refuted : Option String} {u : Unit} : failWith refuted = .ok u ↔ refuted = none := by
  cases refuted <;> simp [failWith]

variable {v : Nat} {allowZero : Bool}

theorem toDigits_head (long : 1 < (Nat.toDigits 10 v).length) : (Nat.toDigits 10 v).head? ≠ some '0' := by
  induction v using Nat.strong_induction_on with
  | _ v ih =>
    by_cases small : v < 10
    · rw [Nat.toDigits_of_lt_base small] at long
      cases Nat.lt_irrefl _ long
    have nonempty : Nat.toDigits 10 (v / 10) ≠ [] := ne_nil_of_length_pos Nat.length_toDigits_pos
    rw [Nat.toDigits_of_base_le (by decide) (by omega),List.head?_append_of_ne_nil _ nonempty]
    by_cases tens : v / 10 < 10
    · rw [Nat.toDigits_of_lt_base tens]
      have first : v / 10 ≠ 0 := by omega
      generalize v / 10 = d at tens first
      revert first
      decide +revert
    · refine ih (v / 10) (by omega) ?_
      rw [Nat.toDigits_of_base_le (by decide) (by omega),length_append,length_singleton]
      exact Nat.lt_add_of_pos_left Nat.length_toDigits_pos

theorem toDigits_canonical (v : Nat) : (Nat.toDigits 10 v).any (!·.isDigit) = false ∧
      (decide (1 < (Nat.toDigits 10 v).length) && decide ((Nat.toDigits 10 v).head? = some '0')) = false := by
  constructor
  · rw [any_eq_false]
    intro c inside
    rw [Nat.isDigit_of_mem_toDigits (by decide) (by decide) inside]
    exact Bool.false_ne_true
  · rw [Bool.and_eq_false_imp,decide_eq_true_eq,decide_eq_false_iff_not]
    exact toDigits_head

theorem toDigits_sized {v size : Nat} (short : (Nat.toDigits 10 v).length ≤ size) :
    (decide ((Nat.toDigits 10 v).length = 0) || decide (size < (Nat.toDigits 10 v).length)) = false := by
  rw [decide_eq_false (Nat.ne_of_gt Nat.length_toDigits_pos),decide_eq_false (Nat.not_lt.mpr short)]
  rfl

theorem parseControlRevision_format (bounded : v < 2 ^ 64) (allowed : v ≠ 0 ∨ allowZero = true) :
    parseControlRevision (formatControlRevision v) allowZero = some v := by
  obtain ⟨digits,leading⟩ := toDigits_canonical v
  have short : (Nat.toDigits 10 v).length ≤ 20 := (Nat.length_toDigits_le_iff (by decide) (by decide)).mpr (by omega)
  unfold parseControlRevision formatControlRevision
  rw [toDigits_sized short,digits,leading,Nat.ofDigitChars_toDigits (by decide) (by decide)]
  rw [if_neg Bool.false_ne_true,if_neg Bool.false_ne_true,if_neg Bool.false_ne_true]
  dsimp only
  rw [if_neg]
  rw [decide_eq_false (Nat.not_le.mpr bounded),Bool.false_or,Bool.and_eq_true,decide_eq_true_eq,Bool.not_eq_true']
  rintro ⟨rfl,refused⟩
  rcases allowed with nonzero | allowed
  · exact nonzero rfl
  · cases allowed.symm.trans refused

theorem parseControlRevision_some {text : Text} (parsed : parseControlRevision text allowZero = some v) :
    v < 2 ^ 64 ∧ (v ≠ 0 ∨ allowZero = true) := by
  unfold parseControlRevision at parsed
  obtain ⟨_,parsed⟩ := Option.ite_none_left_eq_some.mp parsed
  obtain ⟨_,parsed⟩ := Option.ite_none_left_eq_some.mp parsed
  obtain ⟨_,parsed⟩ := Option.ite_none_left_eq_some.mp parsed
  obtain ⟨permitted,same⟩ := Option.ite_none_left_eq_some.mp parsed
  cases same
  rw [Bool.or_eq_true,decide_eq_true_eq,Bool.and_eq_true,decide_eq_true_eq,Bool.not_eq_true',not_or,not_and] at permitted
  refine ⟨Nat.not_le.mp permitted.1,?_⟩
  by_cases zero : Nat.ofDigitChars 10 text 0 = 0
  · exact .inr (Bool.eq_true_of_not_eq_false (permitted.2 zero))
  · exact .inl zero

theorem decodeJSONSmallInt_toDigits (bounded : v < 10 ^ 9) : decodeJSONSmallInt (some (.num (Nat.toDigits 10 v))) = some v := by
  obtain ⟨digits,leading⟩ := toDigits_canonical v
  have short : (Nat.toDigits 10 v).length ≤ 9 := (Nat.length_toDigits_le_iff (by decide) (by decide)).mpr bounded
  unfold decodeJSONSmallInt
  dsimp only
  rw [toDigits_sized short,digits,leading,Nat.ofDigitChars_toDigits (by decide) (by decide)]
  rfl

theorem desiredStateOf_name (state : DesiredState) : desiredStateOf state.name = some state := by
  cases state <;> rfl

theorem transitionKindOf_name (kind : TransitionKind) : transitionKindOf kind.name = some kind := by
  cases kind <;> rfl

theorem transitionPhaseOf_name (phase : TransitionPhase) : transitionPhaseOf phase.name = some phase := by
  cases phase <;> rfl

section
variable {o : Outside} {field : Option Json}

structure ControlTransition.Encodable (o : Outside) (t : ControlTransition) : Prop where
  desiredRevision : t.desiredRevision < 2 ^ 64
  sequence : t.sequence < 2 ^ 64
  generation : t.generation < 2 ^ 64
  valid : validateTransition t = none
  deadline : ∀ instant, t.deadlineUTC = some instant → ∃ text, o.parseInstant text = some (some instant)

theorem revision_field {allowZero : Bool} {v : Nat}
    (read : (decodeJSONString field).bind (parseControlRevision · allowZero) = some v) : v < 2 ^ 64 ∧ (v ≠ 0 ∨ allowZero = true) := by
  obtain ⟨_,_,parsed⟩ := Option.bind_eq_some_iff.mp read
  exact parseControlRevision_some parsed

theorem decodeDeadline_some {text : Text} {instant : Nat} (decoded : decodeDeadline o text = .ok (some instant)) :
    ∃ text, o.parseInstant text = some (some instant) := by
  unfold decodeDeadline at decoded
  split at decoded
  · cases decoded
  cases parsed : o.parseInstant text with
  | none =>
    rw [parsed] at decoded
    cases decoded
  | some found =>
    rw [parsed] at decoded
    dsimp only at decoded
    split at decoded
    · cases decoded
      exact ⟨text,parsed⟩
    · cases decoded

theorem decodeDeadline_format (lawful : o.Lawful) {deadline : Option Nat}
    (known : ∀ instant, deadline = some instant → ∃ text, o.parseInstant text = some (some instant)) :
    decodeDeadline o (deadline.elim [] o.formatInstant) = .ok deadline := by
  cases deadline with
  | none => rfl
  | some instant =>
    obtain ⟨text,parsed⟩ := known instant rfl
    obtain ⟨readBack,ends⟩ := lawful.instant text instant parsed
    have nonempty : o.formatInstant instant ≠ [] := by
      intro empty
      rw [empty] at ends
      cases ends
    unfold decodeDeadline
    rw [Option.elim_some,if_neg nonempty,readBack]
    dsimp only
    rw [if_pos ends]

variable {raw : Json} {t : ControlTransition}

theorem decodeControlTransition_some (decoded : decodeControlTransition o raw = .ok (some t)) : t.Encodable o := by
  unfold decodeControlTransition at decoded
  split at decoded
  · cases decoded
  simp only [bind_ok,orFail_ok,require_ok,failWith_ok] at decoded
  obtain ⟨fields,_,_,_,kind,_,phase,_,desiredRevision,revision,sequence,sequenced,generation,generated,epoch,_,_,_,_,_,_,_,
    _,_,_,deadline,_,_,_,_,_,valid,same⟩ := decoded
  cases same
  exact ⟨(revision_field revision).1,(revision_field sequenced).1,(revision_field generated).1,valid,
    fun instant found => decodeDeadline_some (deadline.trans (congrArg Except.ok found))⟩

theorem validateTransition_none (valid : validateTransition t = none) :
    t.desiredRevision ≠ 0 ∧ t.sequence ≠ 0 ∧ t.attemptsUsed ≤ maxControlSemanticAttempts := by
  unfold validateTransition at valid
  split at valid
  · cases valid
  rename_i nonzero
  split at valid
  · cases valid
  split at valid
  · cases valid
  rename_i bounded
  rw [Bool.or_eq_true,decide_eq_true_eq,decide_eq_true_eq,not_or] at nonzero
  exact ⟨nonzero.1,nonzero.2,Nat.not_lt.mp bounded⟩

theorem decodeControlTransition_encode (lawful : o.Lawful) (encodable : t.Encodable o) :
    decodeControlTransition o (t.encode o) = .ok (some t) := by
  obtain ⟨revision,sequence,attempts⟩ := validateTransition_none encodable.valid
  have few : t.attemptsUsed < 10 ^ 9 := Nat.lt_of_le_of_lt attempts (by decide)
  refine read_ok rfl (bind_ok.mpr ⟨(),rfl,?_⟩)
  refine read_ok rfl (read_ok rfl ?_)
  refine read_ok (parseControlRevision_format encodable.desiredRevision (.inl revision)) ?_
  refine read_ok (parseControlRevision_format encodable.sequence (.inl sequence)) ?_
  refine read_ok (parseControlRevision_format encodable.generation (.inr rfl)) ?_
  refine read_ok rfl (read_ok rfl (read_ok rfl ?_))
  refine read_ok (decodeJSONSmallInt_toDigits few) (read_ok rfl ?_)
  refine bind_ok.mpr ⟨_,decodeDeadline_format lawful encodable.deadline,?_⟩
  refine read_ok (transitionKindOf_name _) (read_ok (transitionPhaseOf_name _) ?_)
  exact bind_ok.mpr ⟨(),failWith_ok.mpr encodable.valid,rfl⟩

theorem decode_slot (lawful : o.Lawful) {slot : Option ControlTransition} (decoded : decodeControlTransition o raw = .ok slot) :
    decodeControlTransition o (slot.elim .null (·.encode o)) = .ok slot := by
  cases slot with
  | none => rfl
  | some t => exact decodeControlTransition_encode lawful (decodeControlTransition_some decoded)

theorem mapError_ok {α : Type} {x : Except String α} {f : String → String} {a : α} : x.mapError f = .ok a ↔ x = .ok a := by
  cases x <;> simp [Except.mapError]

theorem decodeControlDriverRecord_encode (lawful : o.Lawful) {id : Text} {mark : Nat} {r : ControlDriverRecord}
    (decoded : decodeControlDriverRecord o id raw mark = .ok r) : decodeControlDriverRecord o id (r.encode o) mark = .ok r := by
  unfold decodeControlDriverRecord at decoded
  simp only [bind_ok,orFail_ok,require_ok,failWith_ok,mapError_ok] at decoded
  obtain ⟨_,canonical,fields,_,_,_,state,_,text,_,revision,revised,sequence,sequenced,current,first,reserved,second,_,valid,same⟩ :=
    decoded
  cases same
  obtain ⟨parsed,issued⟩ := Option.filter_eq_some_iff.mp revised
  obtain ⟨bounded,nonzero⟩ := parseControlRevision_some parsed
  refine bind_ok.mpr ⟨(),require_ok.mpr canonical,read_ok rfl (bind_ok.mpr ⟨(),rfl,?_⟩)⟩
  refine read_ok (desiredStateOf_name _) (read_ok rfl ?_)
  refine read_ok (a := revision) ?_ ?_
  · rw [parseControlRevision_format bounded nonzero]
    exact Option.filter_eq_some_iff.mpr ⟨rfl,issued⟩
  refine read_ok (parseControlRevision_format (revision_field sequenced).1 (.inr rfl)) ?_
  refine bind_ok.mpr ⟨_,mapError_ok.mpr (decode_slot lawful first),bind_ok.mpr ⟨_,mapError_ok.mpr (decode_slot lawful second),?_⟩⟩
  exact bind_ok.mpr ⟨(),failWith_ok.mpr valid,rfl⟩

theorem decodeDriverEntry_encode (lawful : o.Lawful) (mark : Nat) (id : Text) (raw : Json) :
    decodeDriverEntry o mark id ((decodeDriverEntry o mark id raw).encode o) = decodeDriverEntry o mark id raw := by
  cases decoded : decodeControlDriverRecord o id raw mark with
  | error reason =>
    have entry : decodeDriverEntry o mark id raw = .failed raw reason := by rw [decodeDriverEntry,decoded]
    rw [entry]
    exact entry
  | ok r =>
    have entry : decodeDriverEntry o mark id raw = .record r := by rw [decodeDriverEntry,decoded]
    rw [entry,decodeDriverEntry,DriverEntry.encode,decodeControlDriverRecord_encode lawful decoded]

theorem decodeStrings_encode (ids : List Text) : decodeStrings (some (.arr (ids.map .str))) = some ids := by
  unfold decodeStrings
  dsimp only
  induction ids with
  | nil => rfl
  | cons id rest ih =>
    rw [map_cons,mapM_cons]
    rw [ih]
    rfl

theorem decodeControlRecovery_encode (lawful : o.Lawful) {r : ControlRecovery}
    (decoded : decodeControlRecovery o raw = .ok r) : decodeControlRecovery o (r.encode o) = .ok r := by
  unfold decodeControlRecovery at decoded
  simp only [bind_ok,orFail_ok,require_ok,failWith_ok] at decoded
  obtain ⟨fields,_,_,_,ids,_,max,bounded,digest,_,_,_,payload,_,_,_,_,valid,same⟩ := decoded
  cases same
  refine read_ok rfl (read_ok rfl ?_)
  refine read_ok (decodeStrings_encode ids) ?_
  refine read_ok (parseControlRevision_format (revision_field bounded).1 (.inr rfl)) ?_
  refine read_ok (Option.filter_eq_some_iff.mpr ⟨rfl,lawful.digest payload⟩) ?_
  refine read_ok rfl (read_ok (lawful.payload payload) ?_)
  exact bind_ok.mpr ⟨(),require_ok.mpr (decide_eq_true rfl),bind_ok.mpr ⟨(),failWith_ok.mpr valid,rfl⟩⟩

theorem decodeRecovery_encode (lawful : o.Lawful) {mark : Nat} {recovery : Option ControlRecovery}
    (decoded : decodeRecovery o mark field = .ok recovery) : decodeRecovery o mark (recovery.map (·.encode o)) = .ok recovery := by
  cases field with
  | none =>
    cases decoded
    rfl
  | some raw =>
    unfold decodeRecovery at decoded
    simp only [bind_ok,require_ok] at decoded
    obtain ⟨r,read,_,bounded,same⟩ := decoded
    cases same
    exact bind_ok.mpr ⟨r,decodeControlRecovery_encode lawful read,bind_ok.mpr ⟨(),require_ok.mpr bounded,rfl⟩⟩

theorem decode_drivers (lawful : o.Lawful) (mark : Nat) {drivers : List (Text × Json)} {entries : List (Text × DriverEntry)}
    (distinct : (drivers.map (·.1)).Nodup)
    (decoded : (drivers.insertionSort fun a b => a.1 ≤ b.1).map (fun (id,raw) => (id,decodeDriverEntry o mark id raw)) = entries) :
    strictObject (.obj (entries.map fun (id,entry) => (id,entry.encode o))) = some (entries.map fun (id,entry) => (id,entry.encode o)) ∧
      ((entries.map fun (id,entry) => (id,entry.encode o)).insertionSort fun a b => a.1 ≤ b.1).map
        (fun (id,raw) => (id,decodeDriverEntry o mark id raw)) = entries ∧ entries.length = drivers.length := by
  have total : Std.Total fun a b : Text × Json => a.1 ≤ b.1 := ⟨fun a b => le_total a.1 b.1⟩
  have trans : IsTrans (Text × Json) fun a b => a.1 ≤ b.1 := ⟨fun _ _ _ => le_trans⟩
  have perm := perm_insertionSort (fun a b : Text × Json => a.1 ≤ b.1) drivers
  have sorted := pairwise_insertionSort (fun a b : Text × Json => a.1 ≤ b.1) drivers
  generalize drivers.insertionSort (fun a b => a.1 ≤ b.1) = inOrder at perm sorted decoded
  subst decoded
  rw [map_map]
  have keys : (inOrder.map ((fun (p : Text × DriverEntry) => (p.1,p.2.encode o)) ∘
      fun p : Text × Json => (p.1,decodeDriverEntry o mark p.1 p.2))).map (·.1) = inOrder.map (·.1) := by
    rw [map_map]
    rfl
  refine ⟨?_,?_,?_⟩
  · refine if_pos ?_
    exact keys ▸ (perm.map (·.1)).nodup_iff.mpr distinct
  · rw [List.Pairwise.insertionSort_eq,map_map]
    · refine map_congr_left fun p _ => ?_
      exact congrArg (Prod.mk p.1) (decodeDriverEntry_encode lawful mark p.1 p.2)
    · rw [pairwise_map]
      exact sorted
  · rw [length_map]
    exact perm.length_eq

theorem strictObject_some {members : List (Text × Json)} (object : strictObject raw = some members) :
    raw = .obj members ∧ (members.map (·.1)).Nodup := by
  cases raw with
  | obj found =>
    obtain ⟨distinct,same⟩ := Option.ite_none_right_eq_some.mp object
    cases same
    exact ⟨rfl,distinct⟩
  | null | bool | num | str | arr => cases object

theorem decodeLoaded_encode (lawful : o.Lawful) {fields : List (Text × Json)} {ns : LoadedNamespace}
    (decoded : decodeLoaded o fields = .ok ns) :
    decodeControlNamespace o ((ControlNamespace.loaded ns).encode o) = .loaded ns := by
  unfold decodeLoaded at decoded
  simp only [bind_ok,orFail_ok,require_ok,failWith_ok] at decoded
  obtain ⟨_,_,_,_,mark,marked,_,_,catalog,cataloged,_,_,drivers,object,_,few,recovery,recovered,same⟩ := decoded
  obtain ⟨markBound,_⟩ := parseControlRevision_some marked
  obtain ⟨catalogBound,catalogNonzero⟩ := parseControlRevision_some cataloged
  generalize built : (drivers.insertionSort fun a b => a.1 ≤ b.1).map (fun (id,raw) => (id,decodeDriverEntry o mark id raw)) =
    entries at same
  obtain ⟨encoded,again,length⟩ := decode_drivers lawful mark (strictObject_some object).2 built
  have recoveredAgain := decodeRecovery_encode lawful recovered
  cases same
  obtain ⟨fields,members,version,known,markField,catalogField,driversField,recoveryField⟩ :
      ∃ fields, strictObject ((ControlNamespace.loaded ⟨mark,catalog,entries,recovery⟩).encode o) = some fields ∧
        fields.lookup "schema_version".toList = some (.num ['1']) ∧
        fields.find? (!namespaceKeys.contains ·.1) = none ∧
        fields.lookup "issued_revision_mark".toList = some (.str (formatControlRevision mark)) ∧
        fields.lookup "catalog_revision".toList = some (.str (formatControlRevision catalog)) ∧
        fields.lookup "drivers".toList = some (.obj (entries.map fun (id,entry) => (id,entry.encode o))) ∧
        fields.lookup "recovery".toList = recovery.map (·.encode o) := by
    cases recovery with
    | none | some => exact ⟨_,rfl,rfl,rfl,rfl,rfl,rfl,rfl⟩
  have loaded : decodeLoaded o fields = .ok ⟨mark,catalog,entries,recovery⟩ := by
    refine bind_ok.mpr ⟨(),failWith_ok.mpr (by rw [known]; rfl),?_⟩
    refine read_ok (by rw [markField]; rfl) ?_
    refine read_ok (parseControlRevision_format markBound (.inr rfl)) ?_
    refine read_ok (by rw [catalogField]; rfl) ?_
    refine read_ok (parseControlRevision_format catalogBound catalogNonzero) ?_
    refine read_ok driversField (read_ok encoded ?_)
    refine bind_ok.mpr ⟨(),require_ok.mpr ?_,bind_ok.mpr ⟨recovery,by rw [recoveryField]; exact recoveredAgain,?_⟩⟩
    · rw [length_map,length]
      exact few
    · rw [again]
      rfl
  unfold decodeControlNamespace
  rw [members]
  dsimp only
  rw [version]
  dsimp only
  rw [show decodeJSONSmallInt (some (.num ['1'])) = some 1 from rfl]
  dsimp only
  rw [if_neg (by decide),loaded]

theorem decodeControlNamespace_cases (raw : Json) : (decodeControlNamespace o raw).encode o = raw ∨
      ∃ fields ns, decodeLoaded o fields = .ok ns ∧ decodeControlNamespace o raw = .loaded ns := by
  unfold decodeControlNamespace
  split
  · exact .inl rfl
  rename_i fields _
  split
  · exact .inl rfl
  split
  · exact .inl rfl
  split
  · exact .inl rfl
  split
  · exact .inl rfl
  next ns loaded => exact .inr ⟨fields,ns,loaded,rfl⟩

theorem decodeControlNamespace_encode (lawful : o.Lawful) (raw : Json) :
    decodeControlNamespace o ((decodeControlNamespace o raw).encode o) = decodeControlNamespace o raw := by
  rcases decodeControlNamespace_cases raw with verbatim | ⟨fields,ns,loaded,decoded⟩
  · rw [verbatim]
  · rw [decoded]
    exact decodeLoaded_encode lawful loaded

end

end EbusGateway.RuntimeState
