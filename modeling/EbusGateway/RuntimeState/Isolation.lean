import EbusGateway.RuntimeState.Codec

/-! Which members of the runtime-state file reach its decoded state. The struct decoder takes a member for a
field up to letter case, so a namespace of another name can be decoded as meta or ebus. -/

namespace EbusGateway.RuntimeState
open Library Json List

def State.parts (s : State) : Int × Meta × Option EBusNamespace := (s.schemaVersion,s.metaState,s.ebus)

def Mistaken (name : Text) : Prop :=
  name ∉ knownNames ∧ (foldName name = foldName "meta".toList ∨ foldName name = foldName "ebus".toList)

/-- A control namespace is canonical in the form its codec writes: the members in their order, the drivers sorted
and each deadline as it is formatted. One that does not load is kept verbatim. -/
def Canonical (o : Outside) (value : Json) : Prop := (decodeControlNamespace o value).encode o = value

structure WrittenBack (o : Outside) (members : List (Text × Json)) (s : State) : Prop where
  distinct : ((marshalState o s).map (·.1)).Nodup
  others : ∀ name value, (name,value) ∈ members → name ∉ knownNames → name ≠ controlNamespaceName → (name,value) ∈ marshalState o s
  control : ∀ value, (controlNamespaceName,value) ∈ members →
    ((controlNamespaceName,value) ∈ marshalState o s ↔ Canonical o value) ∧
    ∃ written, (controlNamespaceName,written) ∈ marshalState o s ∧ Canonical o written ∧
      decodeControlNamespace o written = decodeControlNamespace o value

def Isolated (o : Outside) (permitted : Text → Prop) : Prop :=
  ∀ f g s t warned warned', (∀ mem ∈ f, mem.1 ∈ knownNames ∨ permitted mem.1) →
    (∀ mem ∈ g, mem.1 ∈ knownNames ∨ permitted mem.1) →
    unmarshalState o (.obj f) = some (s,warned) → unmarshalState o (.obj g) = some (t,warned') →
    ((∀ name ∈ knownNames, f.lookup name = g.lookup name) → s.parts = t.parts) ∧ WrittenBack o f s

variable {set : Setter FileDTO} {members : List (Text × Json)} {o : Outside} {s : State}
    {warned : List NamespaceVersionWarning} {name : Text} {value : Json}

theorem chosen_fold {key : Text} (found : chosen fileFields key = some set) :
    ∃ field ∈ fileFields, field.2 = set ∧ foldName field.1 = foldName key := by
  obtain ⟨field,first,same⟩ := Option.map_eq_some_iff.mp found
  rcases Option.or_eq_some_iff.mp first with exact | ⟨_,folded⟩
  · refine ⟨field,mem_of_find?_eq_some exact,same,?_⟩
    have named := List.find?_some exact
    rw [decide_eq_true_eq] at named
    rw [named]
  · have named := List.find?_some folded
    rw [decide_eq_true_eq] at named
    exact ⟨field,mem_of_find?_eq_some folded,same,named⟩

theorem chosen_frame {τ : Type} (get : FileDTO → τ)
    (others : ∀ field ∈ fileFields, field.1 ≠ name → ∀ value s s', field.2 value s = some s' → get s' = get s)
    {key : Text} (different : foldName key ≠ foldName name) (found : chosen fileFields key = some set)
    (value : Json) (s s' : FileDTO) (decoded : set value s = some s') : get s' = get s := by
  obtain ⟨field,listed,rfl,same⟩ := chosen_fold found
  refine others field listed ?_ value s s' decoded
  rintro rfl
  exact different same.symm

theorem parts_frame {field} (listed : field ∈ fileFields) {s s' : FileDTO} (decoded : field.2 value s = some s') :
    (field.1 ≠ "meta".toList → s'.metaDTO = s.metaDTO) ∧ (field.1 ≠ "ebus".toList → s'.ebusDTO = s.ebusDTO) := by
  simp only [fileFields,mem_cons,not_mem_nil,or_false] at listed
  rcases listed with rfl | rfl | rfl | rfl
  · obtain ⟨t,_,rfl⟩ := Option.map_eq_some_iff.mp decoded
    exact ⟨fun _ => rfl,fun _ => rfl⟩
  · obtain ⟨t,_,rfl⟩ := Option.map_eq_some_iff.mp decoded
    exact ⟨absurd rfl,fun _ => rfl⟩
  · obtain ⟨t,_,rfl⟩ := Option.map_eq_some_iff.mp decoded
    exact ⟨fun _ => rfl,absurd rfl⟩
  · cases decoded
    exact ⟨fun _ => rfl,fun _ => rfl⟩

theorem setFile_parts (nodup : (members.map (·.1)).Nodup)
    (plain : ∀ mem ∈ members, ¬Mistaken mem.1) {dto : FileDTO} (decoded : setFile (.obj members) {} = some dto) :
    (match members.lookup "meta".toList with
      | none => dto.metaDTO = {}
      | some value => setMeta value {} = some dto.metaDTO) ∧ (match members.lookup "ebus".toList with
      | none => dto.ebusDTO = none
      | some value => setPointer {} setEbus value none = some dto.ebusDTO) := by
  have apart (name : Text) (owned : name ∈ knownNames) (folded : ∀ known ∈ knownNames, foldName known = foldName name → known = name)
      (mistaken : ∀ key, key ∉ knownNames → foldName key = foldName name → Mistaken key)
      (mem : Text × Json) (inside : mem ∈ members) (different : mem.1 ≠ name) : foldName mem.1 ≠ foldName name := by
    intro same
    by_cases known : mem.1 ∈ knownNames
    · exact different (folded _ known same)
    · exact plain mem inside (mistaken _ known same)
  constructor
  · refine setMembers_single FileDTO.metaDTO (fun _ _ => rfl) rfl nodup (fun mem inside different set found => ?_) decoded
    exact chosen_frame FileDTO.metaDTO (fun _ listed other _ _ _ decoded => (parts_frame listed decoded).1 other)
      (apart "meta".toList (by decide) (by decide) (fun _ other same => ⟨other,.inl same⟩) mem inside different) found mem.2
  · refine setMembers_single FileDTO.ebusDTO (fun _ _ => rfl) rfl nodup (fun mem inside different set found => ?_) decoded
    exact chosen_frame FileDTO.ebusDTO (fun _ listed other _ _ _ decoded => (parts_frame listed decoded).2 other)
      (apart "ebus".toList (by decide) (by decide) (fun _ other same => ⟨other,.inr same⟩) mem inside different) found mem.2

def FileDTO.supported (dto : FileDTO) : FileDTO :=
  {dto with ebusDTO := if (dto.ebusDTO.filter (·.schemaVersion ≠ 1)).isSome then none else dto.ebusDTO}

theorem unmarshalState_some (taken : unmarshalState o (.obj members) = some (s,warned)) :
    (members.map (·.1)).Nodup ∧ ∃ dto state, setFile (.obj members) {} = some dto ∧ dto.schemaVersion = 1 ∧
      dtoToState o dto.supported = some state ∧ s = {state with
        control := (members.lookup controlNamespaceName).map (decodeControlNamespace o)
        opaqueNamespaces := members.filter fun (name,_) => name ≠ controlNamespaceName && !knownNames.contains name} := by
  unfold unmarshalState at taken
  obtain ⟨raw,object,taken⟩ := Option.bind_eq_some_iff.mp taken
  obtain ⟨dto,decoded,taken⟩ := Option.bind_eq_some_iff.mp taken
  obtain ⟨same,nodup⟩ := strictObject_some object
  cases same
  obtain ⟨version,taken⟩ := Option.ite_none_left_eq_some.mp taken
  obtain ⟨state,converted,same⟩ := Option.bind_eq_some_iff.mp taken
  cases same
  exact ⟨nodup,dto,state,decoded,not_not.mp version,converted,rfl⟩

theorem parts_of_plain {f g : List (Text × Json)} {t : State} {warned' : List NamespaceVersionWarning}
    (plain : ∀ mem ∈ f, ¬Mistaken mem.1) (plain' : ∀ mem ∈ g, ¬Mistaken mem.1)
    (taken : unmarshalState o (.obj f) = some (s,warned)) (accepted' : unmarshalState o (.obj g) = some (t,warned'))
    (same : ∀ name ∈ knownNames, f.lookup name = g.lookup name) : s.parts = t.parts := by
  obtain ⟨nodup,dto,state,decoded,version,converted,rfl⟩ := unmarshalState_some taken
  obtain ⟨distinct',dto',state',decoded',version',converted',rfl⟩ := unmarshalState_some accepted'
  obtain ⟨metas,ebuses⟩ := setFile_parts nodup plain decoded
  obtain ⟨metas',ebuses'⟩ := setFile_parts distinct' plain' decoded'
  rw [← same _ (by decide)] at metas' ebuses'
  have metaSame : dto.metaDTO = dto'.metaDTO := by
    cases found : f.lookup "meta".toList with
    | none =>
      rw [found] at metas metas'
      exact metas.trans metas'.symm
    | some value =>
      rw [found] at metas metas'
      exact Option.some.inj (metas.symm.trans metas')
  have ebusSame : dto.ebusDTO = dto'.ebusDTO := by
    cases found : f.lookup "ebus".toList with
    | none =>
      rw [found] at ebuses ebuses'
      exact ebuses.trans ebuses'.symm
    | some value =>
      rw [found] at ebuses ebuses'
      exact Option.some.inj (ebuses.symm.trans ebuses')
  -- The state is converted from everything but the raw control member.
  have states : state = state' := by
    apply Option.some.inj
    rw [← converted,← converted']
    unfold dtoToState FileDTO.supported
    rw [version,version',metaSame,ebusSame]
  rw [states]
  rfl

theorem lookup_of_mem (nodup : (members.map (·.1)).Nodup) (inside : (name,value) ∈ members) : members.lookup name = some value := by
  induction members with
  | nil => cases inside
  | cons mem rest ih =>
    rw [map_cons,nodup_cons] at nodup
    rcases mem_cons.mp inside with rfl | inside
    · exact lookup_cons_self
    · have different : name ≠ mem.1 := by
        rintro rfl
        exact nodup.1 (mem_map.mpr ⟨_,inside,rfl⟩)
      rw [lookup_cons,beq_false_of_ne different]
      exact ih nodup.2 inside

theorem marshalState_perm (o : Outside) (s : State) : ∃ known, (known.map (·.1)).Nodup ∧
    (∀ name, name ∈ known.map (·.1) → name ∈ knownNames ∨ name = controlNamespaceName) ∧
    (∀ control, s.control = some control → (controlNamespaceName,control.encode o) ∈ known) ∧ (marshalState o s).Perm
      (known ++ s.opaqueNamespaces.filter fun (name,_) => name ≠ controlNamespaceName && !knownNames.contains name) := by
  let known := [("schema_version".toList,.num (intText s.schemaVersion)),("meta".toList,s.metaState.encode o)] ++
    s.ebus.toList.map (fun ebus => ("ebus".toList,ebus.encode o)) ++
    s.control.toList.map fun control => (controlNamespaceName,control.encode o)
  have keys : known.map (·.1) = ["schema_version".toList,"meta".toList] ++
      (if s.ebus.isSome then ["ebus".toList] else []) ++ if s.control.isSome then [controlNamespaceName] else [] := by
    cases ebus : s.ebus <;> cases control : s.control <;> simp [known,ebus,control]
  refine ⟨known,?_,?_,?_,?_⟩
  · rw [keys]
    generalize s.ebus.isSome = ebus
    generalize s.control.isSome = control
    revert ebus control
    decide
  · rw [keys]
    generalize s.ebus.isSome = ebus
    generalize s.control.isSome = control
    revert ebus control
    decide
  · intro control held
    refine mem_append_right _ ?_
    rw [held]
    exact mem_cons_self
  · unfold marshalState
    dsimp only
    split
    next empty =>
      rw [empty,filter_nil,append_nil]
    next => exact perm_insertionSort _ _

theorem canonical_encode (lawful : o.Lawful) (value : Json) : Canonical o ((decodeControlNamespace o value).encode o) := by
  unfold Canonical
  rw [decodeControlNamespace_encode lawful]

theorem writtenBack (lawful : o.Lawful) (taken : unmarshalState o (.obj members) = some (s,warned)) : WrittenBack o members s := by
  obtain ⟨nodup,dto,state,_,_,_,rfl⟩ := unmarshalState_some taken
  generalize kept : ({state with
    control := (members.lookup controlNamespaceName).map (decodeControlNamespace o)
    opaqueNamespaces := members.filter fun (name,_) => name ≠ controlNamespaceName && !knownNames.contains name} : State) = s
  obtain ⟨known,knownDistinct,knownOnly,control,perm⟩ := marshalState_perm o s
  have opaques : s.opaqueNamespaces.filter (fun (name,_) => name ≠ controlNamespaceName && !knownNames.contains name) =
      members.filter fun (name,_) => name ≠ controlNamespaceName && !knownNames.contains name := by
    rw [← kept,filter_filter]
    simp only [Bool.and_self]
  rw [opaques] at perm
  have unique : ((marshalState o s).map (·.1)).Nodup := by
    rw [(perm.map (·.1)).nodup_iff,map_append,nodup_append]
    refine ⟨knownDistinct,?_,?_⟩
    · exact nodup.sublist (filter_sublist.map _)
    · intro name first other second same
      subst same
      obtain ⟨mem,inside,rfl⟩ := mem_map.mp second
      have neither := (mem_filter.mp inside).2
      rcases knownOnly _ first with owned | control
      · simp [owned] at neither
      · simp [control] at neither
  refine ⟨unique,fun name value inside other different => ?_,fun value inside => ?_⟩
  · refine perm.mem_iff.mpr (mem_append_right _ (mem_filter.mpr ⟨inside,?_⟩))
    simp [other,different]
  · have held : s.control = some (decodeControlNamespace o value) := by
      rw [← kept]
      dsimp only
      rw [lookup_of_mem nodup inside]
      rfl
    have written := perm.mem_iff.mpr (mem_append_left _ (control _ held))
    refine ⟨⟨fun same => ?_,fun canonical => ?_⟩,_,written,canonical_encode lawful value,decodeControlNamespace_encode lawful value⟩
    · exact Option.some.inj ((lookup_of_mem unique written).symm.trans (lookup_of_mem unique same))
    · rwa [canonical] at written

section
variable (o : Outside) {name known : Text}

def withMember (name : Text) (value : Json) : List (Text × Json) := [("schema_version".toList,.num ['1']),(name,value)]

theorem chosen_mistaken (different : name ∉ knownNames) (folded : foldName name = foldName known)
    (apart : foldName known ≠ foldName controlNamespaceName) :
    chosen fileFields name = (fileFields.find? fun field => foldName field.1 = foldName known).map (·.2) := by
  have exact : fileFields.find? (·.1 = name) = none := by
    rw [List.find?_eq_none]
    intro field listed same
    rw [decide_eq_true_eq] at same
    have names : fileFields.map (·.1) = knownNames ++ [controlNamespaceName] := rfl
    have owned : field.1 ∈ knownNames ++ [controlNamespaceName] := names ▸ mem_map.mpr ⟨field,listed,rfl⟩
    rcases mem_append.mp owned with owned | control
    · exact different (same ▸ owned)
    · exact apart (by rw [← folded,← same,mem_singleton.mp control])
  unfold chosen
  rw [exact,Option.none_or,folded]

theorem setFile_withMember {set : Setter FileDTO} (found : chosen fileFields name = some set) (value : Json) :
    setFile (.obj (withMember name value)) {} = (set value {schemaVersion := 1}).bind some := by
  have version : setMembers fileFields (withMember name value) {} = setMembers fileFields [(name,value)] {schemaVersion := 1} := rfl
  rw [setFile,setStruct,version,setMembers,found]
  rfl

section
variable (different : name ∉ knownNames)
include different

theorem strictObject_withMember (value : Json) : strictObject (.obj (withMember name value)) = some (withMember name value) := by
  refine if_pos ?_
  have apart : "schema_version".toList ≠ name := by
    rintro rfl
    exact different (by decide)
  simpa [withMember] using apart

theorem lookup_withMember (value : Json) (owned : known ∈ knownNames) :
    (withMember name value).lookup known = [("schema_version".toList,Json.num ['1'])].lookup known := by
  have apart : known ≠ name := by
    rintro rfl
    exact different owned
  unfold withMember
  rw [lookup_cons,lookup_cons,lookup_cons,beq_false_of_ne apart]

theorem mistaken_meta (folded : foldName name = foldName "meta".toList) (guid : Text) :
    (unmarshalState o (.obj (withMember name (.obj [("instance_guid".toList,.str guid)])))).map
    (·.1.parts) = some (1,⟨guid,none,[],[]⟩,none) := by
  have found := chosen_mistaken different folded (by decide)
  unfold unmarshalState
  rw [strictObject_withMember different,setFile_withMember found]
  rfl

theorem mistaken_ebus (folded : foldName name = foldName "ebus".toList) :
    (unmarshalState o (.obj (withMember name (.obj [("schema_version".toList,.num ['1'])])))).map (·.1.parts) =
      some (1,⟨[],none,[],[]⟩,some ⟨1,none,[]⟩) := by
  have found := chosen_mistaken different folded (by decide)
  unfold unmarshalState
  rw [strictObject_withMember different,setFile_withMember found]
  rfl

end

theorem schema_only : (unmarshalState o (.obj [("schema_version".toList,.num ['1'])])).map
    (·.1.parts) = some (1,⟨[],none,[],[]⟩,none) := rfl

end

def timeless : Outside where
  parseInstant _ := none
  formatInstant _ := []
  decodePayload := some
  encodePayload := id
  digest _ := List.replicate 64 '0'

theorem timeless_lawful : timeless.Lawful where
  instant _ _ parsed := by cases parsed
  payload _ := rfl
  digest _ := rfl

def otherMember : Text × Json := ("plugin".toList,.arr [.bool true,.str ['x']])

def controlMember : Text × Json :=
  (controlNamespaceName,.obj [("schema_version".toList,.num ['1']),("issued_revision_mark".toList,.str ['3']),
    ("catalog_revision".toList,.str ['2']),("drivers".toList,.obj [])])

def sharedFile : List (Text × Json) :=
  [("schema_version".toList,.num ['1']),("meta".toList,.obj [("instance_guid".toList,.str ['a'])]),otherMember,controlMember]

end EbusGateway.RuntimeState
