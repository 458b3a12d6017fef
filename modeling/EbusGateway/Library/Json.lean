import Mathlib

/-! JSON values and the way a struct is decoded from an object: each member goes to the field of its exact
name or else to one whose name agrees up to letter case, in the order of the members, onto what the field
already holds. -/

namespace EbusGateway.Library

inductive Json
  | null
  | bool (value : Bool)
  | num (text : List Char)
  | str (text : List Char)
  | arr (items : List Json)
  | obj (members : List (List Char × Json))

namespace Json

def foldRune (c : Char) : Char :=
  if c.isLower then c.toUpper
  else if c = Char.ofNat 0x17f then 'S'
  else if c = Char.ofNat 0x212a then 'K'
  else c

def foldName (name : List Char) : List Char := name.map foldRune

abbrev Setter (σ : Type) := Json → σ → Option σ

variable {σ τ : Type}

def chosen (fields : List (List Char × Setter σ)) (key : List Char) : Option (Setter σ) :=
  ((fields.find? (·.1 = key)).or (fields.find? fun field => foldName field.1 = foldName key)).map (·.2)

def setMembers (fields : List (List Char × Setter σ)) : List (List Char × Json) → σ → Option σ
  | [],s => some s
  | (key,value) :: rest,s =>
    match chosen fields key with
    | none => setMembers fields rest s
    | some set => (set value s).bind (setMembers fields rest)

def setStruct (fields : List (List Char × Setter σ)) : Setter σ
  | .null,s => some s
  | .obj members,s => setMembers fields members s
  | _,_ => none

def setString : Setter (List Char)
  | .null,s => some s
  | .str text,_ => some text
  | _,_ => none

def parseInt (text : List Char) : Option Int :=
  let (negative,digits) := match text with
    | '-' :: digits => (true,digits)
    | digits => (false,digits)
  if digits = [] || digits.any (!·.isDigit) then none
  else
    let value : Int := Nat.ofDigitChars 10 digits 0
    let value := if negative then -value else value
    if -2 ^ 63 ≤ value && value < 2 ^ 63 then some value else none

def setInt : Setter Int
  | .null,s => some s
  | .num text,_ => parseInt text
  | _,_ => none

def setPointer (zero : σ) (set : Setter σ) : Setter (Option σ)
  | .null,_ => some none
  | value,s => (set value (s.getD zero)).map some

structure Slice (σ : Type) where
  items : List σ := []
  stale : List σ := []

def setItems (zero : σ) (set : Setter σ) : List Json → List σ → Option (Slice σ)
  | [],stale => some ⟨[],stale⟩
  | value :: rest,storage => do
    let item ← set value (storage.headD zero)
    let slice ← setItems zero set rest storage.tail
    return {slice with items := item :: slice.items}

def setSlice (zero : σ) (set : Setter σ) : Setter (Slice σ)
  | .null,_ => some {}
  | .arr [],_ => some {}
  | .arr values,s => setItems zero set values (s.items ++ s.stale)
  | _,_ => none

def setPart (get : σ → τ) (put : τ → σ → σ) (set : Setter τ) : Setter σ := fun value s => (set value (get s)).map (put · s)

variable {fields : List (List Char × Setter σ)} {members : List (List Char × Json)}

/-- Members whose setters leave a component alone leave it as it was. -/
theorem setMembers_frame (get : σ → τ)
    (frame : ∀ mem ∈ members, ∀ set, chosen fields mem.1 = some set → ∀ s s', set mem.2 s = some s' → get s' = get s)
    {s final : σ} (decoded : setMembers fields members s = some final) : get final = get s := by
  induction members generalizing s with
  | nil => rw [← Option.some.inj decoded]
  | cons mem rest ih =>
    have later (s' : σ) (remaining : setMembers fields rest s' = some final) : get final = get s' :=
      ih (fun other inside => frame other (.tail _ inside)) remaining
    rw [setMembers] at decoded
    cases set : chosen fields mem.1 with
    | none =>
      rw [set] at decoded
      exact later s decoded
    | some setter =>
      rw [set] at decoded
      obtain ⟨s',first,remaining⟩ := Option.bind_eq_some_iff.mp decoded
      rw [later s' remaining]
      exact frame mem List.mem_cons_self setter set s s' first

/-- A component that only the members named `name` are decoded into is what the one such member makes of it. -/
theorem setMembers_single (get : σ → τ) {put : τ → σ → σ} {part : Setter τ}
    (puts : ∀ t s, get (put t s) = t) {name : List Char} (own : chosen fields name = some (setPart get put part))
    (distinct : (members.map (·.1)).Nodup) (frame : ∀ mem ∈ members, mem.1 ≠ name → ∀ set, chosen fields mem.1 = some set →
      ∀ s s', set mem.2 s = some s' → get s' = get s) {s final : σ} (decoded : setMembers fields members s = some final) :
    match members.lookup name with
    | none => get final = get s
    | some value => part value (get s) = some (get final) := by
  induction members generalizing s with
  | nil => rw [← Option.some.inj decoded,List.lookup_nil]
  | cons mem rest ih =>
    obtain ⟨key,value⟩ := mem
    rw [List.map_cons,List.nodup_cons] at distinct
    have others (inside : ∀ other ∈ rest, other.1 ≠ name) (s' : σ) (decoded : setMembers fields rest s' = some final) :
        get final = get s' :=
      setMembers_frame get (fun other here => frame other (.tail _ here) (inside other here)) decoded
    rw [setMembers] at decoded
    by_cases same : key = name
    · subst same
      rw [own] at decoded
      obtain ⟨s',first,remaining⟩ := Option.bind_eq_some_iff.mp decoded
      obtain ⟨t,set,rfl⟩ := Option.map_eq_some_iff.mp first
      have last := others (fun other here equal => distinct.1 (List.mem_map.mpr ⟨other,here,equal⟩)) _ remaining
      rw [List.lookup_cons_self,last,puts]
      exact set
    · have found : List.lookup name ((key,value) :: rest) = rest.lookup name := by
        rw [List.lookup_cons,beq_false_of_ne (Ne.symm same)]
      rw [found]
      have rest_frame := fun other here => frame other (List.mem_cons_of_mem (key,value) here)
      cases set : chosen fields key with
      | none =>
        rw [set] at decoded
        exact ih distinct.2 rest_frame decoded
      | some setter =>
        rw [set] at decoded
        obtain ⟨s',first,remaining⟩ := Option.bind_eq_some_iff.mp decoded
        have kept := frame (key,value) List.mem_cons_self same setter set s s' first
        rw [← kept]
        exact ih distinct.2 rest_frame remaining

end Json
end EbusGateway.Library
