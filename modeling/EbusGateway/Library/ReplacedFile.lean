import Mathlib.Data.List.Basic

/-! A file replaced by writing a temporary file, syncing it, renaming it over the name and syncing the
directory. Content survives a crash once its file was synced; after a rename the name may still mean what it
meant at any moment since the directory was last synced. -/

namespace EbusGateway.Library
open List

structure Inode (α : Type) where
  content : α
  synced : Bool

structure Disk (α : Type) where
  file : Option (Inode α) := none
  earlier : List (Option (Inode α)) := []
  temp : Option (Inode α) := none

namespace Disk
variable {α : Type}

def writeTemp (d : Disk α) (content : α) : Disk α := {d with temp := some ⟨content,false⟩}

def syncTemp (d : Disk α) : Disk α := {d with temp := d.temp.map fun inode => {inode with synced := true}}

def rename (d : Disk α) : Disk α :=
  match d.temp with
  | none => d
  | some inode => {file := some inode, earlier := d.file :: d.earlier}

def syncDir (d : Disk α) : Disk α := {d with earlier := []}

def unlink (d : Disk α) : Disk α := {d with temp := none}

def entries (d : Disk α) : List (Option (Inode α)) := d.file :: d.earlier

def crash (d : Disk α) (index : Nat) (torn : α) : Option (Option α) :=
  d.entries[index]?.map fun entry => entry.map fun inode => if inode.synced then inode.content else torn

structure Holds (d : Disk α) (allowed : Option α → Prop) : Prop where
  synced : ∀ inode, some inode ∈ d.entries → inode.synced = true
  allowed : ∀ entry, entry ∈ d.entries → allowed (entry.map (·.content))

variable {d : Disk α} {allowed weaker : Option α → Prop}

section
variable (holds : d.Holds allowed)
include holds

theorem Holds.crash {index : Nat} {torn : α} {found : Option α} (crashed : d.crash index torn = some found) : allowed found := by
  obtain ⟨entry,kept,rfl⟩ := Option.map_eq_some_iff.mp crashed
  have inside := mem_of_getElem? kept
  have permitted := holds.allowed entry inside
  cases entry with
  | none => exact permitted
  | some inode =>
    rw [Option.map_some,if_pos (holds.synced inode inside)]
    exact permitted

theorem Holds.weaken (implies : ∀ content, allowed content → weaker content) : d.Holds weaker :=
  ⟨holds.synced,fun entry inside => implies _ (holds.allowed entry inside)⟩

/-- The temporary file is not among the entries. -/
theorem Holds.temp (temp : Option (Inode α)) : Holds {d with temp := temp} allowed :=
  ⟨holds.synced,holds.allowed⟩

theorem Holds.syncDir (file : weaker (d.file.map (·.content))) : d.syncDir.Holds weaker where
  synced inode inside := holds.synced inode (by
    rw [mem_singleton.mp inside]
    exact mem_cons_self)
  allowed entry inside := by
    rw [mem_singleton.mp inside]
    exact file

theorem Holds.rename {content : α} (temp : d.temp = some ⟨content,true⟩)
    (renamed : allowed (some content)) : d.rename.Holds allowed := by
  have entries : d.rename.entries = some ⟨content,true⟩ :: d.entries := by
    unfold Disk.rename
    rw [temp]
    rfl
  refine ⟨fun inode inside => ?_,fun entry inside => ?_⟩
  · rw [entries] at inside
    rcases mem_cons.mp inside with same | inside
    · cases same
      rfl
    · exact holds.synced inode inside
  · rw [entries] at inside
    rcases mem_cons.mp inside with rfl | inside
    · exact renamed
    · exact holds.allowed entry inside

end

theorem rename_file {inode : Inode α} (temp : d.temp = some inode) : d.rename.file = some inode := by
  unfold Disk.rename
  rw [temp]

end Disk
end EbusGateway.Library
