import EbusGateway.Library.Goroutine

/-! A lock that goroutines hold by the actions they still have ahead: it is held exactly while one of the pending
actions is of the kind that holds it.
-/
namespace EbusGateway.Library
open List

variable {Act : Type} {select : Act → Bool} {held later : Bool} {act : Act} {acts others : List Act}

def Guards (select : Act → Bool) (held : Bool) (acts : List Act) : Prop := acts.countP select = held.toNat

namespace Guards

theorem perm (same : acts.Perm others) (guards : Guards select held acts) :
    Guards select held others := (same.countP_eq select).symm.trans guards

theorem none_selected (guards : Guards select false acts) : ∀ act ∈ acts, select act = false := by
  intro act mem
  exact Bool.eq_false_iff.mpr (countP_eq_zero.mp guards act mem)

/-- Who holds the lock holds it alone. -/
theorem alone (guards : Guards select held (act :: others)) (holds : select act = true) :
    held = true ∧ ∀ other ∈ others, select other = false := by
  unfold Guards at guards
  rw [countP_cons_of_pos holds] at guards
  cases held with
  | false => exact absurd guards (Nat.succ_ne_zero _)
  | true => exact ⟨rfl,none_selected (Nat.succ.inj guards)⟩

/-- An action is replaced by what its goroutine goes on with. -/
theorem replace (guards : Guards select held (act :: others)) (code : List Act)
    (balance : code.countP select + held.toNat = (select act).toNat + later.toNat) :
    Guards select later (code ++ others) := by
  unfold Guards at *
  rw [countP_append]
  rw [countP_cons] at guards
  cases selected : select act <;> simp only [selected,if_true,if_false,Bool.false_eq_true,
    Bool.toNat_true,Bool.toNat_false] at guards balance <;> omega

end Guards

end EbusGateway.Library
