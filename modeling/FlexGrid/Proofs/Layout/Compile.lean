import FlexGrid.Layout.Compile
import FlexGrid.Proofs.Layout.Placement
import FlexGrid.Proofs.Spec.Rows

/-! Which specs have a layout. A spec without faults has one unless it is forced into fewer columns than
its widest drawn row needs; a spec with a fault has none, and the fault is all that is said of it. -/
namespace FlexGrid

namespace Row

/-- The widest row fits a number of columns just if all rows do. -/
theorem widest_le_iff {rows : List Row} {columns : Nat} :
    widest rows ≤ columns ↔ ∀ row ∈ rows, row.columns ≤ columns := by
  induction rows with
  | nil => simp [widest]
  | cons row rest ih =>
      change max row.columns (widest rest) ≤ columns ↔ _
      rw [Nat.max_le, ih, List.forall_mem_cons]

end Row

section

variable {α : Type} [Scalar α]

namespace Spec

/-- A spec with a fault has no layout, whatever the options are. -/
theorem compile_of_fault {spec : Spec} {fault : Entry.Fault} (h : spec.rows = .error fault)
    (options : Options α) : spec.compile options = .error (.entry fault) := by
  simp only [compile, h]

theorem exists_rows_of_compile {spec : Spec} {options : Options α} {plan : Plan α}
    (h : spec.compile options = .ok plan) : ∃ rows, spec.rows = .ok rows := by
  cases hRows : spec.rows with
  | error fault =>
      rw [compile_of_fault hRows] at h
      cases h
  | ok rows => exact ⟨rows, rfl⟩

/-- Without a fault, a layout exists exactly when the widest drawn row fits. -/
theorem compile_eq_ok_iff {spec : Spec} {options : Options α} {rows : List Row} {plan : Plan α}
    (hRows : spec.rows = .ok rows) :
    spec.compile options = .ok plan ↔
      Row.widest rows ≤ options.columns.getD (Row.widest rows) ∧
        plan = Plan.placed rows (options.columns.getD (Row.widest rows)) options.gutters := by
  rw [Row.widest_le_iff, ← Plan.ofRows_eq_ok_iff]
  simp only [compile, hRows, Options.layOut]
  split
  · rename_i excess hPlaced
    rw [hPlaced]
    constructor <;> intro h <;> cases h
  · rename_i other hPlaced
    rw [hPlaced, Except.ok.injEq, Except.ok.injEq]

/-- Whether there is a layout does not depend on the gutters, nor on any row but the widest. -/
theorem exists_compile_iff {spec : Spec} {options : Options α} {rows : List Row}
    (hRows : spec.rows = .ok rows) :
    (∃ plan, spec.compile options = .ok plan) ↔
      Row.widest rows ≤ options.columns.getD (Row.widest rows) := by
  simp only [compile_eq_ok_iff hRows, exists_and_left, exists_eq, and_true]

/-- A short spec is laid out in words as it is in numbers, whether there is a layout or a fault. -/
theorem compileHeld?_of_isShort {spec : Spec} (hShort : spec.IsShort) (options : Options α) :
    spec.compileHeld? options = some (spec.compile options) := by
  rw [compileHeld?, compile, heldRows_of_isShort hShort]
  cases hRows : spec.rows with
  | error fault => rfl
  | ok rows =>
      have hAll : (rows.all fun row => row.wordColumns?.isSome) = true :=
        List.all_eq_true.mpr fun row hRow => isSome_wordColumns? hShort hRows hRow
      exact if_pos hAll

end Spec

end

end FlexGrid
