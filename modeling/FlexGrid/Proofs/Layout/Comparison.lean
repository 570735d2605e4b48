import FlexGrid.Proofs.Layout.Compile
import Mathlib.Data.List.Forall2

/-! Two specs side by side. What is known of their entries pair by pair is carried over to their rows, and from
there to their layouts: both end with the same fault, or both come to an end with results that are related. -/
namespace FlexGrid

/-- Two runs that end alike: both with the same fault, or both with results that are related. -/
inductive EndAlike {ε α β : Type} (related : α → β → Prop) : Except ε α → Except ε β → Prop where
  | error (fault : ε) : EndAlike related (.error fault) (.error fault)
  | ok {a : α} {b : β} (h : related a b) : EndAlike related (.ok a) (.ok b)

/-- An outcome ends like itself if every result is related to itself. -/
theorem EndAlike.refl {ε α : Type} {related : α → α → Prop} (h : ∀ a, related a a)
    (x : Except ε α) : EndAlike related x x := by
  cases x with
  | error fault => exact .error fault
  | ok a => exact .ok (h a)

/-- Outcomes that end alike still do if less is asked of their results. -/
theorem EndAlike.imp {ε α β : Type} {related weaker : α → β → Prop} {x : Except ε α} {y : Except ε β}
    (h : EndAlike related x y) (hWeaker : ∀ a b, related a b → weaker a b) : EndAlike weaker x y := by
  cases h with
  | error fault => exact .error fault
  | ok h => exact .ok (hWeaker _ _ h)

theorem EndAlike.eq {ε α : Type} {x y : Except ε α} (h : EndAlike Eq x y) : x = y := by
  cases h with
  | error fault => rfl
  | ok h => rw [h]

theorem exists_getElem?_of_forall₂ {α β : Type} {pair : α → β → Prop} {as : List α} {bs : List β}
    (h : List.Forall₂ pair as bs) {i : Nat} {a : α} (ha : as[i]? = some a) :
    ∃ b, bs[i]? = some b ∧ pair a b := by
  obtain ⟨hi, rfl⟩ := List.getElem?_eq_some_iff.mp ha
  have hj : i < bs.length := h.length_eq ▸ hi
  exact ⟨bs[i], List.getElem?_eq_getElem hj, h.get hi hj⟩

namespace Entry

/-- Entries that stand for related rows one by one do so in any number. -/
theorem toRows_alike {pair : Entry → Entry → Prop} {related : Row → Row → Prop}
    (hStep : ∀ number entry other, pair entry other →
      EndAlike related (entry.toRow number) (other.toRow number))
    {entries others : List Entry} (h : List.Forall₂ pair entries others) (passed : Nat) :
    EndAlike (List.Forall₂ related) (toRows passed entries) (toRows passed others) := by
  induction h generalizing passed with
  | nil => exact .ok .nil
  | @cons entry other rest otherRest hPair _ ih =>
      have hFirst := hStep (passed + 1) entry other hPair
      have hRest := ih (passed + 1)
      rw [toRows, toRows]
      generalize entry.toRow (passed + 1) = first at hFirst
      generalize other.toRow (passed + 1) = otherFirst at hFirst
      generalize toRows (passed + 1) rest = below at hRest
      generalize toRows (passed + 1) otherRest = otherBelow at hRest
      cases hFirst with
      | error fault => exact .error fault
      | ok hRow =>
          cases hRest with
          | error fault => exact .error fault
          | ok hRows => exact .ok (.cons hRow hRows)

end Entry

/-- Specs whose rows are related have layouts that are, if placing related rows gives related layouts. -/
theorem Spec.compile_alike {α : Type} [Scalar α] {s t : Spec} {options : Options α}
    {rowsRelated : List Row → List Row → Prop} {plansRelated : Plan α → Plan α → Prop}
    (hRows : EndAlike rowsRelated s.rows t.rows)
    (hPlans : ∀ rows others, s.rows = .ok rows → t.rows = .ok others → rowsRelated rows others →
      EndAlike plansRelated
        (Plan.ofRows rows (options.columns.getD (Row.widest rows)) options.gutters)
        (Plan.ofRows others (options.columns.getD (Row.widest others)) options.gutters)) :
    EndAlike plansRelated (s.compile options) (t.compile options) := by
  generalize hS : s.rows = rows at hRows
  generalize hT : t.rows = others at hRows
  cases hRows with
  | error fault =>
      rw [compile_of_fault hS, compile_of_fault hT]
      exact .error _
  | @ok rows others hRelated =>
      have hBoth := hPlans rows others hS hT hRelated
      simp only [compile, hS, hT, Options.layOut]
      generalize Plan.ofRows rows _ options.gutters = plan at hBoth
      generalize Plan.ofRows others _ options.gutters = otherPlan at hBoth
      cases hBoth with
      | error excess => exact .error _
      | ok h => exact .ok h

end FlexGrid
