import FlexGrid.Proofs.Spec.Rows
import FlexGrid.Spec.ListForm

/-! The list form as an encoding of specs: it says all of a spec, a value that is accepted is the list form of just one
spec, and for any other value the first element that is no entry is named. -/
namespace FlexGrid

namespace Entry

/-- Whether an entry can stand in a list form: a count has to be positive and within the limit. -/
def IsListed : Entry → Prop
  | .drawing _ => True
  | .distribute count => 0 < count ∧ count ≤ wordLimit

/-- An entry of a list form fails to be a row only by a character of its drawing. -/
theorem foreignCharacter_of_toRow {number : Nat} {entry : Entry} {fault : Fault}
    (hListed : entry.IsListed) (h : entry.toRow number = .error fault) :
    ∃ column found, fault = .foreignCharacter number column found := by
  cases entry with
  | drawing text =>
      simp only [toRow] at h
      split at h
      · cases h
      · exact ⟨_, _, (Except.error.inj h).symm⟩
  | distribute count =>
      rw [toRow_distribute hListed.1] at h
      cases h

end Entry

namespace Spec

/-- Whether all entries of a spec can stand in a list form. Drawings always can, and need not be sound for it. -/
def IsListed (spec : Spec) : Prop :=
  ∀ entry ∈ spec.entries, entry.IsListed

/-- A count is a whole number from one up to the limit. Fractions, negative numbers and texts of digits are none. -/
theorem count?_eq_some_iff {value : Json.Value} {count : Nat} :
    count? value = some count ↔
      (Entry.distribute count).IsListed ∧ value = .number (.whole count) := by
  constructor
  · intro h
    unfold count? at h
    split at h
    · next n =>
      split at h
      · next hLimits =>
        cases h
        exact ⟨hLimits, rfl⟩
      · cases h
    · cases h
  · rintro ⟨hListed, rfl⟩
    exact if_pos hListed

/-- An entry is read back from its form, whatever its place in the list is. -/
theorem entryOf_entryForm {entry : Entry} (hListed : entry.IsListed) (row : Nat) :
    entryOf row (entryForm entry) = .ok entry := by
  cases entry with
  | drawing text => rfl
  | distribute count =>
      have hCount : count? (.number (.whole count)) = some count :=
        count?_eq_some_iff.mpr ⟨hListed, rfl⟩
      simp only [entryForm, entryOf, if_true, hCount]

/-- What is wrong with the `row`-th element of a list, if it is no entry: its count, if it has the shape of one. -/
inductive Faulty (row : Nat) : Json.Value → FormFault → Prop where
  | count (found : Json.Value) : Faulty row (.array [.string keyword, found]) (.badCount row found)
  | shape {value : Json.Value} (other : ∀ found, value ≠ .array [.string keyword, found]) :
      Faulty row value (.notEntry row value.kind)

/-- An element is read as an entry just if it is the form of that entry, so each entry has one form only. -/
theorem entryOf_eq_ok_iff {row : Nat} {value : Json.Value} {entry : Entry} :
    entryOf row value = .ok entry ↔ entry.IsListed ∧ value = entryForm entry := by
  constructor
  · intro h
    unfold entryOf at h
    split at h
    · next text =>
      cases h
      exact ⟨trivial, rfl⟩
    · next word found =>
      split at h
      · next hWord =>
        split at h
        · next count hCount =>
          cases h
          obtain ⟨hListed, rfl⟩ := count?_eq_some_iff.mp hCount
          exact ⟨hListed, by rw [entryForm, hWord]⟩
        · cases h
      · cases h
    · cases h
  · rintro ⟨hListed, rfl⟩
    exact entryOf_entryForm hListed row

/-- An element is refused for its count if it has the shape of a distribution, and for its shape otherwise. -/
theorem faulty_of_entryOf {row : Nat} {value : Json.Value} {fault : FormFault}
    (h : entryOf row value = .error fault) : Faulty row value fault := by
  unfold entryOf at h
  split at h
  · cases h
  · next word found =>
    split at h
    · next hWord =>
      subst hWord
      split at h
      · cases h
      · cases h
        exact .count found
    · next hWord =>
      cases h
      refine .shape ?_
      rintro others hValue
      cases hValue
      exact hWord rfl
  · next hString hPair =>
    cases h
    exact .shape fun found => hPair keyword found

/-- The forms of entries are read back all together, in the same order. -/
theorem entriesOf_entryForm {entries : List Entry} (hListed : ∀ entry ∈ entries, entry.IsListed)
    (passed : Nat) : entriesOf passed (entries.map entryForm) = .ok entries := by
  induction entries generalizing passed with
  | nil => rfl
  | cons entry rest ih =>
      obtain ⟨hEntry, hRest⟩ := List.forall_mem_cons.mp hListed
      simp only [List.map_cons, entriesOf, entryOf_entryForm hEntry, ih hRest]
      rfl

/-- Elements are read one by one: either all are entries, or the first that is none ends the reading. -/
theorem entriesOf_outcome (passed : Nat) (items : List Json.Value) :
    match entriesOf passed items with
    | .ok entries => (∀ entry ∈ entries, entry.IsListed) ∧ items = entries.map entryForm
    | .error fault =>
        ∃ (i : Nat) (item : Json.Value), items[i]? = some item ∧
          entryOf (passed + i + 1) item = .error fault ∧
          ∀ j < i, ∃ entry : Entry, entry.IsListed ∧ items[j]? = some (entryForm entry) := by
  induction items generalizing passed with
  | nil => simp [entriesOf]
  | cons item rest ih =>
      rw [entriesOf]
      cases hItem : entryOf (passed + 1) item with
      | error fault => exact ⟨0, item, rfl, hItem, by simp⟩
      | ok entry =>
          obtain ⟨hListed, rfl⟩ := entryOf_eq_ok_iff.mp hItem
          have hOutcome := ih (passed + 1)
          cases hRest : entriesOf (passed + 1) rest with
          | ok others =>
              rw [hRest] at hOutcome
              obtain ⟨hOthers, rfl⟩ := hOutcome
              exact ⟨List.forall_mem_cons.mpr ⟨hListed, hOthers⟩, rfl⟩
          | error fault =>
              rw [hRest] at hOutcome
              obtain ⟨i, other, hAt, hFault, hEarlier⟩ := hOutcome
              refine ⟨i + 1, other, hAt, ?_, ?_⟩
              · rwa [← Nat.add_assoc, Nat.add_right_comm passed i 1]
              · intro j hj
                cases j with
                | zero => exact ⟨entry, hListed, rfl⟩
                | succ j => exact hEarlier j (Nat.lt_of_succ_lt_succ hj)

theorem ofListForm_listForm {spec : Spec} (hListed : spec.IsListed) :
    ofListForm spec.listForm = .ok spec := by
  rw [listForm, ofListForm, entriesOf_entryForm hListed]
  rfl

/-- The outcome of reading a value as a list form, in the terms of what is written. -/
theorem ofListForm_outcome (value : Json.Value) :
    match ofListForm value, value with
    | .ok spec, value => spec.IsListed ∧ value = spec.listForm
    | .error fault, .array items =>
        ∃ (i : Nat) (item : Json.Value), items[i]? = some item ∧ Faulty (i + 1) item fault ∧
          (∀ entry : Entry, entry.IsListed → item ≠ entryForm entry) ∧
          ∀ j < i, ∃ entry : Entry, entry.IsListed ∧ items[j]? = some (entryForm entry)
    | .error fault, value => fault = .notList value.kind := by
  cases value with
  | array items =>
      have hOutcome := entriesOf_outcome 0 items
      simp only [ofListForm]
      cases hItems : entriesOf 0 items with
      | ok entries =>
          rw [hItems] at hOutcome
          exact ⟨hOutcome.1, congrArg Json.array hOutcome.2⟩
      | error fault =>
          rw [hItems] at hOutcome
          obtain ⟨i, item, hAt, hFault, hEarlier⟩ := hOutcome
          rw [Nat.zero_add] at hFault
          refine ⟨i, item, hAt, faulty_of_entryOf hFault, ?_, hEarlier⟩
          rintro entry hListed rfl
          rw [entryOf_entryForm hListed] at hFault
          cases hFault
  | _ => rfl

/-- Reading a list form is exact. A value is accepted just if it is the list form of a spec whose counts are positive
and within the limit, and gives back that spec; a list that is not accepted is refused for its first element that is no
entry, and what is no list for its kind. An accepted spec can still fail to be rows, but only by a foreign character. -/
theorem listForm_exact (value : Json.Value) :
    (∀ spec, ofListForm value = .ok spec ↔ spec.IsListed ∧ value = spec.listForm) ∧
    (∀ items fault, value = .array items → ofListForm value = .error fault →
      ∃ (i : Nat) (item : Json.Value), items[i]? = some item ∧ Faulty (i + 1) item fault ∧
        (∀ entry : Entry, entry.IsListed → item ≠ entryForm entry) ∧
        ∀ j < i, ∃ entry : Entry, entry.IsListed ∧ items[j]? = some (entryForm entry)) ∧
    ((∀ items, value ≠ .array items) → ofListForm value = .error (.notList value.kind)) ∧
    ∀ spec fault, ofListForm value = .ok spec → spec.rows = .error fault →
      ∃ row column found, fault = .foreignCharacter row column found := by
  have hOutcome := ofListForm_outcome value
  have hAccepted (spec : Spec) :
      ofListForm value = .ok spec ↔ spec.IsListed ∧ value = spec.listForm := by
    constructor
    · intro h
      rw [h] at hOutcome
      exact hOutcome
    · rintro ⟨hListed, rfl⟩
      exact ofListForm_listForm hListed
  refine ⟨hAccepted, ?_, ?_, ?_⟩
  · rintro items fault rfl hFault
    rw [hFault] at hOutcome
    exact hOutcome
  · intro hOther
    cases value with
    | array items => exact absurd rfl (hOther items)
    | _ => rfl
  · intro spec fault hSpec hRows
    obtain ⟨i, entry, hAt, hFault⟩ := Entry.exists_fault_of_toRows hRows
    have hEntry := ((hAccepted spec).mp hSpec).1 entry (List.mem_of_getElem? hAt)
    exact ⟨_, Entry.foreignCharacter_of_toRow hEntry hFault⟩

end Spec
end FlexGrid
