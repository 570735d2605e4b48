import FlexGrid.Proofs.Command.Outcome
import FlexGrid.Proofs.Layout.Independence
import FlexGrid.Proofs.Serial.Faithful
import FlexGrid.Proofs.Spec.ListForm

/-! Layouts as they are written and read back. A layout that a run comes to can be stored if its two gutters can, for it
has no other lengths, and its numbers are bounded by its size. So what the run writes says all of the layout. -/
namespace FlexGrid

open Json Serial

/-- The tracks of a row fit a word if the columns of the grid do: the count of an even row is limited as it is read. -/
theorem Spec.tracks_le_wordLimit {spec : Spec} (hListed : spec.IsListed) {rows : List Row}
    (hRows : spec.rows = .ok rows) {columns : Nat} (hColumns : columns ≤ wordLimit) {row : Row}
    (hRow : row ∈ rows) : row.tracks columns ≤ wordLimit := by
  cases row with
  | drawn drawn => exact hColumns
  | even count positive =>
      obtain ⟨entry, hEntry, number, hToRow⟩ := Entry.exists_entry_of_toRows hRows hRow
      have hCount := hListed entry hEntry
      cases entry with
      | drawing text =>
          simp only [Entry.toRow] at hToRow
          split at hToRow <;> cases hToRow
      | distribute other =>
          obtain ⟨_, hSame⟩ := Entry.eq_even_of_toRow hToRow
          cases hSame
          exact hCount.2

namespace Plan

/-- Whether a layout is of a size that is ever held: its columns are counted in a word, and its rows and cells in a long
one. -/
structure IsSized (plan : Plan Float) : Prop where
  columns : plan.columns ≤ wordLimit
  rows : plan.rows ≤ longLimit
  cells : plan.cells.length ≤ longLimit

variable {spec : Spec} {options : Options Float} {plan : Plan Float}

/-- A layout that a spec is compiled to fits what it is stored in if its own size does: a cell is among the cells that
are counted, and its extents stay within their tracks. -/
theorem fits_of_compile (hListed : spec.IsListed) (h : spec.compile options = .ok plan) (hSized : plan.IsSized) :
    plan.Fits := by
  obtain ⟨rows, hRows⟩ := Spec.exists_rows_of_compile h
  obtain ⟨hWidest, rfl⟩ := (Spec.compile_eq_ok_iff hRows).mp h
  generalize options.columns.getD (Row.widest rows) = columns at hWidest hSized ⊢
  refine ⟨hSized.columns, hSized.rows, ?_⟩
  intro cell hCell
  obtain ⟨p, hAt⟩ := List.mem_iff_getElem?.mp hCell
  obtain ⟨hp, -⟩ := List.getElem?_eq_some_iff.mp hAt
  have hIndex : cell.index = p + 1 := index_placed hAt
  obtain ⟨r, row, above, i, slot, hRow, rfl, -, hReach, hOwn⟩ :=
    exists_slot_of_mem_placed (Spec.span_pos hRows) (Row.widest_le_iff.mp hWidest) hCell
  obtain ⟨hr, -⟩ := List.getElem?_eq_some_iff.mp hRow
  have hTracks : row.tracks columns ≤ wordLimit :=
    Spec.tracks_le_wordLimit hListed hRows hSized.columns (List.mem_of_getElem? hRow)
  rw [Slot.reach] at hReach
  refine ⟨?_, Nat.le_trans (Nat.succ_le_of_lt hr) hSized.rows, ?_⟩
  · rw [hIndex]
    exact Nat.le_trans (Nat.succ_le_of_lt hp) hSized.cells
  · intro e hExtent
    rcases Canvas.mem_extents_slotCell.mp hExtent with rfl | ⟨hBlanks, rfl⟩
    · have hSpan : slot.span ≤ wordLimit := by omega
      exact ⟨hSpan, hTracks⟩
    · rw [hOwn hBlanks] at hTracks hReach
      have hBlank : slot.blanks ≤ wordLimit := by omega
      exact ⟨hBlank, hTracks⟩

theorem mem_lengths_of_compile (h : spec.compile options = .ok plan) {l : Length Float}
    (hl : l ∈ plan.lengths) : l = plan.gutters.across ∨ l = plan.gutters.down := by
  obtain ⟨rows, hRows⟩ := Spec.exists_rows_of_compile h
  obtain ⟨hWidest, rfl⟩ := (Spec.compile_eq_ok_iff hRows).mp h
  rw [lengths, List.mem_cons, List.mem_cons, List.mem_flatMap] at hl
  rcases hl with rfl | rfl | ⟨cell, hCell, hl⟩
  · exact .inl rfl
  · exact .inr rfl
  · obtain ⟨r, row, above, i, slot, -, rfl, -⟩ :=
      exists_slot_of_mem_placed (Spec.span_pos hRows) (Row.widest_le_iff.mp hWidest) hCell
    simp only [PlacedCell.lengths, List.mem_append, List.mem_map, Option.mem_toList] at hl
    rcases hl with ⟨e, hExtent, rfl⟩ | hRight | hBottom
    · rcases Canvas.mem_extents_slotCell.mp hExtent with rfl | ⟨-, rfl⟩
      · exact .inl rfl
      · exact .inl rfl
    · exact .inl (Canvas.marginRight_eq_some_iff.mp hRight).1
    · exact .inr (Canvas.marginBottom_eq_some_iff.mp hBottom).1

/-- A layout of a spec that was read can be stored if its gutters can. -/
theorem parse?_of_compile (hListed : spec.IsListed) (h : spec.compile options = .ok plan) (hSized : plan.IsSized)
    (hGutters : ∀ l ∈ [plan.gutters.across, plan.gutters.down],
      l.value.isFinite = true ∧ (Number.double l.value).ReadsBack) {source : String}
    (hSource : Plan.stored.IsText plan source) : Plan.stored.parse? source = some plan := by
  have hLengths (l : Length Float) (hl : l ∈ plan.lengths) :
      l.value.isFinite = true ∧ (Number.double l.value).ReadsBack :=
    hGutters l (by simpa using mem_lengths_of_compile h hl)
  exact Plan.isFaithful_stored.text plan ⟨fits_of_compile hListed h hSized, fun l hl => (hLengths l hl).1⟩
    (fun l hl => (hLengths l hl).2) source hSource

end Plan

/-- A spec that is read from a text has the counts that its list form may hold. -/
theorem Spec.isListed_of_parse {source : String} {spec : Spec} (h : Spec.parse source = .ok spec) :
    spec.IsListed := by
  unfold Spec.parse at h
  cases hValue : Json.parse source with
  | error fault =>
      rw [hValue] at h
      cases h
  | ok value =>
      have hOutcome := ofListForm_outcome value
      rw [hValue] at h
      cases hSpec : ofListForm value with
      | error fault =>
          simp only [hSpec] at h
          cases h
      | ok found =>
          simp only [hSpec] at h hOutcome
          cases h
          exact hOutcome.1

namespace Command

theorem toOption_mapError_eq_some_iff {ε δ α : Type} {x : Except ε α} {f : ε → δ} {a : α} :
    (x.mapError f).toOption = some a ↔ x = .ok a := by
  cases x with
  | error e => exact ⟨nofun, nofun⟩
  | ok b =>
      change some b = some a ↔ _
      rw [Option.some.injEq, Except.ok.injEq]

/-- The layout of a run is that of the spec it has read. Such a spec is listed, so all of its counts are words. -/
theorem World.exists_compile_of_plan? {w : World} {arguments : Arguments} {plan : Plan Float}
    (h : w.plan? arguments = some plan) :
    ∃ spec options, w.spec? arguments = some spec ∧ spec.IsListed ∧ w.options? arguments = some options ∧
      spec.compile options = .ok plan := by
  simp only [plan?, compileOf, Option.bind_eq_bind, Option.bind_eq_some_iff,
    toOption_mapError_eq_some_iff] at h
  obtain ⟨spec, hSpec, options, hOptions, hCompile⟩ := h
  have hRead := hSpec
  simp only [spec?, specOf, Option.bind_eq_bind, Option.bind_eq_some_iff,
    toOption_mapError_eq_some_iff] at hRead
  obtain ⟨source, -, hParse⟩ := hRead
  exact ⟨spec, options, hSpec, Spec.isListed_of_parse hParse, hOptions, hCompile⟩

/-- A run that asks for JSON and does not fail has written the layout that it came to. -/
theorem exists_isText_of_run {arguments : Arguments} {w reached : World}
    (hFormat : arguments.format = some .json)
    (h : outcome (run World.host arguments) w = (.ok (), reached)) :
    ∃ plan text, w.plan? arguments = some plan ∧ Plan.stored.IsText plan text ∧
      w.Delivered reached arguments.output text := by
  rw [outcome_run] at h
  cases hCome : w.layout arguments with
  | error failure =>
      simp only [hCome] at h
      cases h
  | ok come =>
      obtain ⟨settings, plan⟩ := come
      obtain ⟨-, hPlan⟩ := World.results_of_layout hCome
      simp only [hCome] at h
      cases hDelivered : w.deliver arguments.output
          (render (arguments.format.getD .css) settings.style plan) with
      | error failure =>
          simp only [hDelivered] at h
          cases h
      | ok machine =>
          simp only [hDelivered] at h
          cases h
          refine ⟨plan, _, hPlan, ?_, World.delivered_of_deliver hDelivered⟩
          rw [hFormat]
          have hBlank : IsBlank ['\n'] := by simp [IsBlank, isSpace]
          exact .lines hBlank

/-- Every stored form says all of its values, whose numbers fit machine words and whose lengths are finite: documents
are read back as the values they were written for, and so are their texts, as far as the doubles among the lengths are
read back. What a run writes as JSON is read back as the layout that it came to. -/
theorem stored_forms_faithful :
    (Entry.stored.IsFaithful ∧ Spec.stored.IsFaithful ∧ Cell.stored.IsFaithful ∧
      DrawnRow.stored.IsFaithful ∧ Row.stored.IsFaithful ∧ LengthUnit.stored.IsFaithful ∧
      Length.stored.IsFaithful ∧ Extent.stored.IsFaithful ∧ PlacedCell.stored.IsFaithful ∧
      Plan.stored.IsFaithful) ∧
    ∀ (arguments : Arguments) (w reached : World), arguments.format = some .json →
      outcome (run World.host arguments) w = (.ok (), reached) →
      ∃ plan text, w.plan? arguments = some plan ∧ w.Delivered reached arguments.output text ∧
        (plan.IsSized →
          (∀ l ∈ [plan.gutters.across, plan.gutters.down],
            l.value.isFinite = true ∧ (Number.double l.value).ReadsBack) →
          Plan.stored.parse? text = some plan) := by
  refine ⟨⟨Entry.isFaithful_stored, Spec.isFaithful_stored, Cell.isFaithful_stored,
    DrawnRow.isFaithful_stored, Row.isFaithful_stored, LengthUnit.isFaithful_stored,
    Length.isFaithful_stored, Extent.isFaithful_stored, PlacedCell.isFaithful_stored,
    Plan.isFaithful_stored⟩, ?_⟩
  intro arguments w reached hFormat hRun
  obtain ⟨plan, text, hPlan, hText, hDelivered⟩ := exists_isText_of_run hFormat hRun
  obtain ⟨spec, options, -, hListed, -, hCompile⟩ := World.exists_compile_of_plan? hPlan
  refine ⟨plan, text, hPlan, hDelivered, ?_⟩
  intro hSized hGutters
  exact Plan.parse?_of_compile hListed hCompile hSized hGutters hText

/-- A spec from the standard input, with a margin in front of one cell and gutters in different units. -/
theorem stored_forms_faithful_of_piped_spec :
    let arguments : Arguments :=
      { Arguments.empty with
        format := some .json
        overrides := { Settings.unset with gutter := some "12.5%", gutterHeight := some "12.5px" } }
    let w : World := ⟨[], "[\"x  x\", [\"distribute\", 3]]".toUTF8, ""⟩
    ∃ plan reached, outcome (run World.host arguments) w = (.ok (), reached) ∧
      w.plan? arguments = some plan ∧ plan.cells.length = 5 ∧
      plan.gutters = ⟨⟨12.5, .percent⟩, ⟨12.5, .px⟩⟩ ∧ Plan.stored.parse? reached.output = some plan := by
  intro arguments w
  have hPlanOf : ∃ plan, planOf "[\"x  x\", [\"distribute\", 3]]" arguments.overrides = .ok plan ∧
      plan.columns = 3 ∧ plan.rows = 2 ∧ plan.cells.length = 5 ∧
      plan.gutters = ⟨⟨12.5, .percent⟩, ⟨12.5, .px⟩⟩ := by
    have hComputed : (match planOf "[\"x  x\", [\"distribute\", 3]]" arguments.overrides with
      | .ok plan => decide (plan.columns = 3 ∧ plan.rows = 2 ∧ plan.cells.length = 5 ∧
          plan.gutters = ⟨⟨12.5, .percent⟩, ⟨12.5, .px⟩⟩)
      | .error _ => false) = true := by decide +kernel
    split at hComputed
    · next plan hPlan => exact ⟨plan, hPlan, of_decide_eq_true hComputed⟩
    · cases hComputed
  obtain ⟨plan, hPlanOf, hColumns, hRows, hCells, hGutters⟩ := hPlanOf
  have hSource : w.inputText arguments = .ok "[\"x  x\", [\"distribute\", 3]]" := by
    change (textOf _).mapError _ = _
    rw [World.textOf_toUTF8]
    rfl
  have hLayout : w.layout arguments = .ok (arguments.overrides, plan) := by
    have hConfig : w.configText arguments = .ok none := rfl
    have hSettings : settingsOf none arguments.overrides = .ok arguments.overrides := rfl
    simp [World.layout, hConfig, hSettings, hSource, hPlanOf, Except.bind, Except.map]
  obtain ⟨-, hPlan⟩ := World.results_of_layout hLayout
  have hRun : outcome (run World.host arguments) w =
      (.ok (), { w with output := w.output ++ render .json arguments.overrides.style plan }) := by
    rw [outcome_run, hLayout]
    rfl
  obtain ⟨found, text, hFound, hDelivered, hBack⟩ := stored_forms_faithful.2 arguments w _ rfl hRun
  obtain rfl := Option.some.inj (hPlan.symm.trans hFound)
  refine ⟨plan, _, hRun, hPlan, hCells, hGutters, ?_⟩
  have hText : w.output ++ render .json arguments.overrides.style plan = text :=
    (congrArg World.output hDelivered).trans String.empty_append
  change Plan.stored.parse? (w.output ++ render .json arguments.overrides.style plan) = _
  rw [hText]
  apply hBack
  · exact ⟨by rw [hColumns]; decide, by rw [hRows]; decide, by rw [hCells]; decide⟩
  · have hFinite : (12.5 : Float).isFinite = true := by decide +kernel
    have hReads : (Number.double 12.5).ReadsBack := by decide +kernel
    simp [hGutters, hFinite, hReads]

end Command

end FlexGrid
