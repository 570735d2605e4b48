import FlexGrid.Proofs.Serial.Forms

/-! Stored forms are faithful: what is written for a value says all of it. This holds of the documents that are written
and, as far as the doubles among the lengths are read back, of their texts. -/
namespace FlexGrid

open Json Serial

namespace Serial

/-- How the values of a type are stored, and what of a value has to fit: numbers that are kept in machine words, and
lengths. -/
structure StoredForm (α : Type) where
  write : α → Value
  read {ε : Type} : Json ε → Option α
  Fits : α → Prop
  lengths : α → List (Length Float)

namespace StoredForm

variable {α : Type} (form : StoredForm α)

/-- Read a value from the text of a document. There is none if the text is no document, or the document none of such a
value. -/
def parse? (source : String) : Option α :=
  (draft source).toOption.bind form.read

/-- Whether a value can be stored and read back: its numbers fit, and its lengths are finite. -/
def IsStorable (a : α) : Prop :=
  form.Fits a ∧ ∀ l ∈ form.lengths a, l.value.isFinite = true

/-- Whether the lengths of a value are written as numerals that are read back. -/
def ReadsBack (a : α) : Prop :=
  ∀ l ∈ form.lengths a, (Number.double l.value).ReadsBack

/-- The texts of a value: the one on a single line, and the one over several lines, which blanks may follow. -/
inductive IsText (a : α) : String → Prop where
  | single : IsText a (form.write a).text
  | lines {blank : List Char} (h : IsBlank blank) : IsText a ((form.write a).pretty ++ String.ofList blank)

/-- A stored form that says all of a value: its document and its text are read back as the value, and those of two
values are not the same. -/
structure IsFaithful : Prop where
  document : ∀ a, form.IsStorable a → ∀ ε, form.read (lift (form.write a) : Json ε) = some a
  text : ∀ a, form.IsStorable a → form.ReadsBack a → ∀ source, form.IsText a source →
    form.parse? source = some a
  document_injective : ∀ a b, form.IsStorable a → form.IsStorable b → form.write a = form.write b → a = b
  text_injective : ∀ a b, form.IsStorable a → form.IsStorable b → form.ReadsBack a → form.ReadsBack b →
    ∀ source, form.IsText a source → form.IsText b source → a = b

variable {form}

/-- A form is faithful if its documents are read back and their texts can be read. -/
theorem isFaithful_of (hRead : ∀ a, form.IsStorable a → ∀ ε, form.read (lift (form.write a) : Json ε) = some a)
    (hReadable : ∀ a, form.Fits a → (∀ l ∈ form.lengths a, l.IsSpelled) →
      Readable depthLimit (form.write a)) : form.IsFaithful := by
  have hText (a : α) (hStorable : form.IsStorable a) (hBack : form.ReadsBack a) (source : String)
      (hSource : form.IsText a source) : form.parse? source = some a := by
    have hWritten : Readable depthLimit (form.write a) :=
      hReadable a hStorable.1 fun l hl => Number.isSpelled_of_readsBack (hBack l hl)
    cases hSource with
    | single =>
        rw [parse?, draft_text hWritten]
        exact hRead a hStorable Fault
    | lines hBlank =>
        rw [parse?, draft_pretty hWritten hBlank]
        exact hRead a hStorable Fault
  refine ⟨hRead, hText, ?_, ?_⟩
  · intro a b ha hb hSame
    have hBoth := hRead b hb Empty
    rw [← hSame, hRead a ha Empty] at hBoth
    exact Option.some.inj hBoth
  · intro a b ha hb haBack hbBack source haSource hbSource
    have hBoth := hText b hb hbBack source hbSource
    rw [hText a ha haBack source haSource] at hBoth
    exact Option.some.inj hBoth

end StoredForm

end Serial

/-- The stored form of entries. It has no lengths, so only its counts can keep an entry from being stored. -/
def Entry.stored : StoredForm Entry :=
  ⟨Entry.toJson, Entry.ofJson?, Entry.Fits, fun _ => []⟩

/-- The stored form of specs, which are stored as they are written and not as the rows they stand for. -/
def Spec.stored : StoredForm Spec :=
  ⟨Spec.toJson, Spec.ofJson?, Spec.Fits, fun _ => []⟩

def Cell.stored : StoredForm Cell :=
  ⟨Cell.toJson, Cell.ofJson?, Cell.Fits, fun _ => []⟩

/-- The stored form of drawn rows, of any cells whose counts fit words, also of cells that no text is read as. -/
def DrawnRow.stored : StoredForm DrawnRow :=
  ⟨DrawnRow.toJson, DrawnRow.ofJson?, DrawnRow.Fits, fun _ => []⟩

/-- The stored form of rows, drawn or even. -/
def Row.stored : StoredForm Row :=
  ⟨Row.toJson, Row.ofJson?, Row.Fits, fun _ => []⟩

/-- The stored form of units. Every unit can be stored. -/
def LengthUnit.stored : StoredForm LengthUnit :=
  ⟨LengthUnit.toJson, LengthUnit.ofJson? false, fun _ => True, fun _ => []⟩

/-- The stored form of lengths. Of a length only its value can keep it from being stored. -/
def Length.stored : StoredForm (Length Float) :=
  ⟨Length.toJson, Length.ofJson? false, fun _ => True, fun l => [l]⟩

/-- The stored form of extents, which are measured with one gutter. -/
def Extent.stored : StoredForm (Extent Float) :=
  ⟨Extent.toJson, Extent.ofJson?, Extent.Fits, fun e => [e.gutter]⟩

/-- The stored form of placed cells, with the gutters of their extents and the margins they have among their
lengths. -/
def PlacedCell.stored : StoredForm (PlacedCell Float) :=
  ⟨PlacedCell.toJson, PlacedCell.ofJson?, PlacedCell.Fits, PlacedCell.lengths⟩

/-- The stored form of layouts, with their two gutters and all that their cells are measured with among the
lengths. -/
def Plan.stored : StoredForm (Plan Float) :=
  ⟨Plan.toJson, Plan.ofJson?, Plan.Fits, Plan.lengths⟩

section

open StoredForm

-- Nothing that is stored is nested more than five levels deep.

theorem Entry.isFaithful_stored : Entry.stored.IsFaithful :=
  isFaithful_of (fun _ h _ => ofJson?_toJson h.1)
    fun _ h _ => (readable_toJson h : Readable (126 + 1) _)

theorem Spec.isFaithful_stored : Spec.stored.IsFaithful :=
  isFaithful_of (fun _ h _ => ofJson?_toJson h.1)
    fun _ h _ => (readable_toJson h : Readable (124 + 3) _)

theorem Cell.isFaithful_stored : Cell.stored.IsFaithful :=
  isFaithful_of (fun _ h _ => ofJson?_toJson h.1)
    fun _ h _ => (readable_toJson h : Readable (126 + 1) _)

theorem DrawnRow.isFaithful_stored : DrawnRow.stored.IsFaithful :=
  isFaithful_of (fun _ h _ => ofJson?_toJson h.1)
    fun _ h _ => (readable_toJson h : Readable (124 + 3) _)

theorem Row.isFaithful_stored : Row.stored.IsFaithful :=
  isFaithful_of (fun _ h _ => ofJson?_toJson h.1)
    fun _ h _ => (readable_toJson h : Readable (123 + 4) _)

theorem LengthUnit.isFaithful_stored : LengthUnit.stored.IsFaithful :=
  isFaithful_of (fun unit _ ε => (ofJson?_toJson unit false : ofJson? false (lift unit.toJson : Json ε) = _))
    fun unit _ _ => .string unit.name

theorem Length.isFaithful_stored : Length.stored.IsFaithful :=
  isFaithful_of (fun l h _ => ofJson?_toJson (h.2 l List.mem_cons_self) false)
    fun l _ h => (readable_toJson (h l List.mem_cons_self) : Readable (126 + 1) _)

theorem Extent.isFaithful_stored : Extent.stored.IsFaithful :=
  isFaithful_of (fun _ h _ => ofJson?_toJson h.1 (h.2 _ List.mem_cons_self))
    fun _ hFits h => (readable_toJson hFits (h _ List.mem_cons_self) : Readable (125 + 2) _)

theorem PlacedCell.isFaithful_stored : PlacedCell.stored.IsFaithful :=
  isFaithful_of (fun _ h _ => ofJson?_toJson h.1 h.2)
    fun _ hFits h => (readable_toJson hFits h : Readable (124 + 3) _)

theorem Plan.isFaithful_stored : Plan.stored.IsFaithful :=
  isFaithful_of (fun _ h _ => ofJson?_toJson h.1 h.2)
    fun _ hFits h => (readable_toJson hFits h : Readable (122 + 5) _)

end

end FlexGrid
