import FlexGrid.Proofs.Json.Writing
import FlexGrid.Proofs.Layout.Bounds
import FlexGrid.Serial.Plan
import FlexGrid.Serial.Row

/-! The stored forms, type by type. What is written for a value is read back as that value if its numbers fit the
machine words they are kept in and its lengths are finite. The text of what is written can be read if the lengths are
written as numerals that stand for them; for the other numbers there is nothing to ask. -/
namespace FlexGrid

open Json

namespace Serial

variable {ε α : Type}

/-- A number is read back under any limit that it does not exceed. -/
theorem natural?_lift {limit n : Nat} (h : n ≤ limit) :
    natural? limit (lift (.number (.whole n)) : Json ε) = some n :=
  if_pos h

/-- A double is read back if it is finite. One that is not is written as `null`, which is read as no number. -/
theorem double?_ofDouble {x : Float} (h : x.isFinite = true) :
    double? (lift (ofDouble x) : Json ε) = some x := by
  rw [ofDouble, if_pos h]
  rfl

/-- A function that succeeds on every item of a list succeeds on the list, item by item. -/
theorem mapM_of_forall {β : Type} {f : α → Option β} {g : α → β} {as : List α}
    (h : ∀ a ∈ as, f a = some (g a)) : as.mapM f = some (as.map g) := by
  induction as with
  | nil => rfl
  | cons a rest ih =>
      obtain ⟨hFirst, hRest⟩ := List.forall_mem_cons.mp h
      simp [hFirst, ih hRest]

theorem list?_lift {read : Json ε → Option α} {write : α → Value} {as : List α}
    (h : ∀ a ∈ as, read (lift (write a)) = some a) :
    list? read (lift (.array (as.map write))) = some as := by
  have hItems : as.mapM (fun a => read (lift (write a))) = some (as.map id) := mapM_of_forall h
  rw [lift, liftItems_eq_map, list?, List.map_map, List.mapM_map]
  rwa [List.map_id] at hItems

/-- An item that may be absent is read back if it is not confused with its absence. -/
theorem optionalField?_ofOption {read : Json ε → Option α} {write : α → Value} {a : Option α}
    (hNull : read .null = none) (h : ∀ b ∈ a, read (lift (write b)) = some b) :
    optionalField? read (some (lift (ofOption write a))) = some a := by
  cases a with
  | none => rfl
  | some b =>
      have hItem := h b rfl
      rw [ofOption, optionalField?]
      generalize lift (write b) = item at hItem ⊢
      cases item with
      | null =>
          rw [hNull] at hItem
          cases hItem
      | _ => rw [nullable?, hItem] <;> simp

/-- A key that is not repeated finds just its own member, wherever that stands in the object. -/
theorem filter_key {members : List (String × Json ε)} (hKeys : (members.map (·.1)).Nodup)
    {member : String × Json ε} (h : member ∈ members) : members.filter (·.1 == member.1) = [member] := by
  induction members with
  | nil => cases h
  | cons first rest ih =>
      obtain ⟨hFirst, hRest⟩ := List.nodup_cons.mp hKeys
      rcases List.mem_cons.mp h with rfl | hMember
      · have hOthers : ∀ other ∈ rest, other.1 ≠ member.1 := fun other hOther hSame =>
          hFirst (List.mem_map.mpr ⟨other, hOther, hSame⟩)
        simpa [List.filter_cons] using hOthers
      · have hOther : first.1 ≠ member.1 := fun hSame =>
          hFirst (List.mem_map.mpr ⟨member, hMember, hSame.symm⟩)
        simp [hOther, ih hRest hMember]

/-- The fields of a record are found by their names, if no two have the same. -/
theorem fields?_lift {names : List String} {members : List (String × Value)}
    (hNames : names = members.map (·.1)) (hKeys : names.Nodup) :
    fields? names (lift (.object members) : Json ε) =
      some (members.map fun member => some (lift member.2)) := by
  subst hNames
  let lifted : List (String × Json ε) := members.map fun member => (member.1, lift member.2)
  have hLifted : (lifted.map (·.1)).Nodup := by
    rw [List.map_map]
    exact hKeys
  rw [lift, liftMembers_eq_map, fields?, List.mapM_map]
  refine mapM_of_forall fun member hMember => ?_
  have hFound := filter_key hLifted (List.mem_map_of_mem hMember)
  simp only [Function.comp_apply, member?]
  rw [hFound]

/-- A whole number of up to 64 bits can be read from its text, which has neither a fraction nor an exponent. -/
theorem readable_whole {depth n : Nat} (h : n ≤ longLimit) : Readable depth (.number (.whole n)) :=
  .number (Number.isSpelled_whole (Nat.lt_succ_of_le h))

/-- A count that fits a word can be read from its text, for a word is the shorter of the two. -/
theorem readable_word {depth n : Nat} (h : n ≤ wordLimit) : Readable depth (.number (.whole n)) :=
  readable_whole (Nat.le_trans h (by decide))

/-- A double can be read from its text if its numeral stands for it. If it is not finite, it is written as `null`. -/
theorem readable_ofDouble {depth : Nat} {x : Float} (h : (Number.double x).IsSpelled) :
    Readable depth (ofDouble x) := by
  rw [ofDouble]
  split
  · exact .number h
  · exact .null

/-- An item that may be absent can be read if it can be read where it is present, for `null` always can. -/
theorem readable_ofOption {depth : Nat} {write : α → Value} {a : Option α}
    (h : ∀ b ∈ a, Readable depth (write b)) : Readable depth (ofOption write a) := by
  cases a with
  | none => exact .null
  | some b => exact h b rfl

/-- A choice with content can be read if its content can, one level of nesting further in. -/
theorem readable_ofAlternative {depth : Nat} {item : Value} (name : String) (h : Readable depth item) :
    Readable (depth + 1) (ofAlternative name item) :=
  .object (by simpa using h)

/-- A list can be read if each of its items can, one level of nesting further in. -/
theorem readable_list {depth : Nat} {write : α → Value} {as : List α} (h : ∀ a ∈ as, Readable depth (write a)) :
    Readable (depth + 1) (.array (as.map write)) :=
  .array (by simpa using h)

end Serial

open Serial

variable {ε : Type} {depth : Nat}

namespace Entry

/-- Whether the numbers of an entry fit the words they are stored in. -/
def Fits : Entry → Prop
  | .drawing _ => True
  | .distribute count => count ≤ wordLimit

/-- An entry is read back from what is stored of it. A drawing is stored as its text, whatever characters it has. -/
theorem ofJson?_toJson {entry : Entry} (h : entry.Fits) :
    ofJson? (lift entry.toJson : Json ε) = some entry := by
  cases entry with
  | drawing text => rfl
  | distribute count =>
      change (natural? wordLimit (lift (.number (.whole count)) : Json ε)).map Entry.distribute = _
      rw [natural?_lift h]
      rfl

/-- An entry can be read from the text of its stored form. -/
theorem readable_toJson {entry : Entry} (h : entry.Fits) : Readable (depth + 1) entry.toJson := by
  cases entry with
  | drawing text => exact readable_ofAlternative _ (.string text)
  | distribute count => exact readable_ofAlternative _ (readable_word h)

end Entry

namespace Spec

/-- Whether the counts of a spec fit the words they are stored in. Of its drawings nothing is asked. -/
def Fits (spec : Spec) : Prop :=
  ∀ entry ∈ spec.entries, entry.Fits

/-- A spec is read back from what is stored of it, entry by entry. -/
theorem ofJson?_toJson {spec : Spec} (h : spec.Fits) : ofJson? (lift spec.toJson : Json ε) = some spec := by
  have hFields : fields? ["rows"] (lift spec.toJson : Json ε) =
      some [some (lift (.array (spec.entries.map Entry.toJson)))] := fields?_lift rfl (by decide)
  have hRows : list? Entry.ofJson? (lift (.array (spec.entries.map Entry.toJson)) : Json ε) =
      some spec.entries := list?_lift fun entry hEntry => Entry.ofJson?_toJson (h entry hEntry)
  simp [ofJson?, hFields, field?, hRows]

/-- A spec can be read from the text of its stored form, three levels of nesting deep. -/
theorem readable_toJson {spec : Spec} (h : spec.Fits) : Readable (depth + 3) spec.toJson := by
  have hRows : Readable (depth + 2) (.array (spec.entries.map Entry.toJson)) :=
    readable_list fun entry hEntry => Entry.readable_toJson (h entry hEntry)
  exact .object (by simpa using hRows)

end Spec

namespace Cell

/-- A cell is read back from what is stored of it if its counts are held in words without loss. -/
theorem ofJson?_toJson {cell : Cell} (h : cell.Fits) : ofJson? (lift cell.toJson : Json ε) = some cell := by
  have hFields : fields? ["span", "offset"] (lift cell.toJson : Json ε) =
      some [some (lift (.number (.whole cell.span))), some (lift (.number (.whole cell.gap)))] :=
    fields?_lift rfl (by decide)
  simp [ofJson?, hFields, field?, natural?_lift h.1, natural?_lift h.2]

theorem readable_toJson {cell : Cell} (h : cell.Fits) : Readable (depth + 1) cell.toJson := by
  apply Readable.object
  simp [readable_word h.1, readable_word h.2]

end Cell

namespace DrawnRow

/-- A drawn row is read back from what is stored of it, cell by cell. -/
theorem ofJson?_toJson {row : DrawnRow} (h : row.Fits) : ofJson? (lift row.toJson : Json ε) = some row := by
  have hFields : fields? ["cells"] (lift row.toJson : Json ε) =
      some [some (lift (.array (row.cells.map Cell.toJson)))] := fields?_lift rfl (by decide)
  have hCells : list? Cell.ofJson? (lift (.array (row.cells.map Cell.toJson)) : Json ε) =
      some row.cells := list?_lift fun cell hCell => Cell.ofJson?_toJson (h cell hCell)
  simp [ofJson?, hFields, field?, hCells]

/-- A drawn row can be read from the text of its stored form, three levels of nesting deep. -/
theorem readable_toJson {row : DrawnRow} (h : row.Fits) : Readable (depth + 3) row.toJson := by
  have hCells : Readable (depth + 2) (.array (row.cells.map Cell.toJson)) :=
    readable_list fun cell hCell => Cell.readable_toJson (h cell hCell)
  exact .object (by simpa using hCells)

end DrawnRow

namespace Row

/-- Whether the counts of a row fit the words they are stored in, those of its cells or the number of them. -/
def Fits : Row → Prop
  | .drawn row => row.Fits
  | .even count _ => count ≤ wordLimit

/-- A row is read back from what is stored of it. An even row carries a proof that it has a cell, and the count that
is read proves it again. -/
theorem ofJson?_toJson {row : Row} (h : row.Fits) : ofJson? (lift row.toJson : Json ε) = some row := by
  cases row with
  | drawn row =>
      change (DrawnRow.ofJson? (lift row.toJson : Json ε)).map Row.drawn = _
      rw [DrawnRow.ofJson?_toJson h]
      rfl
  | even count positive =>
      change ((natural? wordLimit (lift (.number (.whole count)) : Json ε)).bind fun count =>
        if positive : 0 < count then some (Row.even count positive) else none) = _
      rw [natural?_lift h, Option.bind_some, dif_pos positive]

/-- A row can be read from the text of its stored form, one level deeper than a drawn row by itself. -/
theorem readable_toJson {row : Row} (h : row.Fits) : Readable (depth + 4) row.toJson := by
  cases row with
  | drawn row => exact readable_ofAlternative _ (DrawnRow.readable_toJson h)
  | even count positive => exact readable_ofAlternative _ (readable_word h)

end Row

/-- A unit is read back from its name, in an extent and elsewhere alike. -/
theorem LengthUnit.ofJson?_toJson (unit : LengthUnit) (inExtent : Bool) :
    ofJson? inExtent (lift unit.toJson : Json ε) = some unit := by
  cases unit <;> rfl

namespace Length

/-- Whether a length is written as a numeral that stands for it. -/
def IsSpelled (l : Length Float) : Prop :=
  (Number.double l.value).IsSpelled

/-- A length is read back from what is stored of it if its value is finite. -/
theorem ofJson?_toJson {l : Length Float} (h : l.value.isFinite = true) (inExtent : Bool) :
    ofJson? inExtent (lift l.toJson : Json ε) = some l := by
  have hFields : fields? ["value", "unit"] (lift l.toJson : Json ε) =
      some [some (lift (ofDouble l.value)), some (lift l.unit.toJson)] := fields?_lift rfl (by decide)
  simp [ofJson?, hFields, field?, double?_ofDouble h, LengthUnit.ofJson?_toJson]

/-- A length can be read from the text of its stored form if its value is written as a numeral that stands for it. -/
theorem readable_toJson {l : Length Float} (h : l.IsSpelled) : Readable (depth + 1) l.toJson := by
  apply Readable.object
  simp [readable_ofDouble h, LengthUnit.toJson, Readable.string]

end Length

namespace Extent

/-- Whether the two counts of an extent fit the words they are stored in. -/
def Fits (e : Extent Float) : Prop :=
  e.count ≤ wordLimit ∧ e.tracks ≤ wordLimit

/-- The name of the alternative that an extent is. -/
def kindName : Extent Float → String
  | .span _ _ _ => spanName
  | .offset _ _ _ => offsetName

/-- The fields of an extent besides the one that names its alternative. -/
def record (e : Extent Float) : Value :=
  .object [(e.kindName, .number (.whole e.count)), ("tracks", .number (.whole e.tracks)),
    ("gutter", e.gutter.toJson)]

/-- The stored form of an extent is the same for both alternatives, up to the name that stands in it twice. -/
theorem toJson_eq (e : Extent Float) :
    e.toJson = .object [("kind", .string e.kindName), (e.kindName, .number (.whole e.count)),
      ("tracks", .number (.whole e.tracks)), ("gutter", e.gutter.toJson)] := by
  cases e <;> rfl

/-- The alternative of an extent is found by its name, and what is left is the record of its other fields. -/
theorem tagged?_toJson (e : Extent Float) :
    tagged? (lift e.toJson : Json ε) = some (e.kindName, lift e.record) := by
  cases e <;> rfl

/-- The fields of an extent are read back from its record. They are found under different names for the two
alternatives, and no two names of one alternative are the same. -/
theorem parts?_record {e : Extent Float} (h : e.Fits) (hFinite : e.gutter.value.isFinite = true) :
    parts? e.kindName (lift e.record : Json ε) = some (e.count, e.tracks, e.gutter) := by
  have hNames : [e.kindName, "tracks", "gutter"].Nodup := by
    cases e <;> simp [kindName, spanName, offsetName]
  have hFields : fields? [e.kindName, "tracks", "gutter"] (lift e.record : Json ε) =
      some [some (lift (.number (.whole e.count))), some (lift (.number (.whole e.tracks))),
        some (lift e.gutter.toJson)] := fields?_lift rfl hNames
  simp [parts?, hFields, field?, natural?_lift h.1, natural?_lift h.2, Length.ofJson?_toJson hFinite]

/-- An extent is read back from what is stored of it. Its document is first looked at as a whole, since the name of
the alternative may stand behind the fields that it decides on. -/
theorem ofJson?_toJson {e : Extent Float} (h : e.Fits) (hFinite : e.gutter.value.isFinite = true) :
    ofJson? (lift e.toJson : Json ε) = some e := by
  have hWhole : (lift e.toJson : Json ε).isWhole = true := by rw [isWhole, whole_lift]
  have hParts : parts? e.kindName (lift e.record : Json ε) = some (e.count, e.tracks, e.gutter) :=
    parts?_record h hFinite
  rw [ofJson?, if_pos hWhole, tagged?_toJson]
  cases e with
  | span count tracks gutter =>
      change (parts? spanName _).map _ = _
      rw [kindName] at hParts
      rw [hParts]
      rfl
  | offset count tracks gutter =>
      change (parts? offsetName _).map _ = _
      rw [kindName] at hParts
      rw [hParts]
      rfl

/-- An extent can be read from the text of its stored form. -/
theorem readable_toJson {e : Extent Float} (h : e.Fits) (hSpelled : e.gutter.IsSpelled) :
    Readable (depth + 2) e.toJson := by
  rw [toJson_eq]
  apply Readable.object
  simp [readable_word h.1, readable_word h.2, Length.readable_toJson hSpelled, Readable.string]

end Extent

namespace PlacedCell

/-- Whether the numbers of a placed cell fit what they are stored in: its position two long words, and its extents
words. -/
def Fits (cell : PlacedCell Float) : Prop :=
  cell.index ≤ longLimit ∧ cell.row ≤ longLimit ∧ ∀ e ∈ cell.extents, e.Fits

/-- Every length that is stored in a cell. -/
def lengths (cell : PlacedCell Float) : List (Length Float) :=
  cell.extents.map Extent.gutter ++ (cell.marginRight.toList ++ cell.marginBottom.toList)

variable {cell : PlacedCell Float}

/-- The gutter that an extent is measured with is among the lengths of its cell. -/
theorem gutter_mem_lengths {e : Extent Float} (h : e ∈ cell.extents) : e.gutter ∈ cell.lengths :=
  List.mem_append_left _ (List.mem_map_of_mem h)

theorem marginRight_mem_lengths {l : Length Float} (h : l ∈ cell.marginRight) : l ∈ cell.lengths :=
  List.mem_append_right _ (List.mem_append_left _ (Option.mem_toList.mpr h))

theorem marginBottom_mem_lengths {l : Length Float} (h : l ∈ cell.marginBottom) : l ∈ cell.lengths :=
  List.mem_append_right _ (List.mem_append_right _ (Option.mem_toList.mpr h))

theorem width_mem_extents (cell : PlacedCell Float) : cell.width ∈ cell.extents :=
  List.mem_cons_self

theorem marginLeft_mem_extents {e : Extent Float} (h : e ∈ cell.marginLeft) : e ∈ cell.extents :=
  List.mem_cons_of_mem _ (Option.mem_toList.mpr h)

/-- A placed cell is read back from what is stored of it. A margin that it does not have is stored as `null`, which no
extent and no length is read from. -/
theorem ofJson?_toJson (h : cell.Fits) (hFinite : ∀ l ∈ cell.lengths, l.value.isFinite = true) :
    ofJson? (lift cell.toJson : Json ε) = some cell := by
  obtain ⟨hIndex, hRow, hExtents⟩ := h
  have hExtent (e : Extent Float) (he : e ∈ cell.extents) :
      Extent.ofJson? (lift e.toJson : Json ε) = some e :=
    Extent.ofJson?_toJson (hExtents e he) (hFinite _ (gutter_mem_lengths he))
  have hWidth := hExtent cell.width cell.width_mem_extents
  have hLeft : optionalField? Extent.ofJson? (some (lift (ofOption Extent.toJson cell.marginLeft) : Json ε)) =
      some cell.marginLeft :=
    optionalField?_ofOption rfl fun e he => hExtent e (marginLeft_mem_extents he)
  have hMargin (margin : Option (Length Float)) (h : ∀ l ∈ margin, l ∈ cell.lengths) :
      optionalField? (Length.ofJson? false) (some (lift (ofOption Length.toJson margin) : Json ε)) =
        some margin :=
    optionalField?_ofOption rfl fun l hl => Length.ofJson?_toJson (hFinite l (h l hl)) false
  have hRight := hMargin cell.marginRight fun l => marginRight_mem_lengths
  have hBottom := hMargin cell.marginBottom fun l => marginBottom_mem_lengths
  have hFields : fields? ["index", "row", "width", "margin_left", "margin_right", "margin_bottom"]
      (lift cell.toJson : Json ε) = some [some (lift (.number (.whole cell.index))),
        some (lift (.number (.whole cell.row))), some (lift cell.width.toJson),
        some (lift (ofOption Extent.toJson cell.marginLeft)),
        some (lift (ofOption Length.toJson cell.marginRight)),
        some (lift (ofOption Length.toJson cell.marginBottom))] := fields?_lift rfl (by decide)
  simp [ofJson?, hFields, field?, natural?_lift hIndex, natural?_lift hRow, hWidth, hLeft, hRight, hBottom]

/-- A placed cell can be read from the text of its stored form. -/
theorem readable_toJson (h : cell.Fits) (hSpelled : ∀ l ∈ cell.lengths, l.IsSpelled) :
    Readable (depth + 3) cell.toJson := by
  obtain ⟨hIndex, hRow, hExtents⟩ := h
  have hExtent (e : Extent Float) (he : e ∈ cell.extents) : Readable (depth + 2) e.toJson :=
    Extent.readable_toJson (hExtents e he) (hSpelled _ (gutter_mem_lengths he))
  have hLeft : Readable (depth + 2) (ofOption Extent.toJson cell.marginLeft) :=
    readable_ofOption fun e he => hExtent e (marginLeft_mem_extents he)
  have hRight : Readable (depth + 2) (ofOption Length.toJson cell.marginRight) :=
    readable_ofOption fun l hl => Length.readable_toJson (hSpelled l (marginRight_mem_lengths hl))
  have hBottom : Readable (depth + 2) (ofOption Length.toJson cell.marginBottom) :=
    readable_ofOption fun l hl => Length.readable_toJson (hSpelled l (marginBottom_mem_lengths hl))
  apply Readable.object
  simp [readable_whole hIndex, readable_whole hRow, hExtent _ cell.width_mem_extents, hLeft, hRight, hBottom]

end PlacedCell

namespace Plan

/-- Whether the numbers of a layout and of all its cells fit what they are stored in. -/
def Fits (plan : Plan Float) : Prop :=
  plan.columns ≤ wordLimit ∧ plan.rows ≤ longLimit ∧ ∀ cell ∈ plan.cells, cell.Fits

/-- Every length that is stored in a layout. -/
def lengths (plan : Plan Float) : List (Length Float) :=
  plan.gutters.across :: plan.gutters.down :: plan.cells.flatMap PlacedCell.lengths

variable {plan : Plan Float}

theorem mem_lengths_of_cell {cell : PlacedCell Float} (h : cell ∈ plan.cells) {l : Length Float}
    (hl : l ∈ cell.lengths) : l ∈ plan.lengths :=
  List.mem_cons_of_mem _ (List.mem_cons_of_mem _ (List.mem_flatMap_of_mem h hl))

theorem across_mem_lengths (plan : Plan Float) : plan.gutters.across ∈ plan.lengths :=
  List.mem_cons_self

theorem down_mem_lengths (plan : Plan Float) : plan.gutters.down ∈ plan.lengths :=
  List.mem_cons_of_mem _ List.mem_cons_self

/-- A layout is read back from what is stored of it. Nothing is recomputed on the way: that the cells are those of
some rows plays no part. -/
theorem ofJson?_toJson (h : plan.Fits) (hFinite : ∀ l ∈ plan.lengths, l.value.isFinite = true) :
    ofJson? (lift plan.toJson : Json ε) = some plan := by
  obtain ⟨hColumns, hRows, hCells⟩ := h
  have hList : list? PlacedCell.ofJson? (lift (.array (plan.cells.map PlacedCell.toJson)) : Json ε) =
      some plan.cells :=
    list?_lift fun cell hCell => PlacedCell.ofJson?_toJson (hCells cell hCell) fun l hl =>
      hFinite l (mem_lengths_of_cell hCell hl)
  have hGutter (l : Length Float) (hl : l ∈ plan.lengths) :
      Length.ofJson? false (lift l.toJson : Json ε) = some l := Length.ofJson?_toJson (hFinite l hl) false
  have hFields : fields? ["cells", "columns", "rows", "gutter_width", "gutter_height"]
      (lift plan.toJson : Json ε) = some [some (lift (.array (plan.cells.map PlacedCell.toJson))),
        some (lift (.number (.whole plan.columns))), some (lift (.number (.whole plan.rows))),
        some (lift plan.gutters.across.toJson), some (lift plan.gutters.down.toJson)] :=
    fields?_lift rfl (by decide)
  simp [ofJson?, hFields, field?, hList, natural?_lift hColumns, natural?_lift hRows,
    hGutter _ plan.across_mem_lengths, hGutter _ plan.down_mem_lengths]

/-- A layout can be read from the text of its stored form, five levels of nesting deep, which is far less than what
can be read. -/
theorem readable_toJson (h : plan.Fits) (hSpelled : ∀ l ∈ plan.lengths, l.IsSpelled) :
    Readable (depth + 5) plan.toJson := by
  obtain ⟨hColumns, hRows, hCells⟩ := h
  have hList : Readable (depth + 4) (.array (plan.cells.map PlacedCell.toJson)) :=
    readable_list fun cell hCell => PlacedCell.readable_toJson (hCells cell hCell) fun l hl =>
      hSpelled l (mem_lengths_of_cell hCell hl)
  have hGutter (l : Length Float) (hl : l ∈ plan.lengths) : Readable (depth + 4) l.toJson :=
    Length.readable_toJson (hSpelled l hl)
  apply Readable.object
  simp [hList, readable_word hColumns, readable_whole hRows, hGutter _ plan.across_mem_lengths,
    hGutter _ plan.down_mem_lengths]

end Plan

end FlexGrid
