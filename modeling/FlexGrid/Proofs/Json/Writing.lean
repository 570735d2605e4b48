import FlexGrid.Proofs.Json.Reading

/-! What is written for a value is read as that value, on one line or spread over lines, if its numbers are written as
numerals that stand for them and it is not nested too deep. The two ways of writing differ in their blanks only. -/
namespace FlexGrid.Json

/-- Values that are written so that they can be read: they are nested at most `depth` levels, and their numbers are
written as numerals that stand for them. -/
inductive Readable : Nat → Value → Prop where
  | null {depth : Nat} : Readable depth .null
  | boolean {depth : Nat} (b : Bool) : Readable depth (.boolean b)
  | number {depth : Nat} {n : Number} (h : n.IsSpelled) : Readable depth (.number n)
  | string {depth : Nat} (s : String) : Readable depth (.string s)
  | array {depth : Nat} {items : List Value} (h : ∀ item ∈ items, Readable depth item) :
      Readable (depth + 1) (.array items)
  | object {depth : Nat} {members : List (String × Value)} (h : ∀ member ∈ members, Readable depth member.2) :
      Readable (depth + 1) (.object members)

/-- The pieces of some things one after the other, with a comma after each but the last. -/
def separated {α : Type} (write : α → List String) : List α → List String
  | [] => []
  | [a] => write a
  | a :: rest => write a ++ "," :: separated write rest

/-- A function that writes nothing for no items, and a comma between any two, writes the items separated. It takes in
all four ways of writing a list. -/
theorem eq_separated {α : Type} {write : α → List String} {writeAll : List α → List String}
    (hNone : writeAll [] = []) (hOne : ∀ a, writeAll [a] = write a)
    (hMore : ∀ a next rest, writeAll (a :: next :: rest) = write a ++ "," :: writeAll (next :: rest))
    (as : List α) : writeAll as = separated write as := by
  induction as with
  | nil => exact hNone
  | cons a rest ih =>
      cases rest with
      | nil => exact hOne a
      | cons next others =>
          rw [hMore, ih]
          rfl

/-- The items of an array without line breaks are separated pieces. -/
theorem itemPieces_eq (items : List Value) : itemPieces items = separated pieces items :=
  eq_separated rfl (fun _ => rfl) (fun _ _ _ => rfl) items

/-- The members of an object without line breaks are separated pieces. -/
theorem memberPieces_eq (members : List (String × Value)) :
    memberPieces members =
      separated (fun member => stringText member.1 :: ":" :: pieces member.2) members :=
  eq_separated rfl (fun _ => rfl) (fun _ _ _ => rfl) members

/-- The items of an array on lines of their own are separated pieces too, each with a line break in front. -/
theorem itemLines_eq (level : Nat) (items : List Value) :
    itemLines level items = separated (fun item => lineBreak level :: linesAt level item) items :=
  eq_separated rfl (fun _ => rfl) (fun _ _ _ => rfl) items

/-- The members of an object on lines of their own are separated pieces too, each with a line break in front. -/
theorem memberLines_eq (level : Nat) (members : List (String × Value)) :
    memberLines level members =
      separated (fun member => lineBreak level :: stringText member.1 :: ": " :: linesAt level member.2)
        members :=
  eq_separated rfl (fun _ => rfl) (fun _ _ _ => rfl) members

/-- The characters of a text in pieces. -/
def chars (pieces : List String) : List Char :=
  pieces.flatMap String.toList

@[simp] theorem chars_nil : chars [] = [] :=
  rfl

@[simp] theorem chars_cons (piece : String) (rest : List String) :
    chars (piece :: rest) = piece.toList ++ chars rest :=
  List.flatMap_cons

@[simp] theorem chars_append (front rest : List String) :
    chars (front ++ rest) = chars front ++ chars rest :=
  List.flatMap_append

/-- Separated pieces are a list that can be read, if each of them can after white space in front of it. -/
theorem listed_separated {α : Type} {reads : α → List Char → Prop} {write : α → List String}
    {as : List α} (hSome : as ≠ [])
    (h : ∀ a ∈ as, ∃ blank cs, IsBlank blank ∧ reads a cs ∧ chars (write a) = blank ++ cs) :
    Listed reads as (chars (separated write as)) := by
  induction as with
  | nil => exact absurd rfl hSome
  | cons a rest ih =>
      obtain ⟨hFirst, hRest⟩ := List.forall_mem_cons.mp h
      obtain ⟨blank, cs, hBlank, hReads, hText⟩ := hFirst
      cases rest with
      | nil =>
          rw [separated, hText]
          exact .last hBlank hReads
      | cons next others =>
          have hComma : chars (separated write (a :: next :: others)) =
              blank ++ (cs ++ ',' :: chars (separated write (next :: others))) := by
            change chars (write a ++ "," :: separated write (next :: others)) = _
            simp [hText]
          rw [hComma]
          exact .cons hBlank hReads (ih (by simp) hRest)

/-- What is written on one line is read as the value it was written for. The induction is on the value, with the items
of arrays and the members of objects as its cases. -/
theorem readsAs_pieces {depth : Nat} {v : Value} (h : Readable depth v) :
    ReadsAs depth v (chars (pieces v)) := by
  induction h with
  | null => exact readsAs_null
  | boolean b =>
      cases b with
      | true => exact readsAs_true
      | false => exact readsAs_false
  | number h => simpa [pieces] using readsAs_number h
  | string s => simpa [pieces] using readsAs_string s
  | @array depth items h ih =>
      by_cases hSome : items = []
      · subst hSome
        exact readsAs_empty_array
      · have hListed : Listed (ReadsAs depth) items (chars (itemPieces items)) := by
          rw [itemPieces_eq]
          exact listed_separated hSome fun item hItem => ⟨[], _, nofun, ih item hItem, rfl⟩
        simpa [pieces] using readsAs_array hListed (List.forall_mem_nil _)
  | @object depth members h ih =>
      by_cases hSome : members = []
      · subst hSome
        exact readsAs_empty_object
      · have hListed : Listed (ReadsMember depth) members (chars (memberPieces members)) := by
          rw [memberPieces_eq]
          refine listed_separated hSome fun member hMember => ?_
          exact ⟨[], _, nofun, .intro (List.forall_mem_nil _) (ih member hMember), by simp⟩
        simpa [pieces] using readsAs_object hListed (List.forall_mem_nil _)

/-- A line break with the indentation behind it is white space. -/
theorem isBlank_lineBreak (level : Nat) : IsBlank (lineBreak level).toList := by
  intro c hc
  rw [lineBreak, String.toList_ofList, List.mem_cons] at hc
  rcases hc with rfl | hc
  · rfl
  · rw [List.eq_of_mem_replicate hc]
    rfl

/-- What is spread over lines is read as well, for line breaks stand only where white space may. -/
theorem readsAs_linesAt {depth : Nat} {v : Value} (h : Readable depth v) (level : Nat) :
    ReadsAs depth v (chars (linesAt level v)) := by
  induction h generalizing level with
  | null => exact readsAs_null
  | boolean b =>
      cases b with
      | true => exact readsAs_true
      | false => exact readsAs_false
  | number h => simpa [linesAt] using readsAs_number h
  | string s => simpa [linesAt] using readsAs_string s
  | @array depth items h ih =>
      by_cases hSome : items = []
      · subst hSome
        exact readsAs_empty_array
      · have hListed : Listed (ReadsAs depth) items (chars (itemLines (level + 1) items)) := by
          rw [itemLines_eq]
          refine listed_separated hSome fun item hItem => ?_
          exact ⟨_, _, isBlank_lineBreak (level + 1), ih item hItem (level + 1), chars_cons _ _⟩
        have hRead := readsAs_array hListed (isBlank_lineBreak level)
        obtain ⟨item, rest, rfl⟩ := List.exists_cons_of_ne_nil hSome
        simpa [linesAt] using hRead
  | @object depth members h ih =>
      by_cases hSome : members = []
      · subst hSome
        exact readsAs_empty_object
      · have hListed : Listed (ReadsMember depth) members (chars (memberLines (level + 1) members)) := by
          rw [memberLines_eq]
          have hSpace : IsBlank [' '] := by simp [IsBlank, isSpace]
          refine listed_separated hSome fun member hMember => ?_
          refine ⟨_, _, isBlank_lineBreak (level + 1), .intro hSpace (ih member hMember (level + 1)), ?_⟩
          simp
        have hRead := readsAs_object hListed (isBlank_lineBreak level)
        obtain ⟨member, rest, rfl⟩ := List.exists_cons_of_ne_nil hSome
        simpa [linesAt] using hRead

/-- A value that can be read is what its text is read as, from the first character to the last and with nothing left
over. -/
theorem draft_text {v : Value} (h : Readable depthLimit v) : draft v.text = .ok v.lift := by
  have hText : v.text = String.ofList (chars (pieces v) ++ []) := by
    rw [text, ← String.ofList_toList (s := String.join _), String.toList_join, List.append_nil]
    rfl
  rw [hText]
  exact draft_of_readsAs (readsAs_pieces h) nofun

/-- A value that can be read from its text is read from the text on several lines as well, also with white space
behind it. -/
theorem draft_pretty {v : Value} (h : Readable depthLimit v) {blank : List Char}
    (hBlank : IsBlank blank) : draft (v.pretty ++ String.ofList blank) = .ok v.lift := by
  have hText : v.pretty ++ String.ofList blank = String.ofList (chars (linesAt 0 v) ++ blank) := by
    rw [pretty, ← String.ofList_toList (s := String.join _), String.toList_join, String.ofList_append]
    rfl
  rw [hText]
  exact draft_of_readsAs (readsAs_linesAt h 0) hBlank

end FlexGrid.Json
