import FlexGrid.Command.Run
import FlexGrid.Command.World

/-! What writing a file does to a machine: the file then holds the text, and nothing else is changed. Whether a file can
be written depends on its name alone, not on what it is to hold. -/
namespace FlexGrid.Command

namespace World

/-- The text of a file, or the failure to read one, which says its name and why there is no text to be had. -/
def text (w : World) (name : String) : Except Failure String :=
  ((w.read name).bind textOf).mapError (.file name)

/-- The machine after a file is put in a place, where it replaces a file that was there before. -/
def put (w : World) (path : Path) (bytes : ByteArray) : World :=
  { w with nodes := replace path bytes w.nodes }

/-- Whether a file can be put in a place: there is none yet, or there is a file. -/
def IsFree (w : World) (path : Path) : Prop :=
  w.look path = .error .missing ∨ ∃ bytes, w.look path = .ok (.file bytes)

/-- The place that a file is written to under a name, or why there is none. The bytes to be written play no part in
it. -/
def target (w : World) (name : String) : Except Refusal Path :=
  if isTooLong name then .error .nameTooLong
  else
    match w.resolve (withoutSlashes name.toList) with
    | .error refusal => .error refusal
    | .ok path =>
        if name.toList.getLast? = some '/' then .error .isDirectory
        else
          match w.look path with
          | .ok .directory => .error .isDirectory
          | .ok (.file _) | .error .missing => .ok path
          | .error refusal => .error refusal

/-- To write a file is to find the path for it and then to put the bytes there. Only the first can be refused. -/
theorem write_eq (w : World) (name text : String) :
    w.write name text = (w.target name).map fun path => w.put path text.toUTF8 := by
  unfold write target
  split
  · rfl
  · cases w.resolve (withoutSlashes name.toList) with
    | error refusal => rfl
    | ok path =>
        dsimp only
        split
        · rfl
        · split <;> simp_all [Except.map, put]

/-- A path that does not end in a slash is the same without the slashes at its end. -/
theorem withoutSlashes_of_getLast? {path : List Char} (h : path.getLast? ≠ some '/') :
    withoutSlashes path = path := by
  rw [List.getLast?_eq_head?_reverse] at h
  rw [withoutSlashes]
  cases hReverse : path.reverse with
  | nil =>
      rw [List.reverse_eq_nil_iff.mp hReverse]
      rfl
  | cons c rest =>
      have hC : (c == '/') = false := by simpa [hReverse] using h
      rw [List.dropWhile_cons, hC, if_neg (by decide), ← hReverse, List.reverse_reverse]

/-- A path for a file is found only if the name is not too long, leads somewhere, and no directory stands there. -/
theorem target_eq_ok {w : World} {name : String} {path : Path} (h : w.target name = .ok path) :
    isTooLong name = false ∧ w.resolve name.toList = .ok path ∧ w.IsFree path := by
  unfold target at h
  split at h
  · cases h
  · next hShort =>
    cases hResolved : w.resolve (withoutSlashes name.toList) with
    | error refusal =>
        rw [hResolved] at h
        cases h
    | ok place =>
        rw [hResolved] at h
        dsimp only at h
        split at h
        · cases h
        · next hSlash =>
          rw [withoutSlashes_of_getLast? hSlash] at hResolved
          split at h
          · cases h
          · next bytes hLook =>
            cases h
            exact ⟨Bool.eq_false_iff.mpr hShort, hResolved, Or.inr ⟨bytes, hLook⟩⟩
          · next hLook =>
            cases h
            exact ⟨Bool.eq_false_iff.mpr hShort, hResolved, Or.inl hLook⟩
          · cases h

/-- A file is found where it was put, whether there was one before or not. -/
theorem lookup_replace_self (path : Path) (bytes : ByteArray) (nodes : List (Path × Node)) :
    (replace path bytes nodes).lookup path = some (.file bytes) := by
  induction nodes with
  | nil => simp [replace]
  | cons entry rest ih =>
      rw [replace]
      split
      · simp
      · next hOther =>
        rw [List.lookup_cons, beq_eq_false_iff_ne.mpr (Ne.symm hOther)]
        exact ih

/-- A file that is put somewhere changes nothing elsewhere. -/
theorem lookup_replace_of_ne {path other : Path} (hOther : other ≠ path) (bytes : ByteArray)
    (nodes : List (Path × Node)) :
    (replace path bytes nodes).lookup other = nodes.lookup other := by
  induction nodes with
  | nil => simp [replace, List.lookup_cons, beq_eq_false_iff_ne.mpr hOther]
  | cons entry rest ih =>
      rw [replace]
      split
      · next hFirst =>
        subst hFirst
        rw [List.lookup_cons, List.lookup_cons, beq_eq_false_iff_ne.mpr hOther]
      · rw [List.lookup_cons, List.lookup_cons, ih]

/-- What is seen at another path is seen as before, also if the file replaces one that was there. -/
theorem look_put_of_ne (w : World) {path other : Path} (hOther : other ≠ path) (bytes : ByteArray) :
    (w.put path bytes).look other = w.look other := by
  simp only [look, put, lookup_replace_of_ne hOther]

theorem look_put_self {w : World} {path : Path} (hFree : w.IsFree path) (bytes : ByteArray) :
    (w.put path bytes).look path = .ok (.file bytes) := by
  unfold IsFree look at hFree
  unfold look
  by_cases hAbove : path.isAbove = true
  · simp [hAbove] at hFree
  · by_cases hLong : (path.any fun name => 255 < name.utf8ByteSize) = true
    · simp [hAbove, hLong] at hFree
    · rw [if_neg hAbove, if_neg hLong, put, lookup_replace_self]

/-- Following names passes through directories only, so it leads to the same place after a file is put somewhere. -/
theorem follow_put {w : World} {path : Path} (hFree : w.IsFree path) (bytes : ByteArray)
    {here reached : Path} {names : List String} (h : w.follow here names = .ok reached) :
    (w.put path bytes).follow here names = .ok reached := by
  induction names generalizing here with
  | nil => exact h
  | cons name rest ih =>
      rw [follow] at h ⊢
      cases hLook : w.look here with
      | error refusal =>
          rw [hLook] at h
          cases h
      | ok node =>
          cases node with
          | file _ =>
              rw [hLook] at h
              cases h
          | directory =>
              have hHere : here ≠ path := by
                rintro rfl
                rw [IsFree, hLook] at hFree
                simp at hFree
              rw [hLook] at h
              rw [look_put_of_ne w hHere, hLook]
              dsimp only at h ⊢
              by_cases hStay : name = "" ∨ name = "."
              · rw [if_pos hStay] at h ⊢
                exact ih h
              · rw [if_neg hStay] at h ⊢
                by_cases hUp : name = ".."
                · rw [if_pos hUp] at h ⊢
                  exact ih h
                · rw [if_neg hUp] at h ⊢
                  exact ih h

/-- A name that led somewhere still leads there after a file is put at a free path, for no directory comes or goes. -/
theorem resolve_put {w : World} {path reached : Path} (hFree : w.IsFree path) (bytes : ByteArray)
    {name : List Char} (h : w.resolve name = .ok reached) :
    (w.put path bytes).resolve name = .ok reached := by
  unfold resolve at h ⊢
  split at h
  · exact follow_put hFree bytes h
  · exact follow_put hFree bytes h

theorem textOf_toUTF8 (text : String) : textOf text.toUTF8 = .ok text := by
  have hText : String.fromUTF8? text.toUTF8 = some text := dif_pos text.isValidUTF8
  rw [textOf, hText]

/-- What one machine has over another after a text is written to a file. -/
structure Wrote (w reached : World) (name text : String) : Prop where
  holds : reached.text name = .ok text
  /-- Files and directories elsewhere are as they were. -/
  others : ∃ path, w.resolve name.toList = .ok path ∧
    ∀ other, other ≠ path → reached.look other = w.look other
  input : reached.input = w.input
  output : reached.output = w.output

/-- A file that could be written holds the text, and all other paths hold what they held. -/
theorem wrote_of_write {w reached : World} {name text : String} (h : w.write name text = .ok reached) :
    w.Wrote reached name text := by
  rw [write_eq] at h
  cases hTarget : w.target name with
  | error refusal =>
      rw [hTarget] at h
      cases h
  | ok path =>
      rw [hTarget] at h
      cases h
      obtain ⟨hShort, hResolved, hFree⟩ := target_eq_ok hTarget
      refine ⟨?_, ⟨path, hResolved, fun other hOther => look_put_of_ne w hOther _⟩, rfl, rfl⟩
      have hRead : (w.put path text.toUTF8).read name = .ok text.toUTF8 := by
        simp [read, hShort, resolve_put hFree _ hResolved, look_put_self hFree]
      rw [World.text, hRead]
      exact congrArg (Except.mapError (Failure.file name)) (textOf_toUTF8 text)

end World

end FlexGrid.Command
