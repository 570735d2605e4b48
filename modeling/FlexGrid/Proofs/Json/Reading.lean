import FlexGrid.Json.Reader
import FlexGrid.Proofs.Json.Numerals
import FlexGrid.Proofs.Json.Strings

/-! JSON texts read piece by piece. A text that is read as a value is read so wherever a value is expected, at any
position and under any stack of open arrays and objects that is not too high, as long as what follows does not go on
with it. There is one lemma for each kind of value; arrays and objects are read from the texts of what they hold. -/
namespace FlexGrid.Json

mutual

/-- A value as a document in which some parts could have been holes. -/
def lift {ε : Type} : Value → Json ε
  | .null => .null
  | .boolean b => .boolean b
  | .number n => .number n
  | .string s => .string s
  | .array items => .array (liftItems items)
  | .object members => .object (liftMembers members)

def liftItems {ε : Type} : List Value → List (Json ε)
  | [] => []
  | item :: rest => lift item :: liftItems rest

def liftMembers {ε : Type} : List (String × Value) → List (String × Json ε)
  | [] => []
  | (key, item) :: rest => (key, lift item) :: liftMembers rest

end

mutual

/-- A document that was made of a value has no hole, and as a whole it is that value. The proof follows the value, and
through it the lists of its items and of its members. -/
theorem whole_lift {ε : Type} : (v : Value) → (lift v : Json ε).whole = .ok v
  | .null => rfl
  | .boolean _ => rfl
  | .number _ => rfl
  | .string _ => rfl
  | .array items => by
      rw [lift, whole, wholeItems_lift items]
      rfl
  | .object members => by
      rw [lift, whole, wholeMembers_lift members]
      rfl

theorem wholeItems_lift {ε : Type} :
    (items : List Value) → wholeItems (liftItems items : List (Json ε)) = .ok items
  | [] => rfl
  | item :: rest => by
      rw [liftItems, wholeItems, whole_lift item, wholeItems_lift rest]
      rfl

theorem wholeMembers_lift {ε : Type} : (members : List (String × Value)) →
    wholeMembers (liftMembers members : List (String × Json ε)) = .ok members
  | [] => rfl
  | (key, item) :: rest => by
      rw [liftMembers, wholeMembers, whole_lift item, wholeMembers_lift rest]
      rfl

end

/-- To lift a list of items is to lift each of them. The lifting is defined along with that of values, so that it can
recurse into both. -/
theorem liftItems_eq_map {ε : Type} (items : List Value) :
    (liftItems items : List (Json ε)) = items.map lift := by
  induction items with
  | nil => rfl
  | cons item rest ih => rw [liftItems, ih, List.map_cons]

theorem liftMembers_eq_map {ε : Type} (members : List (String × Value)) :
    (liftMembers members : List (String × Json ε)) =
      members.map fun member => (member.1, lift member.2) := by
  induction members with
  | nil => rfl
  | cons member rest ih => rw [liftMembers, ih, List.map_cons]

/-- Characters that may stand between tokens. -/
abbrev IsBlank (cs : List Char) : Prop :=
  ∀ c ∈ cs, isSpace c = true

/-- Reading goes on from a state to a final one, at whatever position the text stands. -/
def Leads (r : Reading) (cs : List Char) (final : Reading) : Prop :=
  ∀ p, (tokens p cs).foldlM Reading.step r = .ok final

section

variable {r next final : Reading}

theorem leads_nil (h : r.stage = .done) : Leads r [] r := by
  intro p
  rw [tokens, List.foldlM_cons, Reading.step]
  simp [h]

/-- White space in front of a token changes nothing but the position. -/
theorem Leads.blank {c : Char} {cs : List Char} (hBlank : isSpace c = true) (h : Leads r cs final) :
    Leads r (c :: cs) final := by
  intro p
  rw [tokens, if_pos hBlank]
  exact h _

/-- White space of any length in front of a token changes nothing but the position. -/
theorem Leads.blanks {blank cs : List Char} (hBlank : IsBlank blank) (h : Leads r cs final) :
    Leads r (blank ++ cs) final := by
  induction blank with
  | nil => exact h
  | cons c rest ih =>
      obtain ⟨hFirst, hRest⟩ := List.forall_mem_cons.mp hBlank
      exact .blank hFirst (ih hRest)

/-- Reading goes on after a token that the state accepts. This is the step by which longer texts are read from shorter
ones. -/
theorem Leads.token {c : Char} {front rest : List Char} {lexeme : Lexeme} (hBlank : isSpace c = false)
    (hScan : ∀ p, ∃ stop, scan p c (front ++ rest) = ⟨lexeme, stop, front.length⟩)
    (hLast : lexeme.isLast = false) (hStep : ∀ t : Token, t.lexeme = lexeme → r.step t = .ok next)
    (h : Leads next rest final) : Leads r (c :: (front ++ rest)) final := by
  intro p
  obtain ⟨stop, hScan⟩ := hScan p
  rw [tokens, hScan]
  simp only [hBlank, hLast, Bool.false_eq_true, if_false, List.drop_left, List.foldlM_cons]
  rw [hStep _ rfl]
  exact h stop

theorem Leads.mark {c : Char} {cs : List Char} {lexeme : Lexeme} (hBlank : isSpace c = false)
    (hScan : ∀ p, scan p c cs = ⟨lexeme, p.after c, 0⟩) (hLast : lexeme.isLast = false)
    (hStep : ∀ t : Token, t.lexeme = lexeme → r.step t = .ok next) (h : Leads next cs final) :
    Leads r (c :: cs) final := by
  have hFront : Leads r (c :: ([] ++ cs)) final :=
    Leads.token hBlank (fun p => ⟨p.after c, hScan p⟩) hLast hStep h
  exact hFront

/-- A string is one token, whatever follows it: its closing quote is the first one that is not escaped, and it stands
at its end. -/
theorem Leads.string {s : String} {cs : List Char}
    (hStep : ∀ t : Token, t.lexeme = .string (.ok s) → r.step t = .ok next) (h : Leads next cs final) :
    Leads r ((stringText s).toList ++ cs) final := by
  have hText : (stringText s).toList ++ cs = '\x22' :: ((s.toList.flatMap escape ++ ['\x22']) ++ cs) := by
    rw [stringText, String.toList_ofList]
    rfl
  rw [hText]
  refine Leads.token (by decide) ?_ rfl hStep h
  intro p
  obtain ⟨stop, hScan⟩ := scanString_flatMap_escape s.toList [] (p.after '\x22') 0 cs
  refine ⟨stop, ?_⟩
  rw [List.append_assoc]
  change scanString (.sound []) (p.after '\x22') 0 (s.toList.flatMap escape ++ '\x22' :: cs) = _
  rw [hScan, List.length_append, Nat.zero_add]
  simp

theorem isSpace_of_number {c : Char} (h : c = '-' ∨ c.isDigit = true) : isSpace c = false := by
  rw [Bool.eq_false_iff]
  intro hSpace
  simp only [isSpace, Bool.or_eq_true, beq_iff_eq] at hSpace
  rcases hSpace with ((rfl | rfl) | rfl) | rfl <;> simp at h

/-- A number is one token if what follows does not go on with it. -/
theorem Leads.number {n : Number} {cs : List Char} (hSpelled : n.IsSpelled) (hStops : Stops cs)
    (hStep : ∀ t : Token, t.lexeme = .number (.ok n) → r.step t = .ok next) (h : Leads next cs final) :
    Leads r (n.text.toList ++ cs) final := by
  obtain ⟨negative, f, hWritten, hText, hValue⟩ := hSpelled
  obtain ⟨c, front, hStart, hFirst⟩ := hWritten.exists_cons negative
  rw [hText, hStart]
  refine Leads.token (isSpace_of_number hFirst) ?_ rfl hStep h
  intro p
  obtain ⟨fault, stop, hScan⟩ := scan_numeral hWritten hStops hStart p
  rw [hValue] at hScan
  exact ⟨stop, hScan⟩

end

/-- The stages at which a value is expected: at the start of a document or behind a key, behind an opening bracket,
and behind a comma in an array. -/
inductive Stage.Expects : Stage → Prop where
  | value : Expects .value
  | firstItem : Expects .firstItem
  | nextItem : Expects .nextItem

/-- The lexemes that are values, each with its value. All other values are made of several lexemes and open a
frame. -/
inductive Lexeme.Means : Lexeme → Value → Prop where
  | null : Means (.word .null) .null
  | true : Means (.word .true) (.boolean true)
  | false : Means (.word .false) (.boolean false)
  | number (n : Number) : Means (.number (.ok n)) (.number n)
  | string (s : String) : Means (.string (.ok s)) (.string s)

/-- A token that means a value delivers it wherever a value is expected. -/
theorem step_of_means {r : Reading} (h : r.stage.Expects) {t : Token} {lexeme : Lexeme} {v : Value}
    (hMeans : lexeme.Means v) (hToken : t.lexeme = lexeme) : r.step t = .ok (r.deliver v.lift) := by
  obtain ⟨frames, stage, flaw, result⟩ := r
  subst hToken
  obtain ⟨lexeme, start, first, stop⟩ := t
  cases h <;> cases hMeans <;> rfl

/-- The lexemes that open an array or an object, each with the frame that it opens and the stage that follows. -/
inductive Lexeme.Begins : Lexeme → Frame → Stage → Prop where
  | array : Begins .openArray (.array none []) .firstItem
  | object : Begins .openObject (.object none [] "") .firstKey

/-- A value that opens within the limit of nesting is not refused for its depth. -/
theorem depthFlaw_of_le {r : Reading} (h : r.frames.length + 1 ≤ depthLimit) (p : Position) :
    r.depthFlaw p = none := by
  have hShort : (r.frames.drop (depthLimit - 1)).isEmpty = true := by
    rw [List.isEmpty_iff, List.drop_eq_nil_iff]
    omega
  rw [Reading.depthFlaw, if_pos hShort]

/-- A token that begins an array or an object opens a frame for it wherever a value is expected, if it is not nested
too deep. -/
theorem step_of_begins {r : Reading} (h : r.stage.Expects) (hDepth : r.frames.length + 1 ≤ depthLimit)
    {t : Token} {lexeme : Lexeme} {frame : Frame} {first : Stage} (hBegins : lexeme.Begins frame first)
    (hToken : t.lexeme = lexeme) :
    r.step t = .ok { r with stage := first, frames := frame :: r.frames } := by
  have hFlaw := depthFlaw_of_le hDepth t.first
  obtain ⟨frames, stage, flaw, result⟩ := r
  cases hBegins <;> cases h <;>
    simp [Reading.step, Reading.value, Reading.openArray, Reading.openObject, hToken, hFlaw]

/-- What is delivered does not depend on the stage, so a value is taken in alike as an item, as a member and by
itself. -/
theorem deliver_stage (r : Reading) (stage : Stage) (document : Draft) :
    { r with stage }.deliver document = r.deliver document := by
  obtain ⟨frames, other, flaw, result⟩ := r
  rcases frames with _ | ⟨frame, rest⟩
  · rfl
  · cases frame <;> rfl

/-- Whether a text is read as a value wherever one is expected, up to `depth` levels under the limit. -/
def ReadsAs (depth : Nat) (v : Value) (cs : List Char) : Prop :=
  ∀ (r final : Reading) (rest : List Char), r.stage.Expects → r.frames.length + depth ≤ depthLimit →
    Stops rest → Leads (r.deliver v.lift) rest final → Leads r (cs ++ rest) final

/-- A text does not go on with a numeral if its first character does not. -/
theorem stops_cons {c : Char} (h : c.isDigit = false ∧ c ≠ '.' ∧ c ≠ 'e' ∧ c ≠ 'E') (cs : List Char) :
    Stops (c :: cs) := by
  intro first hFirst
  cases hFirst
  exact h

/-- White space never goes on with a numeral, and if there is none, what stands behind it decides. -/
theorem stops_blanks {blank cs : List Char} (hBlank : IsBlank blank) (h : Stops cs) :
    Stops (blank ++ cs) := by
  cases blank with
  | nil => exact h
  | cons c others =>
      have hSpace := hBlank c List.mem_cons_self
      simp only [isSpace, Bool.or_eq_true, beq_iff_eq] at hSpace
      apply stops_cons
      rcases hSpace with ((rfl | rfl) | rfl) | rfl <;> decide

/-- The texts of a list, in which blanks may stand before each element and a comma stands after each but the last. -/
inductive Listed {α : Type} (reads : α → List Char → Prop) : List α → List Char → Prop where
  | last {a : α} {blank cs : List Char} (hBlank : IsBlank blank) (h : reads a cs) :
      Listed reads [a] (blank ++ cs)
  | cons {a : α} {others : List α} {blank cs ds : List Char} (hBlank : IsBlank blank) (h : reads a cs)
      (hOthers : Listed reads others ds) : Listed reads (a :: others) (blank ++ (cs ++ ',' :: ds))

/-- A list is read element by element. The state before an element is one before the first or one after a comma. -/
theorem Listed.leads {α : Type} {reads : α → List Char → Prop} (first next stop : List α → Reading)
    {final : Reading} {rest : List Char}
    (hElement : ∀ {done a cs rest}, reads a cs → Stops rest → Leads (stop (done ++ [a])) rest final →
      Leads (first done) (cs ++ rest) final ∧ Leads (next done) (cs ++ rest) final)
    (hComma : ∀ {done rest}, Leads (next done) rest final → Leads (stop done) (',' :: rest) final)
    (hRest : Stops rest) {as : List α} {cs : List Char} (h : Listed reads as cs) (done : List α)
    (hFinal : Leads (stop (done ++ as)) rest final) :
    Leads (first done) (cs ++ rest) final ∧ Leads (next done) (cs ++ rest) final := by
  induction h generalizing done with
  | last hBlank h =>
      obtain ⟨hFirst, hNext⟩ := hElement h hRest hFinal
      rw [List.append_assoc]
      exact ⟨.blanks hBlank hFirst, .blanks hBlank hNext⟩
  | cons hBlank h hOthers ih =>
      rw [← List.singleton_append, ← List.append_assoc] at hFinal
      have hAfter := hComma (ih _ hFinal).2
      obtain ⟨hFirst, hNext⟩ := hElement h (stops_cons (by decide) _) hAfter
      rw [List.append_assoc, List.append_assoc]
      exact ⟨.blanks hBlank hFirst, .blanks hBlank hNext⟩

section

variable {depth : Nat}

theorem readsAs_of_scan {c : Char} {front : List Char} {lexeme : Lexeme} {v : Value}
    (hBlank : isSpace c = false) (hLast : lexeme.isLast = false) (hMeans : lexeme.Means v)
    (hScan : ∀ p rest, ∃ stop, scan p c (front ++ rest) = ⟨lexeme, stop, front.length⟩) :
    ReadsAs depth v (c :: front) := by
  intro r final rest hStage hDepth hRest h
  exact Leads.token hBlank (hScan · rest) hLast (fun t => step_of_means hStage hMeans) h

theorem readsAs_null : ReadsAs depth .null ['n', 'u', 'l', 'l'] :=
  readsAs_of_scan (by decide) rfl .null fun _ _ => ⟨_, rfl⟩

theorem readsAs_true : ReadsAs depth (.boolean true) ['t', 'r', 'u', 'e'] :=
  readsAs_of_scan (by decide) rfl .true fun _ _ => ⟨_, rfl⟩

theorem readsAs_false : ReadsAs depth (.boolean false) ['f', 'a', 'l', 's', 'e'] :=
  readsAs_of_scan (by decide) rfl .false fun _ _ => ⟨_, rfl⟩

/-- A number is read as the numeral that it is written as, if that numeral stands for it. -/
theorem readsAs_number {n : Number} (h : n.IsSpelled) : ReadsAs depth (.number n) n.text.toList := by
  intro r final rest hStage hDepth hRest hNext
  exact Leads.number h hRest (fun t => step_of_means hStage (.number n)) hNext

/-- A string is read as it is written, whatever characters are in it. -/
theorem readsAs_string (s : String) : ReadsAs depth (.string s) (stringText s).toList := by
  intro r final rest hStage hDepth hRest hNext
  exact Leads.string (fun t => step_of_means hStage (.string s)) hNext

end

section

variable {depth : Nat} {r final : Reading} {rest : List Char}

/-- The state in an array of which some items are read. They are kept in reverse, the last one first. -/
def inArray (r : Reading) (done : List Value) (stage : Stage) : Reading :=
  { r with stage, frames := .array none (done.map lift).reverse :: r.frames }

/-- An item that is delivered inside an array goes behind the items that are there. -/
theorem deliver_inArray (done : List Value) (item : Value) (stage : Stage) :
    (inArray r done stage).deliver item.lift = inArray r (done ++ [item]) .itemEnd := by
  simp [inArray, Reading.deliver]

/-- An item of an array is read one level of nesting further in, and goes behind those that are read already. -/
theorem leads_item {done : List Value} {item : Value} {stage : Stage} {cs : List Char}
    (hStage : stage.Expects) (hDepth : r.frames.length + (depth + 1) ≤ depthLimit)
    (h : ReadsAs depth item cs) (hRest : Stops rest)
    (hNext : Leads (inArray r (done ++ [item]) .itemEnd) rest final) :
    Leads (inArray r done stage) (cs ++ rest) final := by
  rw [← deliver_inArray done item stage] at hNext
  refine h _ final rest hStage ?_ hRest hNext
  rw [inArray, List.length_cons]
  omega

/-- After a comma an array expects another item, and it may not end before there is one. -/
theorem leads_comma_item {done : List Value} (h : Leads (inArray r done .nextItem) rest final) :
    Leads (inArray r done .itemEnd) (',' :: rest) final := by
  refine .mark (by decide) (fun p => rfl) rfl (fun t ht => ?_) h
  simp only [Reading.step, ht, inArray]

/-- An array ends before its first item or behind any of them, and is then delivered to what is around it. -/
theorem leads_array_end {items : List Value} {stage : Stage} (hStage : stage = .firstItem ∨ stage = .itemEnd)
    (h : Leads (r.deliver (lift (.array items))) rest final) :
    Leads (inArray r items stage) (']' :: rest) final := by
  refine .mark (by decide) (fun p => rfl) rfl (fun t ht => ?_) h
  have hClose : (inArray r items stage).close = r.deliver (lift (.array items)) := by
    rw [lift, liftItems_eq_map, ← deliver_stage r stage]
    simp [Reading.close, inArray]
  rcases hStage with rfl | rfl <;> rw [← hClose] <;> simp only [Reading.step, ht, inArray]

/-- An array is read from its items, with commas between them and white space in front of each and of the bracket at
the end. -/
theorem readsAs_array {items : List Value} {cs blank : List Char} (h : Listed (ReadsAs depth) items cs)
    (hBlank : IsBlank blank) : ReadsAs (depth + 1) (.array items) ('[' :: (cs ++ (blank ++ [']']))) := by
  intro r final rest hStage hDepth hRest hNext
  have hEnd : Leads (inArray r items .itemEnd) (blank ++ ']' :: rest) final :=
    .blanks hBlank (leads_array_end (.inr rfl) hNext)
  have hStops : Stops (blank ++ ']' :: rest) := stops_blanks hBlank (stops_cons (by decide) rest)
  have hItems : Leads (inArray r [] .firstItem) (cs ++ (blank ++ ']' :: rest)) final :=
    (h.leads (inArray r · .firstItem) (inArray r · .nextItem) (inArray r · .itemEnd)
      (fun hItem hRest hNext => ⟨leads_item .firstItem hDepth hItem hRest hNext,
        leads_item .nextItem hDepth hItem hRest hNext⟩) leads_comma_item hStops [] hEnd).1
  have hRead : Leads r ('[' :: (cs ++ (blank ++ ']' :: rest))) final :=
    .mark (by decide) (fun p => rfl) rfl (fun t => step_of_begins hStage (by omega) .array) hItems
  simpa using hRead

theorem readsAs_empty_array : ReadsAs (depth + 1) (.array []) ['[', ']'] := by
  intro r final rest hStage hDepth hRest hNext
  have hEnd : Leads (inArray r [] .firstItem) (']' :: rest) final := leads_array_end (.inl rfl) hNext
  exact .mark (by decide) (fun p => rfl) rfl (fun t => step_of_begins hStage (by omega) .array) hEnd

/-- The state in an object of which some members are read, and perhaps the key of another. -/
def inObject (r : Reading) (done : List (String × Value)) (key : String) (stage : Stage) : Reading :=
  { r with
    stage
    frames := .object none (done.map fun member => (member.1, lift member.2)).reverse key :: r.frames }

/-- The key that was read last. -/
def lastKey (done : List (String × Value)) : String :=
  (done.getLast?.map (·.1)).getD ""

/-- A value that is delivered inside an object goes with its key behind the members that are there. -/
theorem deliver_inObject (done : List (String × Value)) (key : String) (v : Value) (stage : Stage) :
    (inObject r done key stage).deliver v.lift =
      inObject r (done ++ [(key, v)]) (lastKey (done ++ [(key, v)])) .memberEnd := by
  simp [inObject, Reading.deliver, lastKey]

/-- Whether a text is read as a member of an object: its key, a colon and its value, before which blanks may stand. -/
inductive ReadsMember (depth : Nat) : String × Value → List Char → Prop where
  | intro {key : String} {v : Value} {blank cs : List Char} (hBlank : IsBlank blank)
      (h : ReadsAs depth v cs) : ReadsMember depth (key, v) ((stringText key).toList ++ ':' :: (blank ++ cs))

/-- A member of an object is read as its key, a colon and its value, and goes behind those that are read already. -/
theorem leads_member {done : List (String × Value)} {member : String × Value} {last : String} {stage : Stage}
    {cs : List Char} (hStage : stage = .firstKey ∨ stage = .nextKey)
    (hDepth : r.frames.length + (depth + 1) ≤ depthLimit) (h : ReadsMember depth member cs)
    (hRest : Stops rest)
    (hNext : Leads (inObject r (done ++ [member]) (lastKey (done ++ [member])) .memberEnd) rest final) :
    Leads (inObject r done last stage) (cs ++ rest) final := by
  obtain @⟨key, v, blank, ds, hBlank, hValue⟩ := h
  have hRead : Leads (inObject r done key .value) (ds ++ rest) final := by
    rw [← deliver_inObject done key v .value] at hNext
    refine hValue _ final rest .value ?_ hRest hNext
    rw [inObject, List.length_cons]
    omega
  have hColon : Leads (inObject r done key .colon) (':' :: (blank ++ (ds ++ rest))) final := by
    refine .mark (by decide) (fun p => rfl) rfl (fun t ht => ?_) (.blanks hBlank hRead)
    simp only [Reading.step, ht, inObject]
  rw [List.append_assoc, List.cons_append, List.append_assoc]
  refine .string (fun t ht => ?_) hColon
  rcases hStage with rfl | rfl <;> simp only [Reading.step, Reading.keyToken, Reading.key, ht, inObject]

/-- After a comma an object expects another member, and it may not end before there is one. -/
theorem leads_comma_member {done : List (String × Value)} {key : String}
    (h : Leads (inObject r done key .nextKey) rest final) :
    Leads (inObject r done key .memberEnd) (',' :: rest) final := by
  refine .mark (by decide) (fun p => rfl) rfl (fun t ht => ?_) h
  simp only [Reading.step, ht, inObject]

/-- An object ends before its first member or behind any of them, and is then delivered to what is around it. -/
theorem leads_object_end {members : List (String × Value)} {key : String} {stage : Stage}
    (hStage : stage = .firstKey ∨ stage = .memberEnd)
    (h : Leads (r.deliver (lift (.object members))) rest final) :
    Leads (inObject r members key stage) ('\x7d' :: rest) final := by
  refine .mark (by decide) (fun p => rfl) rfl (fun t ht => ?_) h
  have hClose : (inObject r members key stage).close = r.deliver (lift (.object members)) := by
    rw [lift, liftMembers_eq_map, ← deliver_stage r stage]
    simp [Reading.close, inObject]
  rcases hStage with rfl | rfl <;> rw [← hClose] <;> simp only [Reading.step, ht, inObject]

/-- An object is read from its members, with commas between them and white space in front of each and of the brace at
the end. -/
theorem readsAs_object {members : List (String × Value)} {cs blank : List Char}
    (h : Listed (ReadsMember depth) members cs) (hBlank : IsBlank blank) :
    ReadsAs (depth + 1) (.object members) ('\x7b' :: (cs ++ (blank ++ ['\x7d']))) := by
  intro r final rest hStage hDepth hRest hNext
  have hEnd : Leads (inObject r members (lastKey members) .memberEnd) (blank ++ '\x7d' :: rest) final :=
    .blanks hBlank (leads_object_end (.inr rfl) hNext)
  have hStops : Stops (blank ++ '\x7d' :: rest) := stops_blanks hBlank (stops_cons (by decide) rest)
  have hMembers : Leads (inObject r [] (lastKey []) .firstKey) (cs ++ (blank ++ '\x7d' :: rest)) final :=
    (h.leads (fun done => inObject r done (lastKey done) .firstKey)
      (fun done => inObject r done (lastKey done) .nextKey)
      (fun done => inObject r done (lastKey done) .memberEnd)
      (fun hMember hRest hNext => ⟨leads_member (.inl rfl) hDepth hMember hRest hNext,
        leads_member (.inr rfl) hDepth hMember hRest hNext⟩) leads_comma_member hStops [] hEnd).1
  have hRead : Leads r ('\x7b' :: (cs ++ (blank ++ '\x7d' :: rest))) final :=
    .mark (by decide) (fun p => rfl) rfl (fun t => step_of_begins hStage (by omega) .object) hMembers
  simpa using hRead

/-- An object without members is read from its two braces. -/
theorem readsAs_empty_object : ReadsAs (depth + 1) (.object []) ['\x7b', '\x7d'] := by
  intro r final rest hStage hDepth hRest hNext
  have hEnd : Leads (inObject r [] "" .firstKey) ('\x7d' :: rest) final :=
    leads_object_end (.inl rfl) hNext
  exact .mark (by decide) (fun p => rfl) rfl (fun t => step_of_begins hStage (by omega) .object) hEnd

end

/-- A text that is read as a value is read as that value when it stands alone, blanks after it passed over. -/
theorem draft_of_readsAs {v : Value} {cs blank : List Char} (h : ReadsAs depthLimit v cs)
    (hBlank : IsBlank blank) : draft (String.ofList (cs ++ blank)) = .ok v.lift := by
  have hDone : Leads ⟨[], .done, none, some v.lift⟩ blank ⟨[], .done, none, some v.lift⟩ := by
    rw [← List.append_nil blank]
    exact .blanks hBlank (leads_nil rfl)
  have hStops : Stops blank := by
    rw [← List.append_nil blank]
    exact stops_blanks hBlank nofun
  have hRead := h .initial _ blank .value (Nat.le_of_eq (Nat.zero_add _)) hStops hDone .start
  rw [draft, String.toList_ofList, hRead]
  rfl

/-- A value that is read from some characters is read from the text they make, with white space behind it. There is
nothing left then, and that is what ends the reading. -/
theorem parse_of_readsAs {v : Value} {cs blank : List Char} (h : ReadsAs depthLimit v cs)
    (hBlank : IsBlank blank) : parse (String.ofList (cs ++ blank)) = .ok v := by
  rw [parse, draft_of_readsAs h hBlank]
  exact whole_lift v

/-- Whether the text of a number, on its own, is read as that number. -/
def Number.ReadsBack (n : Number) : Prop :=
  parse n.text = .ok (.number n)

/-- Whether a text is read as a number, as a test. -/
def readsNumber (text : String) (n : Number) : Bool :=
  match parse text with
  | .ok (.number m) => m == n
  | _ => false

/-- The test for a number that is read back decides just that. -/
theorem readsNumber_iff {text : String} {n : Number} :
    readsNumber text n = true ↔ parse text = .ok (.number n) := by
  unfold readsNumber
  split
  · next m hParse => simp [hParse]
  · next hOther =>
    refine iff_of_false Bool.false_ne_true fun hParse => ?_
    exact hOther n hParse

instance : DecidablePred Number.ReadsBack :=
  fun n => decidable_of_iff (readsNumber n.text n = true) readsNumber_iff

/-- A double that is read back from its text was written as a numeral that stands for it, for no other text of a
double is read as a number. -/
theorem Number.isSpelled_of_readsBack {x : Float} (h : (Number.double x).ReadsBack) :
    (Number.double x).IsSpelled := by
  unfold ReadsBack at h
  have hNull : parse "null" = .ok .null := by
    have hWord : String.ofList (['n', 'u', 'l', 'l'] ++ []) = "null" := by decide
    rw [← hWord]
    exact parse_of_readsAs readsAs_null nofun
  rw [Number.text] at h
  cases hDouble : doubleText x with
  | none =>
      rw [hDouble, Option.getD_none, hNull] at h
      cases h
  | some text =>
      obtain ⟨negative, f, hWritten, hText⟩ := exists_figures_of_doubleText hDouble
      rw [hDouble, Option.getD_some] at h
      refine ⟨negative, f, hWritten, ?_, ?_⟩
      · rw [Number.text, hDouble]
        exact hText
      · obtain ⟨c, front, hStart, hFirst⟩ := hWritten.exists_cons negative
        obtain ⟨fault, stop, hScan⟩ := scan_numeral hWritten (show Stops [] from nofun) hStart .start
        rw [List.append_nil] at hScan
        have hTokens : tokens .start text.toList =
            [⟨.number ((f.parts negative).value?.elim (.error fault) .ok), .start, Position.start.into c, stop⟩,
              ⟨.finish, stop, stop, stop⟩] := by
          rw [hText, hStart, tokens, hScan, isSpace_of_number hFirst]
          simp [tokens, Lexeme.isLast]
        rw [parse, draft, hTokens] at h
        cases hValue : (f.parts negative).value? with
        | none =>
            rw [hValue] at h
            cases h
        | some n =>
            rw [hValue] at h
            cases h
            rfl

end FlexGrid.Json
