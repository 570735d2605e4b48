import FlexGrid.Json.Token
import FlexGrid.Json.Writer

/-! JSON strings inside a text. What is written for a string is read back to its closing quotation mark, whatever the
string holds and whatever comes after it. -/
namespace FlexGrid.Json

/-- A string of which some characters are read, without a flaw. -/
abbrev PartialString.sound (reversed : List Char) : PartialString :=
  ⟨reversed, none, none⟩

/-- A control character is read back from its four hexadecimal digits, the first two of which are zeros. -/
theorem fourHex?_control {n : Nat} (h : n < 0x20) :
    fourHex? '0' '0' (Nat.digitChar (n / 16)) (Nat.digitChar (n % 16)) = some n := by
  have hAll : ∀ n < 0x20,
      fourHex? '0' '0' (Nat.digitChar (n / 16)) (Nat.digitChar (n % 16)) = some n := by decide
  exact hAll n h

/-- A character that begins no escape stands for itself, unless it ends the string or may not be in one. -/
theorem scanString_cons {c : Char} (h : c ≠ '\\') (s : PartialString) (p : Position) (read : Nat)
    (cs : List Char) :
    scanString s p read (c :: cs) =
      if c = '\x22' then ⟨.string (s.abandon (p.into c)).close, p.after c, read + 1⟩
      else if c.toNat < 0x20 then (s.abandon (p.into c)).breakOff .controlCharacter (p.into c)
      else scanString ((s.abandon (p.into c)).push c) (p.after c) (read + 1) cs := by
  rw [scanString] <;> simp [h]

/-- What is written for a character in a string is read as that character, be it the character itself or an escape.
How far the position moves depends on which of them it is. -/
theorem scanString_escape (c : Char) (reversed : List Char) (p : Position) (read : Nat) (cs : List Char) :
    ∃ q, scanString (.sound reversed) p read (escape c ++ cs) =
      scanString (.sound (c :: reversed)) q (read + (escape c).length) cs := by
  unfold escape
  split
  case h_8 hQuote hBackslash _ _ _ _ _ =>
    split
    · next hControl =>
      have hUnit (q : Position) :
          (PartialString.sound reversed).unit c.toNat q = .sound (c :: reversed) := by
        simp only [PartialString.unit]
        rw [if_neg (by omega), if_neg (by omega), PartialString.push, Char.ofNat_toNat]
      apply Exists.intro
      change scanString _ p read ('\\' :: 'u' :: '0' :: '0' :: _ :: _ :: cs) = _
      rw [scanString, fourHex?_control hControl]
      dsimp only
      rw [hUnit]
      rfl
    · next hPlain =>
      apply Exists.intro
      change scanString _ p read (c :: cs) = _
      rw [scanString_cons hBackslash, if_neg hQuote, if_neg hPlain]
      rfl
  all_goals exact ⟨_, rfl⟩

/-- What is written for a string is read to its closing quotation mark. -/
theorem scanString_flatMap_escape (text : List Char) (reversed : List Char) (p : Position) (read : Nat)
    (cs : List Char) :
    ∃ q, scanString (.sound reversed) p read (text.flatMap escape ++ '\x22' :: cs) =
      ⟨.string (.ok (String.ofList (reversed.reverse ++ text))), q,
        read + (text.flatMap escape).length + 1⟩ := by
  induction text generalizing reversed p read with
  | nil =>
      apply Exists.intro
      change scanString _ p read ('\x22' :: cs) = _
      rw [scanString_cons (by decide), if_pos rfl, List.append_nil]
      rfl
  | cons c rest ih =>
      obtain ⟨q, hFirst⟩ := scanString_escape c reversed p read (rest.flatMap escape ++ '\x22' :: cs)
      obtain ⟨stop, hRest⟩ := ih (c :: reversed) q (read + (escape c).length)
      refine ⟨stop, ?_⟩
      rw [List.flatMap_cons, List.append_assoc, hFirst, hRest, List.length_append, List.reverse_cons,
        List.append_assoc, ← Nat.add_assoc]
      rfl

end FlexGrid.Json
