import FlexGrid.Json.Fault
import FlexGrid.Json.Number

/-! JSON texts cut into tokens. A token that breaks off ends the list, for nothing after it can be read. A
string or a numeral may be well written and still mean nothing; such a token holds the fault in place of
its value, and the list goes on. -/
namespace FlexGrid.Json

inductive Word where
  | null
  | true
  | false
deriving DecidableEq

inductive Lexeme where
  | openArray
  | closeArray
  | openObject
  | closeObject
  | comma
  | colon
  | word (w : Word)
  | number (n : Except Fault Number)
  | string (s : Except Fault String)
  /-- A string that breaks off. -/
  | brokenString (f : Fault)
  /-- A word or a numeral that breaks off. -/
  | brokenValue (f : Fault)
  /-- A character that begins no token. -/
  | stray
  /-- The end of the text. -/
  | finish

/-- Whether nothing can be read after a lexeme. -/
def Lexeme.isLast : Lexeme → Bool
  | .brokenString _ => true
  | .brokenValue _ => true
  | .stray => true
  | .finish => true
  | _ => false

/-- A lexeme with the positions before it, after its first byte, and after all of it. At the end of the
text the three are one. -/
structure Token where
  lexeme : Lexeme
  start : Position
  first : Position
  stop : Position

/-- A lexeme, the position after it, and how many characters it takes beyond its first one. -/
structure Scan where
  lexeme : Lexeme
  stop : Position
  length : Nat

/-- The rest of a word of which some characters are read. -/
def scanWord (w : Word) (p : Position) (read : Nat) : List Char → List Char → Scan
  | [], _ => ⟨.word w, p, read⟩
  | _ :: _, [] => ⟨.brokenValue ⟨.endInValue, p⟩, p, read⟩
  | expected :: rest, c :: cs =>
      if c = expected then scanWord w (p.after c) (read + 1) rest cs
      else ⟨.brokenValue ⟨.expectedWord, p.into c⟩, p, read⟩

/-- One or more digits, required at position `p`: the digits and what follows them, or the fault. -/
def scanDigits (p : Position) (atOther : Char → Position) (cs : List Char) :
    Except Fault (List Char × List Char) :=
  match cs with
  | [] => .error ⟨.endInValue, p⟩
  | c :: _ =>
      if c.isDigit then .ok (cs.takeWhile Char.isDigit, cs.dropWhile Char.isDigit)
      else .error ⟨.invalidNumber, atOther c⟩

/-- The integer part of a numeral at position `p`. It has no leading zero unless it is zero. -/
def scanInteger (p : Position) (cs : List Char) : Except Fault (List Char × List Char) := do
  let (digits, rest) ← scanDigits p p.into cs
  match digits with
  | '0' :: second :: _ => .error ⟨.invalidNumber, (p.after '0').into second⟩
  | _ => .ok (digits, rest)

/-- The fraction of a numeral, if there is a point: its digits, and what follows. -/
def scanFraction (p : Position) (cs : List Char) :
    Except Fault (Option (List Char) × List Char) :=
  match cs with
  | '.' :: rest => do
      let (digits, rest) ← scanDigits (p.after '.') (p.after '.').into rest
      .ok (some digits, rest)
  | _ => .ok (none, cs)

/-- The sign of an exponent, whether it is negative: the characters that write it and what follows. -/
def scanSign (cs : List Char) : Bool × List Char × List Char :=
  match cs with
  | '+' :: rest => (false, ['+'], rest)
  | '-' :: rest => (true, ['-'], rest)
  | _ => (false, [], cs)

/-- The exponent of a numeral, if there is one: its sign, the characters before its digits, and its
digits. -/
def scanExponent (p : Position) (cs : List Char) :
    Except Fault (Option (Bool × List Char × List Char)) :=
  match cs with
  | [] => .ok none
  | mark :: rest =>
      if mark = 'e' ∨ mark = 'E' then do
        let (negative, sign, rest) := scanSign rest
        let q := (p.after mark).afterAll sign
        let (digits, _) ← scanDigits q q.into rest
        .ok (some (negative, mark :: sign, digits))
      else .ok none

/-- A numeral, after its minus sign if it has one. -/
def scanNumeral (negative : Bool) (p : Position) (cs : List Char) : Except Fault Scan := do
  let (integer, rest) ← scanInteger p cs
  let p := p.afterAll integer
  let (fraction, rest) ← scanFraction p rest
  let point := fraction.elim [] ('.' :: ·)
  let p := p.afterAll point
  let exponent ← scanExponent p rest
  let (opening, power) := exponent.elim ([], []) (·.2)
  let stop := (p.afterAll opening).afterAll power
  let parts : NumeralParts := {
    negative
    integer := integer.map Decimal.digitValue
    fraction := fraction.map (·.map Decimal.digitValue)
    exponent := exponent.map fun (negative, _, digits) => (negative, digits.map Decimal.digitValue) }
  let reached := match excessAt (power.map Decimal.digitValue) with
    | some count => (p.afterAll opening).afterAll (power.take count)
    | none => stop
  let number := match parts.value? with
    | some n => .ok n
    | none => .error ⟨.numberOutOfRange, reached⟩
  .ok ⟨.number number, stop, integer.length + point.length + opening.length + power.length⟩

def scanNumber (p : Position) (c : Char) (cs : List Char) : Scan :=
  let scan := if c = '-' then scanNumeral true (p.after c) cs
    else (scanNumeral false p (c :: cs)).map fun s => { s with length := s.length - 1 }
  match scan with
  | .ok s => s
  | .error f => ⟨.brokenValue f, p.after c, 0⟩

def hexValue? (c : Char) : Option Nat :=
  if c.isDigit then some (c.toNat - '0'.toNat)
  else if 'a' ≤ c ∧ c ≤ 'f' then some (c.toNat - 'a'.toNat + 10)
  else if 'A' ≤ c ∧ c ≤ 'F' then some (c.toNat - 'A'.toNat + 10)
  else none

def fourHex? (a b c d : Char) : Option Nat := do
  let a ← hexValue? a
  let b ← hexValue? b
  let c ← hexValue? c
  let d ← hexValue? d
  some (((a * 16 + b) * 16 + c) * 16 + d)

/-- The character that a one-letter escape stands for. -/
def unescape? : Char → Option Char
  | '\x22' => some '\x22'
  | '\\' => some '\\'
  | '/' => some '/'
  | 'b' => some '\x08'
  | 'f' => some '\x0c'
  | 'n' => some '\n'
  | 'r' => some '\r'
  | 't' => some '\t'
  | _ => none

/-- What is known of a string while it is read: its characters so far, last one first, the leading half of
a pair that waits for its other half, and the first fault. -/
structure PartialString where
  reversed : List Char
  lead : Option Nat
  flaw : Option Fault

namespace PartialString

/-- Note a fault, unless an earlier one is known. -/
def spoil (s : PartialString) (f : Fault) : PartialString :=
  { s with lead := none, flaw := s.flaw.or (some f) }

/-- A waiting half finds no other half at position `p`. -/
def abandon (s : PartialString) (p : Position) : PartialString :=
  if s.lead.isSome then s.spoil ⟨.missingSurrogate, p⟩ else s

def push (s : PartialString) (c : Char) : PartialString :=
  { s with reversed := c :: s.reversed }

/-- One more unit of sixteen bits, written by its number up to position `p`. A character beyond sixteen
bits is written as two. -/
def unit (s : PartialString) (n : Nat) (p : Position) : PartialString :=
  match s.lead with
  | some lead =>
      if 0xDC00 ≤ n ∧ n ≤ 0xDFFF then
        { s with lead := none }.push
          (Char.ofNat ((lead - 0xD800) * 0x400 + (n - 0xDC00) + 0x10000))
      else s.spoil ⟨.loneSurrogate, p⟩
  | none =>
      if 0xDC00 ≤ n ∧ n ≤ 0xDFFF then s.spoil ⟨.loneSurrogate, p⟩
      else if 0xD800 ≤ n ∧ n ≤ 0xDBFF then { s with lead := some n }
      else s.push (Char.ofNat n)

def close (s : PartialString) : Except Fault String :=
  match s.flaw with
  | some f => .error f
  | none => .ok (String.ofList s.reversed.reverse)

/-- A string that breaks off with a fault, unless an earlier one is known. -/
def breakOff (s : PartialString) (cause : Cause) (p : Position) : Scan :=
  ⟨.brokenString (s.flaw.getD ⟨cause, p⟩), p, 0⟩

end PartialString

/-- The rest of a string after its opening quotation mark. -/
def scanString (s : PartialString) (p : Position) (read : Nat) : List Char → Scan
  | [] => s.breakOff .endInString p
  | ['\\'] => s.breakOff .endInString (p.after '\\')
  | '\\' :: 'u' :: a :: b :: c :: d :: cs =>
      let digits := (p.after '\\').after 'u'
      match fourHex? a b c d with
      | some n =>
          let q := digits.afterAll [a, b, c, d]
          scanString (s.unit n q) q (read + 6) cs
      | none => s.breakOff .invalidEscape ((digits.afterBytes 4 [a, b, c, d]).getD digits)
  | '\\' :: 'u' :: cs =>
      let digits := (p.after '\\').after 'u'
      match digits.afterBytes 4 cs with
      | some q => s.breakOff .invalidEscape q
      | none => s.breakOff .endInString (digits.afterAll cs)
  | '\\' :: c :: cs =>
      let q := (p.after '\\').into c
      let s := s.abandon q
      match unescape? c with
      | some plain => scanString (s.push plain) ((p.after '\\').after c) (read + 2) cs
      | none => s.breakOff .invalidEscape q
  | c :: cs =>
      let s := s.abandon (p.into c)
      if c = '\x22' then ⟨.string s.close, p.after c, read + 1⟩
      else if c.toNat < 0x20 then s.breakOff .controlCharacter (p.into c)
      else scanString (s.push c) (p.after c) (read + 1) cs

/-- The lexeme that begins with `c`. -/
def scan (p : Position) (c : Char) (cs : List Char) : Scan :=
  let one (lexeme : Lexeme) : Scan := ⟨lexeme, p.after c, 0⟩
  match c with
  | '[' => one .openArray
  | ']' => one .closeArray
  | '\x7b' => one .openObject
  | '\x7d' => one .closeObject
  | ',' => one .comma
  | ':' => one .colon
  | 'n' => scanWord .null (p.after c) 0 ['u', 'l', 'l'] cs
  | 't' => scanWord .true (p.after c) 0 ['r', 'u', 'e'] cs
  | 'f' => scanWord .false (p.after c) 0 ['a', 'l', 's', 'e'] cs
  | '\x22' => scanString ⟨[], none, none⟩ (p.after c) 0 cs
  | _ => if c = '-' ∨ c.isDigit then scanNumber p c cs else one .stray

/-- The blanks between tokens. -/
def isSpace (c : Char) : Bool :=
  c == ' ' || c == '\n' || c == '\t' || c == '\r'

/-- The tokens of a text that begins at position `p`. The last one, and no other, is one after which
nothing can be read. -/
def tokens (p : Position) : List Char → List Token
  | [] => [⟨.finish, p, p, p⟩]
  | c :: cs =>
      if isSpace c then tokens (p.after c) cs
      else
        let s := scan p c cs
        let token : Token := ⟨s.lexeme, p, p.into c, s.stop⟩
        if s.lexeme.isLast then [token] else token :: tokens s.stop (cs.drop s.length)
termination_by cs => cs.length
decreasing_by
  · simp
  · simp only [List.length_drop, List.length_cons]
    omega

end FlexGrid.Json
