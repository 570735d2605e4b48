import FlexGrid.Layout.Calc
import FlexGrid.Length.Literal

/-! Reading arithmetic on lengths from its text. Words are separated by blanks, and parentheses stand for
themselves. Words are taken one by one: an operand completes the product it belongs to, and an operator
that binds less completes the sum before it. -/
namespace FlexGrid.Calc

/-- The operations between two operands. -/
inductive Operator where
  | plus
  | minus
  | times
  | divide
deriving DecidableEq

def Operator.isTight : Operator → Bool
  | .plus => false
  | .minus => false
  | .times => true
  | .divide => true

/-- Two operands joined. -/
def Operator.join {α : Type} (op : Operator) (a b : Calc α) : Calc α :=
  match op with
  | .plus => .sum a b
  | .minus => .difference a b
  | .times => .product a b
  | .divide => .quotient a b

/-- What a word stands for. -/
inductive Token (α : Type) where
  | opening
  | closing
  | operator (op : Operator)
  | operand (e : Calc α)

/-- Put a word in front of others unless it is empty. The word is given backwards. -/
def flush (reversed : List Char) (others : List (List Char)) : List (List Char) :=
  if reversed.isEmpty then others else reversed.reverse :: others

/-- The words of a text, of the first of which some characters are read already. -/
def words (reversed : List Char) : List Char → List (List Char)
  | [] => flush reversed []
  | c :: cs =>
      if c = ' ' then flush reversed (words [] cs)
      else if c = '(' ∨ c = ')' then flush reversed ([c] :: words [] cs)
      else words (c :: reversed) cs

variable {α : Type} [Scalar α]

/-- A number with its unit, or a whole number without one. -/
def magnitude? (negative : Bool) (word : List Char) : Option (Calc α) := do
  let (digits, rest) ← Length.splitNumeral word
  if rest.isEmpty then
    if negative || !digits.fraction.isEmpty then none
    else some (.number (Decimal.digitsValue digits.integer))
  else
    let value : α := digits.value
    (Length.unitOf? rest).map fun unit =>
      .length ⟨if negative then Scalar.natural 0 - value else value, unit⟩

def operand? (word : List Char) : Option (Calc α) :=
  match word with
  | '-' :: rest => magnitude? true rest
  | _ => magnitude? false word

def token? (word : List Char) : Option (Token α) :=
  if word = ['('] then some .opening
  else if word = [')'] then some .closing
  else if word = ['+'] then some (.operator .plus)
  else if word = ['-'] then some (.operator .minus)
  else if word = ['*'] then some (.operator .times)
  else if word = ['/'] then some (.operator .divide)
  else (operand? word).map .operand

/-- A left operand whose right one is still to come, with the operator between them, or nothing. -/
abbrev Pending (α : Type) := Option (Calc α × Operator)

/-- The operation with its right operand, or that operand alone. -/
def complete (pending : Pending α) (e : Calc α) : Calc α :=
  match pending with
  | none => e
  | some (a, op) => op.join a e

/-- What waits between two parentheses: a sum, and in it a product. -/
structure Frame (α : Type) where
  sum : Pending α
  product : Pending α

/-- An expression that is being read: what waits inside the innermost parentheses and around them, and the
product read so far, when an operator is due. -/
structure Reading (α : Type) where
  frame : Frame α
  outer : List (Frame α)
  operand : Option (Calc α)

namespace Reading

def initial : Reading α :=
  ⟨⟨none, none⟩, [], none⟩

def step (r : Reading α) (t : Token α) : Option (Reading α) :=
  match r.operand, t with
  | none, .operand e =>
      some { r with frame.product := none, operand := some (complete r.frame.product e) }
  | none, .opening => some ⟨⟨none, none⟩, r.frame :: r.outer, none⟩
  | some e, .operator op =>
      if op.isTight then some { r with frame.product := some (e, op), operand := none }
      else some { r with frame.sum := some (complete r.frame.sum e, op), operand := none }
  | some e, .closing =>
      match r.outer with
      | [] => none
      | frame :: outer =>
          some ⟨⟨frame.sum, none⟩, outer,
            some (complete frame.product (complete r.frame.sum e))⟩
  | _, _ => none

def finish (r : Reading α) : Option (Calc α) :=
  match r.operand, r.outer with
  | some e, [] => some (complete r.frame.sum e)
  | _, _ => none

end Reading

def ofTokens? (tokens : List (Token α)) : Option (Calc α) :=
  (tokens.foldlM Reading.step .initial).bind Reading.finish

/-- Read the value of a property: one operand, or an expression in `calc()`. -/
def parse? (text : String) : Option (Calc α) :=
  match words [] text.toList with
  | [word] => operand? word
  | name :: ['('] :: rest =>
      if name = ['c', 'a', 'l', 'c'] ∧ rest.getLast? = some [')'] then
        (rest.dropLast.mapM token?).bind ofTokens?
      else none
  | _ => none

end FlexGrid.Calc
