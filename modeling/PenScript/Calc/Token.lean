import PenScript.Calc.Fault
import PenScript.Decimal.Read
import PenScript.Text.Blank

/-!
# The tokens of an expression

* `Token` is a sign or a literal;
* `Token.scan` reads the tokens of a text, or the fault of the first character that fits none.

A literal is a whole number in decimal or after `0x`, else a real, else a truth value, else a name.
-/

namespace PenScript.Calc

/-- A token of an expression. -/
inductive Token where
  | plus
  | minus
  | star
  | slash
  | percent
  | hat
  | eq
  | neq
  | gt
  | lt
  | geq
  | leq
  | and
  | or
  | not
  | opening
  | closing
  | comma
  | semicolon
  | text (s : String)
  | real (x : Float)
  | int (n : Int64)
  | bool (b : Bool)
  | name (s : String)
deriving Repr

namespace Token

/-- Whether the token may stand right before a binary operator. -/
def endsValue : Token → Bool
  | closing | text _ | real _ | int _ | bool _ | name _ => true
  | _ => false

/-- Whether the token may start an argument. -/
def startsValue : Token → Bool
  | opening | text _ | real _ | int _ | bool _ | name _ => true
  | _ => false

/-- The whole number that a literal stands for. -/
def wholeNumber? : List Char → Option Int64
  | '0' :: 'x' :: digits => Text.readInt64? 16 digits
  | digits => Text.readInt64? 10 digits

/-- The token of a literal. -/
def ofLiteral (s : List Char) : Token :=
  match wholeNumber? s with
  | some n => int n
  | none =>
    match Decimal.readReal? s with
    | some x => real x
    | none =>
      let word := String.ofList s
      if word = "true" then bool true
      else if word = "false" then bool false
      else name word

/-- The sign written with two characters. -/
def ofPair? (c d : Char) : Option Token :=
  if c = '=' ∧ d = '=' then some eq
  else if c = '!' ∧ d = '=' then some neq
  else if c = '>' ∧ d = '=' then some geq
  else if c = '<' ∧ d = '=' then some leq
  else if c = '&' ∧ d = '&' then some and
  else if c = '|' ∧ d = '|' then some or
  else none

/-- The sign written with one character. -/
def ofChar? (c : Char) : Option Token :=
  match c with
  | '+' => some plus
  | '-' => some minus
  | '*' => some star
  | '/' => some slash
  | '%' => some percent
  | '^' => some hat
  | '>' => some gt
  | '<' => some lt
  | '!' => some not
  | '(' => some opening
  | ')' => some closing
  | ',' => some comma
  | ';' => some semicolon
  | _ => none

/-- Whether the character only means something in a pair. -/
def needsPartner (c : Char) : Bool := c == '=' || c == '&' || c == '|'

/-- Where the scan stands: in a literal, in a quoted text, or behind a backslash in one. What was
read of it is kept last character first. -/
inductive Place where
  | literal (read : List Char)
  | quotes (read : List Char)
  | escape (read : List Char)

/-- The literal read so far, if any, before other tokens. -/
def flush (read : List Char) (rest : List Token) : List Token :=
  if read.isEmpty then rest else ofLiteral read.reverse :: rest

/-- The tokens of the rest of a text. -/
def scanFrom : Place → List Char → Except Fault (List Token)
  | .literal read, [] => .ok (flush read [])
  | .quotes _, [] => .error .unclosedText
  | .escape _, [] => .error (.badEscape none)
  | .quotes read, c :: rest =>
    if c = '\x22' then (scanFrom (.literal []) rest).map (text (String.ofList read.reverse) :: ·)
    else if c = '\\' then scanFrom (.escape read) rest
    else scanFrom (.quotes (c :: read)) rest
  | .escape read, c :: rest =>
    if c = '\x22' ∨ c = '\\' then scanFrom (.quotes (c :: read)) rest
    else .error (.badEscape (some c))
  | .literal read, [c] =>
    if c = '\x22' then .error .unclosedText
    else if Text.isBlank c then .ok (flush read [])
    else
      match ofChar? c with
      | some t => .ok (flush read [t])
      | none => if needsPartner c then .error (.lonelyOperator c) else .ok (flush (c :: read) [])
  | .literal read, c :: d :: rest =>
    if c = '\x22' then (scanFrom (.quotes []) (d :: rest)).map (flush read)
    else if Text.isBlank c then (scanFrom (.literal []) (d :: rest)).map (flush read)
    else
      match ofPair? c d with
      | some t => (scanFrom (.literal []) rest).map fun ts => flush read (t :: ts)
      | none =>
        match ofChar? c with
        | some t => (scanFrom (.literal []) (d :: rest)).map fun ts => flush read (t :: ts)
        | none =>
          if needsPartner c then .error (.lonelyOperator c)
          else scanFrom (.literal (c :: read)) (d :: rest)

/-- The tokens of a text. -/
def scan (s : List Char) : Except Fault (List Token) := scanFrom (.literal []) s

end Token

end PenScript.Calc
