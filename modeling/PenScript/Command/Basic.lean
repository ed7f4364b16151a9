import PenScript.Block
import PenScript.Value.Type

/-!
# Commands

A command is what one line of a script asks for. Its formulas are kept as text and read when the
command runs.

* `Command.keyword` is the word that starts the command;
* `Command.marker?` is the part that the command plays in a block.
-/

namespace PenScript

/-- A variable is declared, or gets another value if `update` is set. -/
structure Declaration where
  type : VarType
  name : String
  value : Option String
  update : Bool
deriving Repr, DecidableEq

/-- An array is declared. -/
structure ArrayDeclaration where
  elem : ElemType
  name : String
  size : String
deriving Repr, DecidableEq

/-- An element of an array is read into a variable. -/
structure Peek where
  dest : String
  array : String
  index : String
deriving Repr, DecidableEq

/-- An element of an array is written. -/
structure Poke where
  array : String
  index : String
  value : String
deriving Repr, DecidableEq

/-- A variable counts from a start to an end. -/
structure CountedLoop where
  var : String
  start : String
  stop : String
  step : Option String
deriving Repr, DecidableEq

/-- What is written on the canvas: a text, or the value of a formula. -/
inductive Inscription where
  | literal (text : String)
  | formula (text : String)
deriving Repr, DecidableEq

/-- Something is drawn. -/
inductive Drawing where
  | pen (red green blue : String)
  | fill (on : Bool)
  | moveTo (x y : String)
  | drawTo (x y : String)
  | rectangle (width height : String)
  | circle (radius : String)
  | clear
  | write (what : Inscription)
deriving Repr, DecidableEq

/-- What one line of a script asks for. -/
inductive Command where
  | declare (d : Declaration)
  | array (d : ArrayDeclaration)
  | peek (p : Peek)
  | poke (p : Poke)
  | ifThen (condition : String)
  | orElse
  | endIf
  | whileDo (condition : String)
  | endWhile
  | countTo (l : CountedLoop)
  | endFor
  | method (name : String)
  | endMethod
  | call (name : String)
  | draw (d : Drawing)
deriving Repr, DecidableEq

/-- The word that starts the drawing command. -/
def Drawing.keyword : Drawing → Keyword
  | pen .. => .pen
  | fill _ => .fill
  | moveTo .. => .moveTo
  | drawTo .. => .drawTo
  | rectangle .. => .rectangle
  | circle _ => .circle
  | clear => .clear
  | write _ => .write

/-- The word that declares a variable of a type. Only the scalar types have a declaration. -/
def VarType.declaredBy : VarType → Keyword
  | real => .real
  | bool => .boolean
  | int | array _ => .int

namespace Command

/-- The word that starts the command. -/
def keyword : Command → Keyword
  | declare d => d.type.declaredBy
  | array _ => .array
  | peek _ => .peek
  | poke _ => .poke
  | ifThen _ => .if
  | orElse => .else
  | endIf => .endIf
  | whileDo _ => .while
  | endWhile => .endWhile
  | countTo _ => .for
  | endFor => .endFor
  | method _ => .method
  | endMethod => .endMethod
  | call _ => .call
  | draw d => d.keyword

/-- The part that the command plays in a block. -/
def marker? : Command → Option Block.Marker
  | ifThen _ => some ⟨.conditional, .start⟩
  | orElse => some ⟨.conditional, .middle⟩
  | endIf => some ⟨.conditional, .stop⟩
  | whileDo _ => some ⟨.whileLoop, .start⟩
  | endWhile => some ⟨.whileLoop, .stop⟩
  | countTo _ => some ⟨.forLoop, .start⟩
  | endFor => some ⟨.forLoop, .stop⟩
  | method _ => some ⟨.method, .start⟩
  | endMethod => some ⟨.method, .stop⟩
  | _ => none

end Command

/-- A command with the line it stands on, counted from zero, and its text. -/
structure CodeLine where
  command : Command
  line : Nat
  text : String
deriving Repr, DecidableEq

/-- The parts that commands play in blocks. -/
def markers (code : List CodeLine) : List (Option Block.Marker) := code.map (·.command.marker?)

/-- The position of the first method with a name. -/
def findMethod? (code : List CodeLine) (name : String) : Option Nat :=
  code.findIdx? (·.command == .method name)

end PenScript
