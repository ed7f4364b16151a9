/-!
# The keywords that start a command
-/

namespace PenScript

/-- The first word of a command. -/
inductive Keyword where
  | int
  | real
  | boolean
  | array
  | peek
  | poke
  | if
  | else
  | endIf
  | while
  | endWhile
  | for
  | endFor
  | method
  | endMethod
  | call
  | pen
  | fill
  | moveTo
  | drawTo
  | rectangle
  | circle
  | clear
  | write
deriving Repr, DecidableEq

namespace Keyword

/-- The keyword as it is written. -/
def word : Keyword → String
  | int => "int"
  | real => "real"
  | boolean => "boolean"
  | array => "array"
  | peek => "peek"
  | poke => "poke"
  | .if => "if"
  | .else => "else"
  | endIf => "end-if"
  | .while => "while"
  | endWhile => "end-while"
  | .for => "for"
  | endFor => "end-for"
  | method => "method"
  | endMethod => "end-method"
  | call => "call"
  | pen => "pen"
  | fill => "fill"
  | moveTo => "moveto"
  | drawTo => "drawto"
  | rectangle => "rectangle"
  | circle => "circle"
  | clear => "clear"
  | write => "write"

/-- All keywords. -/
def all : List Keyword :=
  [int, real, boolean, array, peek, poke, .if, .else, endIf, .while, endWhile, .for, endFor, method,
    endMethod, call, pen, fill, moveTo, drawTo, rectangle, circle, clear, write]

/-- The keyword that a word is. -/
def ofWord? (w : String) : Option Keyword := all.find? (·.word == w)

end Keyword

end PenScript
