import PenScript.Command.Basic

/-!
# The parameters of a command

`Command.params` writes the text behind the keyword in one fixed form: words have one space between
them, and nothing stands at the ends.
-/

namespace PenScript

/-- `name` or `name = value`. -/
def Declaration.params (d : Declaration) : String :=
  match d.value with
  | some value => d.name ++ " = " ++ value
  | none => d.name

/-- `elem name size`. -/
def ArrayDeclaration.params (d : ArrayDeclaration) : String :=
  d.elem.name ++ " " ++ d.name ++ " " ++ d.size

/-- `dest = array index`. -/
def Peek.params (p : Peek) : String := p.dest ++ " = " ++ p.array ++ " " ++ p.index

/-- `array index = value`. -/
def Poke.params (p : Poke) : String := p.array ++ " " ++ p.index ++ " = " ++ p.value

/-- `var = start to end`, with ` step s` behind it if there is a step. -/
def CountedLoop.params (l : CountedLoop) : String :=
  l.var ++ " = " ++ l.start ++ " to " ++ l.stop ++
    match l.step with
    | some step => " step " ++ step
    | none => ""

/-- A text in quotes, a formula as it is. -/
def Inscription.params : Inscription → String
  | literal text => "\"" ++ text ++ "\""
  | formula text => text

/-- The arguments with a space between them. -/
def Drawing.params : Drawing → String
  | pen red green blue => red ++ " " ++ green ++ " " ++ blue
  | fill on => if on then "on" else "off"
  | moveTo x y | drawTo x y => x ++ " " ++ y
  | rectangle width height => width ++ " " ++ height
  | circle radius => radius
  | clear => ""
  | write what => what.params

/-- The text behind the keyword. -/
def Command.params : Command → String
  | declare d => d.params
  | array d => d.params
  | peek p => p.params
  | poke p => p.params
  | ifThen condition | whileDo condition => condition
  | countTo l => l.params
  | method name | call name => name
  | draw d => d.params
  | orElse | endIf | endWhile | endFor | endMethod => ""

end PenScript
