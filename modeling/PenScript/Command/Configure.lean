import PenScript.Command.Basic
import PenScript.Command.Name

/-!
# Commands from their parameters

`Command.configure` builds a command from its keyword and the text behind it. Drawing arguments that
are plain numbers are checked at once.
-/

namespace PenScript

open Text (trim words unwords hasBlank lower)

/-- The forms of the commands with several parts, as errors show them. -/
def usageOf : Keyword → String
  | .array => "array <int|real> <name> <size>"
  | .peek => "peek <dest> = <array> <index>"
  | .poke => "poke <array> <index> = <value>"
  | .for => "for <name> = <start> to <end> [step <step>]"
  | k => k.word

/-- The error that the parameters do not have the form of the command. -/
def wrongForm (k : Keyword) : CommandError := .malformed k (.usage (usageOf k))

/-- The keyword that an error in a declaration names. -/
def VarType.blamed : VarType → Keyword
  | array _ => .array
  | t => t.declaredBy

namespace Declaration

/-- The name, and the value after `=` if there is one. -/
def parts (t : VarType) (params : List Char) :
    Except CommandError (List Char × Option (List Char)) :=
  match splitAssignment? params with
  | some (name, value) =>
    if (trim value).isEmpty then .error (.malformed t.blamed .noValue)
    else .ok (trim name, some (trim value))
  | none => .ok (trim params, none)

/-- `name` or `name = value`. -/
def configure (t : VarType) (params : String) : Except CommandError Declaration := do
  let (name, value) ← parts t params.toList
  if name.isEmpty then throw (.malformed t.blamed .noName)
  if hasBlank name then throw (.malformed t.blamed (.noEquals (String.ofList name)))
  checkName name
  return ⟨t, String.ofList name, value.map String.ofList, false⟩

/-- The declaration as a change of a variable that exists. -/
def asUpdate (d : Declaration) : Declaration := { d with update := true }

end Declaration

/-- An element type by its name, in any case. -/
def ElemType.ofWord (word : List Char) : Except CommandError ElemType :=
  let name := String.ofList (lower word)
  if name = "int" then .ok .int
  else if name = "real" then .ok .real
  else .error (.malformed .array (.elementType name))

/-- `elem name size`. -/
def ArrayDeclaration.configure (params : String) : Except CommandError ArrayDeclaration := do
  match words params.toList with
  | elem :: name :: first :: rest =>
    let elem ← ElemType.ofWord elem
    checkName name
    return ⟨elem, String.ofList name, String.ofList (unwords (first :: rest))⟩
  | _ => throw (wrongForm .array)

/-- `dest = array index`. -/
def Peek.configure (params : String) : Except CommandError Peek := do
  match splitAssignment? params.toList with
  | none => throw (wrongForm .peek)
  | some (dest, source) =>
    let dest := trim dest
    match words source with
    | array :: first :: rest =>
      if dest.isEmpty ∨ hasBlank dest then throw (wrongForm .peek)
      checkName dest
      checkName array
      return ⟨String.ofList dest, String.ofList array, String.ofList (unwords (first :: rest))⟩
    | _ => throw (wrongForm .peek)

/-- `array index = value`. -/
def Poke.configure (params : String) : Except CommandError Poke := do
  match splitAssignment? params.toList with
  | none => throw (wrongForm .poke)
  | some (target, value) =>
    match words target with
    | array :: first :: rest =>
      if (trim value).isEmpty then throw (wrongForm .poke)
      checkName array
      return ⟨String.ofList array, String.ofList (unwords (first :: rest)),
        String.ofList (trim value)⟩
    | _ => throw (wrongForm .poke)

/-- A condition that is not blank. -/
def configureCondition (k : Keyword) (params : String) : Except CommandError String :=
  let condition := trim params.toList
  if condition.isEmpty then .error (.malformed k .noCondition)
  else .ok (String.ofList condition)

/-- Whether two words are the same but for the case of ASCII letters. -/
def sameWord (w : String) (word : List Char) : Bool := word.map Char.toLower == w.toList

namespace CountedLoop

/-- The words before the first `to`, those up to `step`, and those behind it. A `step` that stands
before `to` hides any other. -/
def bounds? (ws : List (List Char)) :
    Option (List (List Char) × List (List Char) × Option (List (List Char))) := do
  let cut ← ws.findIdx? (sameWord "to")
  let step := (ws.findIdx? (sameWord "step")).filter (cut < ·)
  let afterTo := ws.drop (cut + 1)
  match step with
  | some p => return (ws.take cut, afterTo.take (p - (cut + 1)), some (ws.drop (p + 1)))
  | none => return (ws.take cut, afterTo, none)

/-- The text of words. -/
def text (ws : List (List Char)) : String := String.ofList (unwords ws)

/-- `var = start to end`, with ` step s` behind it or not. -/
def configure (params : String) : Except CommandError CountedLoop := do
  match splitAssignment? params.toList with
  | none => throw (wrongForm .for)
  | some (var, rest) =>
    let var := trim var
    if var.isEmpty ∨ hasBlank var then throw (wrongForm .for)
    checkName var
    match bounds? (words rest) with
    | none => throw (wrongForm .for)
    | some (start, stop, step) =>
      if start.isEmpty ∨ stop.isEmpty ∨ step = some [] then throw (wrongForm .for)
      return ⟨String.ofList var, text start, text stop, step.map text⟩

end CountedLoop

/-- The name of a method. -/
def configureMethod (k : Keyword) (params : String) : Except CommandError String := do
  let name := trim params.toList
  if name.isEmpty then throw (.malformed k .noMethodName)
  if name.contains '(' ∨ hasBlank name then
    throw (.malformed k (.methodArguments (String.ofList name)))
  checkName name
  return String.ofList name

/-- Refuses parameters where there are none. -/
def expectNothing (k : Keyword) (params : String) : Except CommandError Unit :=
  let found := trim params.toList
  if found.isEmpty then .ok () else .error (.malformed k (.unexpected (String.ofList found)))

/-- Whether a number is in the range; lengths fit 32 bits. -/
def ArgRange.contains (r : ArgRange) (n : Int64) : Bool :=
  match r with
  | any => true
  | channel => 0 ≤ n.toInt && n.toInt ≤ 255
  | nonNegative => 0 ≤ n.toInt && n.toInt < UInt32.size
  | positive => 1 ≤ n.toInt && n.toInt < UInt32.size

/-- A numeric argument of a drawing command: what it is, and what it may be. -/
structure DrawingArg where
  what : String
  range : ArgRange
deriving Repr, DecidableEq

/-- The number, if the argument may have it. -/
def DrawingArg.check (a : DrawingArg) (k : Keyword) (n : Int64) : Except CommandError Int64 :=
  if a.range.contains n then .ok n else .error (.outOfRange k a.what a.range n)

namespace Inscription

/-- A text in quotes, else a formula. -/
def configure (params : List Char) : Except CommandError Inscription :=
  match params with
  | [] => .error (.malformed .write .noText)
  | '\x22' :: rest =>
    match rest.reverse with
    | '\x22' :: text => .ok (.literal (String.ofList text.reverse))
    | _ => .error (.malformed .write .noClosingQuote)
  | _ => .ok (.formula (String.ofList params))

end Inscription

namespace Drawing

/-- The arguments that are numbers, with their texts. -/
def args : Drawing → List (DrawingArg × String)
  | pen red green blue =>
    [(⟨"red", .channel⟩, red), (⟨"green", .channel⟩, green), (⟨"blue", .channel⟩, blue)]
  | moveTo x y | drawTo x y => [(⟨"x", .any⟩, x), (⟨"y", .any⟩, y)]
  | rectangle width height =>
    [(⟨"width", .nonNegative⟩, width), (⟨"height", .nonNegative⟩, height)]
  | circle radius => [(⟨"radius", .positive⟩, radius)]
  | fill _ | clear | write _ => []

/-- The error of a wrong number of arguments. -/
def wrongCount (k : Keyword) (expected : Nat) (found : List (List Char)) : CommandError :=
  .malformed k (.argumentCount expected found.length)

/-- Two arguments. -/
def configureTwo (k : Keyword) (params : List Char) (f : String → String → Drawing) :
    Except CommandError Drawing :=
  match words params with
  | [a, b] => .ok (f (String.ofList a) (String.ofList b))
  | found => .error (wrongCount k 2 found)

/-- A drawing command from its parameters; the numbers in it are not checked. -/
def configure (k : Keyword) (params : String) : Except CommandError Drawing :=
  let params := trim params.toList
  match k with
  | .pen =>
    match words params with
    | [r, g, b] => .ok (pen (String.ofList r) (String.ofList g) (String.ofList b))
    | found => .error (wrongCount k 3 found)
  | .fill =>
    let word := String.ofList (lower params)
    if word = "on" ∨ word = "true" ∨ word = "1" then .ok (fill true)
    else if word = "off" ∨ word = "false" ∨ word = "0" then .ok (fill false)
    else .error (.malformed k (.neitherOnNorOff word))
  | .moveTo => configureTwo k params moveTo
  | .drawTo => configureTwo k params drawTo
  | .rectangle => configureTwo k params rectangle
  | .circle =>
    if params.isEmpty then .error (.malformed k .noRadius)
    else .ok (circle (String.ofList params))
  | .clear =>
    if params.isEmpty then .ok clear
    else .error (.malformed k (.unexpected (String.ofList params)))
  | .write => (Inscription.configure params).map write
  | k => .error (.malformed k .notDrawing)

/-- Checks the arguments that are plain numbers, in order. -/
def validate (d : Drawing) : Except CommandError Unit :=
  d.args.forM fun (arg, text) =>
    match Text.readInt64? 10 text.toList with
    | some n => (arg.check d.keyword n).map fun _ => ()
    | none => .ok ()

end Drawing

namespace Command

/-- A drawing command whose plain numbers are in range. -/
def configureDrawing (k : Keyword) (params : String) : Except CommandError Command := do
  let d ← Drawing.configure k params
  d.validate
  return draw d

/-- A command without parameters. -/
def configureBare (k : Keyword) (c : Command) (params : String) : Except CommandError Command := do
  expectNothing k params
  return c

/-- The command of a keyword and the text behind it. -/
def configure (k : Keyword) (params : String) : Except CommandError Command :=
  match k with
  | .int => (Declaration.configure .int params).map declare
  | .real => (Declaration.configure .real params).map declare
  | .boolean => (Declaration.configure .bool params).map declare
  | .array => (ArrayDeclaration.configure params).map array
  | .peek => (Peek.configure params).map peek
  | .poke => (Poke.configure params).map poke
  | .if => (configureCondition k params).map ifThen
  | .while => (configureCondition k params).map whileDo
  | .for => (CountedLoop.configure params).map countTo
  | .method => (configureMethod k params).map method
  | .call => (configureMethod k params).map call
  | .else => configureBare k orElse params
  | .endIf => configureBare k endIf params
  | .endWhile => configureBare k endWhile params
  | .endFor => configureBare k endFor params
  | .endMethod => configureBare k endMethod params
  | .pen | .fill | .moveTo | .drawTo | .rectangle | .circle | .clear | .write =>
    configureDrawing k params

/-- A declaration as a change of a variable that exists; other commands stay. -/
def asUpdate : Command → Command
  | declare d => declare d.asUpdate
  | c => c

end Command

end PenScript
