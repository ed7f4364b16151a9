import PenScript.Value.Cells
import Std.Data.TreeMap

/-!
# The store of variables

* `Store` binds names to values, one name space for a whole program;
* `Store.declare` and `Store.assign` write a variable, `Store.poke` one element of an array;
* `Store.lookup`, `Store.typeOf` and `Store.peek` read.

The operations that write are state transformers: they either change the store or fail.
-/

namespace PenScript

/-- Why the store refuses an operation. -/
inductive StoreError where
  | undeclared (name : String)
  | typeMismatch (name : String) (expected found : VarType)
  | notAnArray (name : String)
  | access (name : String) (cause : ValueError)
deriving Repr, DecidableEq

/-- The words for the error. -/
def StoreError.message (p : Paint) : StoreError → String
  | undeclared name => p.error ++ " undeclared variable: " ++ name
  | typeMismatch name expected found =>
    p.error ++ " variable -" ++ name ++ "- is of type -" ++ expected.name ++
      "-, can't store a value of type -" ++ found.name ++ "-"
  | notAnArray name => p.error ++ " variable -" ++ name ++ "- is not an array"
  | access name cause =>
    p.error ++ " during access to array -" ++ name ++ "-: " ++ cause.message p

/-- Variables by name. -/
structure Store where
  vars : Std.TreeMap String Value := {}

namespace Store

/-- A store without variables. -/
def empty : Store := {}

instance : Inhabited Store := ⟨empty⟩

/-- The value of a variable. -/
def get? (s : Store) (name : String) : Option Value := s.vars[name]?

/-- The store with a variable bound to a value. -/
def insert (s : Store) (name : String) (v : Value) : Store :=
  { s with vars := s.vars.insert name v }

/-- Whether the variable is bound. -/
def contains (s : Store) (name : String) : Bool := (s.get? name).isSome

/-- The number of variables. -/
def size (s : Store) : Nat := s.vars.size

/-- Whether there is no variable. -/
def isEmpty (s : Store) : Bool := s.vars.isEmpty

/-- The variables, sorted by name. -/
def toList (s : Store) : List (String × Value) := s.vars.toList

/-- The names of the variables that an expression can read, sorted. -/
def scalars (s : Store) : List String :=
  (s.toList.filter fun (_, v) => !v.type.isArray).map Prod.fst

/-- The value of a variable, or its absence as an error. -/
def lookup (s : Store) (name : String) : Except StoreError Value :=
  match s.get? name with
  | some v => .ok v
  | none => .error (.undeclared name)

/-- The type of a variable. -/
def typeOf (s : Store) (name : String) : Except StoreError VarType := do
  return (← s.lookup name).type

/-- The element type of an array. -/
def elemOf (s : Store) (name : String) : Except StoreError ElemType := do
  match ← s.typeOf name with
  | .array elem => return elem
  | _ => throw (.notAnArray name)

/-- An element of an array. -/
def peek (s : Store) (name : String) (i : Int64) : Except StoreError Value := do
  match ← s.lookup name with
  | .array cells => (cells.get i).mapError (.access name)
  | _ => throw (.notAnArray name)

/-- An operation that changes the store or fails. -/
abbrev Update := EStateM StoreError Store

/-- Binds a variable. One that is bound keeps its type, except that an array may become an array of
another element type. -/
def declare (name : String) (v : Value) : Update Unit := fun s =>
  match s.get? name with
  | none => .ok () (s.insert name v)
  | some old =>
    if old.type = v.type ∨ (old.type.isArray ∧ v.type.isArray) then .ok () (s.insert name v)
    else .error (.typeMismatch name old.type v.type) s

/-- Gives a bound variable another value of its type. -/
def assign (name : String) (v : Value) : Update Unit := fun s =>
  match s.get? name with
  | none => .error (.undeclared name) s
  | some old =>
    if old.type = v.type then .ok () (s.insert name v)
    else .error (.typeMismatch name old.type v.type) s

/-- Writes an element of an array in place. -/
def writeElement (s : Store) (name : String) (k : Nat) (v : Value) : Store :=
  { s with vars := s.vars.modify name fun
      | .array cells => .array (cells.write k v)
      | old => old }

/-- Gives an element of an array another value. -/
def poke (name : String) (i : Int64) (v : Value) : Update Unit := fun s =>
  match s.get? name with
  | none => .error (.undeclared name) s
  | some (.array cells) =>
    match cells.accepts i v with
    | .ok () => .ok () (s.writeElement name i.toInt.toNat v)
    | .error e => .error (.access name e) s
  | some _ => .error (.notAnArray name) s

end Store

end PenScript
