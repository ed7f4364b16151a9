import PenScript.Keyword

/-!
# Blocks

A block runs from a start to an end of the same kind; a conditional may have a middle.

* `Block.Marker` is the part a command plays in a block;
* `Block.findEnd?` looks forward for the end of the block that starts at a position;
* `Block.findStart?` looks back from an end to its start.

Blocks of one kind nest; commands of other kinds are passed over.
-/

namespace PenScript.Block

/-- The kinds of blocks. -/
inductive Kind where
  | conditional
  | whileLoop
  | forLoop
  | method
deriving Repr, DecidableEq

/-- The parts of a block. -/
inductive Role where
  | start
  | middle
  | stop
deriving Repr, DecidableEq

/-- A part of a block of some kind. -/
structure Marker where
  kind : Kind
  role : Role
deriving Repr, DecidableEq

namespace Kind

/-- The keyword that starts the block. -/
def startKeyword : Kind → Keyword
  | conditional => .if
  | whileLoop => .while
  | forLoop => .for
  | method => .method

/-- The keyword that ends the block. -/
def endKeyword : Kind → Keyword
  | conditional => .endIf
  | whileLoop => .endWhile
  | forLoop => .endFor
  | method => .endMethod

end Kind

/-- The rest of a block seen from its start: the first middle of its own, and its end. -/
structure Extent where
  middle : Option Nat
  stop : Nat
deriving Repr, DecidableEq

/-- The search for an end has failed: what was looked for, from what, and where that stands. -/
structure Missing where
  searched : Keyword
  origin : Keyword
  position : Nat
deriving Repr, DecidableEq

/-- Looks for the end of a block of kind `k` among items whose first has position `pos`, inside
`depth` further blocks of that kind. -/
def scanEnd (k : Kind) : Nat → Option Nat → Nat → List (Option Marker) → Option Extent
  | _, _, _, [] => none
  | depth, middle, pos, item :: rest =>
    if item = some ⟨k, .start⟩ then scanEnd k (depth + 1) middle (pos + 1) rest
    else if item = some ⟨k, .middle⟩ ∧ depth = 0 then
      scanEnd k depth (middle.or (some pos)) (pos + 1) rest
    else if item = some ⟨k, .stop⟩ then
      match depth with
      | 0 => some ⟨middle, pos⟩
      | depth + 1 => scanEnd k depth middle (pos + 1) rest
    else scanEnd k depth middle (pos + 1) rest

/-- The end of the block of kind `k` that starts at `origin`. -/
def findEnd? (items : List (Option Marker)) (origin : Nat) (k : Kind) : Option Extent :=
  scanEnd k 0 none (origin + 1) (items.drop (origin + 1))

/-- Looks for the start of a block of kind `k` among the items before it, last one first, behind
`depth` further blocks of that kind. -/
def scanStart (k : Kind) : Nat → List (Option Marker) → Option Nat
  | _, [] => none
  | depth, item :: before =>
    if item = some ⟨k, .stop⟩ then scanStart k (depth + 1) before
    else if item = some ⟨k, .start⟩ then
      match depth with
      | 0 => some before.length
      | depth + 1 => scanStart k depth before
    else scanStart k depth before

/-- The start of the block of kind `k` that ends at `origin`. -/
def findStart? (items : List (Option Marker)) (origin : Nat) (k : Kind) : Option Nat :=
  scanStart k 0 (items.take origin).reverse

/-- The end of a block, or the error that there is none. -/
def findEnd (items : List (Option Marker)) (origin : Nat) (k : Kind) : Except Missing Extent :=
  match findEnd? items origin k with
  | some extent => .ok extent
  | none => .error ⟨k.endKeyword, k.startKeyword, origin⟩

/-- The start of a block, or the error that there is none. -/
def findStart (items : List (Option Marker)) (origin : Nat) (k : Kind) : Except Missing Nat :=
  match findStart? items origin k with
  | some start => .ok start
  | none => .error ⟨k.startKeyword, k.endKeyword, origin⟩

end PenScript.Block
