import PenScript.Calc.Token

/-!
# Expression trees

* `Op` is what a node does, with its binding strength and the number of arguments it takes;
* `Node.insert` hangs a node into a tree by binding strength;
* `Node.ofTokens` builds the tree of an expression.

The tree grows along its right edge. A stack holds the trees of the groups that are still open,
innermost first; `,` and `;` start a sequence on it, whose parts are trees of their own.
-/

namespace PenScript.Calc

/-- What a node does. A `group` stands for a pair of parentheses, or the whole expression. -/
inductive Op where
  | group
  | add
  | sub
  | neg
  | mul
  | div
  | mod
  | exp
  | eq
  | neq
  | gt
  | lt
  | geq
  | leq
  | and
  | or
  | not
  | tuple
  | chain
  | const (d : Datum)
  | read (name : String)
  | apply (name : String)
deriving Repr, Inhabited

namespace Op

/-- The binding strength. -/
def strength : Op → Nat
  | group | const _ | read _ => 200
  | apply _ => 190
  | exp => 120
  | neg | not => 110
  | mul | div | mod => 100
  | add | sub => 95
  | eq | neq | gt | lt | geq | leq => 80
  | and => 75
  | or => 70
  | tuple => 40
  | chain => 0

/-- The number of arguments, none for sequences, which take any number. -/
def arity? : Op → Option Nat
  | const _ | read _ => some 0
  | group | neg | not | apply _ => some 1
  | tuple | chain => none
  | _ => some 2

/-- Whether the node takes no argument. -/
def isLeaf (o : Op) : Bool := o.arity? == some 0

/-- Whether the node is a group. -/
def isGroup : Op → Bool
  | group => true
  | _ => false

/-- Whether the node takes one argument and is not a group. -/
def isUnary (o : Op) : Bool := o.arity? == some 1 && !o.isGroup

/-- Whether the node lists its arguments. -/
def isSequence (o : Op) : Bool := o.arity? == none

/-- Whether equal strength groups to the right. -/
def bindsRight : Op → Bool
  | apply _ => true
  | _ => false

/-- Whether a node with operator `o` may hang below one with this operator. -/
def admits (self o : Op) : Bool :=
  self.strength < o.strength || o.isUnary ||
    (self.strength == o.strength && self.bindsRight && o.bindsRight)

end Op

/-- An operator with its arguments. -/
inductive Node where
  | mk (op : Op) (args : List Node)
deriving Repr, Inhabited

namespace Node

/-- What the node does. -/
def op : Node → Op
  | mk o _ => o

/-- The arguments of the node. -/
def args : Node → List Node
  | mk _ as => as

/-- The node with one more argument. -/
def append (n a : Node) : Node := mk n.op (n.args ++ [a])

/-- A group without content. -/
def emptyGroup : Node := mk .group []

mutual

/-- Hangs `new` into the tree: below its last argument as far as binding strength allows. A full
node whose last argument binds too strongly gives that argument up to `new`. -/
def insert (new : Node) (outermost : Bool) : Node → Except Fault Node
  | mk o as =>
    if !(o.admits new.op || outermost) then .error .precedence
    else if o.isLeaf then .error .leafGrown
    else if o.arity? == some as.length then (insertLast new o as).map (mk o)
    else .ok (mk o (as ++ [new]))

/-- Hangs `new` into the last of the arguments of a full node. -/
def insertLast (new : Node) (o : Op) : List Node → Except Fault (List Node)
  | [] => .ok [new]
  | [last] =>
    if last.op.admits new.op then (insert new false last).map ([·])
    else if new.op.isLeaf then .error .leafGrown
    else if new.op.isGroup && (o.isGroup || last.op.isGroup || !new.args.isEmpty) then
      .error .missingOperator
    else .ok [new.append last]
  | a :: b :: rest => (insertLast new o (b :: rest)).map (a :: ·)

end

/-- Hangs `new` into the last part of a sequence. -/
def insertPart (new : Node) : List Node → Except Fault (List Node)
  | [] => .ok [new]
  | [last] => (insert new true last).map ([·])
  | a :: b :: rest => (insertPart new (b :: rest)).map (a :: ·)

/-- Closes trees that bind more strongly than `limit` into those below them on the stack. -/
def closeAbove (limit : Nat) : Node → List Node → Except Fault (Node × List Node)
  | _, [] => .error .unopenedParen
  | top, below :: rest =>
    if below.op.strength > limit then closeAbove limit (below.append top) rest
    else .ok (top, below :: rest)

/-- Closes the sequence `top` into the trees below it, down to the group that holds it. -/
def closeInto : Node → List Node → Except Fault (List Node)
  | top, [] =>
    if !top.op.isGroup then .error .unopenedParen
    else if top.args.length > 1 then .error .missingOperator
    else .ok [top]
  | top, below :: rest =>
    if top.op.isSequence then closeInto (below.append top) rest
    else if top.args.length > top.op.arity?.getD 0 then .error .missingOperator
    else .ok (top :: below :: rest)

/-- Closes the sequences on top of the stack. -/
def closeSequences : List Node → Except Fault (List Node)
  | [] => .error .unopenedParen
  | top :: rest => closeInto top rest

/-- Starts or goes on with the sequence `seq` where `top` stands. -/
def startSequence (seq : Op) (top : Node) (rest : List Node) : Except Fault (List Node) :=
  if top.op.isGroup then .ok (mk seq [top, emptyGroup] :: emptyGroup :: rest)
  else if top.op.strength == seq.strength then .ok (top.append emptyGroup :: rest)
  else if top.op.strength < seq.strength then
    match top.args.getLast? with
    | some last => .ok (mk seq [last, emptyGroup] :: mk top.op top.args.dropLast :: rest)
    | none => .ok (mk seq [emptyGroup] :: top :: rest)
  else do
    let (closed, rest) ← closeAbove seq.strength top rest
    return mk seq [closed] :: rest

/-- Places a node into the tree on top of the stack. -/
def place (new : Node) : List Node → Except Fault (List Node)
  | [] => .error .unopenedParen
  | top :: rest =>
    if new.op.isSequence then startSequence new.op top rest
    else if top.op.isSequence then
      (insertPart new top.args).map fun parts => mk top.op parts :: rest
    else (insert new true top).map (· :: rest)

/-- The operator of a token between the tokens beside it; parentheses have none. -/
def opOf? (before : Option Token) (t : Token) (after : Option Token) : Option Op :=
  match t with
  | .plus => some .add
  | .minus => some (if before.any Token.endsValue then .sub else .neg)
  | .star => some .mul
  | .slash => some .div
  | .percent => some .mod
  | .hat => some .exp
  | .eq => some .eq
  | .neq => some .neq
  | .gt => some .gt
  | .lt => some .lt
  | .geq => some .geq
  | .leq => some .leq
  | .and => some .and
  | .or => some .or
  | .not => some .not
  | .comma => some .tuple
  | .semicolon => some .chain
  | .text s => some (.const (.text s))
  | .real x => some (.const (.real x))
  | .int n => some (.const (.int n))
  | .bool b => some (.const (.bool b))
  | .name s => some (if after.any Token.startsValue then .apply s else .read s)
  | .opening | .closing => none

/-- Takes the group on top of the stack off as a node. -/
def closeGroup (stack : List Node) : Except Fault (List Node) :=
  if stack.length ≤ 1 then .error .unopenedParen
  else do
    match ← closeSequences stack with
    | [] => .error .unopenedParen
    | node :: rest => place node rest

/-- Places the tokens, each seen between its neighbours. -/
def placeAll : Option Token → List Node → List Token → Except Fault (List Node)
  | _, stack, [] => .ok stack
  | before, stack, t :: ts => do
    let stack ←
      match t with
      | .opening => .ok (emptyGroup :: stack)
      | .closing => closeGroup stack
      | t =>
        match opOf? before t ts.head? with
        | some o => place (mk o []) stack
        | none => .ok stack
    placeAll (some t) stack ts

/-- The tree of an expression. -/
def ofTokens (ts : List Token) : Except Fault Node := do
  match ← closeSequences (← placeAll none [emptyGroup] ts) with
  | [tree] => .ok tree
  | _ => .error .unclosedParen

end Node

end PenScript.Calc
