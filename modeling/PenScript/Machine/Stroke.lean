import PenScript.Text.Integer

/-!
# What ends up on the canvas
-/

namespace PenScript

/-- One operation on the canvas. -/
inductive Stroke where
  | pen (red green blue : UInt8)
  | moveTo (x y : Int64)
  | drawTo (x y : Int64)
  | rectangle (width height : UInt32) (filled : Bool)
  | circle (radius : UInt32) (filled : Bool)
  | clear
  | text (s : String)
deriving Repr, DecidableEq

/-- Whether the stroke writes a text. -/
def Stroke.isText : Stroke → Bool
  | text _ => true
  | _ => false

end PenScript
