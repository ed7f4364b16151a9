/-!
# Coloured output

A terminal shows words in colour when they stand between escape codes. Messages name their `Style`
and a `Paint` decides whether the codes are written. A reset inside styled text would end the style
early, so `restyle` turns it on again after each of them.
-/

namespace PenScript

/-- How a word is to be shown. -/
inductive Style where
  | alarm
  | keyword
  | path
  | title
  | success
  | color (red green blue : Nat)
deriving Repr, DecidableEq

/-- The code that turns a style on. -/
def Style.code : Style → String
  | alarm => "1;31"
  | keyword => "36"
  | path => "32"
  | title => "1;36"
  | success => "1;32"
  | color red green blue =>
    "38;2;" ++ toString red ++ ";" ++ toString green ++ ";" ++ toString blue

/-- The escape code that turns a style on. -/
def Style.start (s : Style) : String := "\x1b[" ++ s.code ++ "m"

/-- The escape code that turns every style off. -/
def reset : String := "\x1b[0m"

/-- Writes `start` after every reset of a text. -/
def restyle (start : List Char) : List Char → List Char
  | '\x1b' :: '[' :: '0' :: 'm' :: rest => reset.toList ++ start ++ restyle start rest
  | c :: rest => c :: restyle start rest
  | [] => []

/-- Whether escape codes are written. -/
structure Paint where
  colored : Bool
deriving Repr, DecidableEq

namespace Paint

/-- Text without colours. -/
def none : Paint := ⟨false⟩

/-- The text in a style. -/
def apply (p : Paint) (s : Style) (text : String) : String :=
  if p.colored then
    s.start ++ String.ofList (restyle s.start.toList text.toList) ++ reset
  else text

/-- The word that starts a message. -/
def error (p : Paint) : String := p.apply .alarm "Error"

/-- A word of the language in a message. -/
def word (p : Paint) (text : String) : String := p.apply .keyword text

end Paint

end PenScript
