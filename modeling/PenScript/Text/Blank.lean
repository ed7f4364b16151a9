/-!
# White space, and cutting text at it

Text is handled as a list of characters.

* `isBlank` is the Unicode property White_Space;
* `trim` drops blanks at both ends;
* `splitBy` cuts at every character of a class, `words` keeps the non-empty pieces between blanks;
* `cutAtBlank` cuts once, at the first blank;
* `lines` cuts a source into its lines.
-/

namespace PenScript.Text

/-- The characters with the Unicode property White_Space. -/
def isBlank (c : Char) : Bool :=
  let n := c.toNat
  n == 0x20 || (0x09 ≤ n && n ≤ 0x0d) || n == 0x85 || n == 0xa0 || n == 0x1680 ||
    (0x2000 ≤ n && n ≤ 0x200a) || n == 0x2028 || n == 0x2029 || n == 0x202f || n == 0x205f ||
    n == 0x3000

/-- The text without the blanks at its start. -/
def trimStart (s : List Char) : List Char := s.dropWhile isBlank

/-- The text without the blanks at its end. -/
def trimEnd (s : List Char) : List Char := (s.reverse.dropWhile isBlank).reverse

/-- The text without the blanks at both ends. -/
def trim (s : List Char) : List Char := trimEnd (trimStart s)

/-- Whether the text holds a blank. -/
def hasBlank (s : List Char) : Bool := s.any isBlank

/-- The pieces between the characters of a class, empty ones included: `n` cuts give `n + 1`. -/
def splitBy (p : Char → Bool) (s : List Char) : List (List Char) :=
  s.foldr (fun c acc =>
    if p c then [] :: acc
    else match acc with
      | w :: ws => (c :: w) :: ws
      | [] => [[c]]) [[]]

/-- The maximal runs of characters that are not blank. -/
def words (s : List Char) : List (List Char) := (splitBy isBlank s).filter (fun w => !w.isEmpty)

/-- Words written with one space between them. -/
def unwords (ws : List (List Char)) : List Char := List.intercalate [' '] ws

theorem unwords_cons_cons (v w : List Char) (ws : List (List Char)) :
    unwords (v :: w :: ws) = v ++ ' ' :: unwords (w :: ws) := by
  simp [unwords, List.intercalate]

/-- What stands before and after the first blank. -/
def cutAtBlank (s : List Char) : Option (List Char × List Char) :=
  match s.dropWhile (fun c => !isBlank c) with
  | [] => none
  | _ :: rest => some (s.takeWhile (fun c => !isBlank c), rest)

/-- A line without the carriage return that ends it. -/
def dropReturn (s : List Char) : List Char :=
  match s.reverse with
  | '\r' :: rest => rest.reverse
  | _ => s

/-- The lines of a source: each is ended by a line feed, with or without a carriage return before
it; what follows the last line feed is a line unless it is empty. -/
def lines (s : List Char) : List (List Char) :=
  match (splitBy (· == '\n') s).reverse with
  | [] => []
  | last :: ended =>
    (ended.map dropReturn).reverse ++ (if last.isEmpty then [] else [last])

end PenScript.Text
