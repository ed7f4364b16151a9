import PenScript.Keyword
import PenScript.Text.Blank
import PenScript.Text.Case

/-!
# The lines of a script

`ScriptLine.read?` cuts a line into its keyword and the parameters behind it. Blank lines and
comments give nothing. Commas separate like spaces, except inside quotes.
-/

namespace PenScript

/-- A line: the keyword in lower case, what follows it, the whole text, and the line number. -/
structure ScriptLine where
  keyword : String
  params : String
  text : String
  number : Nat
deriving Repr, DecidableEq

namespace ScriptLine

/-- Whether the text is a comment. -/
def isComment : List Char → Bool
  | '/' :: '/' :: _ => true
  | _ => false

/-- Commas outside quotes become spaces; `quoted` says whether the text starts inside quotes. -/
def blankCommas (quoted : Bool) : List Char → List Char
  | [] => []
  | c :: rest =>
    if c = '\x22' then c :: blankCommas (!quoted) rest
    else (if c = ',' ∧ !quoted then ' ' else c) :: blankCommas quoted rest

/-- The words that make a keyword of the word `end` before them. -/
def blockWords : List String := ["if", "while", "for", "method"]

/-- The first word and the rest, trimmed. -/
def cutWord (s : List Char) : List Char × List Char :=
  match Text.cutAtBlank s with
  | some (word, rest) => (word, Text.trim rest)
  | none => (s, [])

/-- The keyword and the parameters of a text that is not blank. -/
def keywordAndParams (s : List Char) : String × List Char :=
  let (head, rest) := cutWord s
  let keyword := String.ofList (Text.lower head)
  let (next, after) := cutWord rest
  let block := String.ofList (Text.lower next)
  if keyword = "end" ∧ blockWords.contains block then ("end-" ++ block, after)
  else (keyword, rest)

/-- The parts of a line, unless it is blank or a comment. -/
def read? (text : String) (number : Nat) : Option ScriptLine :=
  let trimmed := Text.trim text.toList
  if trimmed.isEmpty || isComment trimmed then none
  else
    let cleaned := Text.trim (blankCommas false trimmed)
    let (keyword, params) := keywordAndParams cleaned
    some ⟨keyword, String.ofList params, String.ofList cleaned, number⟩

/-- The keyword and the parameters as one text. -/
def full (l : ScriptLine) : String :=
  if l.params.isEmpty then l.keyword else l.keyword ++ " " ++ l.params

end ScriptLine

end PenScript
