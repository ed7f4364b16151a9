import PenScript.Calc.Token
import Mathlib.Data.List.Basic

/-!
# Scanning a text word by word

* `Token.follow x y` : the tokens of one text and then those of another; the first fault wins;
* `Token.scanAll ps` : the tokens of one text after the other;
* `Token.scan_unwords` : texts without quotes that are written with a space between them have the
  tokens of one text after the other;
* `Token.isPlain` : the characters of literals, and `Token.scan_of_isPlain`, `Token.scan_signed` :
  what is made up of them is one token, also behind a sign and in parentheses.
-/

namespace PenScript.Calc.Token

variable {a b s w read : List Char} {c : Char} {t : Token} {ps qs : List (List Char)}

/-! ## Tokens of texts that follow each other -/

/-- The tokens of `x` and then those of `y`. -/
def follow (x y : Except Fault (List Token)) : Except Fault (List Token) := do
  let ts ← x
  let us ← y
  return ts ++ us

@[simp] theorem follow_ok_ok (ts us : List Token) : follow (.ok ts) (.ok us) = .ok (ts ++ us) := rfl

@[simp] theorem follow_nil (x : Except Fault (List Token)) : follow x (.ok []) = x := by
  cases x with
  | error f => rfl
  | ok ts => rw [follow_ok_ok, List.append_nil]

@[simp] theorem nil_follow (x : Except Fault (List Token)) : follow (.ok []) x = x := by
  cases x <;> rfl

theorem follow_assoc (x y z : Except Fault (List Token)) :
    follow (follow x y) z = follow x (follow y z) := by
  cases x with
  | error f => rfl
  | ok ts =>
    cases y with
    | error f => rfl
    | ok us =>
      cases z with
      | error f => rfl
      | ok vs => simp

/-- The tokens of texts, one after the other. -/
def scanAll (ps : List (List Char)) : Except Fault (List Token) :=
  ps.foldr (fun p rest => follow (scan p) rest) (.ok [])

@[simp] theorem scanAll_nil : scanAll [] = .ok [] := rfl

@[simp] theorem scanAll_cons (p : List Char) (ps : List (List Char)) :
    scanAll (p :: ps) = follow (scan p) (scanAll ps) := rfl

theorem scanAll_append (ps qs : List (List Char)) :
    scanAll (ps ++ qs) = follow (scanAll ps) (scanAll qs) := by
  induction ps with
  | nil => rw [List.nil_append, scanAll_nil, nil_follow]
  | cons p ps ih => rw [List.cons_append, scanAll_cons, scanAll_cons, ih, follow_assoc]

/-- Texts give the tokens of what stands for them, if each of them does. -/
theorem scanAll_map_eq_flatMap {f : List Char → List Char} {g : List Char → List (List Char)}
    (h : ∀ p ∈ ps, scan (f p) = scanAll (g p)) : scanAll (ps.map f) = scanAll (ps.flatMap g) := by
  induction ps with
  | nil => rfl
  | cons p ps ih =>
    rw [List.map_cons, scanAll_cons, List.flatMap_cons, scanAll_append, h p List.mem_cons_self,
      ih fun q hq => h q (List.mem_cons_of_mem p hq)]

/-! ## One step of a scan outside quotes -/

theorem ofPair?_eq_none (hc : ofChar? c = none) (hp : needsPartner c = false) (d : Char) :
    ofPair? c d = none := by
  have hne : (c ≠ '=' ∧ c ≠ '&') ∧ c ≠ '|' := by simpa [needsPartner] using hp
  have hsigns : c ≠ '!' ∧ c ≠ '>' ∧ c ≠ '<' := by
    refine ⟨?_, ?_, ?_⟩ <;> rintro rfl <;> simp [ofChar?] at hc
  simp [ofPair?, hne, hsigns]

theorem ofPair?_space (c : Char) : ofPair? c ' ' = none := by
  simp [ofPair?]

theorem flush_eq_follow (read : List Char) (ts : List Token)
    (x : Except Fault (List Token)) :
    (x.map fun us => flush read (ts ++ us)) = follow (.ok (flush read ts)) x := by
  cases x with
  | error f => rfl
  | ok us =>
    unfold flush
    split <;> rfl

/-- The next character ends the literal before it, with a sign or without, or goes on with it. -/
theorem scanFrom_cons (hc : c ≠ '\x22') (read s : List Char) :
    scanFrom (.literal read) (c :: s) =
      if Text.isBlank c then follow (.ok (flush read [])) (scan s)
      else match s.head?.bind (ofPair? c) with
        | some t => follow (.ok (flush read [t])) (scan s.tail)
        | none =>
          match ofChar? c with
          | some t => follow (.ok (flush read [t])) (scan s)
          | none =>
            if needsPartner c then .error (.lonelyOperator c)
            else scanFrom (.literal (c :: read)) s := by
  cases s with
  | nil =>
    have hscan : scan [] = .ok [] := rfl
    simp only [hscan, follow_nil, List.head?_nil, Option.bind_none]
    rw [scanFrom]
    exact if_neg hc
  | cons d s =>
    simp only [List.head?_cons, Option.bind_some, List.tail_cons, scan, ← flush_eq_follow,
      List.nil_append, List.singleton_append]
    rw [scanFrom]
    exact if_neg hc

/-- A space ends what is before it, and the scan starts again behind it. -/
theorem scanFrom_append_space (ha : '\x22' ∉ a) (read b : List Char) :
    scanFrom (.literal read) (a ++ ' ' :: b) =
      follow (scanFrom (.literal read) a) (scan b) := by
  -- A sign of two characters takes both at once, so the induction is on the length.
  induction hn : a.length using Nat.strongRecOn generalizing a read with
  | ind n ih =>
  cases a with
  | nil =>
    rw [List.nil_append, scanFrom_cons (by decide), if_pos (by decide)]
    rfl
  | cons c a =>
    obtain ⟨hc, ha⟩ : c ≠ '\x22' ∧ '\x22' ∉ a := by simpa [eq_comm] using ha
    have hrest := fun read => ih a.length (by simp [← hn]) ha read rfl
    have hhead : (a ++ ' ' :: b).head?.bind (ofPair? c) = a.head?.bind (ofPair? c) := by
      cases a with
      | nil => simp [ofPair?_space]
      | cons d a => rfl
    rw [List.cons_append, scanFrom_cons hc, scanFrom_cons hc, hhead]
    split
    · rw [scan, hrest, ← scan, follow_assoc]
    · cases hpair : a.head?.bind (ofPair? c) with
      | some t =>
        cases a with
        | nil => simp at hpair
        | cons d a =>
          have hd : '\x22' ∉ a := fun h => ha (List.mem_cons_of_mem d h)
          have := ih a.length (by rw [← hn, List.length_cons, List.length_cons]; omega) hd [] rfl
          simp only [List.cons_append, List.tail_cons]
          rw [scan, this, ← scan, follow_assoc]
      | none =>
        cases ofChar? c with
        | some t => simp only [scan, hrest, follow_assoc]
        | none =>
          dsimp only
          split
          · rfl
          · exact hrest (c :: read)

/-- Texts without quotes, with a space between them, are scanned one by one. -/
theorem scan_unwords (h : ∀ p ∈ ps, '\x22' ∉ p) : scan (Text.unwords ps) = scanAll ps := by
  induction ps with
  | nil => rfl
  | cons p ps ih =>
    cases ps with
    | nil => simp [Text.unwords]
    | cons q ps =>
      rw [Text.unwords_cons_cons, scan, scanFrom_append_space (h p List.mem_cons_self),
        scanAll_cons, ih fun r hr => h r (List.mem_cons_of_mem p hr), ← scan]

/-! ## Literals -/

/-- Whether the character can be part of a literal. -/
def isPlain (c : Char) : Bool :=
  c != '\x22' && !Text.isBlank c && (ofChar? c).isNone && !needsPartner c

theorem scanFrom_cons_of_isPlain (h : isPlain c = true) (read s : List Char) :
    scanFrom (.literal read) (c :: s) = scanFrom (.literal (c :: read)) s := by
  obtain ⟨⟨⟨hquote, hblank⟩, hsign⟩, hpartner⟩ :
      ((c ≠ '\x22' ∧ Text.isBlank c = false) ∧ ofChar? c = none) ∧ needsPartner c = false := by
    simpa [isPlain] using h
  have hpair : s.head?.bind (ofPair? c) = none := by
    cases s with
    | nil => rfl
    | cons d s => exact ofPair?_eq_none hsign hpartner d
  rw [scanFrom_cons hquote]
  simp [hblank, hsign, hpartner, hpair]

theorem scanFrom_append_of_isPlain (hw : ∀ c ∈ w, isPlain c = true) (read s : List Char) :
    scanFrom (.literal read) (w ++ s) = scanFrom (.literal (w.reverse ++ read)) s := by
  induction w generalizing read with
  | nil => rfl
  | cons c w ih =>
    rw [List.cons_append, scanFrom_cons_of_isPlain (hw c List.mem_cons_self),
      ih fun d hd => hw d (List.mem_cons_of_mem c hd)]
    simp

theorem scan_of_isPlain (hw : ∀ c ∈ w, isPlain c = true) (hne : w ≠ []) :
    scan w = .ok [ofLiteral w] := by
  have := scanFrom_append_of_isPlain hw [] []
  rw [List.append_nil] at this
  rw [scan, this]
  simp [scanFrom, flush, hne]

/-- A literal with a minus sign, in parentheses, is scanned as with spaces between its parts. -/
theorem scan_signed (hw : ∀ c ∈ w, isPlain c = true) (hne : w ≠ []) :
    scan ('(' :: '-' :: (w ++ [')'])) = .ok [opening, minus, ofLiteral w, closing] := by
  have hopen (s : List Char) : scan ('(' :: s) = follow (.ok [opening]) (scan s) := by
    rw [scan, scanFrom_cons (by decide)]
    cases s <;> rfl
  have hminus (s : List Char) : scan ('-' :: s) = follow (.ok [minus]) (scan s) := by
    rw [scan, scanFrom_cons (by decide)]
    cases s <;> rfl
  have hclose : scan (w ++ [')']) = .ok [ofLiteral w, closing] := by
    rw [scan, scanFrom_append_of_isPlain hw, scanFrom_cons (by decide)]
    simp [Text.isBlank, ofChar?, flush, hne, scan, scanFrom]
  rw [hopen, hminus, hclose]
  rfl

end PenScript.Calc.Token
