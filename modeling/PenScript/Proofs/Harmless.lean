import PenScript.Proofs.LineText
import PenScript.Proofs.Literals
import PenScript.Proofs.NormalForm

/-!
# What a formula cannot make the calculator read

A formula computes a value and does nothing else. So the text that is computed for it, its reading,
must not hold any sign for an assignment or a comment, wherever the formula and the values of its
variables have such characters.

* `Formula.Tame token` : `=`, `&`, `|`, `/` and `*` stand in the token only if it is one of the
  operators that formulas have;
* `Formula.tame_readPiece` : every piece of a formula is read as a tame token;
* `Formula.reading_eq_normalize` : the reading is the normal form with each of its tokens read;
* `Formula.exists_mem_infix` : characters side by side are so in one token;
* `Calc.Token.Partnered s` : no scan of the text meets half of an operator;
* `Formula.Harmless text`, `Formula.harmless_reading` : the main result.
-/

namespace PenScript

/-! ## Scans that meet no half of an operator -/

namespace Calc.Token

variable {c d : Char} {s w : List Char} {f : Fault}

/-- No scan of the text meets half of an operator, wherever the scan stands. -/
def Partnered (s : List Char) : Prop :=
  ∀ place c, scanFrom place s ≠ .error (.lonelyOperator c)

theorem partnered_nil : Partnered [] := by
  intro place c
  cases place <;> simp [scanFrom]

theorem follow_eq_error {ts : List Token} {x : Except Fault (List Token)}
    (h : follow (.ok ts) x = .error f) : x = .error f := by
  cases x with
  | ok us => cases h
  | error f' => exact h

theorem map_ne_error {k : List Token → List Token} {x : Except Fault (List Token)}
    (h : x ≠ .error f) : x.map k ≠ .error f := by
  cases x with
  | ok us => simp [Except.map]
  | error f' => exact h

theorem Partnered.quotes (hs : Partnered s) (c : Char) (read : List Char) (d : Char) :
    scanFrom (.quotes read) (c :: s) ≠ .error (.lonelyOperator d) := by
  rw [scanFrom]
  split
  · exact map_ne_error (hs _ d)
  · split <;> exact hs _ d

theorem Partnered.escape (hs : Partnered s) (c : Char) (read : List Char) (d : Char) :
    scanFrom (.escape read) (c :: s) ≠ .error (.lonelyOperator d) := by
  rw [scanFrom]
  split
  · exact hs _ d
  · simp

/-- A character that means something on its own, and nothing else with the one behind it. -/
theorem Partnered.cons (hs : Partnered s) (hc : needsPartner c = false)
    (hpair : ∀ d ∈ s.head?, ofPair? c d = none) : Partnered (c :: s) := by
  intro place d
  cases place with
  | quotes read => exact hs.quotes c read d
  | escape read => exact hs.escape c read d
  | literal read =>
    by_cases hquote : c = '\x22'
    · cases s with
      | nil => simp [scanFrom, hquote]
      | cons e s =>
        rw [scanFrom, if_pos hquote]
        exact map_ne_error (hs _ d)
    · have hnone : s.head?.bind (ofPair? c) = none := by
        cases hhead : s.head? with
        | none => rfl
        | some e => exact hpair e hhead
      rw [scanFrom_cons hquote, hnone, hc]
      split
      · exact fun h => hs _ d (follow_eq_error h)
      · cases ofChar? c with
        | some t => exact fun h => hs _ d (follow_eq_error h)
        | none => exact hs _ d

/-- An operator of two characters. -/
theorem Partnered.pair (hs : Partnered s) (h : [c, d] ∈ Formula.pairs) :
    Partnered (c :: d :: s) := by
  have hsign : (ofPair? c d).isSome ∧ c ≠ '\x22' ∧ c ≠ '\\' ∧ d ≠ '\x22' ∧ d ≠ '\\' ∧
      Text.isBlank c = false := by
    simp only [Formula.pairs, List.mem_cons, List.cons.injEq, and_true, List.not_mem_nil,
      or_false] at h
    rcases h with ⟨rfl, rfl⟩ | ⟨rfl, rfl⟩ | ⟨rfl, rfl⟩ | ⟨rfl, rfl⟩ | ⟨rfl, rfl⟩ | ⟨rfl, rfl⟩ <;>
      decide
  obtain ⟨hsome, hc, hc', hd, hd', hblank⟩ := hsign
  obtain ⟨t, ht⟩ := Option.isSome_iff_exists.1 hsome
  intro place e
  cases place with
  | quotes read =>
    rw [scanFrom, if_neg hc, if_neg hc']
    exact hs.quotes d _ e
  | escape read => simp [scanFrom, hc, hc']
  | literal read =>
    rw [scanFrom_cons hc]
    simp only [hblank, List.head?_cons, Option.bind_some, ht, List.tail_cons, Bool.false_eq_true,
      if_false]
    exact fun h => hs _ e (follow_eq_error h)

theorem ofPair?_of_not_needsPartner (hd : needsPartner d = false) (c : Char) :
    ofPair? c d = none := by
  have hne : (d ≠ '=' ∧ d ≠ '&') ∧ d ≠ '|' := by simpa [needsPartner] using hd
  simp [ofPair?, hne]

/-- Text in which no character needs a partner, before text that starts with none. -/
theorem Partnered.append (hs : Partnered s) (hhead : ∀ d ∈ s.head?, needsPartner d = false)
    (hw : ∀ c ∈ w, needsPartner c = false) : Partnered (w ++ s) := by
  induction w with
  | nil => exact hs
  | cons c w ih =>
    obtain ⟨hc, hw⟩ := List.forall_mem_cons.1 hw
    refine (ih hw).cons hc fun d hd => ofPair?_of_not_needsPartner ?_ c
    cases w with
    | nil => exact hhead d hd
    | cons e w =>
      cases hd
      exact hw _ List.mem_cons_self

end Calc.Token

namespace Formula

open Calc (Token)

variable {c d : Char} {p q s : List Char} {ps : List (List Char)} {store : Store}

/-! ## Tame tokens -/

/-- The comparisons that are written with `=`. -/
def comparisons : List (List Char) := [['=', '='], ['<', '='], ['>', '='], ['!', '=']]

/-- A token in which the characters of operators form operators that formulas have. -/
@[mk_iff] structure Tame (token : List Char) : Prop where
  equals : '=' ∈ token → token ∈ comparisons
  ampersand : '&' ∈ token → token = ['&', '&']
  bar : '|' ∈ token → token = ['|', '|']
  slash : '/' ∈ token → token = ['/']
  star : '*' ∈ token → token = ['*']

instance : DecidablePred Tame := fun token => decidable_of_iff _ (tame_iff token).symm

/-- The characters that a tame token does not hold among others, and the one between tokens. -/
def guarded : List Char := [' ', '=', '&', '|', '/', '*']

theorem tame_of_disjoint (h : ∀ c ∈ guarded, c ∉ q) : Tame q ∧ ' ' ∉ q := by
  simp only [guarded, List.forall_mem_cons, List.not_mem_nil, false_imp_iff, implies_true,
    and_true] at h
  obtain ⟨hspace, hequals, hampersand, hbar, hslash, hstar⟩ := h
  exact ⟨⟨(absurd · hequals), (absurd · hampersand), (absurd · hbar), (absurd · hslash),
    (absurd · hstar)⟩, hspace⟩

theorem isBreak_of_mem_guarded (h : c ∈ guarded) : isBreak c = true := by
  have hall : (guarded.all isBreak) = true := by decide
  exact List.all_eq_true.1 hall c h

theorem tame_of_isWord (hq : IsWord q) : Tame q ∧ ' ' ∉ q :=
  tame_of_disjoint fun _ hc hmem => hq.ne_of_mem hmem (isBreak_of_mem_guarded hc) rfl

theorem tame_of_mem_pairs (h : q ∈ pairs) : Tame q ∧ ' ' ∉ q := by
  have hall : (pairs.all fun q => decide (Tame q ∧ ' ' ∉ q)) = true := by decide
  simpa using List.all_eq_true.1 hall q h

theorem tame_singleton (hspace : c ≠ ' ') (hequals : c ≠ '=') (hampersand : c ≠ '&')
    (hbar : c ≠ '|') : Tame [c] ∧ ' ' ∉ [c] := by
  simp only [List.mem_singleton]
  refine ⟨⟨?_, ?_, ?_, ?_, ?_⟩, hspace.symm⟩ <;> rw [List.mem_singleton] <;> rintro rfl
  · exact absurd rfl hequals
  · exact absurd rfl hampersand
  · exact absurd rfl hbar
  · rfl
  · rfl

/-! ## The pieces of a formula are read as tame tokens -/

/-- A word for a sign or a truth value is rewritten, every other piece stays. -/
theorem connective_cases (p : List Char) : connective p = p ∨
    connective p ∈ [['&', '&'], ['|', '|'], ['!'], "true".toList, "false".toList] := by
  unfold connective
  dsimp only
  split
  · exact .inr (by simp)
  · split
    · exact .inr (by simp)
    · split
      · exact .inr (by simp)
      · split
        · rename_i h
          rcases h with h | h <;> rw [h] <;> exact .inr (by simp)
        · exact .inl rfl

theorem tame_connective (hp : IsPiece p) : Tame (connective p) ∧ ' ' ∉ connective p := by
  rcases connective_cases p with h | h
  · rw [h]
    cases hp with
    | word hp => exact tame_of_isWord hp
    | pair hp => exact tame_of_mem_pairs hp
    | sign hc hequals =>
      -- A single `&` or `|` would have been doubled.
      refine tame_singleton ?_ hequals ?_ ?_ <;> rintro rfl
      · exact absurd hc (by decide)
      · exact absurd h (by decide +kernel)
      · exact absurd h (by decide +kernel)
  · have hall : ([['&', '&'], ['|', '|'], ['!'], "true".toList, "false".toList].all
        fun q => decide (Tame q ∧ ' ' ∉ q)) = true := by decide
    simpa using List.all_eq_true.1 hall _ h

theorem tame_literal {v : Value} {t : String} (h : v.literal? = some t) :
    Tame t.toList ∧ ' ' ∉ t.toList := by
  refine tame_of_disjoint fun c hc hmem => ?_
  have hall : (guarded.all fun c => !isLiteralChar c) = true := by decide
  have hnot : isLiteralChar c = false := by simpa using List.all_eq_true.1 hall c hc
  simp [Value.isLiteralChar_of_literal? h hmem] at hnot

theorem tame_digits (hq : ∀ c ∈ q, c.isDigit = true) :
    Tame (q ++ ['.', '0']) ∧ ' ' ∉ q ++ ['.', '0'] := by
  refine tame_of_disjoint fun c hc hmem => ?_
  rcases List.mem_append.1 hmem with hmem | hmem
  · have hbreak := isBreak_of_mem_guarded hc
    simp [Text.isBreak_of_isDigit (hq c hmem)] at hbreak
  · simp only [List.mem_cons, List.not_mem_nil, or_false] at hmem
    rcases hmem with rfl | rfl <;> exact absurd hc (by decide)

/-- Whatever a piece is read as, a value or a sign, is a tame token. -/
theorem tame_readPiece (hp : IsPiece p) (toReal : Bool) :
    Tame (readPiece store toReal p) ∧ ' ' ∉ readPiece store toReal p := by
  unfold readPiece
  dsimp only
  split
  · cases hfill : fillIn? store toReal p with
    | none => exact tame_connective hp
    | some t =>
      obtain ⟨v, -, hv⟩ := Option.bind_eq_some_iff.1 hfill
      obtain ⟨t, ht, htext⟩ := Option.bind_eq_some_iff.1 hv
      cases htext
      exact tame_literal ht
  · split
    · rename_i hdigits
      exact tame_digits (by simpa using hdigits.2.2)
    · exact tame_connective hp

/-! ## Tokens in the text -/

theorem splitBy_unwords (hps : ∀ p ∈ ps, ' ' ∉ p) (hne : ps ≠ []) :
    Text.splitBy (· == ' ') (Text.unwords ps) = ps := by
  rw [Text.splitBy_eq_splitOnP, ← List.splitOn_eq_splitOnP, Text.unwords]
  exact List.splitOn_intercalate ' ' hps hne

theorem mem_of_mem_splitBy_unwords (hps : ∀ p ∈ ps, ' ' ∉ p)
    (hq : q ∈ Text.splitBy (· == ' ') (Text.unwords ps)) : q ∈ ps ∨ q = [] := by
  by_cases hnil : ps = []
  · rw [hnil] at hq
    exact .inr (List.mem_singleton.1 hq)
  · rw [splitBy_unwords hps hnil] at hq
    exact .inl hq

theorem IsPiece.space_not_mem (hp : IsPiece p) : ' ' ∉ p := by
  cases hp with
  | word h => exact (tame_of_isWord h).2
  | pair h => exact (tame_of_mem_pairs h).2
  | sign h hne =>
    rw [List.mem_singleton]
    rintro rfl
    exact absurd h (by decide)

/-- The reading is the normal form with each of its tokens read. -/
theorem reading_eq_normalize (store : Store) (toReal : Bool) (s : List Char) :
    reading store toReal s =
      Text.unwords ((Text.splitBy (· == ' ') (normalize s)).map (readPiece store toReal)) := by
  unfold reading normalize
  by_cases hnil : pieces s = []
  · -- The empty text has one empty token, which is read as it is.
    rw [hnil]
    cases toReal <;> rfl
  · rw [splitBy_unwords (fun p hp => (isPiece_of_mem_pieces hp).space_not_mem) hnil]

theorem infix_append_space (hc : c ≠ ' ') (hd : d ≠ ' ') (h : [c, d] <:+: p ++ ' ' :: s) :
    [c, d] <:+: p ∨ [c, d] <:+: s := by
  induction p with
  | nil =>
    rcases List.infix_cons_iff.1 h with h | h
    · exact absurd (List.cons_prefix_cons.1 h).1 hc
    · exact .inr h
  | cons e p ih =>
    rcases List.infix_cons_iff.1 h with h | h
    · obtain ⟨rfl, hnext⟩ := List.cons_prefix_cons.1 h
      cases p with
      | nil => exact absurd (List.cons_prefix_cons.1 hnext).1 hd
      | cons f p =>
        obtain ⟨rfl, -⟩ := List.cons_prefix_cons.1 hnext
        exact .inl ⟨[], p, rfl⟩
    · exact (ih h).imp_left fun h => List.infix_cons_iff.2 (.inr h)

/-- Two characters that stand side by side in the text do so in one of its tokens. -/
theorem exists_mem_infix (hc : c ≠ ' ') (hd : d ≠ ' ') (h : [c, d] <:+: Text.unwords ps) :
    ∃ p ∈ ps, [c, d] <:+: p := by
  induction ps with
  | nil =>
    have := h.length_le
    simp [Text.unwords] at this
  | cons p ps ih =>
    cases ps with
    | nil => exact ⟨p, List.mem_cons_self, by simpa [Text.unwords] using h⟩
    | cons q ps =>
      rw [Text.unwords_cons_cons] at h
      rcases infix_append_space hc hd h with h | h
      · exact ⟨p, List.mem_cons_self, h⟩
      · obtain ⟨r, hr, hinfix⟩ := ih h
        exact ⟨r, List.mem_cons_of_mem p hr, hinfix⟩

theorem Tame.needsPartner_or_mem_pairs (hq : Tame q) :
    (∀ c ∈ q, Token.needsPartner c = false) ∨ q ∈ pairs := by
  by_cases h : '=' ∈ q ∨ '&' ∈ q ∨ '|' ∈ q
  · right
    rcases h with h | h | h
    · have hsub : (comparisons.all fun p => pairs.contains p) = true := by decide
      simpa using List.all_eq_true.1 hsub q (hq.equals h)
    · rw [hq.ampersand h]
      decide
    · rw [hq.bar h]
      decide
  · simp only [not_or] at h
    left
    intro c hc
    have hne : c ≠ '=' ∧ c ≠ '&' ∧ c ≠ '|' := by
      refine ⟨?_, ?_, ?_⟩ <;> rintro rfl
      exacts [h.1 hc, h.2.1 hc, h.2.2 hc]
    simp [Token.needsPartner, hne]

theorem Tame.partnered (hq : Tame q) (hs : Token.Partnered s)
    (hhead : ∀ d ∈ s.head?, Token.needsPartner d = false) : Token.Partnered (q ++ s) := by
  rcases hq.needsPartner_or_mem_pairs with h | h
  · exact hs.append hhead h
  · have hlength : (pairs.all fun q => q.length == 2) = true := by decide
    have htwo := List.all_eq_true.1 hlength q h
    match q with
    | [c, d] => exact hs.pair h

theorem partnered_unwords (hps : ∀ p ∈ ps, Tame p) : Token.Partnered (Text.unwords ps) := by
  induction ps with
  | nil => exact Token.partnered_nil
  | cons p ps ih =>
    obtain ⟨hp, hps⟩ := List.forall_mem_cons.1 hps
    cases ps with
    | nil => simpa [Text.unwords] using hp.partnered Token.partnered_nil (by simp)
    | cons q ps =>
      rw [Text.unwords_cons_cons]
      refine hp.partnered ((ih hps).cons (by decide) fun d _ => ?_) ?_
      · exact Token.ofPair?_eq_none rfl (by decide) d
      · intro d hd
        cases hd
        decide

/-! ## The whole text -/

/-- The signs that change a variable, but for the single `=`. -/
def assignments : List (List Char) :=
  [['+', '='], ['-', '='], ['*', '='], ['/', '='], ['%', '='], ['^', '='], ['&', '&', '='],
    ['|', '|', '=']]

/-- The signs that start a comment. -/
def comments : List (List Char) := [['/', '/'], ['/', '*']]

/-- A text that computes a value and does nothing else. -/
structure Harmless (text : List Char) : Prop where
  /-- Between spaces, the characters of operators form operators that formulas have. -/
  tame : ∀ token ∈ Text.splitBy (· == ' ') text, Tame token
  /-- No sign assigns a value or starts a comment. -/
  inert : ∀ sign ∈ assignments ++ comments, ¬ sign <:+: text
  /-- No `=`, `&` or `|` is met on its own. -/
  partnered : ∀ c, Token.scan text ≠ .error (.lonelyOperator c)

/-- In a tame token, what stands before `=` is part of a comparison. -/
theorem Tame.not_infix_equals (hq : Tame q) (hc : c ∉ ['=', '<', '>', '!']) :
    ¬ [c, '='] <:+: q := by
  intro h
  have hmem := hq.equals (h.subset (by simp))
  simp only [comparisons, List.mem_cons, List.not_mem_nil, or_false] at hmem
  rcases hmem with rfl | rfl | rfl | rfl <;>
    · have heq := h.eq_of_length rfl
      cases heq
      exact hc (by decide)

theorem Tame.not_infix_slash (hq : Tame q) : ¬ ['/', c] <:+: q := by
  intro h
  have hlength := h.length_le
  rw [hq.slash (h.subset (by simp))] at hlength
  simp at hlength

/-- A sign that assigns a value ends in `=`, behind a character that starts no comparison. -/
theorem exists_infix_of_mem_assignments (h : q ∈ assignments) :
    ∃ c, c ≠ ' ' ∧ c ∉ ['=', '<', '>', '!'] ∧ [c, '='] <:+: q := by
  simp only [assignments, List.mem_cons, List.not_mem_nil, or_false] at h
  rcases h with rfl | rfl | rfl | rfl | rfl | rfl | rfl | rfl <;>
    first
    | exact ⟨_, by decide, by decide, [], [], rfl⟩
    | exact ⟨_, by decide, by decide, [_], [], rfl⟩

theorem exists_of_mem_comments (h : q ∈ comments) : ∃ c, c ≠ ' ' ∧ q = ['/', c] := by
  simp only [comments, List.mem_cons, List.not_mem_nil, or_false] at h
  rcases h with rfl | rfl <;> exact ⟨_, by decide, rfl⟩

/-- Tame tokens, with a space between them, make up a harmless text. -/
theorem harmless_unwords (hps : ∀ p ∈ ps, Tame p ∧ ' ' ∉ p) : Harmless (Text.unwords ps) where
  tame token htoken := by
    rcases mem_of_mem_splitBy_unwords (fun p hp => (hps p hp).2) htoken with h | rfl
    · exact (hps token h).1
    · decide
  inert sign hsign h := by
    rcases List.mem_append.1 hsign with hsign | hsign
    · obtain ⟨c, hspace, hc, hend⟩ := exists_infix_of_mem_assignments hsign
      obtain ⟨p, hp, hinfix⟩ := exists_mem_infix hspace (by decide) (hend.trans h)
      exact (hps p hp).1.not_infix_equals hc hinfix
    · obtain ⟨c, hspace, rfl⟩ := exists_of_mem_comments hsign
      obtain ⟨p, hp, hinfix⟩ := exists_mem_infix (by decide) hspace h
      exact (hps p hp).1.not_infix_slash hinfix
  partnered c := partnered_unwords (fun p hp => (hps p hp).1) (.literal []) c

/-- Whatever the formula is and its variables hold, the text that is computed for it is its normal
form with each token read, and has no assignment, no comment and no half of an operator. -/
theorem harmless_reading (store : Store) (toReal : Bool) (formula : String) :
    reading store toReal formula.toList = Text.unwords
      ((Text.splitBy (· == ' ') (normalize formula.toList)).map (readPiece store toReal)) ∧
    Harmless (reading store toReal formula.toList) := by
  refine ⟨reading_eq_normalize store toReal formula.toList, harmless_unwords fun q hq => ?_⟩
  obtain ⟨p, hp, rfl⟩ := List.mem_map.1 hq
  exact tame_readPiece (isPiece_of_mem_pieces hp) toReal

example : reading .empty false "x+=1 //y&|z/*<==*/".toList =
    "x + == 1 / / y && || z / * <= == * /".toList := by decide +kernel

end Formula

end PenScript
