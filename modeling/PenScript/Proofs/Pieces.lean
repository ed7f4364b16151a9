import Mathlib.Data.List.SplitBy
import Mathlib.Data.List.TakeWhile
import PenScript.Formula.Pieces

/-!
# Words in the text of a formula

A word of a formula is a maximal run of characters that are neither blank nor operators.

* `Formula.text_induction` : a text is empty, a break before a text, or a word before a text that
  starts with a break;
* `Formula.split_append` : a text is split piece by piece at every break;
* `Formula.replaceWord` : the text with other text in place of each occurrence of a word;
* `Formula.pieces_replaceWord` : replacing a word in the text replaces it among the pieces, if no
  piece of what comes in is half of an operator.
-/

namespace PenScript.Formula

variable {a b s t w x : List Char} {c : Char} {ps : List (List Char)}

/-! ## Words and breaks -/

/-- Whether a word ends at the character. -/
def isBreak (c : Char) : Bool := Text.isBlank c || isOperator c

/-- A text that is one word. -/
structure IsWord (w : List Char) : Prop where
  ne_nil : w ≠ []
  unbroken : ∀ c ∈ w, isBreak c = false

theorem IsWord.ne_of_mem {p : List Char} (hx : IsWord x) (hc : c ∈ p) (h : isBreak c = true) :
    p ≠ x := by
  rintro rfl
  simp [hx.unbroken c hc] at h

/-- A text that ends the word before it. -/
def StartsBroken (s : List Char) : Prop := ∀ c ∈ s.head?, isBreak c = true

theorem startsBroken_cons (h : isBreak c = true) (s : List Char) : StartsBroken (c :: s) := by
  intro d hd
  cases hd
  exact h

theorem StartsBroken.append (ha : StartsBroken a) (hb : StartsBroken b) : StartsBroken (a ++ b) := by
  cases a with
  | nil => exact hb
  | cons c a => exact ha

/-- Every text is made up of breaks and words, and a word goes as far as it can. -/
theorem text_induction {P : List Char → Prop} (nil : P [])
    (sep : ∀ c s, isBreak c = true → P s → P (c :: s))
    (word : ∀ w s, IsWord w → StartsBroken s → P s → P (w ++ s)) (s : List Char) : P s := by
  -- The recursion drops a whole word, so it is on the length.
  induction hn : s.length using Nat.strong_induction_on generalizing s with
  | _ n ih =>
  cases s with
  | nil => exact nil
  | cons c s =>
    cases hc : isBreak c with
    | true => exact sep c s hc (ih s.length (by simp [← hn]) s rfl)
    | false =>
      let unbroken := fun d => !isBreak d
      rw [← List.takeWhile_append_dropWhile (p := unbroken) (l := c :: s)]
      have hw : IsWord ((c :: s).takeWhile unbroken) :=
        ⟨by simp [unbroken, hc], fun d hd => by simpa [unbroken] using List.mem_takeWhile_imp hd⟩
      have hs : StartsBroken ((c :: s).dropWhile unbroken) := by
        intro d hd
        have := List.head?_dropWhile_not unbroken (c :: s)
        rw [Option.mem_def.1 hd] at this
        simpa [unbroken] using this
      refine word _ _ hw hs (ih _ ?_ _ rfl)
      have hle := (List.dropWhile_suffix unbroken (l := s)).length_le
      rw [List.dropWhile_cons_of_pos (by simp [unbroken, hc]), ← hn, List.length_cons]
      omega

/-! ## Splitting -/

theorem split_cons_of_isBreak (h : isBreak c = true) (s : List Char) :
    split (c :: s) = split [c] ++ split s := by
  cases hb : Text.isBlank c with
  | true => simp [split, addChar, addWord, hb]
  | false =>
    have ho : isOperator c = true := by simpa [isBreak, hb] using h
    simp [split, addChar, addWord, hb, ho]

theorem isBlank_of_isOperator (h : isOperator c = true) : Text.isBlank c = false := by
  have hall : (operators.all fun c => !Text.isBlank c) = true := by decide
  have hmem : c ∈ operators := by simpa [isOperator] using h
  simpa using List.all_eq_true.1 hall c hmem

theorem split_blank (h : Text.isBlank c = true) : split [c] = [] := by
  simp [split, addChar, addWord, h]

theorem split_operator (h : isOperator c = true) : split [c] = [[c]] := by
  simp [split, addChar, addWord, h, isBlank_of_isOperator h]

theorem foldr_addChar_of_unbroken (h : ∀ c ∈ w, isBreak c = false)
    (p : List Char × List (List Char)) : w.foldr addChar p = (w ++ p.1, p.2) := by
  induction w with
  | nil => rfl
  | cons c w ih =>
    have hc : Text.isBlank c = false ∧ isOperator c = false := by
      simpa [isBreak] using h c List.mem_cons_self
    rw [List.foldr_cons, ih fun d hd => h d (List.mem_cons_of_mem c hd)]
    simp [addChar, hc]

theorem foldr_addChar_of_startsBroken (h : StartsBroken s) :
    s.foldr addChar ([], []) = ([], split s) := by
  cases s with
  | nil => rfl
  | cons c s =>
    have hc : Text.isBlank c = true ∨ isOperator c = true := by simpa [isBreak] using h c rfl
    cases hb : Text.isBlank c with
    | true => simp [split, addChar, addWord, hb]
    | false => simp [split, addChar, addWord, hb, hc.resolve_left (by simp [hb])]

theorem split_word_append (hw : IsWord w) (hs : StartsBroken s) :
    split (w ++ s) = w :: split s := by
  unfold split
  rw [List.foldr_append, foldr_addChar_of_startsBroken hs, foldr_addChar_of_unbroken hw.unbroken]
  simp [addWord, hw.ne_nil, split]

theorem split_of_isWord (hw : IsWord w) : split w = [w] := by
  simpa [split, addWord] using split_word_append (s := []) hw nofun

/-- Where a word cannot go on, the text is split into what its two parts are split into. -/
theorem split_append (hb : StartsBroken b) : split (a ++ b) = split a ++ split b := by
  induction a using text_induction with
  | nil => rfl
  | sep c a hc ih => rw [List.cons_append, split_cons_of_isBreak hc, ih, split_cons_of_isBreak hc a,
      List.append_assoc]
  | word w a hw ha ih =>
    rw [List.append_assoc, split_word_append hw (ha.append hb), split_word_append hw ha, ih,
      List.cons_append]

/-! ## Replacing a word -/

/-- The words of a text and the breaks between them, which make up the text. -/
def runs (s : List Char) : List (List Char) := s.splitBy fun c d => !isBreak c && !isBreak d

/-- The text with `t` in place of each word `x`. -/
def replaceWord (x t s : List Char) : List Char :=
  (runs s).flatMap fun w => if w = x then t else w

theorem replaceWord_cons_of_isBreak (hx : IsWord x) (h : isBreak c = true) (s : List Char) :
    replaceWord x t (c :: s) = c :: replaceWord x t s := by
  have hruns : runs (c :: s) = [c] :: runs s := by
    unfold runs
    rw [← List.singleton_append, List.splitBy_append (by simp [h])]
    rfl
  simp [replaceWord, hruns, hx.ne_of_mem (List.mem_singleton_self c) h]

theorem replaceWord_word_append (hw : IsWord w) (hs : StartsBroken s) :
    replaceWord x t (w ++ s) = (if w = x then t else w) ++ replaceWord x t s := by
  have hruns : runs (w ++ s) = w :: runs s := by
    unfold runs
    rw [List.splitBy_append fun c _ d hd => by simp [hs d hd],
      List.splitBy_of_isChain hw.ne_nil, List.singleton_append]
    refine List.Pairwise.isChain (List.pairwise_of_forall_mem_list fun c hc d hd => ?_)
    simp [hw.unbroken c hc, hw.unbroken d hd]
  simp [replaceWord, hruns]

theorem StartsBroken.replaceWord (hx : IsWord x) (hs : StartsBroken s) :
    StartsBroken (replaceWord x t s) := by
  cases s with
  | nil => exact nofun
  | cons c s =>
    have hc : isBreak c = true := hs c rfl
    rw [replaceWord_cons_of_isBreak hx hc]
    exact hs

theorem mem_of_mem_replaceWord (h : c ∈ replaceWord x t s) : c ∈ t ∨ c ∈ s := by
  obtain ⟨w, hw, hc⟩ := List.mem_flatMap.1 h
  split at hc
  · exact .inl hc
  · refine .inr ?_
    rw [← List.flatten_splitBy (fun c d => !isBreak c && !isBreak d) s]
    exact List.mem_flatten.2 ⟨w, hw, hc⟩

/-- What replaces a piece when the word `x` is replaced by the pieces `ts`. -/
def swap (x : List Char) (ts : List (List Char)) (p : List Char) : List (List Char) :=
  if p = x then ts else [p]

theorem split_replaceWord (hx : IsWord x) :
    split (replaceWord x t s) = (split s).flatMap (swap x (split t)) := by
  induction s using text_induction with
  | nil => rfl
  | sep c s hc ih =>
    -- A break is split into itself or into nothing, and `x` is neither.
    have hswap : (split [c]).flatMap (swap x (split t)) = split [c] := by
      cases hb : Text.isBlank c with
      | true => simp [split_blank hb]
      | false =>
        have ho : isOperator c = true := by simpa [isBreak, hb] using hc
        have hne : [c] ≠ x := hx.ne_of_mem (List.mem_singleton_self c) hc
        simp [split_operator ho, swap, hne]
    rw [replaceWord_cons_of_isBreak hx hc, split_cons_of_isBreak hc, ih, split_cons_of_isBreak hc s,
      List.flatMap_append, hswap]
  | word w s hw hs ih =>
    rw [replaceWord_word_append hw hs, split_append (hs.replaceWord hx), ih,
      split_word_append hw hs, List.flatMap_cons]
    by_cases h : w = x
    · simp [swap, h]
    · simp [swap, h, split_of_isWord hw]

/-! ## Operators of two characters -/

/-- The pieces that operators of two characters are put together from. -/
def halves : List (List Char) := [['<'], ['>'], ['='], ['!'], ['&'], ['|']]

/-- A piece that is no half of an operator. -/
def Apart (p : List Char) : Prop := p ∉ halves

instance : DecidablePred Apart := fun p => inferInstanceAs (Decidable (p ∉ halves))

theorem join?_eq_some {p q op : List Char} (h : join? p q = some op) :
    p ∈ halves ∧ q ∈ halves ∧ ∃ c ∈ op, isBreak c = true := by
  rw [← List.any_eq_true]
  unfold join? at h
  split at h <;> cases h <;> decide

theorem Apart.join?_left {p : List Char} (hp : Apart p) (q : List Char) : join? p q = none :=
  Option.eq_none_iff_forall_ne_some.2 fun _ h => hp (join?_eq_some h).1

theorem Apart.join?_right {q : List Char} (hq : Apart q) (p : List Char) : join? p q = none :=
  Option.eq_none_iff_forall_ne_some.2 fun _ h => hq (join?_eq_some h).2.1

theorem isBreak_of_mem_halves : ∀ p ∈ halves, ∃ c ∈ p, isBreak c = true := by
  simp only [← List.any_eq_true]
  decide

theorem IsWord.apart (hx : IsWord x) : Apart x := by
  intro h
  obtain ⟨c, hc, hbreak⟩ := isBreak_of_mem_halves x h
  exact hx.ne_of_mem hc hbreak rfl

theorem glue_cons_of_apart {p : List Char} (hp : Apart p) (ps : List (List Char)) :
    glue (p :: ps) = p :: glue ps := by
  cases ps with
  | nil => simp [glue]
  | cons q ps => simp [glue, hp.join?_left q]

theorem glue_append_of_apart (hps : ∀ p ∈ ps, Apart p) (qs : List (List Char)) :
    glue (ps ++ qs) = ps ++ glue qs := by
  induction ps with
  | nil => rfl
  | cons p ps ih =>
    rw [List.cons_append, glue_cons_of_apart (hps p List.mem_cons_self),
      ih fun q hq => hps q (List.mem_cons_of_mem p hq), List.cons_append]

/-- Gluing leaves a piece as it is or makes an operator of two. -/
theorem mem_glue {p : List Char} (hp : p ∈ glue ps) : p ∈ ps ∨ ∃ a b, join? a b = some p := by
  fun_induction glue ps with
  | case1 a b rest op hjoin ih =>
    rcases List.mem_cons.1 hp with rfl | hp
    · exact .inr ⟨a, b, hjoin⟩
    · exact (ih hp).imp_left fun h => by simp [h]
  | case2 a b rest hjoin ih =>
    rcases List.mem_cons.1 hp with rfl | hp
    · exact .inl List.mem_cons_self
    · exact (ih hp).imp_left fun h => List.mem_cons_of_mem a h
  | case3 ps hshort => exact .inl hp

/-- Words are replaced before operators are put together as well as after. -/
theorem glue_flatMap_swap {ts : List (List Char)} (hx : IsWord x) (hts : ∀ p ∈ ts, Apart p)
    (hne : ts ≠ []) (ps : List (List Char)) :
    glue (ps.flatMap (swap x ts)) = (glue ps).flatMap (swap x ts) := by
  have hswap : ∀ p, (∃ c ∈ p, isBreak c = true) → swap x ts p = [p] := by
    rintro p ⟨c, hc, hbreak⟩
    simp [swap, hx.ne_of_mem hc hbreak]
  fun_induction glue ps with
  | case1 p q rest op hjoin ih =>
    -- Neither half is the word, nor is the operator.
    obtain ⟨hp, hq, hop⟩ := join?_eq_some hjoin
    simp only [List.flatMap_cons, hswap p (isBreak_of_mem_halves p hp),
      hswap q (isBreak_of_mem_halves q hq), hswap op hop, List.singleton_append]
    simp [glue, hjoin, ih]
  | case2 p q rest hjoin ih =>
    have hcons : (p :: glue (q :: rest)).flatMap (swap x ts) =
        swap x ts p ++ glue ((q :: rest).flatMap (swap x ts)) := by rw [List.flatMap_cons, ih]
    rw [hcons, List.flatMap_cons]
    by_cases hp : p = x
    · rw [swap, if_pos hp, glue_append_of_apart hts]
    · rw [swap, if_neg hp, List.singleton_append, List.singleton_append, List.flatMap_cons]
      -- What follows `p` now is what followed it before, or is apart.
      have hnext : ∀ r, (swap x ts q).head? = some r → join? p r = none := by
        intro r hr
        by_cases hq : q = x
        · rw [swap, if_pos hq] at hr
          exact (hts r (List.mem_of_mem_head? hr)).join?_right p
        · rw [swap, if_neg hq] at hr
          cases hr
          exact hjoin
      have hq : swap x ts q ≠ [] := by
        unfold swap
        split <;> simp [hne]
      obtain ⟨r, rs, hr⟩ := List.exists_cons_of_ne_nil hq
      simp [hr, glue, hnext r (by simp [hr])]
  | case3 ps hshort =>
    match ps with
    | [] => rfl
    | [p] =>
      by_cases hp : p = x
      · simpa [swap, hp, glue] using glue_append_of_apart hts []
      · simp [swap, hp, glue]
    | p :: q :: rest => exact absurd rfl (hshort p q rest)

theorem doubleEquals_of_apart {p : List Char} (hp : Apart p) : doubleEquals p = p := by
  refine if_neg ?_
  rintro rfl
  exact hp (by decide)

/-- The pieces of the text with a word replaced are the pieces of the text with it replaced. -/
theorem pieces_replaceWord (hx : IsWord x) (ht : ∀ p ∈ split t, Apart p) (hne : split t ≠ []) :
    pieces (replaceWord x t s) = (pieces s).flatMap (swap x (split t)) := by
  unfold pieces
  rw [split_replaceWord hx, glue_flatMap_swap hx ht hne, List.map_flatMap, List.flatMap_map]
  congr 1
  funext p
  unfold swap
  by_cases hp : p = x
  · rw [if_pos hp, if_pos (by rw [hp, doubleEquals_of_apart hx.apart])]
    exact List.map_congr_left (g := id) (fun q hq => doubleEquals_of_apart (ht q hq)) |>.trans
      (List.map_id _)
  · have hp' : doubleEquals p ≠ x := by
      unfold doubleEquals
      split
      · exact hx.ne_of_mem (c := '=') (by simp) (by decide)
      · exact hp
    rw [if_neg hp, if_neg hp', List.map_singleton]

theorem pieces_of_isWord (hw : IsWord w) : pieces w = [w] := by
  unfold pieces
  rw [split_of_isWord hw, glue_cons_of_apart hw.apart, List.map_cons,
    doubleEquals_of_apart hw.apart]
  rfl

end PenScript.Formula
