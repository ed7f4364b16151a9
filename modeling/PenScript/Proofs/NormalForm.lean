import Mathlib.Data.List.Chain
import PenScript.Proofs.Pieces

/-!
# The normal form of a formula

* `Formula.IsPiece p` : a word, an operator of one character other than `=`, or one of the `pairs`,
  the operators of two characters;
* `Formula.isPiece_of_mem_pieces` : a formula has no other pieces;
* `Formula.Settled ps` : no piece forms an operator with the beginning of the next one;
* `Formula.glue_flatMap_split` : pieces that are settled come out again if they are split and glued;
* `Formula.IsNormal t` : the text is made up of settled pieces, with a space between them;
* `Formula.isNormal_normalize`, `Formula.normalize_of_isNormal` : normalizing gives texts in normal
  form and leaves these as they are;
* `Formula.normalize_idempotent` : so a formula is normalized at once.
-/

namespace PenScript.Formula

variable {a b p s t : List Char} {c : Char} {ps : List (List Char)}

/-! ## The pieces that there are -/

/-- The operators of two characters. -/
def pairs : List (List Char) :=
  [['<', '='], ['>', '='], ['=', '='], ['!', '='], ['&', '&'], ['|', '|']]

/-- A piece of a formula. -/
inductive IsPiece : List Char → Prop
  | word {w : List Char} (h : IsWord w) : IsPiece w
  | sign {c : Char} (h : isOperator c = true) (hne : c ≠ '=') : IsPiece [c]
  | pair {p : List Char} (h : p ∈ pairs) : IsPiece p

/-- Splitting gives words and operator characters. -/
theorem isWord_or_operator_of_mem_split (hp : p ∈ split s) :
    IsWord p ∨ ∃ c, isOperator c = true ∧ p = [c] := by
  induction s using text_induction with
  | nil => simp [split, addWord] at hp
  | sep c s hc ih =>
    rw [split_cons_of_isBreak hc, List.mem_append] at hp
    rcases hp with hp | hp
    · cases hb : Text.isBlank c with
      | true => simp [split_blank hb] at hp
      | false =>
        have ho : isOperator c = true := by simpa [isBreak, hb] using hc
        rw [split_operator ho, List.mem_singleton] at hp
        exact .inr ⟨c, ho, hp⟩
    · exact ih hp
  | word w s hw hs ih =>
    rw [split_word_append hw hs, List.mem_cons] at hp
    rcases hp with rfl | hp
    · exact .inl hw
    · exact ih hp

theorem join?_mem_pairs {op : List Char} (h : join? a b = some op) : op ∈ pairs := by
  unfold join? at h
  split at h <;> cases h <;> decide

theorem apart_of_mem_pairs (h : p ∈ pairs) : Apart p := by
  have hall : (pairs.all fun p => decide (Apart p)) = true := by decide
  simpa using List.all_eq_true.1 hall p h

/-- A formula is made up of words and operators. -/
theorem isPiece_of_mem_pieces (hp : p ∈ pieces s) : IsPiece p := by
  obtain ⟨q, hq, rfl⟩ := List.mem_map.1 hp
  unfold doubleEquals
  split
  · exact .pair (by decide)
  · rename_i hne
    rcases mem_glue hq with hq | ⟨a, b, hjoin⟩
    · rcases isWord_or_operator_of_mem_split hq with hq | ⟨c, hc, rfl⟩
      · exact .word hq
      · exact .sign hc (by simpa using hne)
    · exact .pair (join?_mem_pairs hjoin)

/-! ## Pieces that stay as they are -/

/-- No piece forms an operator with what the next one starts with. -/
def Settled (ps : List (List Char)) : Prop :=
  ps.IsChain fun p q => ∀ r ∈ (split q).head?, join? p r = none

theorem split_pair (h : p ∈ pairs) : ∃ a b, split p = [a, b] ∧ join? a b = some p := by
  simp only [pairs, List.mem_cons, List.not_mem_nil, or_false] at h
  rcases h with rfl | rfl | rfl | rfl | rfl | rfl <;> exact ⟨_, _, rfl, rfl⟩

theorem IsPiece.split_ne_nil (hp : IsPiece p) : split p ≠ [] := by
  cases hp with
  | word h => simp [split_of_isWord h]
  | sign h hne => simp [split_operator h]
  | pair h =>
    obtain ⟨a, b, hsplit, -⟩ := split_pair h
    simp [hsplit]

/-- Settled pieces that are split are glued to what they were. -/
theorem glue_flatMap_split (hp : ∀ p ∈ ps, IsPiece p) (hs : Settled ps) :
    glue (ps.flatMap split) = ps := by
  induction ps with
  | nil => rfl
  | cons p ps ih =>
    obtain ⟨hp, hps⟩ := List.forall_mem_cons.1 hp
    obtain ⟨hnext, hrest⟩ := List.isChain_cons.1 hs
    have ih := ih hps hrest
    rw [List.flatMap_cons]
    cases hp with
    | word h => rw [split_of_isWord h, List.singleton_append, glue_cons_of_apart h.apart, ih]
    | pair h =>
      obtain ⟨a, b, hsplit, hjoin⟩ := split_pair h
      simp [hsplit, glue, hjoin, ih]
    | sign h hne =>
      rw [split_operator h, List.singleton_append]
      cases ps with
      | nil => rfl
      | cons q qs =>
        obtain ⟨r, rs, hr⟩ := List.exists_cons_of_ne_nil (hps q List.mem_cons_self).split_ne_nil
        have hjoin : join? _ r = none := hnext q rfl r (by simp [hr])
        rw [List.flatMap_cons, hr, List.cons_append] at ih ⊢
        rw [glue, hjoin, ih]

/-! ## The pieces of a formula are settled -/

theorem join?_bang (a : List Char) : join? a ['!'] = none := by
  unfold join?
  split <;> simp_all

/-- An operator starts with its first half, but for the one that is written in two ways. -/
theorem head?_split_of_join? {op : List Char} (h : join? a b = some op) :
    (split op).head? = some a ∨ (split op).head? = some ['!'] := by
  unfold join? at h
  split at h <;> cases h <;> first | exact .inl rfl | exact .inr rfl

theorem head?_glue {q : List Char} (h : (glue (b :: ps)).head? = some q) :
    q = b ∨ ∃ c, join? b c = some q := by
  cases ps with
  | nil =>
    cases h
    exact .inl rfl
  | cons c ps =>
    rw [glue] at h
    split at h
    · rename_i op hjoin
      cases h
      exact .inr ⟨c, hjoin⟩
    · cases h
      exact .inl rfl

theorem doubleEquals_pair (h : p ∈ pairs) : doubleEquals p = p :=
  doubleEquals_of_apart (apart_of_mem_pairs h)

/-- A piece that is not glued to the next one forms no operator with what comes of that. -/
theorem join?_doubleEquals (hb : IsWord b ∨ ∃ c, isOperator c = true ∧ b = [c])
    (hjoin : join? a b = none) {q : List Char} (hq : (glue (b :: ps)).head? = some q) :
    ∀ r ∈ (split (doubleEquals q)).head?, join? (doubleEquals a) r = none := by
  intro r hr
  by_cases ha : a = ['=']
  · -- It has become an operator of two characters, which forms no other.
    have hapart : Apart (doubleEquals a) := by
      rw [ha]
      decide
    exact hapart.join?_left r
  · have hsame : doubleEquals a = a := if_neg ha
    rw [hsame]
    rcases head?_glue hq with rfl | ⟨c, hc⟩
    · suffices hr' : (split (doubleEquals q)).head? = some q by
        rw [hr'] at hr
        cases hr
        exact hjoin
      unfold doubleEquals
      split
      · rename_i heq
        rw [heq]
        rfl
      · rcases hb with hword | ⟨c, hc, rfl⟩
        · rw [split_of_isWord hword]
          rfl
        · rw [split_operator hc]
          rfl
    · rw [doubleEquals_pair (join?_mem_pairs hc)] at hr
      rcases head?_split_of_join? hc with hhead | hhead
      · rw [hhead] at hr
        cases hr
        exact hjoin
      · rw [hhead] at hr
        cases hr
        exact join?_bang a

theorem settled_glue (hps : ∀ p ∈ ps, IsWord p ∨ ∃ c, isOperator c = true ∧ p = [c]) :
    Settled ((glue ps).map doubleEquals) := by
  fun_induction glue ps with
  | case1 a b rest op hjoin ih =>
    have hop := join?_mem_pairs hjoin
    have hrest := ih fun p hp => hps p (by simp [hp])
    rw [List.map_cons, doubleEquals_pair hop]
    exact List.isChain_cons.2 ⟨fun q _ r _ => (apart_of_mem_pairs hop).join?_left r, hrest⟩
  | case2 a b rest hjoin ih =>
    have hrest := ih fun p hp => hps p (List.mem_cons_of_mem a hp)
    refine List.isChain_cons.2 ⟨fun q hq => ?_, hrest⟩
    rw [List.head?_map] at hq
    obtain ⟨q, hhead, rfl⟩ := Option.map_eq_some_iff.1 hq
    exact join?_doubleEquals (hps b (by simp)) hjoin hhead
  | case3 ps hshort =>
    cases ps with
    | nil => exact .nil
    | cons p ps =>
      cases ps with
      | nil => exact .singleton _
      | cons q rest => exact absurd rfl (hshort p q rest)

theorem settled_pieces (s : List Char) : Settled (pieces s) :=
  settled_glue fun _ => isWord_or_operator_of_mem_split

/-! ## Texts in normal form -/

/-- Settled pieces, with a space between them. -/
def IsNormal (t : List Char) : Prop :=
  ∃ ps, (∀ p ∈ ps, IsPiece p) ∧ Settled ps ∧ t = Text.unwords ps

theorem isNormal_normalize (s : List Char) : IsNormal (normalize s) :=
  ⟨pieces s, fun _ => isPiece_of_mem_pieces, settled_pieces s, rfl⟩

/-- Texts with a space between them are split one by one. -/
theorem split_unwords (ps : List (List Char)) : split (Text.unwords ps) = ps.flatMap split := by
  induction ps with
  | nil => rfl
  | cons p ps ih =>
    cases ps with
    | nil => simp [Text.unwords]
    | cons q qs =>
      have hspace : isBreak ' ' = true := by decide
      have hbroken : StartsBroken (' ' :: Text.unwords (q :: qs)) := startsBroken_cons hspace _
      rw [Text.unwords_cons_cons, split_append hbroken, split_cons_of_isBreak hspace,
        split_blank (by decide), ih, List.nil_append, ← List.flatMap_cons]

theorem doubleEquals_of_isPiece (hp : IsPiece p) : doubleEquals p = p := by
  cases hp with
  | word h => exact doubleEquals_of_apart h.apart
  | sign h hne => exact if_neg (by simpa using hne)
  | pair h => exact doubleEquals_pair h

/-- Settled pieces are the pieces of the text that they make up. -/
theorem pieces_unwords (hp : ∀ p ∈ ps, IsPiece p) (hs : Settled ps) :
    pieces (Text.unwords ps) = ps := by
  rw [pieces, split_unwords, glue_flatMap_split hp hs,
    List.map_congr_left fun p h => doubleEquals_of_isPiece (hp p h), List.map_id']

theorem normalize_of_isNormal (ht : IsNormal t) : normalize t = t := by
  obtain ⟨ps, hp, hs, rfl⟩ := ht
  rw [normalize, pieces_unwords hp hs]

/-- To normalize a formula once more changes nothing. -/
theorem normalize_idempotent (s : List Char) : normalize (normalize s) = normalize s :=
  normalize_of_isNormal (isNormal_normalize s)

example : normalize "a<>b= =c&&&(x<==1)".toList = "a != b == c && & ( x <= == 1 )".toList := by
  decide +kernel

end PenScript.Formula
