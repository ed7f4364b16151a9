import PenScript.Proofs.LineText
import PenScript.Proofs.Literals

/-!
# Cutting texts into words and at the `=`

* `Text.findIdx?_eq_some_iff_append` : a list cut at the first element of a kind;
* `Text.trim_blank_append`, `Text.trim_append_blank` : blanks in front of a text and behind it do not
  count;
* `Text.Solid w` : the text is one word, as names are (`solid_of_checkName`);
* `Text.words_append_cons`, `Text.words_unwords` : the words of a text with a blank in it, and of
  words that are written with a space between them;
* `Text.Spaced s` : the text is made up of words with one space between them;
* `splitAfter_eq_some` : what the cut at the assigning `=` finds. Before it there is no other such
  `=`, and none of the characters that make a comparison of it stands beside it;
* `splitAssignment?_append_cons` : a blank takes part in no comparison, so there is no `=` to cut at
  exactly if there is none in any word (`splitAssignment?_eq_none`).
-/

namespace PenScript

namespace Text

variable {a b s w : List Char} {c : Char} {ws : List (List Char)}

/-! ## Lists cut in two -/

theorem findIdx?_eq_some_iff_append {α : Type} {p : α → Bool} {l : List α} {i : Nat} :
    l.findIdx? p = some i ↔
      ∃ as a bs, l = as ++ a :: bs ∧ as.length = i ∧ p a = true ∧ ∀ b ∈ as, p b = false := by
  constructor
  · intro h
    obtain ⟨hi, hp, hbefore⟩ := List.findIdx?_eq_some_iff_getElem.1 h
    refine ⟨l.take i, l[i], l.drop (i + 1), ?_, by simp; omega, hp, fun b hb => ?_⟩
    · rw [← List.drop_eq_getElem_cons, List.take_append_drop]
    · obtain ⟨j, hj, rfl⟩ := List.mem_iff_getElem.1 hb
      have hji : j < i := by simp at hj; omega
      have hnot := hbefore j hji
      rw [List.getElem_take]
      simpa using hnot
  · rintro ⟨as, a, bs, rfl, rfl, hp, has⟩
    rw [List.findIdx?_append, List.findIdx?_eq_none_iff.2 has, List.findIdx?_cons, if_pos hp]
    simp

/-! ## Blanks at the ends -/

theorem trim_blank_append (ha : ∀ c ∈ a, isBlank c = true) (s : List Char) :
    trim (a ++ s) = trim s := by
  unfold trim trimStart
  rw [List.dropWhile_append_of_pos ha]

theorem trim_append_blank (hb : ∀ c ∈ b, isBlank c = true) (s : List Char) :
    trim (s ++ b) = trim s := by
  have hend : ∀ s, trimEnd (s ++ b) = trimEnd s := by
    intro s
    unfold trimEnd
    rw [List.reverse_append, List.dropWhile_append_of_pos fun c hc => hb c (List.mem_reverse.1 hc)]
  unfold trim trimStart
  rw [List.dropWhile_append]
  split
  · rename_i hs
    rw [List.isEmpty_iff.1 hs, List.dropWhile_eq_nil_iff.2 hb]
  · exact hend _

theorem isBlank_of_mem_space : ∀ c ∈ [' '], isBlank c = true := by
  intro c hc
  rw [List.mem_singleton.1 hc]
  decide

theorem Tight.trim_cons_space (hs : Tight s) : trim (' ' :: s) = s := by
  rw [← List.singleton_append, trim_blank_append isBlank_of_mem_space, hs.trim_eq]

/-! ## Words -/

/-- The text is one word. -/
def Solid (w : List Char) : Prop := w ≠ [] ∧ ∀ c ∈ w, isBlank c = false

instance (w : List Char) : Decidable (Solid w) :=
  decidable_of_iff ((!w.isEmpty && w.all fun c => !isBlank c) = true) (by simp [Solid])

theorem Solid.tight (hw : Solid w) : Tight w :=
  ⟨fun c hc => hw.2 c (List.mem_of_mem_head? hc), fun c hc => hw.2 c (List.mem_of_mem_getLast? hc)⟩

theorem Solid.hasBlank_eq (hw : Solid w) : hasBlank w = false := by
  simpa [hasBlank] using hw.2

theorem words_append_cons (hc : isBlank c = true) (a b : List Char) :
    words (a ++ c :: b) = words a ++ words b := by
  unfold words
  rw [splitBy_eq_splitOnP, splitBy_eq_splitOnP, splitBy_eq_splitOnP,
    List.splitOnP_append_cons a b hc, List.filter_append]

theorem Solid.words_eq (hw : Solid w) : words w = [w] := by
  have hpieces : w.splitOnP isBlank = [w] :=
    List.splitOnP_eq_singleton fun c hc => by simp [hw.2 c hc]
  unfold words
  rw [splitBy_eq_splitOnP, hpieces]
  simp [hw.1]

theorem words_cons_of_isBlank (hc : isBlank c = true) (s : List Char) :
    words (c :: s) = words s :=
  words_append_cons hc [] s

theorem Solid.words_append_cons (hw : Solid w) (hc : isBlank c = true) (s : List Char) :
    words (w ++ c :: s) = w :: words s := by
  rw [Text.words_append_cons hc, hw.words_eq, List.singleton_append]

theorem solid_of_mem_words (hw : w ∈ words s) : Solid w := by
  obtain ⟨hmem, hne⟩ := List.mem_filter.1 hw
  refine ⟨by simpa using hne, fun c hc => Bool.eq_false_iff.2 fun hblank => ?_⟩
  exact not_mem_of_mem_splitBy hblank hmem hc

theorem solid_of_words (h : words s = ws) : ∀ w ∈ ws, Solid w := fun _ hw =>
  solid_of_mem_words (h ▸ hw)

theorem words_unwords (h : ∀ w ∈ ws, Solid w) : words (unwords ws) = ws := by
  induction ws with
  | nil => rfl
  | cons w ws ih =>
    rw [List.forall_mem_cons] at h
    cases ws with
    | nil =>
      have : unwords [w] = w := by simp [unwords]
      rw [this, h.1.words_eq]
    | cons v ws => rw [unwords_cons_cons, h.1.words_append_cons (by decide), ih h.2]

/-- The text is made up of words, with one space between them. -/
def Spaced (s : List Char) : Prop := words s ≠ [] ∧ unwords (words s) = s

theorem spaced_unwords (h : ∀ w ∈ ws, Solid w) (hne : ws ≠ []) : Spaced (unwords ws) := by
  unfold Spaced
  rw [words_unwords h]
  exact ⟨hne, rfl⟩

end Text

/-! ## Names -/

theorem isWord_of_checkName {name : List Char} (h : checkName name = .ok ()) :
    Formula.IsWord name := Formula.isWord_of_isIdentifier (checkName_eq_ok.1 h).1

theorem solid_of_checkName {name : List Char} (h : checkName name = .ok ()) : Text.Solid name := by
  obtain ⟨hne, hbreak⟩ := isWord_of_checkName h
  refine ⟨hne, fun c hc => ?_⟩
  have := hbreak c hc
  simp only [Formula.isBreak, Bool.or_eq_false_iff] at this
  exact this.1

theorem trim_name {name w : List Char} (h : checkName name = .ok ())
    (hw : ∀ c ∈ w, Text.isBlank c = true) : Text.trim (name ++ w) = name := by
  rw [Text.trim_append_blank hw, (solid_of_checkName h).tight.trim_eq]

/-- No operator is a part of a name. -/
theorem not_mem_of_checkName {name : List Char} {c : Char} (h : checkName name = .ok ())
    (hc : Formula.isOperator c = true) : c ∉ name := by
  intro hmem
  have := (isWord_of_checkName h).2 c hmem
  simp [Formula.isBreak, hc] at this

/-! ## The assigning `=` -/

section Split

open Text (isBlank words)

variable {s a l r : List Char} {b c : Char}

theorem splitAfter_cons_eq_none : splitAfter b (c :: s) = none ↔
    ¬ (c = '=' ∧ b ∉ comparisonStarts ∧ s.head? ≠ some '=') ∧ splitAfter c s = none := by
  rw [splitAfter]
  split
  · rename_i h
    simp_all
  · rename_i h
    simp_all

/-- The first `=` that assigns, with the text on either side. -/
theorem splitAfter_eq_some : splitAfter b s = some (l, r) ↔ s = l ++ '=' :: r ∧
    splitAfter b l = none ∧ l.getLastD b ∉ comparisonStarts ∧ r.head? ≠ some '=' := by
  constructor
  · intro h
    induction s generalizing b l with
    | nil => cases h
    | cons c s ih =>
      rw [splitAfter] at h
      split at h
      · rename_i hc
        cases h
        obtain ⟨rfl, hb, hr⟩ := hc
        exact ⟨rfl, rfl, by simpa using hb, hr⟩
      · rename_i hc
        obtain ⟨⟨l, r'⟩, hsplit, heq⟩ := Option.map_eq_some_iff.1 h
        cases heq
        obtain ⟨rfl, hnone, hlast, hr⟩ := ih hsplit
        refine ⟨rfl, splitAfter_cons_eq_none.2 ⟨?_, hnone⟩, by rwa [List.getLastD_cons], hr⟩
        rintro ⟨rfl, hb, hhead⟩
        -- Another `=` right behind this one stands before the one that assigns, or is it.
        cases l with
        | nil => exact hlast (by simp [comparisonStarts])
        | cons d l => exact hc ⟨rfl, by simpa using hb, hhead⟩
  · rintro ⟨rfl, hnone, hlast, hr⟩
    induction l generalizing b with
    | nil =>
      rw [List.nil_append, splitAfter, if_pos]
      exact ⟨rfl, by simpa using hlast, hr⟩
    | cons c l ih =>
      obtain ⟨hc, hnone⟩ := splitAfter_cons_eq_none.1 hnone
      rw [List.getLastD_cons] at hlast
      rw [List.cons_append, splitAfter, if_neg, ih hnone hlast]
      · rfl
      · rintro ⟨rfl, hb, hhead⟩
        cases l with
        | nil => exact hhead rfl
        | cons d l => exact hc ⟨rfl, by simpa using hb, hhead⟩

theorem splitAfter_of_not_mem (h : '=' ∉ s) (b : Char) : splitAfter b s = none := by
  cases hs : splitAfter b s with
  | none => rfl
  | some p =>
    obtain ⟨rfl, -⟩ := splitAfter_eq_some.1 hs
    simp at h

theorem not_mem_comparisonStarts_of_isBlank (hc : isBlank c = true) : c ∉ comparisonStarts := by
  have hall : (comparisonStarts.all fun c => !isBlank c) = true := by decide
  intro hmem
  have := List.all_eq_true.1 hall c hmem
  simp [hc] at this

/-- What stands before a text counts only if it makes a comparison of an `=` there. -/
theorem splitAfter_congr (hb : b ∉ comparisonStarts) (hc : c ∉ comparisonStarts) (s : List Char) :
    splitAfter b s = splitAfter c s := by
  cases s with
  | nil => rfl
  | cons d s => simp [splitAfter, hb, hc]

/-- A blank takes part in no comparison. -/
theorem splitAfter_append_cons (hc : isBlank c = true) :
    splitAfter b (a ++ c :: s) = none ↔ splitAfter b a = none ∧ splitAssignment? s = none := by
  have hcs : c ∉ comparisonStarts := not_mem_comparisonStarts_of_isBlank hc
  have hne : c ≠ '=' := by
    rintro rfl
    exact hcs (by decide)
  induction a generalizing b with
  | nil =>
    rw [List.nil_append, splitAfter_cons_eq_none, splitAssignment?,
      splitAfter_congr hcs (by decide : ' ' ∉ comparisonStarts)]
    simp [hne, splitAfter]
  | cons d a ih =>
    have hrest : splitAfter d (a ++ c :: s) = none ↔
        splitAfter d a = none ∧ splitAssignment? s = none := ih
    rw [List.cons_append, splitAfter_cons_eq_none, splitAfter_cons_eq_none, hrest, and_assoc]
    cases a with
    | nil => simp [hne]
    | cons e a => rfl

theorem splitAssignment?_append_cons (hc : isBlank c = true) :
    splitAssignment? (a ++ c :: s) = none ↔
      splitAssignment? a = none ∧ splitAssignment? s = none :=
  splitAfter_append_cons hc

theorem splitAssignment?_eq_none :
    splitAssignment? s = none ↔ ∀ w ∈ words s, splitAssignment? w = none := by
  induction hn : s.length using Nat.strong_induction_on generalizing s with
  | _ n ih =>
  by_cases hblank : ∃ c ∈ s, isBlank c = true
  · obtain ⟨c, hmem, hc⟩ := hblank
    obtain ⟨a, b, rfl⟩ := List.append_of_mem hmem
    have hlength : (a ++ c :: b).length = a.length + b.length + 1 := by simp; omega
    rw [splitAssignment?_append_cons hc, ih a.length (by omega) rfl, ih b.length (by omega) rfl,
      Text.words_append_cons hc, List.forall_mem_append]
  · cases s with
    | nil => simp [splitAssignment?, splitAfter, words, Text.splitBy]
    | cons c s =>
      have hsolid : Text.Solid (c :: s) :=
        ⟨by simp, fun d hd => Bool.eq_false_iff.2 fun h => hblank ⟨d, hd, h⟩⟩
      rw [hsolid.words_eq, List.forall_mem_singleton]

theorem splitAssignment?_of_checkName (h : checkName a = .ok ()) : splitAssignment? a = none :=
  splitAfter_of_not_mem (not_mem_of_checkName h (by decide)) ' '

/-- An `=` between spaces assigns, unless another does before it. -/
theorem splitAssignment?_spaced (h : splitAssignment? a = none) (s : List Char) :
    splitAssignment? (a ++ ' ' :: '=' :: ' ' :: s) = some (a ++ [' '], ' ' :: s) := by
  have hnone : splitAfter ' ' (a ++ [' ']) = none :=
    (splitAfter_append_cons (by decide)).2 ⟨h, rfl⟩
  refine splitAfter_eq_some.2 ⟨by simp, hnone, ?_, by simp⟩
  simp [comparisonStarts]

end Split

end PenScript
