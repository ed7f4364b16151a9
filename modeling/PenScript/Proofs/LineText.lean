import Mathlib.Data.List.TakeWhile
import PenScript.Script.Line

/-!
# The texts that lines are cut into

* `Text.Tight s` : the text has no blank at either end, which is what `trim` sees to;
* `Text.lines_intercalate` : texts joined by line feeds are the lines of what they make up;
* `ScriptLine.Clean s` : commas stand only inside quotes, which is what `blankCommas` sees to;
* `ScriptLine.Cut l` : the text of the line is tight and clean, and the line is cut as it says;
* `ScriptLine.Cut.params` : what stands behind a keyword is tight and clean;
* `ScriptLine.Cut.read?_text`, `ScriptLine.read?_joined` : the text of a line, and a keyword with
  what stands behind it, read like the line that they were cut from.
-/

namespace PenScript

namespace Text

variable {s a b : List Char} {c : Char}

/-! ## Blanks at the ends -/

/-- The text has no blank at either end. -/
def Tight (s : List Char) : Prop :=
  (∀ c, s.head? = some c → isBlank c = false) ∧ ∀ c, s.getLast? = some c → isBlank c = false

theorem tight_nil : Tight [] := ⟨fun _ h => (nomatch h), fun _ h => (nomatch h)⟩

theorem head?_dropWhile_blank (h : (s.dropWhile isBlank).head? = some c) : isBlank c = false := by
  have := List.head?_dropWhile_not isBlank s
  rw [h] at this
  exact this

theorem trimEnd_prefix (s : List Char) : trimEnd s <+: s := by
  have h : (s.reverse.dropWhile isBlank) <:+ s.reverse := List.dropWhile_suffix _
  simpa [trimEnd] using List.reverse_prefix.2 h

theorem tight_trim (s : List Char) : Tight (trim s) := by
  constructor
  · intro c hc
    obtain ⟨rest, hrest⟩ := trimEnd_prefix (trimStart s)
    have hstart : (trimStart s).head? = some c := by
      rw [← hrest, List.head?_append]
      unfold trim at hc
      rw [hc]
      rfl
    exact head?_dropWhile_blank hstart
  · intro c hc
    unfold trim trimEnd at hc
    rw [List.getLast?_reverse] at hc
    exact head?_dropWhile_blank hc

theorem dropWhile_blank_of_head? (h : ∀ c, s.head? = some c → isBlank c = false) :
    s.dropWhile isBlank = s := by
  cases s with
  | nil => rfl
  | cons c rest => rw [List.dropWhile_cons_of_neg (by simp [h c rfl])]

theorem Tight.trim_eq (h : Tight s) : trim s = s := by
  have hend : s.reverse.dropWhile isBlank = s.reverse :=
    dropWhile_blank_of_head? fun c hc => h.2 c (by rwa [List.head?_reverse] at hc)
  unfold trim trimStart trimEnd
  rw [dropWhile_blank_of_head? h.1, hend, List.reverse_reverse]

/-- Tight texts, with anything between them. -/
theorem Tight.around (ha : Tight a) (hb : Tight b) (hne : a ≠ []) (hne' : b ≠ [])
    (mid : List Char) : Tight (a ++ mid ++ b) := by
  constructor
  · intro c hc
    obtain ⟨d, rest, rfl⟩ := List.exists_cons_of_ne_nil hne
    exact ha.1 c hc
  · intro c hc
    have hlast := List.getLast?_eq_some_getLast hne'
    rw [List.getLast?_append, hlast] at hc
    exact hb.2 c (hlast.trans hc)

/-- What is cut off is blank. -/
theorem exists_trim (s : List Char) : ∃ before behind, s = before ++ trim s ++ behind ∧
    (∀ c ∈ before, isBlank c = true) ∧ ∀ c ∈ behind, isBlank c = true := by
  refine ⟨s.takeWhile isBlank, ((trimStart s).reverse.takeWhile isBlank).reverse, ?_, ?_, ?_⟩
  · have hend : trim s ++ ((trimStart s).reverse.takeWhile isBlank).reverse = trimStart s := by
      unfold trim trimEnd
      rw [← List.reverse_append, List.takeWhile_append_dropWhile, List.reverse_reverse]
    rw [List.append_assoc, hend, trimStart, List.takeWhile_append_dropWhile]
  · intro c hc
    exact List.mem_takeWhile_imp hc
  · intro c hc
    exact List.mem_takeWhile_imp (List.mem_reverse.1 hc)

theorem mem_of_mem_trim (h : c ∈ trim s) : c ∈ s := by
  obtain ⟨before, behind, hs, -⟩ := exists_trim s
  rw [hs]
  simp [h]

/-- A text that starts with no blank keeps its start. -/
theorem head?_trim (h : isBlank c = false) (hs : s.head? = some c) : (trim s).head? = some c := by
  obtain ⟨before, behind, heq, hbefore, hbehind⟩ := exists_trim s
  rw [heq] at hs
  cases before with
  | cons d before =>
    cases hs
    rw [hbefore c (by simp)] at h
    cases h
  | nil =>
    cases htrim : trim s with
    | cons d rest =>
      rw [htrim] at hs
      exact hs
    | nil =>
      rw [htrim] at hs
      have hmem : c ∈ behind := List.mem_of_mem_head? hs
      rw [hbehind c hmem] at h
      cases h

/-! ## The first word -/

theorem cutAtBlank_of_not_mem (h : ∀ c ∈ s, isBlank c = false) : cutAtBlank s = none := by
  have hall : s.dropWhile (fun c => !isBlank c) = [] := by
    rw [List.dropWhile_eq_nil_iff]
    intro c hc
    simp [h c hc]
  unfold cutAtBlank
  rw [hall]

theorem cutAtBlank_append (h : ∀ c ∈ a, isBlank c = false) (hc : isBlank c = true) :
    cutAtBlank (a ++ c :: b) = some (a, b) := by
  have ha : ∀ d ∈ a, (!isBlank d) = true := fun d hd => by simp [h d hd]
  have hdrop : (a ++ c :: b).dropWhile (fun c => !isBlank c) = c :: b := by
    rw [List.dropWhile_append_of_pos ha, List.dropWhile_cons_of_neg (by simp [hc])]
  have htake : (a ++ c :: b).takeWhile (fun c => !isBlank c) = a := by
    rw [List.takeWhile_append_of_pos ha, List.takeWhile_cons_of_neg (by simp [hc]),
      List.append_nil]
  unfold cutAtBlank
  rw [hdrop, htake]

theorem exists_cutAtBlank (h : cutAtBlank s = some (a, b)) :
    ∃ c, isBlank c = true ∧ s = a ++ c :: b := by
  unfold cutAtBlank at h
  cases hdrop : s.dropWhile (fun c => !isBlank c) with
  | nil => rw [hdrop] at h; cases h
  | cons c rest =>
    rw [hdrop] at h
    cases h
    have hc := List.head?_dropWhile_not (fun c => !isBlank c) s
    rw [hdrop] at hc
    refine ⟨c, by simpa using hc, ?_⟩
    rw [← hdrop, List.takeWhile_append_dropWhile]

/-! ## Lines -/

theorem splitBy_eq_splitOnP (p : Char → Bool) (s : List Char) : splitBy p s = s.splitOnP p := by
  induction s with
  | nil => rfl
  | cons c s ih =>
    unfold splitBy at ih ⊢
    rw [List.foldr_cons, ih, List.splitOnP_cons_eq_if_modifyHead]
    cases hs : s.splitOnP p with
    | nil => exact absurd hs (List.splitOnP_ne_nil p s)
    | cons w ws => rfl

theorem not_mem_of_mem_splitBy {p : Char → Bool} {piece : List Char} (hc : p c = true) :
    ∀ {s}, piece ∈ splitBy p s → c ∉ piece := by
  intro s
  rw [splitBy_eq_splitOnP]
  induction s generalizing piece with
  | nil =>
    intro h
    simp at h
    simp [h]
  | cons d s ih =>
    intro h
    rw [List.splitOnP_cons_eq_if_modifyHead] at h
    split at h
    · rcases List.mem_cons.1 h with rfl | h
      · simp
      · exact ih h
    · rename_i hd
      cases hs : s.splitOnP p with
      | nil => exact absurd hs (List.splitOnP_ne_nil p s)
      | cons w ws =>
        rw [hs] at h ih
        rcases List.mem_cons.1 h with rfl | h
        · have hw := ih List.mem_cons_self
          simp only [List.mem_cons, not_or]
          exact ⟨fun heq => hd (heq ▸ hc), hw⟩
        · exact ih (List.mem_cons_of_mem w h)

theorem mem_of_mem_dropReturn (h : c ∈ dropReturn s) : c ∈ s := by
  unfold dropReturn at h
  split at h
  · rename_i rest hrest
    rw [← List.mem_reverse, hrest]
    exact List.mem_cons_of_mem _ (List.mem_reverse.1 h)
  · exact h

theorem dropReturn_of_tight (h : Tight s) : dropReturn s = s := by
  unfold dropReturn
  split
  · rename_i rest hrest
    have hlast : s.getLast? = some '\r' := by
      rw [← List.head?_reverse, hrest]
      rfl
    exact absurd (h.2 _ hlast) (by decide)
  · rfl

/-- No line holds a line feed. -/
theorem not_mem_of_mem_lines {line : List Char} (h : line ∈ lines s) : '\n' ∉ line := by
  have hpieces : ∀ piece ∈ splitBy (· == '\n') s, '\n' ∉ piece :=
    fun piece => not_mem_of_mem_splitBy rfl
  unfold lines at h
  split at h
  · cases h
  · rename_i last ended hpieces'
    have hmem : ∀ piece ∈ last :: ended, '\n' ∉ piece := by
      intro piece hpiece
      refine hpieces piece ?_
      rwa [← List.mem_reverse, hpieces']
    rcases List.mem_append.1 h with h | h
    · obtain ⟨piece, hpiece, rfl⟩ := List.mem_map.1 (List.mem_reverse.1 h)
      exact fun hc => hmem piece (List.mem_cons_of_mem _ hpiece) (mem_of_mem_dropReturn hc)
    · split at h
      · cases h
      · rw [List.mem_singleton.1 h]
        exact hmem last List.mem_cons_self

/-- Texts that are tight and not empty are the lines of what they make up. -/
theorem lines_intercalate {ls : List (List Char)}
    (h : ∀ l ∈ ls, '\n' ∉ l ∧ Tight l ∧ l ≠ []) : lines (List.intercalate ['\n'] ls) = ls := by
  by_cases hls : ls = []
  · rw [hls]
    rfl
  have hsplit : splitBy (· == '\n') (List.intercalate ['\n'] ls) = ls := by
    rw [splitBy_eq_splitOnP, ← List.splitOn_eq_splitOnP]
    exact List.splitOn_intercalate '\n' (fun l hl => (h l hl).1) hls
  unfold lines
  rw [hsplit]
  cases hrev : ls.reverse with
  | nil => exact absurd (List.reverse_eq_nil_iff.1 hrev) hls
  | cons last ended =>
    have hmem : ∀ l ∈ last :: ended, l ∈ ls := fun l hl => by rwa [← List.mem_reverse, hrev]
    have hended : ended.map dropReturn = ended := by
      rw [List.map_congr_left (g := id), List.map_id]
      exact fun l hl => dropReturn_of_tight (h l (hmem l (List.mem_cons_of_mem _ hl))).2.1
    have hlast : last ≠ [] := (h last (hmem last List.mem_cons_self)).2.2
    have hempty : last.isEmpty = false := by simpa using hlast
    dsimp only
    rw [hended, hempty, ← List.reverse_reverse ls, hrev, List.reverse_cons]
    rfl

/-! ## Lower case -/

/-- A character without a lower case of its own stays. -/
theorem mem_lower (hsigma : c ≠ capitalSigma) (hlower : c ∈ lowerChar c) (h : c ∈ s) :
    c ∈ lower s := by
  have hafter : ∀ before, c ∈ lowerAfter before s := by
    induction s with
    | nil => cases h
    | cons d s ih =>
      intro before
      unfold lowerAfter
      rcases List.mem_cons.1 h with rfl | h
      · rw [if_neg hsigma]
        exact List.mem_append_left _ hlower
      · exact List.mem_append_right _ (ih h _)
  exact hafter []

theorem quote_mem_lower (h : '\x22' ∈ s) : '\x22' ∈ lower s := mem_lower (by decide) (by decide) h

end Text

namespace ScriptLine

open Text (Tight trim isBlank)

variable {s a b : List Char}

/-! ## Commas -/

/-- Whether a text that starts inside quotes or not ends inside them. -/
def quotedAfter (quoted : Bool) (s : List Char) : Bool :=
  s.foldl (fun quoted c => if c = '\x22' then !quoted else quoted) quoted

theorem quotedAfter_of_not_mem (h : '\x22' ∉ s) (quoted : Bool) : quotedAfter quoted s = quoted := by
  induction s with
  | nil => rfl
  | cons c s ih =>
    simp only [List.mem_cons, not_or] at h
    rw [quotedAfter, List.foldl_cons, if_neg (Ne.symm h.1)]
    exact ih h.2

theorem blankCommas_append (quoted : Bool) (a b : List Char) : blankCommas quoted (a ++ b) =
    blankCommas quoted a ++ blankCommas (quotedAfter quoted a) b := by
  induction a generalizing quoted with
  | nil => rfl
  | cons c a ih =>
    rw [List.cons_append, blankCommas, blankCommas, quotedAfter, List.foldl_cons]
    split
    · rw [ih, quotedAfter, List.cons_append]
    · rw [ih, quotedAfter, List.cons_append]

@[simp] theorem length_blankCommas (quoted : Bool) (s : List Char) :
    (blankCommas quoted s).length = s.length := by
  induction s generalizing quoted with
  | nil => rfl
  | cons c s ih =>
    unfold blankCommas
    split <;> simp [ih]

theorem blankCommas_idem (quoted : Bool) (s : List Char) :
    blankCommas quoted (blankCommas quoted s) = blankCommas quoted s := by
  induction s generalizing quoted with
  | nil => rfl
  | cons c s ih =>
    by_cases hc : c = '\x22'
    · simp only [blankCommas, if_pos hc, ih]
    · by_cases hcomma : c = ',' ∧ !quoted
      · simp [blankCommas, hcomma, ih]
      · simp only [blankCommas, if_neg hc, if_neg hcomma, ih]

/-- Cleaning adds nothing but spaces. -/
theorem mem_of_mem_blankCommas {c : Char} {quoted : Bool} (h : c ∈ blankCommas quoted s) :
    c ∈ s ∨ c = ' ' := by
  induction s generalizing quoted with
  | nil => cases h
  | cons d s ih =>
    unfold blankCommas at h
    split at h
    · rcases List.mem_cons.1 h with rfl | h
      · exact .inl List.mem_cons_self
      · exact (ih h).imp_left (List.mem_cons_of_mem d)
    · rcases List.mem_cons.1 h with rfl | h
      · split
        · exact .inr rfl
        · exact .inl List.mem_cons_self
      · exact (ih h).imp_left (List.mem_cons_of_mem d)

/-- Commas stand only inside quotes. -/
def Clean (s : List Char) : Prop := blankCommas false s = s

theorem Clean.left (h : Clean (a ++ b)) : Clean a := by
  unfold Clean at h
  rw [blankCommas_append] at h
  exact (List.append_inj h (length_blankCommas false a)).1

theorem Clean.right (h : Clean (a ++ b)) (ha : '\x22' ∉ a) : Clean b := by
  unfold Clean at h
  rw [blankCommas_append, quotedAfter_of_not_mem ha] at h
  exact (List.append_inj h (length_blankCommas false a)).2

theorem Clean.append (ha : Clean a) (hb : Clean b) (hquote : '\x22' ∉ a) : Clean (a ++ b) := by
  unfold Clean
  rw [blankCommas_append, quotedAfter_of_not_mem hquote, ha, hb]

theorem quote_not_mem_of_blank (h : ∀ c ∈ s, isBlank c = true) : '\x22' ∉ s := by
  intro hmem
  exact absurd (h _ hmem) (by decide)

theorem Clean.trim (h : Clean s) : Clean (trim s) := by
  obtain ⟨before, behind, hs, hbefore, -⟩ := Text.exists_trim s
  rw [hs] at h
  exact h.left.right (quote_not_mem_of_blank hbefore)

/-! ## The first word of a line -/

/-- The word before the first blanks, and the rest without blanks around it. -/
theorem exists_cutWord (s : List Char) : ∃ before behind,
    s = (cutWord s).1 ++ before ++ (cutWord s).2 ++ behind ∧ (∀ c ∈ before, isBlank c = true) := by
  unfold cutWord
  cases hcut : Text.cutAtBlank s with
  | none => exact ⟨[], [], by simp, by simp⟩
  | some r =>
    obtain ⟨word, rest⟩ := r
    obtain ⟨c, hc, hs⟩ := Text.exists_cutAtBlank hcut
    obtain ⟨before, behind, hrest, hbefore, -⟩ := Text.exists_trim rest
    refine ⟨c :: before, behind, ?_, ?_⟩
    · calc s = word ++ c :: (before ++ trim rest ++ behind) := by rw [← hrest, hs]
        _ = word ++ c :: before ++ trim rest ++ behind := by simp
    · intro d hd
      rcases List.mem_cons.1 hd with rfl | hd
      · exact hc
      · exact hbefore d hd

theorem tight_cutWord (s : List Char) : Tight (cutWord s).2 := by
  unfold cutWord
  split
  · exact Text.tight_trim _
  · exact Text.tight_nil

theorem clean_cutWord (h : Clean s) (hquote : '\x22' ∉ (cutWord s).1) : Clean (cutWord s).2 := by
  obtain ⟨before, behind, hs, hbefore⟩ := exists_cutWord s
  rw [hs] at h
  refine h.left.right ?_
  simp only [List.mem_append, not_or]
  exact ⟨hquote, quote_not_mem_of_blank hbefore⟩

theorem mem_of_mem_cutWord {c : Char} (h : c ∈ (cutWord s).2) : c ∈ s := by
  obtain ⟨before, behind, hs, -⟩ := exists_cutWord s
  rw [hs]
  simp [h]

theorem cutWord_of_not_mem (h : ∀ c ∈ s, isBlank c = false) : cutWord s = (s, []) := by
  unfold cutWord
  rw [Text.cutAtBlank_of_not_mem h]

theorem cutWord_append (h : ∀ c ∈ a, isBlank c = false) (hb : Tight b) :
    cutWord (a ++ ' ' :: b) = (a, b) := by
  unfold cutWord
  rw [Text.cutAtBlank_append h (by decide)]
  dsimp only
  rw [hb.trim_eq]

end ScriptLine

/-! ## Keywords and parameters -/

namespace Keyword

theorem word_eq_of_ofWord? {w : String} {k : Keyword} (h : ofWord? w = some k) : k.word = w := by
  simpa using List.find?_some h

theorem mem_all (k : Keyword) : k ∈ all := by
  cases k <;> simp [all]

/-- What the table of the keywords shows holds of each of them. -/
theorem of_all {test : Keyword → Bool} (h : all.all test = true) (k : Keyword) : test k = true :=
  List.all_eq_true.1 h k k.mem_all

theorem ofWord?_word (k : Keyword) : ofWord? k.word = some k := by
  have htable : all.all (fun k => ofWord? k.word == some k) = true := by decide +kernel
  simpa using of_all htable k

/-- A keyword has no blank, quote, comma, slash or line feed in it. -/
theorem word_plain (k : Keyword) : ∀ c ∈ k.word.toList,
    Text.isBlank c = false ∧ c ≠ '\x22' ∧ c ≠ ',' ∧ c ≠ '/' ∧ c ≠ '\n' := by
  have htable : all.all (fun k => k.word.toList.all fun c =>
      !Text.isBlank c && c != '\x22' && c != ',' && c != '/' && c != '\n') = true := by
    decide +kernel
  intro c hc
  have hplain := List.all_eq_true.1 (of_all htable k) c hc
  simpa [and_assoc] using hplain

theorem toList_word_ne_nil (k : Keyword) : k.word.toList ≠ [] := by
  have htable : all.all (fun k => !k.word.toList.isEmpty) = true := by decide +kernel
  simpa using of_all htable k

theorem lower_word (k : Keyword) : Text.lower k.word.toList = k.word.toList := by
  have htable : all.all (fun k => Text.lower k.word.toList == k.word.toList) = true := by
    decide +kernel
  exact beq_iff_eq.1 (of_all htable k)

theorem word_ne_end (k : Keyword) : k.word ≠ "end" := by
  have htable : all.all (fun k => k.word != "end") = true := by decide +kernel
  exact bne_iff_ne.1 (of_all htable k)

theorem quote_not_mem_word (k : Keyword) : '\x22' ∉ k.word.toList :=
  fun h => (k.word_plain _ h).2.1 rfl

theorem tight_word (k : Keyword) : Text.Tight k.word.toList := by
  refine ⟨fun c hc => ?_, fun c hc => ?_⟩
  · exact (k.word_plain c (List.mem_of_mem_head? hc)).1
  · exact (k.word_plain c (List.mem_of_getLast? hc)).1

end Keyword

namespace ScriptLine

open Text (Tight trim isBlank)

theorem blankCommas_of_not_mem {s : List Char} (h : ',' ∉ s) (quoted : Bool) :
    blankCommas quoted s = s := by
  induction s generalizing quoted with
  | nil => rfl
  | cons c s ih =>
    simp only [List.mem_cons, not_or] at h
    have hc : ¬(c = ',' ∧ !quoted) := fun hc => h.1 hc.1.symm
    simp only [blankCommas, if_neg hc, ih h.2, ite_self]

theorem clean_word (k : Keyword) : Clean k.word.toList :=
  blankCommas_of_not_mem (fun h => (k.word_plain _ h).2.2.1 rfl) false

/-- The text of the line is tight and clean, and the line is cut as it says. -/
structure Cut (l : ScriptLine) : Prop where
  tight : Tight l.text.toList
  clean : Clean l.text.toList
  parts : keywordAndParams l.text.toList = (l.keyword, l.params.toList)

theorem cut_of_read? {text : String} {number : Nat} {l : ScriptLine}
    (h : read? text number = some l) :
    l.Cut ∧ ∀ c ∈ l.text.toList, c ∈ text.toList ∨ c = ' ' := by
  unfold read? at h
  dsimp only at h
  split at h
  · cases h
  · obtain rfl := Option.some.inj h
    refine ⟨⟨?_, ?_, ?_⟩, ?_⟩
    · rw [String.toList_ofList]
      exact Text.tight_trim _
    · rw [String.toList_ofList]
      exact Clean.trim (blankCommas_idem false _)
    · rw [String.toList_ofList, String.toList_ofList]
    · intro c hc
      rw [String.toList_ofList] at hc
      exact (mem_of_mem_blankCommas (Text.mem_of_mem_trim hc)).imp_left Text.mem_of_mem_trim

theorem quote_not_mem_of_lower {w : List Char} {word : String}
    (h : String.ofList (Text.lower w) = word) (hword : '\x22' ∉ word.toList) : '\x22' ∉ w := by
  intro hw
  rw [← h, String.toList_ofList] at hword
  exact hword (Text.quote_mem_lower hw)

theorem quote_not_mem_blockWords {word : String} (h : blockWords.contains word = true) :
    '\x22' ∉ word.toList := by
  have hall : ∀ w ∈ blockWords, '\x22' ∉ w.toList := by decide +kernel
  exact hall word (List.contains_iff_mem.1 h)

namespace Cut

variable {l : ScriptLine}

/-- The text of a line that has one reads like the line. -/
theorem read?_text (h : l.Cut) (hne : l.text.toList ≠ [])
    (hcomment : isComment l.text.toList = false) (number : Nat) :
    read? l.text number = some { l with number := number } := by
  have hempty : l.text.toList.isEmpty = false := by simpa using hne
  have hclean : blankCommas false l.text.toList = l.text.toList := h.clean
  unfold read?
  dsimp only
  rw [h.tight.trim_eq, hempty, hcomment, hclean, h.tight.trim_eq, h.parts, String.ofList_toList,
    String.ofList_toList]
  rfl

/-- What stands behind a keyword is tight and clean. -/
theorem params (h : l.Cut) {k : Keyword} (hk : Keyword.ofWord? l.keyword = some k) :
    Tight l.params.toList ∧ Clean l.params.toList ∧
      ∀ c ∈ l.params.toList, c ∈ l.text.toList := by
  have hword := Keyword.word_eq_of_ofWord? hk
  have hparts := h.parts
  unfold keywordAndParams at hparts
  dsimp only at hparts
  split at hparts
  · -- the word `end` and a word that makes a keyword of it
    rename_i hend
    have hhead := quote_not_mem_of_lower hend.1 (by decide +kernel)
    have hnext := quote_not_mem_of_lower rfl (quote_not_mem_blockWords hend.2)
    rw [← (Prod.mk.inj hparts).2]
    exact ⟨tight_cutWord _, clean_cutWord (clean_cutWord h.clean hhead) hnext,
      fun c hc => mem_of_mem_cutWord (mem_of_mem_cutWord hc)⟩
  · obtain ⟨hkeyword, hparams⟩ := Prod.mk.inj hparts
    have hhead := quote_not_mem_of_lower (hkeyword.trans hword.symm) k.quote_not_mem_word
    rw [← hparams]
    exact ⟨tight_cutWord _, clean_cutWord h.clean hhead, fun c hc => mem_of_mem_cutWord hc⟩

end Cut

/-- A keyword and what stands behind it, as one text. -/
def joined (k : Keyword) (params : String) : String :=
  if params.isEmpty then k.word else k.word ++ " " ++ params

theorem keywordAndParams_joined (k : Keyword) {params : String} (h : Tight params.toList) :
    keywordAndParams (joined k params).toList = (k.word, params.toList) := by
  have hblank : ∀ c ∈ k.word.toList, isBlank c = false := fun c hc => (k.word_plain c hc).1
  have hcut : cutWord (joined k params).toList = (k.word.toList, params.toList) := by
    unfold joined
    split
    · rename_i hempty
      rw [cutWord_of_not_mem hblank, String.isEmpty_iff.1 hempty]
      rfl
    · rw [String.toList_append, String.toList_append, List.append_assoc]
      exact cutWord_append hblank h
  have hlower : String.ofList (Text.lower k.word.toList) = k.word := by
    rw [k.lower_word, String.ofList_toList]
  unfold keywordAndParams
  rw [hcut]
  dsimp only
  rw [hlower, if_neg fun hend => k.word_ne_end hend.1]

theorem cut_joined (k : Keyword) {params : String} (ht : Tight params.toList)
    (hc : Clean params.toList) (number : Nat) :
    Cut ⟨k.word, params, joined k params, number⟩ := by
  refine ⟨?_, ?_, keywordAndParams_joined k ht⟩
  · unfold joined
    split
    · exact k.tight_word
    · rename_i hempty
      have hne : params.toList ≠ [] := by
        rw [ne_eq, String.toList_eq_nil_iff, ← String.isEmpty_iff]
        exact hempty
      rw [String.toList_append, String.toList_append]
      exact k.tight_word.around ht k.toList_word_ne_nil hne _
  · unfold joined
    split
    · exact clean_word k
    · rw [String.toList_append, String.toList_append]
      refine ((clean_word k).append ?_ k.quote_not_mem_word).append hc ?_
      · exact blankCommas_of_not_mem (by decide +kernel) false
      · rw [List.mem_append, not_or]
        exact ⟨k.quote_not_mem_word, by decide +kernel⟩

/-- A keyword and what stands behind it read as that. -/
theorem read?_joined (k : Keyword) {params : String} (ht : Tight params.toList)
    (hc : Clean params.toList) (number : Nat) :
    read? (joined k params) number = some ⟨k.word, params, joined k params, number⟩ := by
  obtain ⟨c, rest, hword⟩ := List.exists_cons_of_ne_nil k.toList_word_ne_nil
  have hslash : c ≠ '/' := by
    refine (k.word_plain c ?_).2.2.2.1
    rw [hword]
    exact List.mem_cons_self
  have hhead : ∃ tail, (joined k params).toList = c :: tail := by
    unfold joined
    split
    · exact ⟨rest, hword⟩
    · rw [String.toList_append, String.toList_append, hword]
      exact ⟨_, rfl⟩
  obtain ⟨tail, htail⟩ := hhead
  refine (cut_joined k ht hc number).read?_text ?_ ?_ number
  · rw [htail]
    exact List.cons_ne_nil c tail
  · rw [htail, isComment]
    rintro rest' heq
    cases heq
    exact hslash rfl

end ScriptLine

end PenScript
