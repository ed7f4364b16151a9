import PenScript.Proofs.Literals
import PenScript.Proofs.StoreTypes

/-!
# Writing the value in place of the variable

* `Formula.quote_not_mem_readPiece` : nothing that is filled in brings quotes into a formula, so its
  reading is scanned piece by piece (`Formula.scan_reading`);
* `Formula.split_literal` : the text of a whole number or a truth value has the same tokens as its
  pieces, and these are read as they are;
* `Formula.evaluate_replaceWord` : a formula with the text of a variable's value in place of the
  variable has the same tokens, hence the same value or none.
-/

namespace PenScript.Formula

open Calc

variable {c : Char} {s p x : List Char} {ps : List (List Char)} {store : Store} {v : Value}
  {t name : String}

/-! ## Quotes -/

theorem mem_of_mem_split (hp : p ∈ split s) (hc : c ∈ p) : c ∈ s := by
  induction s using text_induction with
  | nil => simp [split, addWord] at hp
  | sep d s hd ih =>
    rw [split_cons_of_isBreak hd, List.mem_append] at hp
    rcases hp with hp | hp
    · have : p = [d] := by
        cases hb : Text.isBlank d with
        | true => simp [split_blank hb] at hp
        | false =>
          have ho : isOperator d = true := by simpa [isBreak, hb] using hd
          simpa [split_operator ho] using hp
      subst this
      simp only [List.mem_singleton] at hc
      simp [hc]
    · exact List.mem_cons_of_mem d (ih hp)
  | word w s hw hs ih =>
    rw [split_word_append hw hs, List.mem_cons] at hp
    rcases hp with rfl | hp
    · exact List.mem_append_left s hc
    · exact List.mem_append_right w (ih hp)

theorem quote_not_mem_join? {a b op : List Char} (h : join? a b = some op) : '\x22' ∉ op := by
  unfold join? at h
  split at h <;> cases h <;> decide

theorem quote_not_mem_pieces (hs : '\x22' ∉ s) (hp : p ∈ pieces s) : '\x22' ∉ p := by
  obtain ⟨q, hq, rfl⟩ := List.mem_map.1 hp
  unfold doubleEquals
  split
  · decide
  · rcases mem_glue hq with hq | ⟨a, b, hjoin⟩
    · exact fun hc => hs (mem_of_mem_split hq hc)
    · exact quote_not_mem_join? hjoin

theorem quote_not_mem_connective (hp : '\x22' ∉ p) : '\x22' ∉ connective p := by
  unfold connective
  dsimp only
  split
  · decide
  · split
    · decide
    · split
      · decide
      · split
        · rename_i h
          rcases h with h | h <;> rw [h] <;> decide
        · exact hp

theorem quote_not_mem_readPiece (hp : '\x22' ∉ p) (toReal : Bool) :
    '\x22' ∉ readPiece store toReal p := by
  unfold readPiece
  dsimp only
  split
  · cases hfill : fillIn? store toReal p with
    | none => exact quote_not_mem_connective hp
    | some text =>
      obtain ⟨v, -, hv⟩ := Option.bind_eq_some_iff.1 hfill
      obtain ⟨t, ht, htext⟩ := Option.bind_eq_some_iff.1 hv
      cases htext
      exact fun hc => absurd (Value.isLiteralChar_of_literal? ht hc) (by decide)
  · split
    · simpa using hp
    · exact quote_not_mem_connective hp

/-- The tokens of a reading are those of what its pieces are read as. -/
theorem scan_reading (hs : '\x22' ∉ s) (toReal : Bool) : Token.scan (reading store toReal s) =
    Token.scanAll ((pieces s).map (readPiece store toReal)) := by
  refine Token.scan_unwords fun q hq => ?_
  obtain ⟨p, hp, rfl⟩ := List.mem_map.1 hq
  exact quote_not_mem_readPiece (quote_not_mem_pieces hs hp) toReal

/-! ## The pieces of a literal -/

theorem lower_digits (hs : ∀ c ∈ s, c.isDigit = true) (before : List Char) :
    Text.lowerAfter before s = s := by
  induction s generalizing before with
  | nil => rfl
  | cons c s ih =>
    have hc : (if c = Text.capitalSigma then
        [if Text.meetsCased before && !Text.meetsCased s then 'ς' else 'σ']
        else Text.lowerChar c) = [c] := by
      have hdigit := hs c List.mem_cons_self
      rw [if_neg (Text.of_isDigit (P := (· ≠ Text.capitalSigma)) hdigit (by decide))]
      exact Text.of_isDigit (P := fun c => Text.lowerChar c = [c]) hdigit (by decide)
    rw [Text.lowerAfter, hc, ih fun d hd => hs d (List.mem_cons_of_mem c hd)]
    rfl

theorem readPiece_eq_connective (hname : Text.isIdentifier p = false) :
    readPiece store false p = connective p := by
  simp [readPiece, hname]

theorem readPiece_of_isDigit (hp : ∀ c ∈ p, c.isDigit = true) : readPiece store false p = p := by
  have hname : Text.isIdentifier p = false := by
    cases p with
    | nil => rfl
    | cons c rest =>
      have : Text.startsName c = false :=
        Text.of_isDigit (P := fun c => Text.startsName c = false) (hp c List.mem_cons_self) (by decide)
      simp [Text.isIdentifier, this]
  -- Every word for a connective or a truth value has a character that is no digit.
  have hword : ∀ word : String, word.toList.any (fun c => !c.isDigit) = true →
      String.ofList p ≠ word := by
    rintro word hany rfl
    obtain ⟨c, hc, hdigit⟩ := List.any_eq_true.1 hany
    rw [String.toList_ofList] at hc
    simp [hp c hc] at hdigit
  have hlower : Text.lower p = p := lower_digits hp []
  rw [readPiece_eq_connective hname]
  simp [connective, hlower, hword "and" (by decide), hword "&" (by decide), hword "or" (by decide),
    hword "|" (by decide), hword "not" (by decide), hword "true" (by decide),
    hword "false" (by decide)]

theorem readPiece_toDigits (n : Nat) :
    readPiece store false (Nat.toDigits 10 n) = Nat.toDigits 10 n :=
  readPiece_of_isDigit fun _ => Text.isDigit_of_mem_toDigits

theorem split_signed (n : Nat) : split ('(' :: '-' :: (Nat.toDigits 10 n ++ [')'])) =
    [['('], ['-'], Nat.toDigits 10 n, [')']] := by
  have hend : StartsBroken [')'] := fun c hc => by
    cases hc
    decide
  rw [split_cons_of_isBreak (by decide), split_cons_of_isBreak (c := '-') (by decide),
    split_word_append (isWord_toDigits n) hend]
  rfl

/-- The words for truth values name nothing. -/
theorem readPiece_truth (hnames : ∀ name w, store.get? name = some w → checkName name.toList = .ok ())
    {word : String} (hword : word = "true" ∨ word = "false") :
    readPiece store false word.toList = word.toList := by
  have hfree : store.get? word = none := by
    refine Option.eq_none_iff_forall_ne_some.2 fun w hw => ?_
    have hreserved := (checkName_eq_ok.1 (hnames word w hw)).2
    rcases hword with rfl | rfl <;> exact absurd hreserved (by decide +kernel)
  have hfill : fillIn? store false word.toList = none := by simp [fillIn?, hfree]
  have hconnective : connective word.toList = word.toList := by
    rcases hword with rfl | rfl <;> decide +kernel
  unfold readPiece
  simp [hfill, hconnective]

/-- A literal is made up of pieces that are no halves of operators, are read as they are, and have
the tokens that it has as a whole. -/
theorem split_literal (hscalar : v.type = .int ∨ v.type = .bool)
    (hnames : ∀ name w, store.get? name = some w → checkName name.toList = .ok ())
    (ht : v.literal? = some t) :
    split t.toList ≠ [] ∧ (∀ p ∈ split t.toList, Apart p ∧ readPiece store false p = p) ∧
      Token.scan t.toList = Token.scanAll (split t.toList) := by
  obtain ⟨t', ht', hshape⟩ := Value.exists_literal hscalar
  cases ht.symm.trans ht'
  rcases hshape with ⟨n, k, -, -, htext⟩ | ⟨n, k, -, -, htext⟩ | ⟨b, -, htext⟩
  · rw [htext, split_of_isWord (isWord_toDigits n)]
    simp [(isWord_toDigits n).apart, readPiece_toDigits]
  · rw [htext, split_signed]
    refine ⟨by simp, ?_, ?_⟩
    · simp only [List.forall_mem_cons, List.not_mem_nil, false_imp_iff, implies_true, and_true]
      refine ⟨⟨by decide, ?_⟩, ⟨by decide, ?_⟩, ⟨(isWord_toDigits n).apart, readPiece_toDigits n⟩,
        by decide, ?_⟩
      all_goals
        rw [readPiece_eq_connective (by decide)]
        decide +kernel
    · have hopen : Token.scan ['('] = .ok [.opening] := rfl
      have hminus : Token.scan ['-'] = .ok [.minus] := rfl
      have hclose : Token.scan [')'] = .ok [.closing] := rfl
      have hplain : ∀ c ∈ Nat.toDigits 10 n, Token.isPlain c = true := fun _ => isPlain_toDigits
      rw [Token.scan_signed hplain Nat.toDigits_ne_nil]
      simp [hopen, hminus, hclose, Token.scan_of_isPlain hplain Nat.toDigits_ne_nil]
  · have hword : t = "true" ∨ t = "false" := by
      cases b
      · exact .inr (String.toList_inj.1 htext)
      · exact .inl (String.toList_inj.1 htext)
    have hsplit : split t.toList = [t.toList] := by
      rcases hword with rfl | rfl <;> decide
    rw [hsplit]
    refine ⟨by simp, ?_, by simp⟩
    simp only [List.forall_mem_singleton]
    refine ⟨?_, readPiece_truth hnames hword⟩
    rcases hword with rfl | rfl <;> decide

/-! ## A formula with the literal written out -/

/-- The tokens stay the same when a literal is written in place of the variable. -/
theorem scan_reading_replaceWord (hscalar : v.type = .int ∨ v.type = .bool)
    (hnames : ∀ name w, store.get? name = some w → checkName name.toList = .ok ())
    (hv : store.get? name = some v) (ht : v.literal? = some t) (hs : '\x22' ∉ s) :
    Token.scan (reading store false (replaceWord name.toList t.toList s)) =
      Token.scan (reading store false s) := by
  have hname := (checkName_eq_ok.1 (hnames name v hv)).1
  obtain ⟨hne, hsplit, hscan⟩ := split_literal hscalar hnames ht
  have hpieces : pieces (replaceWord name.toList t.toList s) =
      (pieces s).flatMap (swap name.toList (split t.toList)) :=
    pieces_replaceWord (isWord_of_isIdentifier hname) (fun p hp => (hsplit p hp).1) hne
  have hquote : '\x22' ∉ replaceWord name.toList t.toList s := by
    intro hc
    rcases mem_of_mem_replaceWord hc with hc | hc
    · exact absurd (Value.isLiteralChar_of_literal? ht hc) (by decide)
    · exact hs hc
  rw [scan_reading hs, scan_reading hquote, hpieces, List.map_flatMap]
  refine (Token.scanAll_map_eq_flatMap fun p hp => ?_).symm
  unfold swap
  by_cases hp : p = name.toList
  · rw [if_pos hp, hp, readPiece_variable hname hv ht, hscan,
      List.map_congr_left fun q hq => (hsplit q hq).2, List.map_id']
  · rw [if_neg hp, List.map_singleton, Token.scanAll_cons, Token.scanAll_nil, Token.follow_nil]

/-- A formula without quotes means the same with the text of a value, a whole number or a boolean,
in place of the variable that holds it. -/
theorem evaluate_replaceWord (hnames : ∀ name w, store.get? name = some w →
      checkName name.toList = .ok ()) (hv : store.get? name = some v)
    (hscalar : v.type = .int ∨ v.type = .bool) (ht : v.literal? = some t) {e e' : String}
    (he : '\x22' ∉ e.toList) (he' : e'.toList = replaceWord name.toList t.toList e.toList) :
    Token.scan (reading store false e'.toList) = Token.scan (reading store false e.toList) ∧
      (evaluate store e').toOption = (evaluate store e).toOption := by
  have hscan := scan_reading_replaceWord hscalar hnames hv ht he
  rw [← he'] at hscan
  refine ⟨hscan, ?_⟩
  have hcompute : compute (reading store false e'.toList) =
      compute (reading store false e.toList) := by
    unfold compute Calc.evaluate
    rw [hscan]
  unfold evaluate evaluateIn
  dsimp only
  rw [hcompute]
  cases compute (reading store false e.toList) <;> rfl

/-- A negative whole number and a truth value. -/
def negativeAndTruth : Store := (Store.empty.insert "x" (.int (-3))).insert "done" (.bool false)

theorem evaluate_replaceWord_negative :
    (Value.int (-3)).literal? = some "(-3)" ∧
      "10-(-3)*((-3)+1)>=(-3) and not done".toList =
        replaceWord "x".toList "(-3)".toList "10-x*(x+1)>=x and not done".toList ∧
      (evaluate negativeAndTruth "10-x*(x+1)>=x and not done").toOption = some (.bool true) ∧
      (evaluate negativeAndTruth "10-(-3)*((-3)+1)>=(-3) and not done").toOption =
        some (.bool true) := by
  have hnames : ∀ name w, negativeAndTruth.get? name = some w →
      checkName name.toList = .ok () := by
    intro name w h
    rw [negativeAndTruth, Store.get?_insert] at h
    split at h
    · rename_i heq
      subst heq
      rfl
    · rw [Store.get?_insert] at h
      split at h
      · rename_i heq
        subst heq
        rfl
      · simp at h
  have hx : negativeAndTruth.get? "x" = some (.int (-3)) := by decide +kernel
  have hliteral : (Value.int (-3)).literal? = some "(-3)" := by decide +kernel
  have htext : "10-(-3)*((-3)+1)>=(-3) and not done".toList =
      replaceWord "x".toList "(-3)".toList "10-x*(x+1)>=x and not done".toList := by decide +kernel
  have hvalue : (evaluate negativeAndTruth "10-x*(x+1)>=x and not done").toOption =
      some (.bool true) := by decide +kernel
  refine ⟨hliteral, htext, hvalue, ?_⟩
  rw [← hvalue]
  exact (evaluate_replaceWord hnames hx (.inl rfl) hliteral (by decide) htext).2

end PenScript.Formula
