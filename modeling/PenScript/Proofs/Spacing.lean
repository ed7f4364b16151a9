import PenScript.Formula.Eval
import PenScript.Proofs.Attempt
import PenScript.Proofs.NormalForm

/-!
# Spacing in a formula

Blanks matter in a formula only where they keep two words apart.

* `Formula.IsGap a w b` : the blanks `w` stand between `a` and `b` and keep no two words apart;
* `Formula.Respaced s t` : the texts differ in such blanks, in any number of places;
* `Formula.Respaced.pieces_eq` : they have the same pieces;
* `Formula.Agree x y` : the results are the same but for the formula that an error shows;
* `Formula.SameResults store e e'` : the formulas give the same, in whatever way they are evaluated;
* `Formula.spacing_irrelevant` : the main result.
-/

namespace PenScript

/-- The error without the formula that it shows. -/
def FormulaError.unquoted : FormulaError → FormulaError
  | unreadable _ reading cause => unreadable "" reading cause
  | wrongType _ found expected => wrongType "" found expected

namespace Formula

variable {a b s t w : List Char} {e e' : String}

/-! ## Blanks between pieces -/

/-- A text that the word behind it does not go on with. -/
def EndsBroken (s : List Char) : Prop := ∀ c ∈ s.getLast?, isBreak c = true

/-- Behind a text that ends with a break, a word starts anew. -/
theorem split_append_of_endsBroken (ha : EndsBroken a) (b : List Char) :
    split (a ++ b) = split a ++ split b := by
  rcases List.eq_nil_or_concat' a with rfl | ⟨a, c, rfl⟩
  · rfl
  · have hc : isBreak c = true := ha c (by simp)
    calc split (a ++ [c] ++ b)
        = split a ++ split (c :: b) := by
          rw [List.append_assoc, List.singleton_append, split_append (startsBroken_cons hc b)]
      _ = split a ++ split [c] ++ split b := by rw [split_cons_of_isBreak hc, List.append_assoc]
      _ = split (a ++ [c]) ++ split b := by rw [split_append (startsBroken_cons hc [])]

theorem split_blanks_append (hw : ∀ c ∈ w, Text.isBlank c = true) (b : List Char) :
    split (w ++ b) = split b := by
  induction w with
  | nil => rfl
  | cons c w ih =>
    obtain ⟨hc, hw⟩ := List.forall_mem_cons.1 hw
    rw [List.cons_append, split_cons_of_isBreak (by simp [isBreak, hc]), split_blank hc, ih hw,
      List.nil_append]

/-- Blanks that keep no two words apart. -/
structure IsGap (a w b : List Char) : Prop where
  blank : ∀ c ∈ w, Text.isBlank c = true
  free : EndsBroken a ∨ StartsBroken b

theorem IsGap.split_eq (h : IsGap a w b) : split (a ++ w ++ b) = split (a ++ b) := by
  rw [List.append_assoc]
  rcases h.free with ha | hb
  · rw [split_append_of_endsBroken ha, split_append_of_endsBroken ha, split_blanks_append h.blank]
  · have hwb : StartsBroken (w ++ b) := by
      refine StartsBroken.append (fun c hc => ?_) hb
      simp [isBreak, h.blank c (List.mem_of_mem_head? hc)]
    rw [split_append hwb, split_blanks_append h.blank, split_append hb]

/-- Texts that differ in blanks that keep no two words apart. -/
inductive Respaced : List Char → List Char → Prop
  | gap {a w b : List Char} (h : IsGap a w b) : Respaced (a ++ w ++ b) (a ++ b)
  | refl (s : List Char) : Respaced s s
  | symm {s t : List Char} (h : Respaced s t) : Respaced t s
  | trans {s t u : List Char} (h : Respaced s t) (h' : Respaced t u) : Respaced s u

theorem Respaced.pieces_eq (h : Respaced s t) : pieces s = pieces t := by
  induction h with
  | gap h => rw [pieces, pieces, h.split_eq]
  | refl s => rfl
  | symm _ ih => exact ih.symm
  | trans _ _ ih ih' => exact ih.trans ih'

theorem Respaced.normalize_eq (h : Respaced s t) : normalize s = normalize t := by
  rw [normalize, normalize, h.pieces_eq]

theorem Respaced.reading_eq (h : Respaced s t) (store : Store) (toReal : Bool) :
    reading store toReal s = reading store toReal t := by
  rw [reading, reading, h.pieces_eq]

/-! ## Results that agree -/

section Agree

variable {ε α β : Type}

/-- The results are the same but for the formula that an error shows. -/
def Agree (x y : Except FormulaError α) : Prop :=
  x.mapError FormulaError.unquoted = y.mapError FormulaError.unquoted

theorem Agree.ok (a : α) : Agree (.ok a) (.ok a) := rfl

theorem Agree.error {f f' : FormulaError} (h : f.unquoted = f'.unquoted) :
    Agree (.error f : Except FormulaError α) (.error f') :=
  congrArg Except.error h

/-- The results are both one value, or errors that differ in the formula only. -/
theorem Agree.elim {x y : Except FormulaError α} (h : Agree x y) :
    (∃ a, x = .ok a ∧ y = .ok a) ∨
      ∃ f f', x = .error f ∧ y = .error f' ∧ f.unquoted = f'.unquoted := by
  cases x with
  | ok a =>
    cases y with
    | ok b =>
      cases h
      exact .inl ⟨a, rfl, rfl⟩
    | error f' => cases h
  | error f =>
    cases y with
    | ok b => cases h
    | error f' => exact .inr ⟨f, f', rfl, rfl, Except.error.inj h⟩

theorem Agree.mapError {k k' : ε → FormulaError} (h : ∀ f, (k f).unquoted = (k' f).unquoted)
    (x : Except ε α) : Agree (x.mapError k) (x.mapError k') := by
  cases x with
  | ok a => exact .ok a
  | error f => exact .error (h f)

theorem Agree.bind {x y : Except FormulaError α} {f g : α → Except FormulaError β} (h : Agree x y)
    (hfg : ∀ a, Agree (f a) (g a)) : Agree (x >>= f) (y >>= g) := by
  rcases h.elim with ⟨a, rfl, rfl⟩ | ⟨f, f', rfl, rfl, hf⟩
  · exact hfg a
  · exact .error hf

end Agree

/-- The formulas give the same value, or errors that differ in the formula only, in whatever way
they are evaluated. -/
structure SameResults (store : Store) (e e' : String) : Prop where
  evaluate : Agree (evaluate store e) (evaluate store e')
  evaluateAs : ∀ t, Agree (evaluateAs store t e) (evaluateAs store t e')
  int : Agree (int store e) (int store e')
  real : Agree (real store e) (real store e')
  boolean : Agree (boolean store e) (boolean store e')
  condition : condition store e = condition store e'

theorem Respaced.evaluateIn_agree (h : Respaced e.toList e'.toList) (store : Store)
    (toReal : Bool) : Agree (evaluateIn store toReal e) (evaluateIn store toReal e') := by
  unfold evaluateIn
  rw [h.reading_eq]
  refine Agree.mapError ?_ _
  exact fun _ => rfl

theorem Respaced.evaluateAs_agree (h : Respaced e.toList e'.toList) (store : Store) (t : VarType) :
    Agree (evaluateAs store t e) (evaluateAs store t e') := by
  refine (h.evaluateIn_agree store _).bind fun v => Agree.mapError ?_ _
  exact fun _ => rfl

theorem Respaced.sameResults (h : Respaced e.toList e'.toList) (store : Store) :
    SameResults store e e' := by
  have hboolean : Agree (boolean store e) (boolean store e') :=
    (h.evaluateAs_agree store .bool).bind fun v => by
      cases v <;> first | exact .ok _ | exact .error rfl
  constructor
  · exact h.evaluateIn_agree store false
  · exact h.evaluateAs_agree store
  · exact (h.evaluateAs_agree store .int).bind fun v => by
      cases v <;> first | exact .ok _ | exact .error rfl
  · exact (h.evaluateAs_agree store .real).bind fun v => by
      cases v <;> first | exact .ok _ | exact .error rfl
  · exact hboolean
  · unfold condition
    rcases hboolean.elim with ⟨b, hb, hb'⟩ | ⟨f, f', hf, hf', -⟩
    · rw [hb, hb']
    · rw [hf, hf']

/-- Blanks at the ends of a formula and beside its operators mean nothing: without them it gives the
same results, but for the formula that an error shows. -/
theorem spacing_irrelevant :
    (∀ a w b : List Char, w ≠ [] → (∀ c ∈ w, Text.isBlank c = true) →
      (EndsBroken a ∨ StartsBroken b) → normalize (a ++ w ++ b) = normalize (a ++ b)) ∧
    ∀ e e' : String, Respaced e.toList e'.toList → ∀ store, SameResults store e e' := by
  refine ⟨fun a w b _ hw h => ?_, fun e e' h store => h.sameResults store⟩
  exact (Respaced.gap ⟨hw, h⟩).normalize_eq

/-- One gap is closed inside the operator, and another one is opened before it. -/
theorem respaced_insideOperator (word : List Char) :
    Respaced (word ++ ['<', ' ', '=', '4']) (word ++ [' ', '<', '=', '4']) := by
  have hinside : IsGap (word ++ ['<']) [' '] ['=', '4'] :=
    ⟨by simp [Text.isBlank], .inr (startsBroken_cons (by decide) _)⟩
  have hbefore : IsGap word [' '] ['<', '=', '4'] :=
    ⟨by simp [Text.isBlank], .inr (startsBroken_cons (by decide) _)⟩
  have hclosed := Respaced.gap hinside
  have hopened := Respaced.gap hbefore
  simp only [List.append_assoc, List.cons_append, List.nil_append] at hclosed hopened
  exact hclosed.trans hopened.symm

theorem spacing_irrelevant_insideOperator :
    normalize ("x <".toList ++ [' ', '\t'] ++ "= y".toList) =
      normalize ("x <".toList ++ "= y".toList) ∧
    normalize ("x <".toList ++ "= y".toList) = "x <= y".toList ∧
    boolean .empty "3< =4" = .ok true ∧ boolean .empty "3 <=4" = .ok true ∧
    Agree (evaluate .empty "ghost< =4") (evaluate .empty "ghost <=4") ∧
    (evaluate .empty "ghost< =4").toOption = none := by
  obtain ⟨hnormalize, hresults⟩ := spacing_irrelevant
  have hthree := hresults "3< =4" "3 <=4" (respaced_insideOperator ['3']) .empty
  have hghost := hresults "ghost< =4" "ghost <=4" (respaced_insideOperator "ghost".toList) .empty
  have hvalue : boolean .empty "3< =4" = .ok true :=
    Attempt.toOption_eq_some.1 (by decide +kernel)
  have hvalue' : boolean .empty "3 <=4" = .ok true := by
    rcases hthree.boolean.elim with ⟨b, hb, hb'⟩ | ⟨f, f', hf, -⟩
    · rw [hb', ← hb, hvalue]
    · rw [hvalue] at hf
      cases hf
  have hends : EndsBroken "x <".toList := by
    intro c hc
    cases hc
    decide
  exact ⟨hnormalize _ _ _ (by simp) (by simp [Text.isBlank]) (.inl hends), by decide +kernel,
    hvalue, hvalue', hghost.evaluate, by decide +kernel⟩

end Formula

end PenScript
