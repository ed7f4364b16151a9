import PenScript.Command.Name
import PenScript.Formula.Eval
import PenScript.Proofs.Attempt
import PenScript.Proofs.Pieces
import PenScript.Proofs.Scanning

/-!
# Scalars as text and back

A formula reads a variable as the text of its value.

* `Text.readNat?_toDigits` : digits are read back as the number that they were written for, and the
  token of digits is that number (`Token.ofLiteral_of_readNat?`);
* `Value.exists_literal` : the text of a whole number or of a truth value;
* `Value.isLiteralChar_of_literal?` : the characters that the text of any scalar is made up of;
* `Formula.isWord_of_isIdentifier` : a name is one word of a formula, whatever its letters are;
* `Formula.compute_literal` : the text of a scalar computes the scalar, which fails for one whole
  number only, the least one (`Formula.compute_least`);
* `Formula.evaluate_variable_iff` : so a variable yields its value, unless that is the least one.
-/

namespace PenScript

/-! ## Digits -/

namespace Text

variable {c : Char} {s : List Char}

theorem mem_of_isDigit (h : c.isDigit = true) :
    c ∈ ['0', '1', '2', '3', '4', '5', '6', '7', '8', '9'] := by
  have hrange : 48 ≤ c.toNat ∧ c.toNat ≤ 57 := by
    simpa [Char.isDigit, UInt32.le_iff_toNat_le] using h
  have hall : ∀ n ∈ List.range' 48 10,
      Char.ofNat n ∈ ['0', '1', '2', '3', '4', '5', '6', '7', '8', '9'] := by decide
  rw [← Char.ofNat_toNat c]
  exact hall _ (List.mem_range'_1.2 (by omega))

/-- What is checked of the ten digits holds of every digit. -/
theorem of_isDigit {P : Char → Prop} [DecidablePred P] (h : c.isDigit = true)
    (hall : (['0', '1', '2', '3', '4', '5', '6', '7', '8', '9'].all fun c => P c) = true) : P c := by
  simpa using List.all_eq_true.1 hall c (mem_of_isDigit h)

theorem isBreak_of_isDigit (h : c.isDigit = true) : Formula.isBreak c = false :=
  of_isDigit (P := fun c => Formula.isBreak c = false) h (by decide)

theorem isPlain_of_isDigit (h : c.isDigit = true) : Calc.Token.isPlain c = true :=
  of_isDigit (P := fun c => Calc.Token.isPlain c = true) h (by decide)

theorem digitValue?_of_isDigit (h : c.isDigit = true) :
    digitValue? 10 c = some (c.toNat - '0'.toNat) :=
  of_isDigit (P := fun c => digitValue? 10 c = some (c.toNat - '0'.toNat)) h (by decide)

theorem isDigit_of_mem_toDigits {n : Nat} (h : c ∈ Nat.toDigits 10 n) : c.isDigit = true :=
  Nat.isDigit_of_mem_toDigits (by decide) (by decide) h

theorem foldlM_digitValue? (hs : ∀ c ∈ s, c.isDigit = true) (acc : Nat) :
    s.foldlM (fun acc c => (digitValue? 10 c).map (10 * acc + ·)) acc =
      some (Nat.ofDigitChars 10 s acc) := by
  induction s generalizing acc with
  | nil => rfl
  | cons c s ih =>
    rw [List.foldlM_cons, digitValue?_of_isDigit (hs c List.mem_cons_self)]
    exact ih (fun d hd => hs d (List.mem_cons_of_mem c hd)) _

theorem readNat?_toDigits (n : Nat) : readNat? 10 (Nat.toDigits 10 n) = some n := by
  unfold readNat?
  rw [if_neg (by simp [Nat.toDigits_ne_nil]), foldlM_digitValue? fun c => isDigit_of_mem_toDigits,
    Nat.ofDigitChars_toDigits (by decide) (by decide)]

/-- Digits without a sign. -/
theorem readInt64?_of_isDigit (hs : ∀ c ∈ s, c.isDigit = true) :
    readInt64? 10 s = (readNat? 10 s).bind fun n => fitInt64? n := by
  unfold readInt64?
  split
  · exact absurd (hs '-' List.mem_cons_self) (by decide)
  · exact absurd (hs '+' List.mem_cons_self) (by decide)
  · rfl

theorem fitInt64?_eq_some {n : Int} {k : Int64} (h : k.toInt = n) : fitInt64? n = some k := by
  subst h
  have hlow := Int64.minValue_le_toInt k
  have hhigh := Int64.toInt_le k
  rw [fitInt64?, if_pos ⟨hlow, hhigh⟩, Int64.ofInt_toInt]

end Text

namespace Calc

namespace Token

theorem wholeNumber?_of_isDigit {s : List Char} (hs : ∀ c ∈ s, c.isDigit = true) :
    wholeNumber? s = (Text.readNat? 10 s).bind fun n => Text.fitInt64? n := by
  unfold wholeNumber?
  split
  · exact absurd (hs 'x' (by simp)) (by decide)
  · exact Text.readInt64?_of_isDigit hs

theorem ofLiteral_of_readNat? {s : List Char} {n : Nat} {k : Int64}
    (hs : ∀ c ∈ s, c.isDigit = true) (hn : Text.readNat? 10 s = some n) (h : k.toInt = n) :
    ofLiteral s = .int k := by
  unfold ofLiteral
  rw [wholeNumber?_of_isDigit hs, hn, Option.bind_some, Text.fitInt64?_eq_some h]

theorem ofLiteral_toDigits {n : Nat} {k : Int64} (h : k.toInt = n) :
    ofLiteral (Nat.toDigits 10 n) = .int k :=
  ofLiteral_of_readNat? (fun _ => Text.isDigit_of_mem_toDigits) (Text.readNat?_toDigits n) h

end Token

theorem evaluate_of_scan {s : List Char} {ts : List Token} {tree : Node} {d : Datum}
    (hscan : Token.scan s = .ok ts) (htree : Node.ofTokens ts = .ok tree)
    (hvalue : tree.value = .ok d) : evaluate s = .ok d := by
  unfold evaluate
  rw [hscan]
  show (Node.ofTokens ts >>= Node.value) = _
  rw [htree]
  exact hvalue

theorem negate_int {k n : Int64} (h : n.toInt = -k.toInt) : negate (.int k) = .ok (.int n) := by
  simp only [negate, Text.fitInt64?_eq_some h]

end Calc

/-! ## The text of a scalar -/

namespace Value

/-- A whole number is written in digits, a negative one with its sign and in parentheses; a truth
value is written as a word. -/
theorem exists_literal {v : Value} (h : v.type = .int ∨ v.type = .bool) :
    ∃ t, v.literal? = some t ∧
      ((∃ n : Nat, ∃ k : Int64, v = .int k ∧ k.toInt = n ∧ t.toList = Nat.toDigits 10 n) ∨
      (∃ n : Nat, ∃ k : Int64, v = .int k ∧ k.toInt = -n ∧
        t.toList = '(' :: '-' :: (Nat.toDigits 10 n ++ [')'])) ∨
      ∃ b, v = .bool b ∧ t.toList = if b then ['t', 'r', 'u', 'e'] else ['f', 'a', 'l', 's', 'e']) := by
  cases v with
  | int k =>
    refine ⟨_, rfl, ?_⟩
    by_cases hneg : k.toInt < 0
    · refine .inr (.inl ⟨k.toInt.natAbs, k, rfl, by omega, ?_⟩)
      simp [parenthesized, Text.showInt64, Text.showInt, hneg]
    · refine .inl ⟨k.toInt.natAbs, k, rfl, by omega, ?_⟩
      have hhead : (Nat.toDigits 10 k.toInt.natAbs).head? ≠ some '-' := by
        intro h
        have := Text.isDigit_of_mem_toDigits (List.mem_of_mem_head? h)
        exact absurd this (by decide)
      simp [parenthesized, Text.showInt64, Text.showInt, hneg, hhead]
  | bool b => exact ⟨_, rfl, .inr (.inr ⟨b, rfl, by cases b <;> rfl⟩)⟩
  | real x => simp [Value.type] at h
  | array cells => simp [Value.type] at h

end Value

/-! ### Its characters -/

/-- The characters that the texts of scalars are made up of. -/
def isLiteralChar (c : Char) : Bool := c.isAlphanum || ['.', '-', '(', ')'].contains c

namespace Decimal

variable {c : Char} {d : Digits}

theorem isLiteralChar_of_isDigit (h : c.isDigit = true) : isLiteralChar c = true := by
  simp [isLiteralChar, Char.isAlphanum, h]

theorem isLiteralChar_ofGrid {n : Nat} {p : Int} (hc : c ∈ (Digits.ofGrid n p).digits) :
    isLiteralChar c = true := by
  have hmem : c ∈ (Nat.toDigits 10 n).reverse.dropWhile (· == '0') := by
    simpa [Digits.ofGrid, dropZeros] using hc
  have := (List.dropWhile_suffix _).subset hmem
  exact isLiteralChar_of_isDigit (Text.isDigit_of_mem_toDigits (List.mem_reverse.1 this))

theorem isLiteralChar_shortest {b : Binary} (hc : c ∈ b.shortest.digits) :
    isLiteralChar c = true := by
  unfold Binary.shortest at hc
  cases hfound : (List.range 17).findSome? fun (n : Nat) =>
      (b.interval.onGrid? b.exponent (b.leadingPower - n)).map
        (Digits.ofGrid · (b.leadingPower - n)) with
  | none =>
    simp only [hfound, Option.getD_none, List.mem_singleton] at hc
    subst hc
    decide
  | some d =>
    simp only [hfound, Option.getD_some] at hc
    obtain ⟨n, -, hn⟩ := List.exists_of_findSome?_eq_some hfound
    obtain ⟨k, -, rfl⟩ := Option.map_eq_some_iff.1 hn
    exact isLiteralChar_ofGrid hc

theorem isLiteralChar_positional (hd : ∀ c ∈ d.digits, isLiteralChar c = true)
    (hc : c ∈ d.positional []) : isLiteralChar c = true := by
  have hzeros : ∀ n, c ∈ List.replicate n '0' → isLiteralChar c = true := by
    intro n h
    rw [List.eq_of_mem_replicate h]
    decide
  unfold Digits.positional at hc
  split at hc
  · simp only [List.cons_append, List.mem_cons, List.mem_append] at hc
    rcases hc with rfl | rfl | hc | hc
    exacts [by decide, by decide, hzeros _ hc, hd c hc]
  · dsimp only at hc
    split at hc
    · simp only [List.append_nil, List.mem_append] at hc
      rcases hc with hc | hc
      exacts [hd c hc, hzeros _ hc]
    · simp only [List.mem_append, List.mem_cons] at hc
      rcases hc with hc | rfl | hc
      exacts [hd c (List.mem_of_mem_take hc), by decide, hd c (List.mem_of_mem_drop hc)]

theorem isLiteralChar_signed {s : List Char} {negative : Prop} [Decidable negative]
    (hs : ∀ c ∈ s, isLiteralChar c = true) (hc : c ∈ if negative then '-' :: s else s) :
    isLiteralChar c = true := by
  split at hc
  · rcases List.mem_cons.1 hc with rfl | hc
    exacts [by decide, hs c hc]
  · exact hs c hc

theorem isLiteralChar_plain {x : Float} (hc : c ∈ (plain x).toList) : isLiteralChar c = true := by
  unfold plain layOut at hc
  rw [String.toList_ofList] at hc
  cases hbinary : Binary.ofFloat? x with
  | some b =>
    rw [hbinary] at hc
    refine isLiteralChar_signed (fun c hc => ?_) hc
    dsimp only at hc
    split at hc
    · exact List.all_eq_true.1 (by decide) c hc
    · exact isLiteralChar_positional (fun _ => isLiteralChar_shortest) hc
  | none =>
    rw [hbinary] at hc
    refine isLiteralChar_signed (fun c hc => ?_) hc
    dsimp only at hc
    split at hc <;> exact List.all_eq_true.1 (by decide) c hc

end Decimal

namespace Value

variable {c : Char} {s t : String}

theorem isLiteralChar_parenthesized (hs : ∀ c ∈ s.toList, isLiteralChar c = true)
    (hc : c ∈ (parenthesized s).toList) : isLiteralChar c = true := by
  unfold parenthesized at hc
  split at hc
  · simp only [String.toList_append, List.mem_append] at hc
    rcases hc with (hc | hc) | hc
    exacts [List.all_eq_true.1 (by decide) c hc, hs c hc, List.all_eq_true.1 (by decide) c hc]
  · exact hs c hc

theorem isLiteralChar_realLiteral {x : Float} (hc : c ∈ (realLiteral x).toList) :
    isLiteralChar c = true := by
  unfold realLiteral at hc
  dsimp only at hc
  split at hc
  · simp only [String.toList_append, List.mem_append] at hc
    rcases hc with hc | hc
    exacts [Decimal.isLiteralChar_plain hc, List.all_eq_true.1 (by decide) c hc]
  · exact Decimal.isLiteralChar_plain hc

theorem isLiteralChar_showInt64 {n : Int64} (hc : c ∈ (Text.showInt64 n).toList) :
    isLiteralChar c = true := by
  unfold Text.showInt64 Text.showInt at hc
  rw [String.toList_ofList] at hc
  refine Decimal.isLiteralChar_signed (fun c hc => ?_) hc
  exact Decimal.isLiteralChar_of_isDigit (Text.isDigit_of_mem_toDigits hc)

/-- The text of a scalar holds letters, digits, points, minus signs and parentheses only. -/
theorem isLiteralChar_of_literal? {v : Value} (h : v.literal? = some t) (hc : c ∈ t.toList) :
    isLiteralChar c = true := by
  cases v with
  | int n =>
    cases h
    exact isLiteralChar_parenthesized (fun _ => isLiteralChar_showInt64) hc
  | real x =>
    cases h
    exact isLiteralChar_parenthesized (fun _ => isLiteralChar_realLiteral) hc
  | bool b =>
    cases h
    cases b
    · exact List.all_eq_true.1 (by decide) c hc
    · exact List.all_eq_true.1 (by decide) c hc
  | array cells => cases h

end Value

/-! ## Names -/

namespace Text

variable {c : Char} {s : List Char}

/-- The code points of the blanks. -/
def blanks : List Nat :=
  List.range' 0x09 5 ++ [0x20, 0x85, 0xa0, 0x1680] ++ List.range' 0x2000 11 ++
    [0x2028, 0x2029, 0x202f, 0x205f, 0x3000]

theorem mem_blanks_of_isBlank (h : isBlank c = true) : c.toNat ∈ blanks := by
  simp [isBlank] at h
  simp [blanks, List.mem_range'_1]
  omega

theorem continuesName_of_mem {name : List Char} (h : isIdentifier name = true) (hc : c ∈ name) :
    continuesName c = true := by
  cases name with
  | nil => cases hc
  | cons d rest =>
    obtain ⟨hstart, hrest⟩ : startsName d = true ∧ ∀ c ∈ rest, continuesName c = true := by
      simpa [isIdentifier] using h
    rcases List.mem_cons.1 hc with rfl | hc
    · simp only [startsName, continuesName, Bool.or_eq_true] at hstart ⊢
      tauto
    · exact hrest c hc

/-- No letter and no digit of any script is a blank or an operator. -/
theorem isBreak_of_continuesName (h : continuesName c = true) : Formula.isBreak c = false := by
  have hblanks : ∀ n ∈ blanks, continuesName (Char.ofNat n) = false := by decide +kernel
  have hoperators : (Formula.operators.all fun c => !continuesName c) = true := by decide +kernel
  unfold Formula.isBreak
  rw [Bool.or_eq_false_iff]
  constructor
  · refine Bool.eq_false_iff.2 fun hblank => ?_
    have := hblanks _ (mem_blanks_of_isBlank hblank)
    rw [Char.ofNat_toNat, h] at this
    exact absurd this (by decide)
  · refine Bool.eq_false_iff.2 fun hoperator => ?_
    have := List.all_eq_true.1 hoperators c (by simpa [Formula.isOperator] using hoperator)
    rw [h] at this
    exact absurd this (by decide)

end Text

namespace Formula

theorem isWord_of_isIdentifier {name : List Char} (h : Text.isIdentifier name = true) :
    IsWord name := by
  refine ⟨?_, fun c hc => Text.isBreak_of_continuesName (Text.continuesName_of_mem h hc)⟩
  rintro rfl
  exact absurd h (by decide)

theorem isWord_toDigits (n : Nat) : IsWord (Nat.toDigits 10 n) :=
  ⟨Nat.toDigits_ne_nil, fun _ hc => Text.isBreak_of_isDigit (Text.isDigit_of_mem_toDigits hc)⟩

theorem isPlain_toDigits {n : Nat} {c : Char} (hc : c ∈ Nat.toDigits 10 n) :
    Calc.Token.isPlain c = true :=
  Text.isPlain_of_isDigit (Text.isDigit_of_mem_toDigits hc)

end Formula

theorem checkName_eq_ok {name : List Char} :
    checkName name = .ok () ↔ Text.isIdentifier name = true ∧ isReserved name = false := by
  unfold checkName
  cases Text.isIdentifier name <;> cases isReserved name <;> simp

/-! ## What the text of a scalar computes -/

namespace Formula

open Calc

variable {store : Store} {name : String} {v : Value} {t : String}

theorem compute_of_evaluate {s : List Char} {d : Datum} (h : Calc.evaluate s = .ok d) :
    compute s = scalarOf d := by
  unfold compute
  rw [h]

theorem compute_digits {n : Nat} {k : Int64} (h : k.toInt = n) :
    compute (Nat.toDigits 10 n) = .ok (.int k) := by
  have hscan : Token.scan (Nat.toDigits 10 n) = .ok [.int k] := by
    rw [Token.scan_of_isPlain (fun _ => isPlain_toDigits) Nat.toDigits_ne_nil,
      Token.ofLiteral_toDigits h]
  exact compute_of_evaluate (evaluate_of_scan hscan rfl rfl)

/-- The tree of a literal with a sign, in parentheses. -/
def signedTree (d : Datum) : Node := .mk .group [.mk .group [.mk .neg [.mk (.const d) []]]]

theorem value_signedTree {d e : Datum} (h : negate d = .ok e) : (signedTree d).value = .ok e := by
  have hneg : (Node.mk .neg [.mk (.const d) []]).value = .ok e := h
  simp only [signedTree, Node.value, Node.values] at hneg ⊢
  rw [hneg]
  rfl

theorem compute_signed {n : Nat} {k : Int64} (h : k.toInt = -n) (hmin : k ≠ Int64.minValue) :
    compute ('(' :: '-' :: (Nat.toDigits 10 n ++ [')'])) = .ok (.int k) := by
  -- Without its sign the number is in range too.
  have hn : n < 2 ^ 63 := by
    have hlow := Int64.le_toInt k
    have hne : k.toInt ≠ -2 ^ 63 := fun heq => hmin (Int64.toInt_inj.1 heq)
    omega
  have hfits : (Int64.ofInt n).toInt = n := Int64.toInt_ofInt_of_le (by omega) (by omega)
  have hscan := Token.scan_signed (w := Nat.toDigits 10 n) (fun _ => isPlain_toDigits)
    Nat.toDigits_ne_nil
  rw [Token.ofLiteral_toDigits hfits] at hscan
  have hvalue : (signedTree (.int (Int64.ofInt n))).value = .ok (.int k) :=
    value_signedTree (negate_int (by rw [h, hfits]))
  exact compute_of_evaluate (evaluate_of_scan hscan rfl hvalue)

/-- The text of a scalar computes the scalar. -/
theorem compute_literal (hv : v.type = .int ∨ v.type = .bool) (hmin : v ≠ .int Int64.minValue)
    (ht : v.literal? = some t) : compute t.toList = .ok v := by
  obtain ⟨t', ht', hshape⟩ := Value.exists_literal hv
  cases ht.symm.trans ht'
  rcases hshape with ⟨n, k, rfl, hk, htext⟩ | ⟨n, k, rfl, hk, htext⟩ | ⟨b, rfl, htext⟩
  · rw [htext, compute_digits hk]
  · rw [htext, compute_signed hk fun h => hmin (by rw [h])]
  · rw [htext]
    cases b <;> rfl

/-- The digits of the least whole number. -/
def leastDigits : List Char := Nat.toDigits 10 Int64.minValue.toInt.natAbs

/-- They do not fit without the sign, so they are read as a real. -/
theorem compute_least (n : Int64) :
    compute ('(' :: '-' :: (leastDigits ++ [')'])) ≠ .ok (.int n) := by
  have hwhole : Token.wholeNumber? leastDigits = none := by decide +kernel
  have hreal : (Decimal.readReal? leastDigits).isSome = true := by decide +kernel
  obtain ⟨x, hx⟩ := Option.isSome_iff_exists.1 hreal
  have hscan := Token.scan_signed (w := leastDigits) (fun _ => isPlain_toDigits)
    Nat.toDigits_ne_nil
  have hliteral : Token.ofLiteral leastDigits = .real x := by
    unfold Token.ofLiteral
    rw [hwhole, hx]
  rw [hliteral] at hscan
  rw [compute_of_evaluate (evaluate_of_scan hscan rfl (value_signedTree rfl))]
  intro h
  dsimp only [scalarOf] at h
  split at h <;> cases h

theorem readPiece_variable (hname : Text.isIdentifier name.toList = true)
    (hv : store.get? name = some v) (ht : v.literal? = some t) :
    readPiece store false name.toList = t.toList := by
  have hfill : fillIn? store false name.toList = some t.toList := by simp [fillIn?, hv, ht]
  simp [readPiece, hname, hfill]

theorem reading_variable (hname : Text.isIdentifier name.toList = true)
    (hv : store.get? name = some v) (ht : v.literal? = some t) :
    reading store false name.toList = t.toList := by
  unfold reading
  rw [pieces_of_isWord (isWord_of_isIdentifier hname), List.map_singleton,
    readPiece_variable hname hv ht]
  simp [Text.unwords]

/-- A variable yields its value, unless that is the least whole number. -/
theorem evaluate_variable_iff (hname : Text.isIdentifier name.toList = true)
    (hv : store.get? name = some v) (hscalar : v.type = .int ∨ v.type = .bool) :
    evaluate store name = .ok v ↔ v ≠ .int Int64.minValue := by
  obtain ⟨t, ht, -⟩ := Value.exists_literal hscalar
  unfold evaluate evaluateIn
  rw [reading_variable hname hv ht, Attempt.mapError_eq_ok]
  constructor
  · rintro h rfl
    have hleast : t.toList = '(' :: '-' :: (leastDigits ++ [')']) := by
      have : (Value.int Int64.minValue).literal?.map String.toList =
        some ('(' :: '-' :: (leastDigits ++ [')'])) := by decide +kernel
      rw [ht] at this
      simpa using this
    rw [hleast] at h
    exact compute_least _ h
  · exact fun hmin => compute_literal hscalar hmin ht

end Formula

end PenScript
