import PenScript.Proofs.Copying
import PenScript.Proofs.Drawing
import PenScript.Proofs.Substitution

/-!
# Plain numbers as arguments of drawing commands

An argument that is a plain number is checked when its command is read, and computed as a formula
when the command is executed. The two readings agree.

* `Text.digits_of_readInt64?` : a plain number is made up of digits and at most one sign;
* `Formula.int_of_digits`, `Formula.int_of_minus`, `Formula.int_of_plus` : the formula has the value
  of the number, but none with a leading `+`, for any variables;
* `Formula.IsPlain t n` : the text is the number `n`, which is not the least one;
* `Drawing.RefusedOver d a n` : the command is refused when it is read, since an argument is `n`;
* `Drawing.execute_of_refusedOver`, `Drawing.exists_execute_of_isPlain` : then it fails when it is
  executed, and a command of plain numbers that is not refused succeeds;
* `Drawing.earlyChecks` : the main result.
-/

namespace PenScript

/-! ## Digits and signs -/

namespace Text

variable {c : Char} {s : List Char} {n : Nat} {k : Int64}

/-- Letters count from ten. -/
theorem isDigit_of_digitValue? (h : digitValue? 10 c = some n) : c.isDigit = true := by
  have hlower : 'a' ≤ c → 97 ≤ c.toNat := fun hc => hc
  have hupper : 'A' ≤ c → 65 ≤ c.toNat := fun hc => hc
  unfold digitValue? at h
  dsimp only at h
  split at h
  · assumption
  · exfalso
    split at h
    · rename_i hc
      have := hlower (by simp_all)
      simp at h
      omega
    · split at h
      · rename_i hc
        have := hupper (by simp_all)
        simp at h
        omega
      · simp at h

theorem isDigit_of_foldlM {acc : Nat}
    (h : s.foldlM (fun acc c => (digitValue? 10 c).map (10 * acc + ·)) acc = some n) :
    ∀ c ∈ s, c.isDigit = true := by
  induction s generalizing acc with
  | nil => simp
  | cons c s ih =>
    rw [List.foldlM_cons] at h
    obtain ⟨acc', hacc, hrest⟩ := Option.bind_eq_some_iff.1 h
    obtain ⟨v, hv, -⟩ := Option.map_eq_some_iff.1 hacc
    rw [List.forall_mem_cons]
    exact ⟨isDigit_of_digitValue? hv, ih hrest⟩

theorem isDigit_of_readNat? (h : readNat? 10 s = some n) :
    s ≠ [] ∧ ∀ c ∈ s, c.isDigit = true := by
  unfold readNat? at h
  split at h
  · cases h
  · rename_i hne
    exact ⟨by simpa using hne, isDigit_of_foldlM h⟩

theorem toInt_of_fitInt64? {i : Int} (h : fitInt64? i = some k) : k.toInt = i := by
  unfold fitInt64? at h
  split at h
  · rename_i hrange
    have hlow : Int64.minValue.toInt = -2 ^ 63 := rfl
    have hhigh : Int64.maxValue.toInt = 2 ^ 63 - 1 := rfl
    cases h
    exact Int64.toInt_ofInt_of_le (by omega) (by omega)
  · cases h

/-- The digits of a plain number, and its sign. -/
theorem digits_of_readInt64? (h : readInt64? 10 s = some k) : ∃ digits n,
    readNat? 10 digits = some n ∧ (s = digits ∧ k.toInt = n ∨ s = '-' :: digits ∧ k.toInt = -n ∨
      s = '+' :: digits ∧ k.toInt = n) := by
  unfold readInt64? at h
  split at h
  · obtain ⟨n, hn, hfit⟩ := Option.bind_eq_some_iff.1 h
    exact ⟨_, n, hn, .inr (.inl ⟨rfl, toInt_of_fitInt64? hfit⟩)⟩
  · obtain ⟨n, hn, hfit⟩ := Option.bind_eq_some_iff.1 h
    exact ⟨_, n, hn, .inr (.inr ⟨rfl, toInt_of_fitInt64? hfit⟩)⟩
  · obtain ⟨n, hn, hfit⟩ := Option.bind_eq_some_iff.1 h
    exact ⟨_, n, hn, .inl ⟨rfl, toInt_of_fitInt64? hfit⟩⟩

end Text

/-! ## The value of a plain number -/

namespace Formula

open Calc

variable {s digits : List Char} {c : Char} {store : Store} {t : String} {n : Nat} {k : Int64}

theorem int_of_scan {ts : List Token} {tree : Node}
    (hscan : Token.scan (reading store false t.toList) = .ok ts)
    (htree : Node.ofTokens ts = .ok tree) (hvalue : tree.value = .ok (.int k)) : int store t = .ok k := by
  have hcompute : compute (reading store false t.toList) = .ok (.int k) :=
    compute_of_evaluate (evaluate_of_scan hscan htree hvalue)
  have heval : evaluate store t = .ok (.int k) := by
    show (compute _).mapError _ = _
    rw [hcompute]
    rfl
  have hint : evaluateAs store .int t = .ok (.int k) :=
    evaluateAs_of_evaluate (v := .int k) (.inl rfl) heval
  unfold int
  rw [hint]
  rfl

theorem exists_error_of_evaluate {f : Fault}
    (h : Calc.evaluate (reading store false t.toList) = .error f) :
    ∃ e, int store t = .error e := by
  have hcompute : compute (reading store false t.toList) = .error (.fault f) := by
    unfold compute
    rw [h]
  let e :=
    FormulaError.unreadable (shown t) (String.ofList (reading store false t.toList)) (.fault f)
  have heval : evaluateIn store false t = .error e := by
    show (compute _).mapError _ = _
    rw [hcompute]
    rfl
  refine ⟨e, ?_⟩
  unfold int evaluateAs
  rw [show decide (VarType.int = .real) = false from rfl, heval]
  rfl

theorem isWord_of_isDigit (hne : digits ≠ []) (hd : ∀ c ∈ digits, c.isDigit = true) :
    IsWord digits := ⟨hne, fun c hc => Text.isBreak_of_isDigit (hd c hc)⟩

theorem quote_not_mem_of_isDigit (hd : ∀ c ∈ digits, c.isDigit = true) : '\x22' ∉ digits :=
  fun hc => absurd (hd _ hc) (by decide)

/-- Digits are one token. -/
theorem scan_of_readNat? (hd : ∀ c ∈ digits, c.isDigit = true)
    (hn : Text.readNat? 10 digits = some n) (hk : k.toInt = n) :
    Token.scan digits = .ok [.int k] := by
  have hne := (Text.isDigit_of_readNat? hn).1
  rw [Token.scan_of_isPlain (fun c hc => Text.isPlain_of_isDigit (hd c hc)) hne,
    Token.ofLiteral_of_readNat? hd hn hk]

theorem scan_reading_digits (hn : Text.readNat? 10 digits = some n) (hk : k.toInt = n) :
    Token.scan (reading store false digits) = .ok [.int k] := by
  obtain ⟨hne, hd⟩ := Text.isDigit_of_readNat? hn
  rw [scan_reading (quote_not_mem_of_isDigit hd), pieces_of_isWord (isWord_of_isDigit hne hd),
    List.map_singleton, readPiece_of_isDigit hd, Token.scanAll_cons, Token.scanAll_nil,
    Token.follow_nil, scan_of_readNat? hd hn hk]

/-- A sign in front of a word is a piece of its own, which no variable is filled in for. -/
theorem pieces_sign (hc : c = '-' ∨ c = '+') (hw : IsWord s) : pieces (c :: s) = [[c], s] := by
  have happart : Apart [c] := by rcases hc with rfl | rfl <;> decide
  have hbreak : isBreak c = true := by rcases hc with rfl | rfl <;> decide
  have hsplit : split [c] = [[c]] := by rcases hc with rfl | rfl <;> decide
  unfold pieces
  rw [split_cons_of_isBreak hbreak, hsplit, split_of_isWord hw, List.singleton_append,
    glue_cons_of_apart happart, glue_cons_of_apart hw.apart]
  simp [glue, doubleEquals_of_apart happart, doubleEquals_of_apart hw.apart]

theorem readPiece_sign (hc : c = '-' ∨ c = '+') : readPiece store false [c] = [c] := by
  rcases hc with rfl | rfl
  all_goals
    rw [readPiece_eq_connective (by decide)]
    decide +kernel

theorem scan_reading_sign {sign : Token} (hc : c = '-' ∨ c = '+')
    (hsign : Token.scan [c] = .ok [sign]) (hn : Text.readNat? 10 digits = some n)
    (hk : k.toInt = n) :
    Token.scan (reading store false (c :: digits)) = .ok [sign, .int k] := by
  obtain ⟨hne, hd⟩ := Text.isDigit_of_readNat? hn
  have hquote : '\x22' ∉ c :: digits := by
    rw [List.mem_cons, not_or]
    exact ⟨by rcases hc with rfl | rfl <;> decide, quote_not_mem_of_isDigit hd⟩
  rw [scan_reading hquote, pieces_sign hc (isWord_of_isDigit hne hd)]
  simp [readPiece_sign hc, readPiece_of_isDigit hd, hsign, scan_of_readNat? hd hn hk]

theorem int_of_digits (ht : t.toList = digits) (hn : Text.readNat? 10 digits = some n)
    (hk : k.toInt = n) (store : Store) : int store t = .ok k :=
  int_of_scan (ht ▸ scan_reading_digits hn hk) rfl rfl

/-- Without its sign the number is in range too, since it is not the least one. -/
theorem int_of_minus (ht : t.toList = '-' :: digits) (hn : Text.readNat? 10 digits = some n)
    (hk : k.toInt = -n) (hmin : k ≠ Int64.minValue) (store : Store) : int store t = .ok k := by
  have hlow := Int64.le_toInt k
  have hne : k.toInt ≠ -2 ^ 63 := fun heq => hmin (Int64.toInt_inj.1 heq)
  have hfits : (Int64.ofInt n).toInt = n := Int64.toInt_ofInt_of_le (by omega) (by omega)
  have hneg : (Node.mk .neg [.mk (.const (.int (Int64.ofInt n))) []]).value = .ok (.int k) :=
    negate_int (by rw [hk, hfits])
  have hvalue : (Node.mk .group [.mk .neg [.mk (.const (.int (Int64.ofInt n))) []]]).value =
      .ok (.int k) := by
    simp only [Node.value, Node.values] at hneg ⊢
    rw [hneg]
    rfl
  exact int_of_scan (ht ▸ scan_reading_sign (.inl rfl) rfl hn hfits) rfl hvalue

/-- A `+` wants a number on either side. -/
theorem int_of_plus (ht : t.toList = '+' :: digits) (hn : Text.readNat? 10 digits = some n)
    (hk : k.toInt = n) (store : Store) : ∃ e, int store t = .error e := by
  have hscan : Token.scan (reading store false t.toList) = .ok [.plus, .int k] :=
    ht ▸ scan_reading_sign (.inr rfl) rfl hn hk
  refine exists_error_of_evaluate (f := .arity 2 1) ?_
  unfold Calc.evaluate
  rw [hscan]
  rfl

/-- The text is the plain number `n`, which is not the least one. -/
def IsPlain (t : String) (n : Int64) : Prop :=
  Text.readInt64? 10 t.toList = some n ∧ n ≠ Int64.minValue

/-- The value of a plain number is the number, and it has none only with a leading `+`. -/
theorem IsPlain.int_eq (h : IsPlain t k) (store : Store) : int store t = .ok k ∨
    t.toList.head? = some '+' ∧ ∃ e, int store t = .error e := by
  obtain ⟨digits, n, hn, ⟨ht, hk⟩ | ⟨ht, hk⟩ | ⟨ht, hk⟩⟩ := Text.digits_of_readInt64? h.1
  · exact .inl (int_of_digits ht hn hk store)
  · exact .inl (int_of_minus ht hn hk h.2 store)
  · exact .inr ⟨by rw [ht]; rfl, int_of_plus ht hn hk store⟩

end Formula

/-! ## Checks of drawing commands -/

theorem exists_of_forall₂ {α β : Type} {R : α → β → Prop} {xs : List α} {ys : List β} {x : α}
    (h : List.Forall₂ R xs ys) (hx : x ∈ xs) : ∃ y, R x y := by
  induction h with
  | nil => cases hx
  | @cons x' y' xs ys hxy _ ih =>
    rcases List.mem_cons.1 hx with rfl | hx
    · exact ⟨y', hxy⟩
    · exact ih hx

theorem exists_forall₂ {α β : Type} {R : α → β → Prop} {xs : List α}
    (h : ∀ x ∈ xs, ∃ y, R x y) : ∃ ys, List.Forall₂ R xs ys := by
  induction xs with
  | nil => exact ⟨[], .nil⟩
  | cons x xs ih =>
    rw [List.forall_mem_cons] at h
    obtain ⟨y, hy⟩ := h.1
    obtain ⟨ys, hys⟩ := ih h.2
    exact ⟨y :: ys, .cons hy hys⟩

namespace Drawing

open Formula (IsPlain)

variable {d : Drawing} {a : DrawingArg × String} {n : Int64} {e : CommandError}

/-- The command is refused when it is read, since the argument `a` is the number `n`. -/
def RefusedOver (d : Drawing) (a : DrawingArg × String) (n : Int64) : Prop :=
  a ∈ d.args ∧ Text.readInt64? 10 a.2.toList = some n ∧
    d.validate = .error (.outOfRange d.keyword a.1.what a.1.range n)

/-- A command is refused only because of a plain number. -/
theorem exists_refusedOver (h : d.validate = .error e) :
    ∃ a n, d.RefusedOver a n ∧ a.1.range.contains n = false ∧
      e = .outOfRange d.keyword a.1.what a.1.range n := by
  obtain ⟨a, ha, he⟩ := Attempt.exists_of_forM_eq_error h
  dsimp only at he
  split at he
  · rename_i n hn
    unfold DrawingArg.check at he
    split at he
    · cases he
    · rename_i hrange
      cases he
      exact ⟨a, n, ⟨ha, hn, h⟩, by simpa using hrange, rfl⟩
  · cases he

theorem RefusedOver.contains_eq_false (h : d.RefusedOver a n) : a.1.range.contains n = false := by
  obtain ⟨a', n', -, hrange, he⟩ := exists_refusedOver h.2.2
  obtain ⟨-, -, hsame, rfl⟩ := CommandError.outOfRange.inj he
  rw [hsame]
  exact hrange

theorem contains_of_validate (h : d.validate = .ok ()) (ha : a ∈ d.args)
    (hn : Text.readInt64? 10 a.2.toList = some n) : a.1.range.contains n = true := by
  have hcheck := Attempt.forM_eq_ok.1 h a ha
  simp only [hn, DrawingArg.check] at hcheck
  split at hcheck
  · assumption
  · cases hcheck

/-- A plain number that is refused is no value that its argument may have, in any state. -/
theorem not_computes_of_refusedOver (h : d.RefusedOver a n) (hmin : n ≠ Int64.minValue) (s : Store)
    (k : Int64) : ¬ Computes s a.1.range a.2 k := by
  rintro ⟨hint, hrange⟩
  have hplain : IsPlain a.2 n := ⟨h.2.1, hmin⟩
  rcases hplain.int_eq s with hn | ⟨-, e, he⟩
  · cases hn.symm.trans hint
    rw [h.contains_eq_false] at hrange
    cases hrange
  · cases he.symm.trans hint

/-- A command that is refused fails when it is executed, and leaves the machine as it was. -/
theorem execute_of_refusedOver (h : d.RefusedOver a n) (hmin : n ≠ Int64.minValue) (m : Machine) :
    ∃ e, d.execute.run m = .error e m := by
  have hformula : ∀ f, d ≠ .write (.formula f) := by
    rintro f rfl
    cases h.1
  cases hrun : d.execute.run m with
  | error e m' =>
    rw [d.execute_atomic _ _ _ hrun]
    exact ⟨e, rfl⟩
  | ok u m' =>
    obtain ⟨made, hmakes, -⟩ := execute_eq_ok.1 hrun
    obtain ⟨ns, hns, -⟩ := (stroke_eq_ok_of_args hformula).1 (stroke_eq_ok.2 hmakes)
    obtain ⟨k, hk⟩ := exists_of_forall₂ hns h.1
    exact absurd hk (not_computes_of_refusedOver h hmin m.store k)

/-- A command for which all numbers are there makes a stroke of them. -/
theorem exists_stroke? {ns : List Int64} {R : DrawingArg × String → Int64 → Prop} (hd : d.args ≠ [])
    (hns : List.Forall₂ R d.args ns) (filled : Bool) : ∃ made, d.stroke? filled ns = some made := by
  cases d with
  | fill | clear | write => exact absurd rfl hd
  | pen =>
    rcases hns with _ | ⟨_, _ | ⟨_, _ | ⟨_, ⟨⟩⟩⟩⟩
    exact ⟨_, rfl⟩
  | moveTo | drawTo | rectangle =>
    rcases hns with _ | ⟨_, _ | ⟨_, ⟨⟩⟩⟩
    exact ⟨_, rfl⟩
  | circle =>
    rcases hns with _ | ⟨_, ⟨⟩⟩
    exact ⟨_, rfl⟩

/-- A command of plain numbers that is not refused succeeds, and makes one stroke. -/
theorem exists_execute_of_isPlain (hd : d.args ≠ [])
    (hplain : ∀ a ∈ d.args, ∃ n, IsPlain a.2 n ∧ a.2.toList.head? ≠ some '+')
    (h : d.validate = .ok ()) (m : Machine) :
    ∃ made, d.execute.run m = .ok () { m with strokes := m.strokes.push made } := by
  have hall : ∀ a ∈ d.args, ∃ n, Computes m.store a.1.range a.2 n := by
    intro a ha
    obtain ⟨n, hn, hplus⟩ := hplain a ha
    refine ⟨n, ?_, contains_of_validate h ha hn.1⟩
    rcases hn.int_eq m.store with hint | ⟨hhead, -⟩
    · exact hint
    · exact absurd hhead hplus
  have hformula : ∀ f, d ≠ .write (.formula f) := by
    rintro f rfl
    exact hd rfl
  have hfill : d.fills? = none := by
    cases d with
    | fill => exact absurd rfl hd
    | _ => rfl
  obtain ⟨ns, hns⟩ := exists_forall₂ hall
  obtain ⟨made, hmade⟩ := exists_stroke? hd hns m.fill
  have hmakes := stroke_eq_ok.1 ((stroke_eq_ok_of_args hformula).2 ⟨ns, hns, hmade⟩)
  refine ⟨made, execute_eq_ok.2 ⟨some made, hmakes, ?_⟩⟩
  rw [hfill]
  rfl

/-- The check of plain numbers agrees with the execution: over any number but the least one, it
refuses only drawing commands that fail in every state. -/
theorem earlyChecks :
    (∀ t n, IsPlain t n → ∀ s, Formula.int s t = .ok n ∨
      t.toList.head? = some '+' ∧ ∃ e, Formula.int s t = .error e) ∧
    (∀ (d : Drawing) e, d.validate = .error e → ∃ a n, d.RefusedOver a n ∧
      e = .outOfRange d.keyword a.1.what a.1.range n) ∧
    (∀ (d : Drawing) a n, d.RefusedOver a n → n ≠ Int64.minValue →
      ∀ m, ∃ e, d.execute.run m = .error e m) ∧
    ∀ d : Drawing, d.args ≠ [] →
      (∀ a ∈ d.args, ∃ n, IsPlain a.2 n ∧ a.2.toList.head? ≠ some '+') → d.validate = .ok () →
      ∀ m, ∃ made, d.execute.run m = .ok () { m with strokes := m.strokes.push made } := by
  refine ⟨fun t n h s => h.int_eq s, fun d e h => ?_,
    fun d a n h hmin m => execute_of_refusedOver h hmin m,
    fun d hd hplain h m => exists_execute_of_isPlain hd hplain h m⟩
  obtain ⟨a, n, hrefused, -, he⟩ := exists_refusedOver h
  exact ⟨a, n, hrefused, he⟩

/-- One number too large among others, and numbers with zeros in front as far out as they go. -/
theorem earlyChecks_zerosInFront :
    (∀ m, ∃ e, (pen "-00" "0255" "+0256").execute.run m = .error e m) ∧
    ∀ m, ∃ made, (moveTo "-009223372036854775807" "09223372036854775807").execute.run m =
      .ok () { m with strokes := m.strokes.push made } := by
  obtain ⟨-, -, hrefused, haccepted⟩ := earlyChecks
  have hblue : (pen "-00" "0255" "+0256").RefusedOver (⟨"blue", .channel⟩, "+0256") 256 :=
    ⟨by simp [args], by decide +kernel, rfl⟩
  refine ⟨hrefused _ _ _ hblue (by decide), haccepted _ (by simp [args]) ?_ rfl⟩
  intro a ha
  simp only [args, List.mem_cons, List.not_mem_nil, or_false] at ha
  rcases ha with rfl | rfl
  · exact ⟨-9223372036854775807, ⟨by decide +kernel, by decide⟩, by decide⟩
  · exact ⟨9223372036854775807, ⟨by decide +kernel, by decide⟩, by decide⟩

end Drawing

end PenScript
