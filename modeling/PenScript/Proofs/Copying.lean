import PenScript.Proofs.Literals
import PenScript.Proofs.StoreLaws
import PenScript.Proofs.Writes

/-!
# Copying a variable

* `Store.CopiesExactly store name v` : commands that copy the variable through a formula, into a
  variable of its type or into an array, write the value `v`;
* `Formula.variable_yields_itself` : a variable that holds a whole number or a truth value yields
  it, and is copied exactly, unless it is the least whole number;
* `Formula.least_lost` : the least whole number is lost.
-/

namespace PenScript

variable {store : Store} {name : String} {v : Value}

/-- A formula that yields a scalar which is no real yields it in its own type too. -/
theorem Formula.evaluateAs_of_evaluate (hscalar : v.type = .int ∨ v.type = .bool)
    (h : evaluate store name = .ok v) : evaluateAs store v.type name = .ok v := by
  have hreal : decide (v.type = .real) = false := by
    rcases hscalar with ht | ht <;> rw [ht] <;> rfl
  have hcast : v.castTo v.type = .ok v := by
    cases v with
    | real x => simp [Value.type] at hscalar
    | array cells => simp [Value.type] at hscalar
    | _ => rfl
  unfold evaluateAs
  rw [hreal, ← evaluate, h]
  show (v.castTo v.type).mapError _ = _
  rw [hcast]
  rfl

/-- Commands that copy the variable write the value. -/
structure Store.CopiesExactly (store : Store) (name : String) (v : Value) : Prop where
  /-- A variable that is declared or set to it, and was of its type if it was bound, is bound to the
  value, and nothing else changes. -/
  variable_eq : ∀ (d : Declaration) (m : Machine), m.store = store → d.value = some name →
    d.type = v.type → (∀ t, store.type? d.name = some t → t = v.type) →
    (d.update = true → store.contains d.name = true) →
    d.execute.run m = .ok () { m with store := store.insert d.name v }
  /-- A whole number that is written into an array of whole numbers, at an index in its range, is
  read back from there. -/
  element_eq : ∀ (p : Poke) (m : Machine) (cells : Cells) (i : Int64) (k : Nat), m.store = store →
    p.value = name → v.type = .int → store.get? p.array = some (.array cells) →
    cells.elem = .int → Formula.int store p.index = .ok i → cells.position i = .ok k →
    ∃ after, p.execute.run m = .ok () { m with store := after } ∧ after.peek p.array i = .ok v

/-- The variable's own type is the one that the command wants. -/
theorem Declaration.run_execute_of_evaluateAs {d : Declaration} {m : Machine}
    (hv : Formula.evaluateAs m.store d.type name = .ok v) (hvalue : d.value = some name)
    (hold : ∀ t, m.store.type? d.name = some t → t = v.type)
    (hupdate : d.update = true → m.store.contains d.name = true) :
    d.execute.run m = .ok () { m with store := m.store.insert d.name v } := by
  have hcompute : (Exec.compute (Formula.evaluateAs · d.type name)).run m = .ok v m :=
    Exec.run_compute_ok.2 ⟨hv, rfl⟩
  unfold Declaration.execute
  rw [hvalue]
  dsimp only
  rw [Attempt.run_bind_ok hcompute]
  cases hu : d.update with
  | true =>
    obtain ⟨old, hget⟩ := Option.isSome_iff_exists.1 (hupdate hu)
    have htype := Store.type?_of_get? hget
    have hassign : (Store.assign d.name v).run m.store = .ok () (m.store.insert d.name v) :=
      Store.assign_ok.2 ⟨by rw [htype, hold _ htype], rfl⟩
    simp only [if_true]
    rw [Exec.run_update, hassign]
  | false =>
    have hdeclare : (Store.declare d.name v).run m.store = .ok () (m.store.insert d.name v) :=
      Store.declare_ok.2 ⟨fun t ht => .inl (hold t ht), rfl⟩
    simp only [Bool.false_eq_true, if_false]
    rw [Exec.run_update, hdeclare]

theorem Poke.exists_execute_of_evaluate {p : Poke} {m : Machine} {cells : Cells} {i n : Int64}
    {k : Nat} (hv : Formula.evaluate m.store p.value = .ok (.int n))
    (harray : m.store.get? p.array = some (.array cells)) (helem : cells.elem = .int)
    (hindex : Formula.int m.store p.index = .ok i) (hk : cells.position i = .ok k) :
    ∃ after, p.execute.run m = .ok () { m with store := after } ∧
      after.peek p.array i = .ok (.int n) := by
  have hi : (Exec.compute (Formula.int · p.index)).run m = .ok i m :=
    Exec.run_compute_ok.2 ⟨hindex, rfl⟩
  have hkind : (Exec.ask (·.elemOf p.array)).run m = .ok .int m := by
    refine Exec.run_ask_ok.2 ⟨Store.elemOf_eq_ok.2 ?_, rfl⟩
    rw [Store.type?_of_get? harray, Value.type, helem]
  have hcompute : (Exec.compute (Formula.evaluate · p.value)).run m = .ok (.int n) m :=
    Exec.run_compute_ok.2 ⟨hv, rfl⟩
  have haccepts : cells.accepts i (.int n) = .ok () := by
    obtain ⟨hki, hsize⟩ := Cells.position_eq_ok.1 hk
    exact Cells.accepts_eq_ok.2 ⟨by omega, by omega, .inl (by rw [helem]; rfl)⟩
  have hpoke : (Store.poke p.array i (.int n)).run m.store =
      .ok () (m.store.writeElement p.array i.toInt.toNat (.int n)) :=
    Store.poke_ok.2 ⟨cells, harray, haccepts, rfl⟩
  refine ⟨m.store.writeElement p.array i.toInt.toNat (.int n), ?_, ?_⟩
  · unfold Poke.execute
    rw [Attempt.run_bind_ok hi, Attempt.run_bind_ok hkind]
    dsimp only
    rw [Attempt.run_bind_ok hcompute, Exec.run_update, hpoke]
  · have hread := Store.peek_poke_self hpoke harray
    rw [helem] at hread
    exact hread

theorem Store.copiesExactly (hscalar : v.type = .int ∨ v.type = .bool)
    (h : Formula.evaluate store name = .ok v) : store.CopiesExactly name v where
  variable_eq d m hm hvalue htype hold hupdate := by
    subst hm
    refine Declaration.run_execute_of_evaluateAs ?_ hvalue hold hupdate
    rw [htype]
    exact Formula.evaluateAs_of_evaluate hscalar h
  element_eq p m cells i k hm hvalue hint harray helem hindex hk := by
    subst hm hvalue
    cases v with
    | int n => exact Poke.exists_execute_of_evaluate h harray helem hindex hk
    | _ => cases hint

/-- A variable that holds a whole number or a truth value yields exactly that, and is copied exactly,
unless it holds the least whole number; that one it does not yield. -/
theorem Formula.variable_yields_itself (hname : checkName name.toList = .ok ())
    (hv : store.get? name = some v) (hscalar : v.type = .int ∨ v.type = .bool) :
    (evaluate store name = .ok v ↔ v ≠ .int Int64.minValue) ∧
      (v ≠ .int Int64.minValue → store.CopiesExactly name v) := by
  have hiff := evaluate_variable_iff (checkName_eq_ok.1 hname).1 hv hscalar
  exact ⟨hiff, fun hmin => Store.copiesExactly hscalar (hiff.2 hmin)⟩

/-- A variable with letters outside ASCII that holds the least whole number but one. -/
def Store.almostLeast : Store := Store.empty.insert "größe" (.int (-9223372036854775807))

theorem Formula.variable_yields_itself_almostLeast :
    checkName "größe".toList = .ok () ∧
      Store.almostLeast.get? "größe" = some (.int (-9223372036854775807)) ∧
      evaluate Store.almostLeast "größe" = .ok (.int (-9223372036854775807)) ∧
      Store.almostLeast.CopiesExactly "größe" (.int (-9223372036854775807)) := by
  have hname : checkName "größe".toList = .ok () := rfl
  have hget : Store.almostLeast.get? "größe" = some (.int (-9223372036854775807)) := by
    rw [Store.almostLeast, Store.get?_insert, if_pos rfl]
  obtain ⟨hiff, hcopies⟩ := variable_yields_itself hname hget (.inl rfl)
  exact ⟨hname, hget, hiff.2 (by decide), hcopies (by decide)⟩

/-- The least whole number is written in digits that do not fit without their sign. -/
theorem Formula.least_lost :
    checkName "x".toList = .ok () ∧
      (Store.empty.insert "x" (.int Int64.minValue)).get? "x" = some (.int Int64.minValue) ∧
      evaluate (Store.empty.insert "x" (.int Int64.minValue)) "x" ≠ .ok (.int Int64.minValue) := by
  have hname : checkName "x".toList = .ok () := rfl
  have hget : (Store.empty.insert "x" (.int Int64.minValue)).get? "x" =
      some (.int Int64.minValue) := by rw [Store.get?_insert, if_pos rfl]
  refine ⟨hname, hget, fun h => ?_⟩
  exact (evaluate_variable_iff (checkName_eq_ok.1 hname).1 hget (.inl rfl)).1 h rfl

end PenScript
