import PenScript.Proofs.StoreTypes

/-!
# Reading a store that was written to

* `ElemType.Takes elem v` : an element of the type can be set to the value, and
  `ElemType.stored elem v` is what it holds then;
* `Cells.accepts_eq_ok`, `Cells.get_write_self`, `Cells.get_write_of_ne` : writing an element;
* `Store.peek_poke_self`, `Store.peek_poke_of_ne` : the same through a store;
* `Store.poke_succeeds_iff`, `Store.declare_fails_iff`, `Store.assign_fails_iff` : when operations
  succeed and fail;
* `Store.Action` lists what can be done to a store, `Store.afterAll h s` is the store when a history
  has been done;
* `Store.ReadOverWrite s` : how the next operation changes what is read;
* `Store.readOverWrite_afterAll` : the main result.
-/

namespace PenScript

open Attempt (final)

/-! ## Elements of arrays -/

/-- An element of the type can be set to the value: one of this type, or a whole number if the
elements are reals. -/
def ElemType.Takes (elem : ElemType) (v : Value) : Prop :=
  v.type = elem.scalar ∨ (elem = .real ∧ v.type = .int)

/-- What an element holds that was set to the value: a whole number among reals is made a real. -/
def ElemType.stored : ElemType → Value → Value
  | .real, .int n => .real (Value.realOf n)
  | _, v => v

namespace Cells

variable {cells : Cells} {i j : Int64} {k : Nat} {v : Value}

/-- An index names the position that it counts, from zero up to the size. -/
theorem position_eq_ok : cells.position i = .ok k ↔ (k : Int) = i.toInt ∧ k < cells.size := by
  have hsign : 0 ≤ i ↔ 0 ≤ i.toInt := Int64.le_iff_toInt_le
  unfold position
  split
  · rename_i h
    rw [hsign] at h
    rw [Except.ok.injEq]
    omega
  · rename_i h
    rw [hsign] at h
    simp only [reduceCtorEq, false_iff]
    omega

theorem position_of_lt (hlow : 0 ≤ i.toInt) (hhigh : i.toInt < cells.size) :
    cells.position i = .ok i.toInt.toNat :=
  position_eq_ok.2 ⟨Int.toNat_of_nonneg hlow, by omega⟩

@[simp] theorem position_write (cells : Cells) (k : Nat) (v : Value) (j : Int64) :
    (cells.write k v).position j = cells.position j := by
  unfold position
  rw [size_write]

/-- What the elements of an array take, case by case. -/
theorem cases_of_takes (h : cells.elem.Takes v) :
    (∃ items n, cells = .ints items ∧ v = .int n) ∨
      (∃ items x, cells = .reals items ∧ v = .real x) ∨
      ∃ items n, cells = .reals items ∧ v = .int n := by
  unfold ElemType.Takes at h
  cases cells <;> cases v <;> simp_all [elem, Value.type, ElemType.scalar]

theorem accepts_eq_ok : cells.accepts i v = .ok () ↔
    0 ≤ i.toInt ∧ i.toInt < cells.size ∧ cells.elem.Takes v := by
  constructor
  · intro h
    obtain ⟨k, hk, hfits⟩ := Attempt.bind_eq_ok.1 h
    obtain ⟨hki, hsize⟩ := position_eq_ok.1 hk
    refine ⟨by omega, by omega, ?_⟩
    split at hfits
    · rename_i helem
      exact .inl (by rw [helem]; rfl)
    · rename_i helem
      exact .inl (by rw [helem]; rfl)
    · rename_i helem
      exact .inr ⟨helem, rfl⟩
    · cases hfits
  · rintro ⟨hlow, hhigh, htakes⟩
    unfold accepts
    rw [position_of_lt hlow hhigh]
    rcases cases_of_takes htakes with ⟨items, n, rfl, rfl⟩ | ⟨items, x, rfl, rfl⟩ |
      ⟨items, n, rfl, rfl⟩ <;> rfl

theorem get?_write_self (hsize : k < cells.size) (htakes : cells.elem.Takes v) :
    (cells.write k v).get? k = some (cells.elem.stored v) := by
  rcases cases_of_takes htakes with ⟨items, n, rfl, rfl⟩ | ⟨items, x, rfl, rfl⟩ |
    ⟨items, n, rfl, rfl⟩ <;>
  · unfold size at hsize
    simp [write, get?, elem, ElemType.stored, hsize]

theorem get?_write_of_ne {j : Nat} (h : j ≠ k) (cells : Cells) (v : Value) :
    (cells.write k v).get? j = cells.get? j := by
  unfold write
  split <;> simp [get?, h.symm]

/-- A value that can be written at an index is read back there. -/
theorem get_write_self (h : cells.accepts i v = .ok ()) :
    (cells.write i.toInt.toNat v).get i = .ok (cells.elem.stored v) := by
  obtain ⟨hlow, hhigh, htakes⟩ := accepts_eq_ok.1 h
  unfold get
  rw [position_write, position_of_lt hlow hhigh]
  show Except.ok (((cells.write i.toInt.toNat v).get? i.toInt.toNat).getD _) = _
  rw [get?_write_self (by omega) htakes]
  rfl

/-- At any other index, in the range or not, nothing changes. -/
theorem get_write_of_ne (hlow : 0 ≤ i.toInt) (hne : j ≠ i) (cells : Cells) (v : Value) :
    (cells.write i.toInt.toNat v).get j = cells.get j := by
  unfold get
  rw [position_write, elem_write]
  cases hk : cells.position j with
  | error e => rfl
  | ok k =>
    -- both indices are natural numbers here, so they cannot be cut to the same position
    have hki : k ≠ i.toInt.toNat := by
      obtain ⟨hkj, -⟩ := position_eq_ok.1 hk
      have hij : j.toInt ≠ i.toInt := fun heq => hne (Int64.toInt_inj.1 heq)
      omega
    show Except.ok (((cells.write i.toInt.toNat v).get? k).getD _) = Except.ok _
    rw [get?_write_of_ne hki]

end Cells

namespace Store

variable {s s' : Store} {name other : String} {i j : Int64} {v : Value} {cells : Cells}

/-! ## One operation -/

theorem lookup_congr (h : s'.get? name = s.get? name) : s'.lookup name = s.lookup name := by
  unfold lookup
  rw [h]

theorem peek_congr (h : s'.get? name = s.get? name) (i : Int64) : s'.peek name i = s.peek name i := by
  unfold peek
  rw [lookup_congr h]

theorem peek_of_get? (h : s.get? name = some (.array cells)) (i : Int64) :
    s.peek name i = (cells.get i).mapError (.access name) := by
  unfold peek
  rw [lookup_eq_ok.2 h]
  rfl

theorem lookup_insert_self (s : Store) (name : String) (v : Value) :
    (s.insert name v).lookup name = .ok v := by
  rw [lookup_eq_ok, get?_insert, if_pos rfl]

theorem lookup_insert_of_ne (h : other ≠ name) (s : Store) (v : Value) :
    (s.insert name v).lookup other = s.lookup other := by
  apply lookup_congr
  rw [get?_insert, if_neg h.symm]

theorem get?_poke_self (h : (poke name i v).run s = .ok () s')
    (hcells : s.get? name = some (.array cells)) :
    s'.get? name = some (.array (cells.write i.toInt.toNat v)) := by
  obtain ⟨_, -, -, rfl⟩ := poke_ok.1 h
  rw [get?_writeElement hcells, if_pos rfl]

theorem get?_poke_of_ne (h : (poke name i v).run s = .ok () s') (hne : other ≠ name) :
    s'.get? other = s.get? other := by
  obtain ⟨cells, hcells, -, rfl⟩ := poke_ok.1 h
  rw [get?_writeElement hcells, if_neg hne.symm]

theorem peek_poke_self (h : (poke name i v).run s = .ok () s')
    (hcells : s.get? name = some (.array cells)) :
    s'.peek name i = .ok (cells.elem.stored v) := by
  obtain ⟨old, hold, haccepts, -⟩ := poke_ok.1 h
  obtain rfl : old = cells := by simpa [hold] using hcells
  rw [peek_of_get? (get?_poke_self h hcells), Cells.get_write_self haccepts]
  rfl

theorem peek_poke_of_ne (h : (poke name i v).run s = .ok () s') (hne : other ≠ name ∨ j ≠ i) :
    s'.peek other j = s.peek other j := by
  by_cases hname : other = name
  · subst hname
    obtain ⟨cells, hcells, haccepts, -⟩ := poke_ok.1 h
    have hlow : 0 ≤ i.toInt := (Cells.accepts_eq_ok.1 haccepts).1
    have hj : j ≠ i := hne.resolve_left fun hne => hne rfl
    rw [peek_of_get? (get?_poke_self h hcells), peek_of_get? hcells,
      Cells.get_write_of_ne hlow hj]
  · exact peek_congr (get?_poke_of_ne h hname) j

theorem poke_succeeds_iff : (∃ s', (poke name i v).run s = .ok () s') ↔
    ∃ cells, s.lookup name = .ok (.array cells) ∧ 0 ≤ i.toInt ∧ i.toInt < cells.size ∧
      cells.elem.Takes v := by
  constructor
  · rintro ⟨s', h⟩
    obtain ⟨cells, hcells, haccepts, -⟩ := poke_ok.1 h
    exact ⟨cells, lookup_eq_ok.2 hcells, Cells.accepts_eq_ok.1 haccepts⟩
  · rintro ⟨cells, hcells, haccepts⟩
    exact ⟨_, poke_ok.2 ⟨cells, lookup_eq_ok.1 hcells, Cells.accepts_eq_ok.2 haccepts, rfl⟩⟩

theorem declare_fails_iff : (∃ e s', (declare name v).run s = .error e s') ↔
    ∃ old, s.lookup name = .ok old ∧ old.type ≠ v.type ∧
      ¬ (old.type.isArray = true ∧ v.type.isArray = true) := by
  rw [Attempt.exists_error_iff]
  constructor
  · intro h
    -- an unbound variable never stands in the way, so there is an old value
    have hok : ¬ ∀ t, s.type? name = some t → t = v.type ∨ (t.isArray ∧ v.type.isArray) :=
      fun hfits => h () (s.insert name v) (declare_ok.2 ⟨hfits, rfl⟩)
    cases hget : s.get? name with
    | none => exact absurd (fun t ht => by simp [type?, hget] at ht) hok
    | some old =>
      refine ⟨old, lookup_eq_ok.2 hget, not_or.1 fun hfits => hok fun t ht => ?_⟩
      rw [type?_of_get? hget] at ht
      cases ht
      exact hfits
  · rintro ⟨old, hold, hne, harrays⟩ ⟨⟩ s' h
    have hfits := (declare_ok.1 h).1 old.type (type?_of_get? (lookup_eq_ok.1 hold))
    exact hfits.elim hne harrays

theorem assign_fails_iff : (∃ e s', (assign name v).run s = .error e s') ↔
    s.lookup name = .error (.undeclared name) ∨
      ∃ old, s.lookup name = .ok old ∧ old.type ≠ v.type := by
  rw [Attempt.exists_error_iff]
  constructor
  · intro h
    cases hget : s.get? name with
    | none =>
      left
      unfold lookup
      rw [hget]
    | some old =>
      refine .inr ⟨old, lookup_eq_ok.2 hget, fun htype => ?_⟩
      exact h () (s.insert name v) (assign_ok.2 ⟨by rw [type?_of_get? hget, htype], rfl⟩)
  · rintro hfails ⟨⟩ s' h
    obtain ⟨old, hold, htype⟩ := Option.map_eq_some_iff.1 (assign_ok.1 h).1
    rw [lookup_eq_ok.2 hold] at hfails
    rcases hfails with hunbound | ⟨old', hold', hne⟩
    · cases hunbound
    · cases hold'
      exact hne htype

/-! ## Histories -/

/-- What can be done to a store. -/
inductive Action where
  | declare (name : String) (v : Value)
  | assign (name : String) (v : Value)
  | poke (name : String) (i : Int64) (v : Value)
  | clear

/-- The operation; only clearing cannot fail. -/
def Action.update : Action → Update Unit
  | declare name v => Store.declare name v
  | assign name v => Store.assign name v
  | poke name i v => Store.poke name i v
  | clear => set empty

/-- The action may write the variable. -/
def Action.Touches : Action → String → Prop
  | declare target _, name | assign target _, name | poke target _ _, name => target = name
  | clear, _ => True

/-- The store behind a history, which goes on where an action fails. -/
def afterAll (history : List Action) (s : Store) : Store :=
  history.foldl (fun s a => final (a.update.run s)) s

theorem afterAll_append (history later : List Action) (s : Store) :
    afterAll (history ++ later) s = afterAll later (afterAll history s) :=
  List.foldl_append ..

theorem Action.atomic_update (a : Action) : Attempt.Atomic a.update := by
  cases a with
  | declare name v => exact declare_atomic name v
  | assign name v => exact assign_atomic name v
  | poke name i v => exact poke_atomic name i v
  | clear =>
    intro s e s' h
    cases h

/-- The step: an action leaves the variables that it does not touch. -/
theorem get?_update {a : Action} (ha : ¬ a.Touches name) (s : Store) :
    (final (a.update.run s)).get? name = s.get? name := by
  cases hrun : a.update.run s with
  | error e s' => rw [final, a.atomic_update s e s' hrun]
  | ok u s' =>
    show s'.get? name = s.get? name
    cases a with
    | declare target v =>
      obtain ⟨-, rfl⟩ := declare_ok.1 hrun
      rw [get?_insert]
      exact if_neg ha
    | assign target v =>
      obtain ⟨-, rfl⟩ := assign_ok.1 hrun
      rw [get?_insert]
      exact if_neg ha
    | poke target i v => exact get?_poke_of_ne hrun (Ne.symm ha)
    | clear => exact absurd trivial ha

/-- The history: a variable keeps its value until an action touches it. -/
theorem get?_afterAll {history : List Action} (h : ∀ a ∈ history, ¬ a.Touches name) (s : Store) :
    (afterAll history s).get? name = s.get? name := by
  induction history generalizing s with
  | nil => rfl
  | cons a history ih =>
    rw [List.forall_mem_cons] at h
    calc (afterAll history (final (a.update.run s))).get? name
        = (final (a.update.run s)).get? name := ih h.2 _
      _ = s.get? name := get?_update h.1 s

/-- An action that fails can be struck from a history. -/
theorem afterAll_cons_of_error {a : Action} {e : StoreError} (h : a.update.run s = .error e s')
    (later : List Action) : afterAll (a :: later) s = afterAll later s := by
  have hs : s' = s := a.atomic_update s e s' h
  show afterAll later (final (a.update.run s)) = afterAll later s
  rw [h, final, hs]

/-- When the operations on a store succeed, and what is read from it then. -/
structure ReadOverWrite (s : Store) : Prop where
  /-- An element can be set exactly if the variable is an array, the index is in its range and its
  elements take the value. -/
  poke_succeeds : ∀ name i v, (∃ s', (poke name i v).run s = .ok () s') ↔
    ∃ cells, s.lookup name = .ok (.array cells) ∧ 0 ≤ i.toInt ∧ i.toInt < cells.size ∧
      cells.elem.Takes v
  /-- Then it is read back, the array is of the type and of the size that it was, and whatever else
  is read, elements or variables, is as it was. -/
  after_poke : ∀ {name i v s'}, (poke name i v).run s = .ok () s' →
    (∃ cells cells', s.lookup name = .ok (.array cells) ∧ s'.lookup name = .ok (.array cells') ∧
      cells'.elem = cells.elem ∧ cells'.size = cells.size ∧
      s'.peek name i = .ok (cells.elem.stored v)) ∧
    (∀ other j, other ≠ name ∨ j ≠ i → s'.peek other j = s.peek other j) ∧
    ∀ other, other ≠ name → s'.lookup other = s.lookup other
  /-- A declaration fails exactly if the variable is of another type, except for arrays of which only
  the elements are of another type. -/
  declare_fails : ∀ name v, (∃ e s', (declare name v).run s = .error e s') ↔
    ∃ old, s.lookup name = .ok old ∧ old.type ≠ v.type ∧
      ¬ (old.type.isArray = true ∧ v.type.isArray = true)
  /-- Else the variable has the value, and the others are as they were. -/
  after_declare : ∀ {name v s'}, (declare name v).run s = .ok () s' →
    s'.lookup name = .ok v ∧ ∀ other, other ≠ name → s'.lookup other = s.lookup other
  /-- An assignment fails exactly if the variable is not bound or of another type, also if only the
  elements of an array are of another type. -/
  assign_fails : ∀ name v, (∃ e s', (assign name v).run s = .error e s') ↔
    s.lookup name = .error (.undeclared name) ∨
      ∃ old, s.lookup name = .ok old ∧ old.type ≠ v.type
  /-- Else the variable has the value, and the others are as they were. -/
  after_assign : ∀ {name v s'}, (assign name v).run s = .ok () s' →
    s'.lookup name = .ok v ∧ ∀ other, other ≠ name → s'.lookup other = s.lookup other
  /-- What fails leaves the store as it was. -/
  after_failure : ∀ {a : Action} {e s'}, a.update.run s = .error e s' → s' = s

theorem readOverWrite (s : Store) : s.ReadOverWrite where
  poke_succeeds _ _ _ := poke_succeeds_iff
  after_poke {name i v s'} h := by
    obtain ⟨cells, hcells, -, -⟩ := poke_ok.1 h
    have hcells' := get?_poke_self h hcells
    refine ⟨⟨cells, _, lookup_eq_ok.2 hcells, lookup_eq_ok.2 hcells', Cells.elem_write ..,
      Cells.size_write .., peek_poke_self h hcells⟩, fun other j => peek_poke_of_ne h,
      fun other hne => lookup_congr (get?_poke_of_ne h hne)⟩
  declare_fails _ _ := declare_fails_iff
  after_declare h := by
    obtain ⟨-, rfl⟩ := declare_ok.1 h
    exact ⟨lookup_insert_self .., fun other hne => lookup_insert_of_ne hne ..⟩
  assign_fails _ _ := assign_fails_iff
  after_assign h := by
    obtain ⟨-, rfl⟩ := assign_ok.1 h
    exact ⟨lookup_insert_self .., fun other hne => lookup_insert_of_ne hne ..⟩
  after_failure {a e s'} h := a.atomic_update s e s' h

/-- Reading over writing, behind every history of a store: what an action has written is read back,
nothing else has changed, and an action that fails changes nothing. -/
theorem readOverWrite_afterAll (history : List Action) :
    (afterAll history empty).ReadOverWrite ∧
    (∀ {a : Action} {e s'}, a.update.run (afterAll history empty) = .error e s' →
      ∀ later, afterAll (history ++ a :: later) empty = afterAll (history ++ later) empty) ∧
    ∀ {name later}, (∀ a ∈ later, ¬ Action.Touches a name) →
      (afterAll (history ++ later) empty).lookup name = (afterAll history empty).lookup name := by
  refine ⟨readOverWrite _, fun h later => ?_, fun {name later} hlater => ?_⟩
  · rw [afterAll_append, afterAll_append, afterAll_cons_of_error h]
  · rw [afterAll_append]
    exact lookup_congr (get?_afterAll hlater _)

/-- The store is cleared, and an array of two whole numbers is made one of three reals. The
assignment before that fails, and so does the last `poke`. -/
def remadeArray : List Action :=
  [.declare "a" (.bool true), .clear, .declare "n" (.int 4),
    .declare "a" (.array (.zeros .int 2)), .poke "a" 1 (.int 5),
    .assign "a" (.array (.zeros .real 3)), .declare "a" (.array (.zeros .real 3)),
    .poke "a" (-1) (.real 0.5)]

theorem readOverWrite_afterAll_remadeArray : ∃ s s', s = afterAll remadeArray empty ∧
    (poke "a" 2 (.int 7)).run s = .ok () s' ∧ s'.peek "a" 2 = .ok (.real (Value.realOf 7)) ∧
    s'.peek "a" 1 = s.peek "a" 1 ∧ s'.lookup "n" = .ok (.int 4) ∧
    (¬ ∃ s', (poke "a" 3 (.int 7)).run s = .ok () s') ∧
    (∃ e, (declare "a" (.int 7)).run s = .error e s) ∧
    (¬ ∃ e s', (declare "a" (.array (.zeros .int 3))).run s = .error e s') ∧
    ∃ e, (assign "a" (.array (.zeros .int 3))).run s = .error e s := by
  obtain ⟨hlaws, -, -⟩ := readOverWrite_afterAll remadeArray
  have hn : (afterAll remadeArray empty).lookup "n" = .ok (.int 4) := by rfl
  have ha : (afterAll remadeArray empty).lookup "a" = .ok (.array (.zeros .real 3)) := by rfl
  generalize afterAll remadeArray empty = s at hlaws hn ha ⊢
  obtain ⟨s', hpoke⟩ := (hlaws.poke_succeeds "a" 2 (.int 7)).2
    ⟨_, ha, by decide, by decide, .inr ⟨rfl, rfl⟩⟩
  obtain ⟨⟨cells, -, hcells, -, -, -, hread⟩, helements, hothers⟩ := hlaws.after_poke hpoke
  obtain rfl : .zeros .real 3 = cells := by simpa [ha] using hcells
  refine ⟨s, s', rfl, hpoke, hread, helements _ _ (.inr (by decide)),
    (hothers "n" (by decide)).trans hn, fun hsome => ?_, ?_, fun hsome => ?_, ?_⟩
  · obtain ⟨cells, hcells, -, hlt, -⟩ := (hlaws.poke_succeeds "a" 3 (.int 7)).1 hsome
    rw [ha] at hcells
    cases hcells
    exact absurd hlt (by decide)
  · obtain ⟨e, s₁, hfails⟩ := (hlaws.declare_fails "a" (.int 7)).2 ⟨_, ha, by decide, by decide⟩
    obtain rfl := hlaws.after_failure (a := .declare "a" (.int 7)) hfails
    exact ⟨e, hfails⟩
  · obtain ⟨old, hold, -, harrays⟩ := (hlaws.declare_fails _ _).1 hsome
    rw [ha] at hold
    cases hold
    exact harrays ⟨rfl, rfl⟩
  · obtain ⟨e, s₁, hfails⟩ := (hlaws.assign_fails "a" (.array (.zeros .int 3))).2
      (.inr ⟨_, ha, by decide⟩)
    obtain rfl := hlaws.after_failure (a := .assign "a" (.array (.zeros .int 3))) hfails
    exact ⟨e, hfails⟩

end Store

end PenScript
