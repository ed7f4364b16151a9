import Mathlib.Logic.Basic
import PenScript.Command.Prepare
import PenScript.Formula.Eval
import PenScript.Proofs.Attempt

/-!
# Types of values and of variables

* `VarType.IsNumber t` : the type is that of whole numbers or of reals;
* `Value.castTo_type`, `Formula.evaluateAs_type`, `Store.type_of_peek` : the types of values that
  are converted, computed and read from an array;
* `Store.type? s name` : the type of a variable, if it is bound;
* `Store.declare_ok`, `Store.assign_ok`, `Store.poke_ok` : when an operation succeeds, and what it
  leaves; `Store.declare_atomic`, `Store.assign_atomic`, `Store.poke_atomic` : one that fails leaves
  the store as it was.
-/

namespace PenScript

/-! ## Values -/

/-- Values of the type are numbers. -/
def VarType.IsNumber (t : VarType) : Prop := t = .int ∨ t = .real

theorem VarType.isArray_iff {t : VarType} : t.isArray = true ↔ ∃ elem, t = .array elem := by
  cases t <;> simp [isArray]

@[simp] theorem ElemType.type_default (elem : ElemType) : elem.default.type = elem.scalar := by
  cases elem <;> rfl

@[simp] theorem Cells.elem_empty (elem : ElemType) : (Cells.empty elem).elem = elem := by
  cases elem <;> rfl

@[simp] theorem VarType.type_default (t : VarType) : t.default.type = t := by
  cases t with
  | array elem => exact congrArg VarType.array (Cells.elem_empty elem)
  | _ => rfl

theorem Value.castTo_type {v w : Value} {t : VarType} (h : v.castTo t = .ok w) : w.type = t := by
  unfold castTo at h
  split at h <;> cases h <;> rfl

theorem Value.castTo_scalar {v w : Value} {t : VarType} (h : v.castTo t = .ok w) :
    w.type.isArray = false := by
  unfold castTo at h
  split at h <;> cases h <;> rfl

/-- A sum is a number. -/
theorem Value.add_scalar {v w u : Value} (h : v.add w = .ok u) : u.type.isArray = false := by
  unfold add at h
  split at h
  · cases h
    rfl
  · cases h
  · obtain ⟨x, -, h₁⟩ := Attempt.bind_eq_ok.1 h
    obtain ⟨y, -, h₂⟩ := Attempt.bind_eq_ok.1 h₁
    cases h₂
    rfl

@[simp] theorem ElemType.isArray_scalar (elem : ElemType) : elem.scalar.isArray = false := by
  cases elem <;> rfl

theorem Formula.evaluateAs_scalar {s : Store} {t : VarType} {formula : String} {v : Value}
    (h : evaluateAs s t formula = .ok v) : v.type.isArray = false := by
  obtain ⟨u, -, hcast⟩ := Attempt.bind_eq_ok.1 h
  exact Value.castTo_scalar (Attempt.mapError_eq_ok.1 hcast)

theorem Formula.evaluateAs_type {s : Store} {t : VarType} {formula : String} {v : Value}
    (h : evaluateAs s t formula = .ok v) : v.type = t := by
  obtain ⟨u, -, hcast⟩ := Attempt.bind_eq_ok.1 h
  exact Value.castTo_type (Attempt.mapError_eq_ok.1 hcast)

theorem fitScalar_scalar {name : String} {t : VarType} {v w : Value}
    (h : fitScalar name t v = .ok w) (hv : v.type.isArray = false) : w.type.isArray = false := by
  unfold fitScalar at h
  split at h
  · cases h
    rfl
  · split at h
    · cases h
      exact hv
    · cases h

/-- A declaration that can be configured has its type, and a name that can be one. -/
theorem Declaration.configure_ok {t : VarType} {params : String} {d : Declaration}
    (h : configure t params = .ok d) : ∃ name value, parts t params.toList = .ok (name, value) ∧
      checkName name = .ok () ∧ d = ⟨t, String.ofList name, value.map String.ofList, false⟩ := by
  obtain ⟨⟨name, value⟩, hparts, h₁⟩ := Attempt.bind_eq_ok.1 h
  dsimp only at h₁
  split at h₁
  · cases h₁
  split at h₁
  · cases h₁
  obtain ⟨⟨⟩, hname, h₂⟩ := Attempt.bind_eq_ok.1 h₁
  cases h₂
  exact ⟨name, value, hparts, hname, rfl⟩

namespace Cells

theorem elem_of_create {elem : ElemType} {n : Int64} {c : Cells} (h : create elem n = .ok c) :
    c.elem = elem := by
  unfold create at h
  split at h
  · cases h
  split at h
  · cases h
  · cases h
    cases elem <;> rfl

theorem size_of_create {elem : ElemType} {n : Int64} {c : Cells} (h : create elem n = .ok c) :
    c.size ≤ sizeLimit := by
  unfold create at h
  split at h
  · cases h
  split at h
  · cases h
  · rename_i hle
    cases h
    have hsize : (zeros elem n.toInt.toNat).size = n.toInt.toNat := by
      cases elem <;> simp [zeros, size]
    omega

@[simp] theorem size_empty (elem : ElemType) : (empty elem).size = 0 := by
  cases elem <;> rfl

@[simp] theorem size_write (c : Cells) (k : Nat) (v : Value) : (c.write k v).size = c.size := by
  unfold write
  split <;> simp [size]

@[simp] theorem elem_write (c : Cells) (k : Nat) (v : Value) : (c.write k v).elem = c.elem := by
  unfold write
  split <;> rfl

theorem type_of_get? {c : Cells} {k : Nat} {v : Value} (h : c.get? k = some v) :
    v.type = c.elem.scalar := by
  cases c with
  | ints items =>
    obtain ⟨n, -, rfl⟩ := Option.map_eq_some_iff.1 h
    rfl
  | reals items =>
    obtain ⟨x, -, rfl⟩ := Option.map_eq_some_iff.1 h
    rfl

theorem type_of_mem_toList {c : Cells} {v : Value} (h : v ∈ c.toList) :
    v.type = c.elem.scalar := by
  cases c with
  | ints items =>
    obtain ⟨n, -, rfl⟩ := List.mem_map.1 h
    rfl
  | reals items =>
    obtain ⟨x, -, rfl⟩ := List.mem_map.1 h
    rfl

theorem type_of_get {c : Cells} {i : Int64} {v : Value} (h : c.get i = .ok v) :
    v.type = c.elem.scalar := by
  obtain ⟨k, -, hk⟩ := Attempt.bind_eq_ok.1 h
  cases hk
  cases hv : c.get? k with
  | none => simp
  | some v => exact type_of_get? hv

end Cells

/-! ## Variables -/

namespace Store

variable {s s' : Store} {name : String} {v : Value}

@[simp] theorem get?_empty (name : String) : empty.get? name = none := by
  unfold get? empty
  simp

theorem get?_insert (s : Store) (name other : String) (v : Value) :
    (s.insert name v).get? other = if name = other then some v else s.get? other := by
  unfold get? insert
  simp [Std.TreeMap.getElem?_insert]

/-- The type of a variable. -/
def type? (s : Store) (name : String) : Option VarType := (s.get? name).map Value.type

@[simp] theorem type?_empty (name : String) : empty.type? name = none := by
  rw [type?, get?_empty, Option.map_none]

theorem type?_of_get? (h : s.get? name = some v) : s.type? name = some v.type := by
  rw [type?, h, Option.map_some]

theorem type?_insert (s : Store) (name other : String) (v : Value) :
    (s.insert name v).type? other = if name = other then some v.type else s.type? other := by
  rw [type?, get?_insert]
  split <;> rfl

@[simp] theorem type?_insert_self (s : Store) (name : String) (v : Value) :
    (s.insert name v).type? name = some v.type := by
  rw [type?_insert, if_pos rfl]

theorem get?_writeElement {cells : Cells} (h : s.get? name = some (.array cells)) (other : String)
    (k : Nat) (v : Value) : (s.writeElement name k v).get? other =
      if name = other then some (.array (cells.write k v)) else s.get? other := by
  unfold get? at h ⊢
  unfold writeElement
  simp [Std.TreeMap.getElem?_modify, h]

/-- Writing an element changes no type. -/
theorem type?_writeElement {cells : Cells} (h : s.get? name = some (.array cells)) (other : String)
    (k : Nat) (v : Value) : (s.writeElement name k v).type? other = s.type? other := by
  rw [type?, get?_writeElement h]
  split
  · rename_i heq
    rw [← heq, type?_of_get? h]
    simp [Value.type]
  · rfl

theorem lookup_eq_ok : s.lookup name = .ok v ↔ s.get? name = some v := by
  unfold lookup
  cases s.get? name <;> simp

theorem elemOf_eq_ok {elem : ElemType} :
    s.elemOf name = .ok elem ↔ s.type? name = some (.array elem) := by
  unfold elemOf typeOf type? lookup
  cases s.get? name with
  | none => constructor <;> rintro ⟨⟩
  | some v =>
    cases v with
    | array cells => constructor <;> rintro ⟨⟩ <;> rfl
    | _ => constructor <;> rintro ⟨⟩

/-- What is read from an array has the type of its elements. -/
theorem type_of_peek {i : Int64} (h : s.peek name i = .ok v) :
    ∃ elem, s.type? name = some (.array elem) ∧ v.type = elem.scalar := by
  obtain ⟨old, hold, hv⟩ := Attempt.bind_eq_ok.1 h
  cases old with
  | array cells =>
    exact ⟨cells.elem, type?_of_get? (lookup_eq_ok.1 hold),
      Cells.type_of_get (Attempt.mapError_eq_ok.1 hv)⟩
  | _ => cases hv

/-! ### Operations that write -/

theorem declare_ok : (declare name v).run s = .ok () s' ↔
    (∀ t, s.type? name = some t → t = v.type ∨ (t.isArray ∧ v.type.isArray)) ∧
      s' = s.insert name v := by
  rw [EStateM.run, declare, type?]
  cases s.get? name with
  | none => simp [eq_comm (a := s')]
  | some old =>
    by_cases hfits : old.type = v.type ∨ (old.type.isArray ∧ v.type.isArray)
    · simp only [if_pos hfits, EStateM.Result.ok.injEq, true_and, Option.map_some,
        Option.some.injEq, forall_eq']
      exact ⟨fun h => ⟨hfits, h.symm⟩, fun h => h.2.symm⟩
    · simp only [if_neg hfits, reduceCtorEq, Option.map_some, Option.some.injEq, forall_eq',
        false_iff]
      exact fun h => hfits h.1

theorem assign_ok : (assign name v).run s = .ok () s' ↔
    s.type? name = some v.type ∧ s' = s.insert name v := by
  rw [EStateM.run, assign, type?]
  cases s.get? name with
  | none => simp
  | some old =>
    by_cases hfits : old.type = v.type
    · simp [hfits, eq_comm (a := s')]
    · simp [hfits]

theorem poke_ok {i : Int64} : (poke name i v).run s = .ok () s' ↔
    ∃ cells, s.get? name = some (.array cells) ∧ cells.accepts i v = .ok () ∧
      s' = s.writeElement name i.toInt.toNat v := by
  rw [EStateM.run, poke]
  cases s.get? name with
  | none => simp
  | some old =>
    cases old with
    | array cells =>
      cases hfits : cells.accepts i v with
      | ok a => simp [hfits, eq_comm (a := s')]
      | error e => simp [hfits]
    | _ => simp

theorem declare_atomic (name : String) (v : Value) : Attempt.Atomic (declare name v) := by
  intro s e s' h
  rw [EStateM.run, declare] at h
  split at h
  · cases h
  · split at h <;> cases h
    rfl

theorem assign_atomic (name : String) (v : Value) : Attempt.Atomic (assign name v) := by
  intro s e s' h
  rw [EStateM.run, assign] at h
  split at h
  · cases h
    rfl
  · split at h <;> cases h
    rfl

theorem poke_atomic (name : String) (i : Int64) (v : Value) : Attempt.Atomic (poke name i v) := by
  intro s e s' h
  rw [EStateM.run, poke] at h
  split at h
  · cases h
    rfl
  · split at h <;> cases h
    rfl
  · cases h
    rfl

end Store

end PenScript
