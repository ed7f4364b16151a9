/-!
# Operations on a state that may fail

A sequence of two operations, taken apart:

* `run_bind_ok`, `run_bind_error` : by what the first one does;
* `run_bind_eq_ok`, `run_bind_eq_error` : by what the whole does;
* `exists_error_iff` : an operation fails exactly if it does not succeed;
* `bind_eq_ok`, `map_eq_ok`, `mapError_eq_ok`, `toOption_eq_some`, `exists_of_mapM_eq_error` : the
  same for computations without a state;
* `forM_eq_ok`, `exists_of_forM_eq_error` : checks of all elements of a list.

What operations leave behind:

* `Reads x` : the operation leaves the state as it was; `Asks q x` : it is the question `q` to the
  state;
* `Atomic x` : it does so if it fails, which passes from the last part of a sequence to the whole if
  the parts before it only read (`Atomic.bind`);
* `final r` : the state that a result leaves;
* `Commutes f x` : a change `f` of the state may be made before the operation or behind it, which
  passes from the parts of a sequence to the whole (`Commutes.bind`).
-/

namespace PenScript.Attempt

variable {ε σ α β : Type} {x : EStateM ε σ α} {f : α → EStateM ε σ β} {s s' : σ}

theorem run_bind_ok {a : α} (h : x.run s = .ok a s') : (x >>= f).run s = (f a).run s' := by
  rw [EStateM.run_bind, h]

theorem run_bind_error {e : ε} (h : x.run s = .error e s') : (x >>= f).run s = .error e s' := by
  rw [EStateM.run_bind, h]

theorem run_bind_eq_ok {b : β} : (x >>= f).run s = .ok b s' ↔
    ∃ a s₁, x.run s = .ok a s₁ ∧ (f a).run s₁ = .ok b s' := by
  constructor
  · intro h
    cases hx : x.run s with
    | ok a s₁ => exact ⟨a, s₁, rfl, by rwa [run_bind_ok hx] at h⟩
    | error e s₁ => rw [run_bind_error hx] at h; cases h
  · rintro ⟨a, s₁, hx, hf⟩
    rw [run_bind_ok hx, hf]

theorem run_bind_eq_error {e : ε} : (x >>= f).run s = .error e s' ↔
    x.run s = .error e s' ∨ ∃ a s₁, x.run s = .ok a s₁ ∧ (f a).run s₁ = .error e s' := by
  constructor
  · intro h
    cases hx : x.run s with
    | ok a s₁ => exact .inr ⟨a, s₁, rfl, by rwa [run_bind_ok hx] at h⟩
    | error e s₁ => rw [run_bind_error hx] at h; cases h; exact .inl rfl
  · rintro (hx | ⟨a, s₁, hx, hf⟩)
    · rw [run_bind_error hx]
    · rw [run_bind_ok hx, hf]

theorem exists_error_iff : (∃ e s', x.run s = .error e s') ↔ ∀ a s', x.run s ≠ .ok a s' := by
  cases x.run s <;> simp

theorem bind_eq_ok {y : Except ε α} {g : α → Except ε β} {b : β} :
    y >>= g = .ok b ↔ ∃ a, y = .ok a ∧ g a = .ok b := by
  cases y <;> simp [bind, Except.bind]

theorem map_eq_ok {y : Except ε α} {g : α → β} {b : β} :
    y.map g = .ok b ↔ ∃ a, y = .ok a ∧ g a = b := by
  cases y <;> simp [Except.map]

theorem mapError_eq_ok {ε' : Type} {y : Except ε α} {k : ε → ε'} {a : α} :
    y.mapError k = .ok a ↔ y = .ok a := by
  cases y with
  | ok b => exact ⟨fun h => congrArg Except.ok (Except.ok.inj h), fun h => by rw [h]; rfl⟩
  | error e => constructor <;> rintro ⟨⟩

theorem toOption_eq_some {y : Except ε α} {a : α} : y.toOption = some a ↔ y = .ok a := by
  cases y <;> simp [Except.toOption]

theorem exists_of_mapM_eq_error {g : α → Except ε β} {xs : List α} {e : ε}
    (h : xs.mapM g = .error e) : ∃ x ∈ xs, g x = .error e := by
  induction xs with
  | nil => cases h
  | cons x xs ih =>
    rw [List.mapM_cons] at h
    cases hx : g x with
    | error e' =>
      rw [hx] at h
      cases h
      exact ⟨x, List.mem_cons_self, hx⟩
    | ok y =>
      rw [hx] at h
      cases hxs : xs.mapM g with
      | error e' =>
        rw [hxs] at h
        cases h
        obtain ⟨z, hz, hgz⟩ := ih hxs
        exact ⟨z, List.mem_cons_of_mem x hz, hgz⟩
      | ok ys =>
        rw [hxs] at h
        cases h

theorem forM_eq_ok {g : α → Except ε Unit} {xs : List α} :
    xs.forM g = .ok () ↔ ∀ x ∈ xs, g x = .ok () := by
  induction xs with
  | nil => simp [List.forM, pure, Except.pure]
  | cons x xs ih =>
    rw [List.forM_eq_forM, List.forM_cons, bind_eq_ok, List.forall_mem_cons, ← ih]
    exact ⟨fun ⟨_, hx, hxs⟩ => ⟨hx, hxs⟩, fun ⟨hx, hxs⟩ => ⟨(), hx, hxs⟩⟩

theorem exists_of_forM_eq_error {g : α → Except ε Unit} {xs : List α} {e : ε}
    (h : xs.forM g = .error e) : ∃ x ∈ xs, g x = .error e := by
  induction xs with
  | nil => cases h
  | cons x xs ih =>
    rw [List.forM_eq_forM, List.forM_cons] at h
    cases hx : g x with
    | error e' =>
      rw [hx] at h
      cases h
      exact ⟨x, List.mem_cons_self, hx⟩
    | ok u =>
      rw [hx] at h
      obtain ⟨y, hy, he⟩ := ih h
      exact ⟨y, List.mem_cons_of_mem x hy, he⟩

/-! ## What operations leave behind -/

/-- The operation leaves the state as it was, whether it succeeds or fails. -/
structure Reads (x : EStateM ε σ α) : Prop where
  ok : ∀ {s a s'}, x.run s = .ok a s' → s' = s
  error : ∀ {s e s'}, x.run s = .error e s' → s' = s

/-- If the operation fails, it leaves the state as it was. -/
def Atomic (x : EStateM ε σ α) : Prop := ∀ s e s', x.run s = .error e s' → s' = s

theorem Reads.atomic (h : Reads x) : Atomic x := fun _ _ _ => h.error

theorem Reads.pure (a : α) : Reads (pure a : EStateM ε σ α) where
  ok h := by cases h; rfl
  error h := by cases h

theorem Reads.throw (e : ε) : Reads (throw e : EStateM ε σ α) where
  ok h := by cases h
  error h := by cases h; rfl

theorem Reads.get : Reads (get : EStateM ε σ σ) where
  ok h := by cases h; rfl
  error h := by cases h

theorem Reads.bind (hx : Reads x) (hf : ∀ a, Reads (f a)) : Reads (x >>= f) where
  ok h := by
    obtain ⟨a, s₁, h₁, h₂⟩ := run_bind_eq_ok.1 h
    rw [(hf a).ok h₂, hx.ok h₁]
  error h := by
    rcases run_bind_eq_error.1 h with h₁ | ⟨a, s₁, h₁, h₂⟩
    · exact hx.error h₁
    · rw [(hf a).error h₂, hx.ok h₁]

theorem Atomic.bind (hx : Reads x) (hf : ∀ a, Atomic (f a)) : Atomic (x >>= f) := by
  intro s e s' h
  rcases run_bind_eq_error.1 h with h₁ | ⟨a, s₁, h₁, h₂⟩
  · exact hx.error h₁
  · rw [hf a s₁ e s' h₂, hx.ok h₁]

/-- A result without a state, behind which the state is the one given. -/
def answer (s : σ) : Except ε α → EStateM.Result ε σ α
  | .ok a => .ok a s
  | .error e => .error e s

/-- The operation asks a question to the state, and does nothing else. -/
def Asks (q : σ → Except ε α) (x : EStateM ε σ α) : Prop := ∀ s, x.run s = answer s (q s)

theorem Asks.run_eq_ok {q : σ → Except ε α} {a : α} (h : Asks q x) :
    x.run s = .ok a s' ↔ q s = .ok a ∧ s = s' := by
  rw [h s]
  cases q s <;> simp [answer]

theorem Asks.reads {q : σ → Except ε α} (h : Asks q x) : Reads x where
  ok hrun := (h.run_eq_ok.1 hrun).2.symm
  error {s e s'} hrun := by
    rw [h s] at hrun
    cases hq : q s with
    | ok a => rw [hq] at hrun; cases hrun
    | error e' => rw [hq] at hrun; cases hrun; rfl

/-- An operation after which nothing can fail. -/
theorem Atomic.bind_pure (hx : Atomic x) (g : α → β) : Atomic (x >>= fun a => pure (g a)) := by
  intro s e s' h
  rcases run_bind_eq_error.1 h with h₁ | ⟨a, s₁, -, h₂⟩
  · exact hx s e s' h₁
  · cases h₂

/-! ## Changes before and behind an operation -/

/-- The state that is left, in success and in failure. -/
def final : EStateM.Result ε σ α → σ
  | .ok _ s => s
  | .error _ s => s

/-- The result with a change of the state that it leaves. -/
def mapFinal (g : σ → σ) : EStateM.Result ε σ α → EStateM.Result ε σ α
  | .ok a s => .ok a (g s)
  | .error e s => .error e (g s)

/-- A change of the state before the operation is one behind it. -/
def Commutes (g : σ → σ) (x : EStateM ε σ α) : Prop := ∀ s, x.run (g s) = mapFinal g (x.run s)

theorem Commutes.pure (g : σ → σ) (a : α) : Commutes g (pure a : EStateM ε σ α) := fun _ => rfl

theorem Commutes.throw (g : σ → σ) (e : ε) : Commutes g (throw e : EStateM ε σ α) := fun _ => rfl

theorem Commutes.bind {g : σ → σ} (hx : Commutes g x) (hf : ∀ a, Commutes g (f a)) :
    Commutes g (x >>= f) := by
  intro s
  have hg := hx s
  cases h : x.run s with
  | ok a s₁ =>
    rw [h] at hg
    rw [run_bind_ok h, run_bind_ok hg]
    exact hf a s₁
  | error e s₁ =>
    rw [h] at hg
    rw [run_bind_error h, run_bind_error hg]
    rfl

/-- An operation that goes on from a part of the state that the change leaves as it was. -/
theorem Commutes.get_bind {g : σ → σ} {k : σ → EStateM ε σ α} (hk : ∀ s, Commutes g (k s))
    (hpart : ∀ s, k (g s) = k s) : Commutes g (get >>= k) := by
  intro s
  rw [run_bind_ok (EStateM.run_get (g s)), run_bind_ok (EStateM.run_get s), hpart]
  exact hk s s

end PenScript.Attempt
