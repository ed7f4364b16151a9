import PenScript.Proofs.Atomic
import PenScript.Proofs.Prediction

/-!
# The variables over a whole run

Everything here holds of any code, well nested or not.

* `Command.execute_error_writes` : a command that fails writes what `Writes` lists, like one that
  succeeds;
* `Writes.change` : there are three ways to change a store;
* `Store.Bounded s` : no array of the store is too large;
* `Store.shape? s name` : the type of the elements of an array and its size;
* `Store.KeepsShape s s' name` : an array keeps its shape;
* `Machine.Executes code kind m m'` : between two states of a run, a command of the kind is executed;
* `Session.Request.array_of_makesArray` : of the commands that can be written, only `array` makes a
  variable an array;
* `Program.emptied_without_array` : a command other than `array` that changes the shape of an array;
* `Program.storeTyping` : the main result.
-/

namespace PenScript

/-! ## Commands that fail -/

theorem CountedLoop.execute_error_writes {l : CountedLoop} {code : List CodeLine} {pos : Nat}
    {m m' : Machine} {e : CommandError} (h : (l.execute code pos).run m = .error e m') :
    Writes (.countTo l) m.store m'.store := by
  rw [l.run_execute] at h
  rcases Attempt.run_bind_eq_error.1 h with hhead | ⟨⟨v, b⟩, m₁, hhead, htest⟩
  · have hm : m' = m := l.head_atomic _ _ _ _ hhead
    exact .same (by rw [hm])
  · -- the variable is bound already when the end of the loop is found missing
    have hstore : m'.store = m₁.store :=
      (test_keeps (fun _ _ => rfl) (fun _ _ => rfl) l code pos v b).error htest
    rw [hstore]
    exact head_writes hhead

namespace Command

variable {code : List CodeLine} {pos : Nat} {m m' : Machine} {e : CommandError}

theorem executeEndFor_error_store (h : (executeEndFor code pos).run m = .error e m') :
    m'.store = m.store := by
  unfold executeEndFor at h
  rcases Attempt.run_bind_eq_error.1 h with hstart | ⟨start, m₁, hstart, h₁⟩
  · exact (Exec.Keeps.resolve _).error hstart
  · have hm₁ : m₁.store = m.store := (Exec.Keeps.resolve _).ok hstart
    dsimp only at h₁
    split at h₁
    · rename_i l hl
      have hm : m' = m₁ := (l.advance_atomic start).bind_pure _ _ _ _ h₁
      rw [hm, hm₁]
    · cases h₁

/-- A command that fails does to the variables what `Writes` lists, and nothing at all unless it
enters a loop. -/
theorem execute_error_writes {c : Command} (h : (c.execute code pos).run m = .error e m') :
    Writes c m.store m'.store := by
  have hwork : ∀ {x}, c.work? = some x → Writes c m.store m'.store := by
    intro x hx
    rw [execute_of_work? hx] at h
    have hm : m' = m := (atomic_of_work? hx).bind_pure _ _ _ _ h
    exact .same (by rw [hm])
  cases c with
  | declare d => exact hwork rfl
  | array d => exact hwork rfl
  | peek p => exact hwork rfl
  | poke p => exact hwork rfl
  | draw d => exact hwork rfl
  | countTo l => exact CountedLoop.execute_error_writes h
  | endFor => exact .same (executeEndFor_error_store h)
  | _ =>
    have hstore : m'.store = m.store :=
      (execute_keeps (fun _ _ => rfl) (fun _ _ => rfl) rfl code pos).error h
    exact .same hstore

end Command

theorem Machine.Tries.writes {code : List CodeLine} {m m' : Machine} (h : Tries code m m') :
    ∃ c, commandAt code m.pc = some c ∧ Writes c m.store m'.store := by
  obtain ⟨l, hl, hok | ⟨e, herror⟩⟩ := h
  · exact Step.writes ⟨l, hl, hok⟩
  · refine ⟨l.command, commandAt_eq_some.2 ⟨l, hl, rfl⟩, ?_⟩
    have hexec := execute_of_step_error herror
    have hwrites := Command.execute_error_writes hexec
    exact hwrites

/-! ## Changes of a store -/

/-- There are three ways to change a store: none, binding a variable, and writing an element. A
variable that is bound to an array stays so. -/
theorem Writes.change {c : Command} {s s' : Store} (h : Writes c s s') :
    s' = s ∨
      (∃ name v, c.Fits name v ∧
        (∀ t, s.type? name = some t → t.isArray = true → v.type.isArray = true) ∧
        s' = s.insert name v) ∨
      ∃ name cells k v, s.get? name = some (.array cells) ∧ s' = s.writeElement name k v := by
  have hdeclare : ∀ {name v}, c.Fits name v → (Store.declare name v).run s = .ok () s' →
      ∃ name v, c.Fits name v ∧
        (∀ t, s.type? name = some t → t.isArray = true → v.type.isArray = true) ∧
        s' = s.insert name v := by
    intro name v hfits hrun
    obtain ⟨hold, hs'⟩ := Store.declare_ok.1 hrun
    refine ⟨name, v, hfits, fun t ht hta => ?_, hs'⟩
    rcases hold t ht with heq | ⟨-, hv⟩
    · exact heq ▸ hta
    · exact hv
  cases h with
  | same h => exact .inl h
  | declare hc hd ht h hfits => exact .inr (.inl (hdeclare hfits h))
  | @array d cells hc ht h hsize =>
    refine .inr (.inl (hdeclare ?_ h))
    rintro cells' ⟨⟩
    exact ⟨.inl ⟨d, hc, rfl⟩, hsize⟩
  | peek hc hnew ha ht h => exact .inr (.inl (hdeclare (.of_scalar (by rw [ht]; simp)) h))
  | @count l v hc ht h =>
    have hscalar : v.type.isArray = false := by
      rcases l.type_isNumber s with hn | hn <;> rw [ht, hn] <;> rfl
    exact .inr (.inl (hdeclare (.of_scalar hscalar) h))
  | assign h hfits =>
    obtain ⟨hold, hs'⟩ := Store.assign_ok.1 h
    refine .inr (.inl ⟨_, _, hfits, fun t ht hta => ?_, hs'⟩)
    rw [hold, Option.some.injEq] at ht
    rw [ht, hta]
  | poke h =>
    obtain ⟨cells, hcells, -, hs'⟩ := Store.poke_ok.1 h
    exact .inr (.inr ⟨_, cells, _, _, hcells, hs'⟩)

namespace Store

variable {s s₁ s' : Store} {name : String}

/-- No array is too large. -/
def Bounded (s : Store) : Prop :=
  ∀ name cells, s.get? name = some (.array cells) → cells.size ≤ Cells.sizeLimit

/-- The type of the elements of an array, and its size. -/
def shape? (s : Store) (name : String) : Option (ElemType × Nat) :=
  match s.get? name with
  | some (.array cells) => some (cells.elem, cells.size)
  | _ => none

theorem shape?_of_get? {cells : Cells} (h : s.get? name = some (.array cells)) :
    s.shape? name = some (cells.elem, cells.size) := by
  rw [shape?, h]

theorem exists_of_shape? {shape : ElemType × Nat} (h : s.shape? name = some shape) :
    ∃ cells, s.get? name = some (.array cells) ∧ (cells.elem, cells.size) = shape := by
  unfold shape? at h
  split at h
  · rename_i cells hcells
    exact ⟨cells, hcells, Option.some.inj h⟩
  · cases h

/-- If the variable is an array, it stays one of the same shape. -/
def KeepsShape (s s' : Store) (name : String) : Prop :=
  ∀ shape, s.shape? name = some shape → s'.shape? name = some shape

theorem Bounded.empty : Bounded .empty := by
  intro name cells h
  rw [get?_empty] at h
  cases h

theorem KeepsShape.refl (s : Store) (name : String) : KeepsShape s s name := fun _ h => h

theorem KeepsShape.trans (h : KeepsShape s s₁ name) (h' : KeepsShape s₁ s' name) :
    KeepsShape s s' name := fun shape hs => h' shape (h shape hs)

theorem KeepsShape.writeElement {target : String} {cells : Cells}
    (h : s.get? target = some (.array cells)) (k : Nat) (v : Value) (name : String) :
    KeepsShape s (s.writeElement target k v) name := by
  intro shape hshape
  by_cases htarget : target = name
  · subst htarget
    have hnew : (s.writeElement target k v).get? target = some (.array (cells.write k v)) := by
      rw [get?_writeElement h, if_pos rfl]
    rw [shape?_of_get? hnew, Cells.elem_write, Cells.size_write, ← shape?_of_get? h, hshape]
  · have hsame : (s.writeElement target k v).get? name = s.get? name := by
      rw [get?_writeElement h, if_neg htarget]
    rw [shape?, hsame]
    exact hshape

end Store

namespace Writes

variable {c : Command} {s s' : Store}

/-- The step: no command makes a large array. -/
theorem bounded (h : Writes c s s') (hs : s.Bounded) : s'.Bounded := by
  rcases h.change with rfl | ⟨target, v, hfits, -, rfl⟩ | ⟨target, cells, k, v, hcells, rfl⟩
  · exact hs
  · intro name cells hget
    rw [Store.get?_insert] at hget
    split at hget
    · exact (hfits cells (Option.some.inj hget)).2
    · exact hs name cells hget
  · intro name cells' hget
    rw [Store.get?_writeElement hcells] at hget
    split at hget
    · cases hget
      rw [Cells.size_write]
      exact hs target cells hcells
    · exact hs name cells' hget

/-- The step: a command that makes no array of a variable leaves the shape of the one there is. -/
theorem keepsShape (h : Writes c s s') {name : String} (hc : ¬ c.MakesArray name) :
    s.KeepsShape s' name := by
  rcases h.change with rfl | ⟨target, v, hfits, hold, rfl⟩ | ⟨target, cells, k, v, hcells, rfl⟩
  · exact .refl s' name
  · intro shape hshape
    by_cases htarget : target = name
    · -- an array is replaced by an array, which only a command that makes it can do
      subst htarget
      obtain ⟨cells, hcells, -⟩ := Store.exists_of_shape? hshape
      have hv := hold _ (Store.type?_of_get? hcells) rfl
      cases v with
      | array new => exact absurd (hfits new rfl).1 hc
      | _ => cases hv
    · rw [Store.shape?, Store.get?_insert, if_neg htarget]
      exact hshape
  · exact .writeElement hcells k v name

end Writes

/-! ## Commands that make arrays -/

/-- No text declares a variable of an array type. -/
theorem Command.isArray_of_configure {k : Keyword} {params : String} {d : Declaration}
    (h : configure k params = .ok (.declare d)) : d.type.isArray = false := by
  cases k with
  | int | real | boolean =>
    obtain ⟨d', hd, heq⟩ := Attempt.map_eq_ok.1 h
    obtain ⟨name, value, -, -, rfl⟩ := Declaration.configure_ok hd
    cases heq
    rfl
  | array | peek | poke | «if» | «while» | «for» | method | call =>
    obtain ⟨_, -, heq⟩ := Attempt.map_eq_ok.1 h
    cases heq
  | «else» | endIf | endWhile | endFor | endMethod =>
    obtain ⟨_, -, heq⟩ := Attempt.bind_eq_ok.1 h
    cases heq
  | pen | fill | moveTo | drawTo | rectangle | circle | clear | write =>
    obtain ⟨_, -, hdraw⟩ := Attempt.bind_eq_ok.1 h
    obtain ⟨_, -, heq⟩ := Attempt.bind_eq_ok.1 hdraw
    cases heq

/-- A command that can be written makes an array only if it is an `array`. -/
theorem Session.Request.array_of_makesArray {r : Request} {c : Command} {name : String}
    (h : r.command = .ok c) (hc : c.MakesArray name) : ∃ d, c = .array d ∧ d.name = name := by
  rcases hc with harray | ⟨d, rfl, -, hd, -⟩
  · exact harray
  · obtain ⟨c, hconfigure, hc⟩ := Attempt.bind_eq_ok.1 h
    have heq : (if r.update then c.asUpdate else c) = .declare d := Except.ok.inj hc
    -- the mark of an update does not change the type
    have htype : ∃ d', c = .declare d' ∧ d'.type = d.type := by
      split at heq
      · cases c with
        | declare d' => cases heq; exact ⟨d', rfl, rfl⟩
        | _ => cases heq
      · exact ⟨d, heq, rfl⟩
    obtain ⟨d', rfl, htype⟩ := htype
    have hscalar := Command.isArray_of_configure hconfigure
    rw [htype, hd] at hscalar
    cases hscalar

/-! ## Runs -/

namespace Machine

variable {code : List CodeLine} {m m' : Machine} {n : Nat} {name : String}

theorem Passes.bounded (h : Passes code m) : m.store.Bounded := by
  obtain ⟨n, hn⟩ := h
  refine hn.induct (P := fun m => m.store.Bounded) (fun {m m'} hm hstep => ?_) Store.Bounded.empty
  obtain ⟨c, -, hwrites⟩ := hstep.writes
  exact hwrites.bounded hm

theorem persists_of_steps (h : Steps (Tries code) n m m') : m.store.Persists m'.store := by
  induction h with
  | refl m => exact .refl m.store
  | cons h hs ih =>
    obtain ⟨c, -, hwrites⟩ := h.writes
    exact (Store.Persists.of_retypes hwrites.retypes).trans ih

/-- On the way from one state of a run to another, a command of the kind is executed. -/
def Executes (code : List CodeLine) (kind : Command → Prop) (m m' : Machine) : Prop :=
  ∃ i j m₁ m₂ c, Steps (Tries code) i m m₁ ∧ commandAt code m₁.pc = some c ∧ kind c ∧
    Tries code m₁ m₂ ∧ Steps (Tries code) j m₂ m'

theorem keepsShape_or_executes (h : Steps (Tries code) n m m') (name : String) :
    m.store.KeepsShape m'.store name ∨ Executes code (·.MakesArray name) m m' := by
  induction h with
  | refl m => exact .inl (.refl m.store name)
  | @cons n m m₁ m' h hs ih =>
    obtain ⟨c, hc, hwrites⟩ := h.writes
    by_cases hmakes : c.MakesArray name
    · exact .inr ⟨0, n, m, m₁, c, .refl m, hc, hmakes, h, hs⟩
    · rcases ih with hkeeps | ⟨i, j, m₂, m₃, d, hi, hrest⟩
      · exact .inl ((hwrites.keepsShape hmakes).trans hkeeps)
      · exact .inr ⟨i + 1, j, m₂, m₃, d, .cons h hi, hrest⟩

/-- If the run is over behind the command at the counter, only that command can be of the kind. -/
theorem exists_of_executes {kind : Command → Prop} (hstep : Step code m m')
    (hover : code[m'.pc]? = none) (h : Executes code kind m m') :
    ∃ c, commandAt code m.pc = some c ∧ kind c := by
  obtain ⟨i, j, m₁, m₂, c, hi, hc, hkind, htry, -⟩ := h
  cases hi with
  | refl => exact ⟨c, hc, hkind⟩
  | cons hfirst hrest =>
    cases hstep.eq_of_tries hfirst
    obtain ⟨-, rfl⟩ := hrest.eq_zero (not_tries_of_none hover)
    exact absurd htry (not_tries_of_none hover _)

end Machine

/-- An array of two whole numbers is declared to be one of reals. No keyword stands for such a
declaration, but it can be configured and put into a program. -/
def Program.emptying : Program where
  code :=
    [⟨.array ⟨.int, "a", "2"⟩, 0, "array int a 2"⟩,
      ⟨.declare ⟨.array .real, "a", none, false⟩, 1, "real array a"⟩]
  parsed := true

/-- The shape of an array is changed in a run by a command that is no `array`. -/
theorem Program.emptied_without_array :
    Declaration.configure (.array .real) "a" = .ok ⟨.array .real, "a", none, false⟩ ∧
    (Command.declare ⟨.array .real, "a", none, false⟩).keyword = .int ∧
    ∃ m m', Machine.Reached emptying.code m ∧ Machine.Step emptying.code m m' ∧
      emptying.run.result = .ok 2 ∧ emptying.run.program.machine = m' ∧
      m.store.shape? "a" = some (.int, 2) ∧ m'.store.shape? "a" = some (.real, 0) ∧
      ¬ Machine.Executes emptying.code (·.keyword = .array) m m' := by
  have hrun : (Machine.next? emptying.code {}).any (fun m => decide (m.pc = 1 ∧
      m.store.shape? "a" = some (.int, 2)) && (Machine.next? emptying.code m).any fun m' =>
        decide (m'.pc = 2 ∧ m'.store.shape? "a" = some (.real, 0))) = true := by
    decide +kernel
  obtain ⟨m, hm, hrun⟩ := (Option.any_eq_true _ _).1 hrun
  rw [Bool.and_eq_true, decide_eq_true_eq] at hrun
  obtain ⟨⟨hpc, hshape⟩, hrun⟩ := hrun
  obtain ⟨m', hm', hrun⟩ := (Option.any_eq_true _ _).1 hrun
  obtain ⟨hpc', hshape'⟩ := of_decide_eq_true hrun
  rw [Machine.next?_eq_some] at hm hm'
  have hover : emptying.code[m'.pc]? = none := by
    rw [hpc']
    rfl
  obtain ⟨hresult, hmachine⟩ := (run_eq_ok (p := emptying) rfl).2
    ⟨by decide, .cons hm (.single hm'), hover⟩
  refine ⟨rfl, rfl, m, m', ⟨1, .single hm⟩, hm', hresult, hmachine, hshape, hshape',
    fun h => ?_⟩
  obtain ⟨c, hc, hkeyword⟩ := Machine.exists_of_executes hm' hover h
  rw [hpc] at hc
  cases hc
  cases hkeyword

/-- Store typing in all states that the runs of a program pass, whether it was read or put together
by hand: only commands that make a variable an array change the shape of one. -/
theorem Program.storeTyping (p : Program) :
    (p.parsed = true → ∀ limit, Machine.Passes p.code (p.setLimit limit).run.program.machine) ∧
    (∀ {m name cells}, Machine.Passes p.code m → m.store.get? name = some (.array cells) →
      cells.size ≤ 1000000 ∧ ∀ v ∈ cells.toList, v.type = cells.elem.scalar) ∧
    (∀ {m m' n}, Machine.Passes p.code m → Steps (Machine.Tries p.code) n m m' →
      Machine.Passes p.code m' ∧ m.store.Persists m'.store ∧
      ∀ {name shape}, m.store.shape? name = some shape → m'.store.shape? name ≠ some shape →
        Machine.Executes p.code (·.MakesArray name) m m') ∧
    ∀ {r : Session.Request} {c name}, r.command = .ok c → c.MakesArray name →
      ∃ d, c = .array d ∧ d.name = name := by
  refine ⟨fun hp limit => ?_, fun hm hcells => ?_, fun hm hs => ⟨?_, ?_, ?_⟩,
    Session.Request.array_of_makesArray⟩
  · have hrun : (p.setLimit limit).parsed = true := hp
    exact Program.passes_run hrun
  · exact ⟨hm.bounded _ _ hcells, fun v hv => Cells.type_of_mem_toList hv⟩
  · obtain ⟨k, hk⟩ := hm
    exact ⟨_, hk.trans hs⟩
  · exact Machine.persists_of_steps hs
  · intro name shape hshape hne
    rcases Machine.keepsShape_or_executes hs name with hkeeps | hexecutes
    · exact absurd (hkeeps shape hshape) hne
    · exact hexecutes

/-- An array of two whole numbers is made one of three reals, and the program fails behind that, at
a loop without an end. -/
def Program.reshaping : Program where
  code :=
    [⟨.array ⟨.int, "a", "2"⟩, 0, "array int a 2"⟩,
      ⟨.poke ⟨"a", "1", "5"⟩, 1, "poke a 1 = 5"⟩,
      ⟨.array ⟨.real, "a", "3"⟩, 2, "array real a 3"⟩,
      ⟨.countTo ⟨"i", "1", "0", none⟩, 3, "for i = 1 to 0"⟩]
  parsed := true

theorem Program.storeTyping_reshaping : ∃ n m m' cells, Machine.Passes reshaping.code m ∧
    Steps (Machine.Tries reshaping.code) n m m' ∧ m.store.shape? "a" = some (.int, 2) ∧
    m'.store.get? "a" = some (.array cells) ∧ (cells.elem, cells.size) = (.real, 3) ∧
    m'.store.type? "i" = some .int ∧ Machine.Executes reshaping.code (·.MakesArray "a") m m' ∧
    (cells.size ≤ 1000000 ∧ ∀ v ∈ cells.toList, v.type = cells.elem.scalar) ∧
    m.store.Persists m'.store := by
  obtain ⟨hruns, harrays, hlater, -⟩ := storeTyping reshaping
  have hm := hruns rfl 2
  generalize heq : (reshaping.setLimit 2).run.program.machine = m at hm
  have htries : ∃ n, Steps (Machine.Tries reshaping.code) n m
      (Attempt.final (Machine.run reshaping.code 2 2 m)) := Machine.run_tries 2 2 m
  obtain ⟨n, hn⟩ := htries
  obtain ⟨hm', hpersists, hexecutes⟩ := hlater hm hn
  have hshape : m.store.shape? "a" = some (.int, 2) := by
    rw [← heq]
    decide +kernel
  have hshape' : (Attempt.final (Machine.run reshaping.code 2 2 m)).store.shape? "a" =
      some (.real, 3) := by
    rw [← heq]
    decide +kernel
  have hcount : (Attempt.final (Machine.run reshaping.code 2 2 m)).store.type? "i" = some .int := by
    rw [← heq]
    decide +kernel
  obtain ⟨cells, hcells, hreal⟩ := Store.exists_of_shape? hshape'
  have hne : (Attempt.final (Machine.run reshaping.code 2 2 m)).store.shape? "a" ≠
      some (.int, 2) := by
    rw [hshape']
    decide
  exact ⟨n, m, _, cells, hm, hn, hshape, hcells, hreal, hcount, hexecutes hshape hne,
    harrays hm' hcells, hpersists⟩

end PenScript
