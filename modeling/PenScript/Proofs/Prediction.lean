import Mathlib.Data.List.Induction
import PenScript.Proofs.Accepted
import PenScript.Proofs.Writes

/-!
# Types in a run and types when a script is read

A script is read in the order of its lines, and run in another order. The commands that bind a
variable are the same, so the two stores bind it to the type of one of these commands each.

* `Command.Binds` : a command can bind a name to a type;
* `Command.Retypes` : the only changes of types that a command makes, when it is executed
  (`Writes.retypes`) and when it is announced (`Command.prepare_retypes`);
* `Store.Origin code s` : every type in a store is due to a command of the code;
* `Store.Persists s s'` : a bound variable keeps its type, but for the elements of an array;
* `Predicts code name t u` : a variable of type `t` in a run may be of type `u` when the script has
  been read;
* `Session.Accepted.predictedTypes` : the main result.
-/

namespace PenScript

/-! ## Commands that bind -/

namespace Command

/-- The variable that a command declares, with its type. -/
def declares? : Command → Option (String × VarType)
  | declare d => if d.update then none else some (d.name, d.type)
  | array d => some (d.name, .array d.elem)
  | _ => none

/-- The command can bind the name to a value of the type, where `arrays` tells the arrays. -/
inductive Binds (arrays : String → ElemType → Prop) (c : Command) (name : String)
    (t : VarType) : Prop
  | declared (h : c.declares? = some (name, t))
  | element {p : Peek} {elem : ElemType} (hc : c = .peek p) (hn : p.dest = name)
      (ha : arrays p.array elem) (ht : t = elem.scalar)
  | counted {l : CountedLoop} (hc : c = .countTo l) (hn : l.var = name) (ht : t = .int)

theorem Binds.mono {arrays arrays' : String → ElemType → Prop} {c : Command} {name : String}
    {t : VarType} (h : c.Binds arrays name t)
    (harrays : ∀ {a elem}, arrays a elem → arrays' a elem) : c.Binds arrays' name t := by
  cases h with
  | declared h => exact .declared h
  | element hc hn ha ht => exact .element hc hn (harrays ha) ht
  | counted hc hn ht => exact .counted hc hn ht

end Command

/-- The variable is an array of such elements. -/
def Store.HoldsArray (s : Store) (name : String) (elem : ElemType) : Prop :=
  s.type? name = some (.array elem)

/-- A command of the code declares such an array. -/
def DeclaresArray (code : List CodeLine) (name : String) (elem : ElemType) : Prop :=
  ∃ l ∈ code, l.command.declares? = some (name, .array elem)

theorem DeclaresArray.mono {code code' : List CodeLine} {name : String} {elem : ElemType}
    (hsub : code ⊆ code') (h : DeclaresArray code name elem) : DeclaresArray code' name elem := by
  obtain ⟨l, hl, hd⟩ := h
  exact ⟨l, hsub hl, hd⟩

/-! ## Changes of types -/

/-- The types of two stores are the same, except for names that the command binds; one that was
bound already stays an array. -/
def Command.Retypes (c : Command) (s s' : Store) : Prop :=
  ∀ name, s'.type? name = s.type? name ∨
    ∃ t, s'.type? name = some t ∧ c.Binds s.HoldsArray name t ∧
      ∀ u, s.type? name = some u → u.isArray ∧ t.isArray

namespace Command.Retypes

variable {c : Command} {s s' : Store} {name : String} {v : Value}

theorem of_eq (h : s' = s) : c.Retypes s s' := fun name => .inl (by rw [h])

theorem of_declare (h : (Store.declare name v).run s = .ok () s')
    (hb : s.type? name ≠ some v.type → c.Binds s.HoldsArray name v.type) : c.Retypes s s' := by
  obtain ⟨hfits, rfl⟩ := Store.declare_ok.1 h
  intro other
  rw [Store.type?_insert]
  split
  · rename_i hother
    subst hother
    by_cases hsame : s.type? name = some v.type
    · exact .inl hsame.symm
    · exact .inr ⟨v.type, rfl, hb hsame,
        fun u hu => (hfits u hu).resolve_left fun heq => hsame (heq ▸ hu)⟩
  · exact .inl rfl

theorem of_assign (h : (Store.assign name v).run s = .ok () s') : c.Retypes s s' := by
  obtain ⟨ht, rfl⟩ := Store.assign_ok.1 h
  intro other
  rw [Store.type?_insert]
  split
  · rename_i hother
    exact .inl (by rw [← hother, ht])
  · exact .inl rfl

end Command.Retypes

theorem CountedLoop.type_eq (l : CountedLoop) (s : Store) :
    l.type s = .int ∨ s.type? l.var = some (l.type s) := by
  unfold type
  split
  · rename_i h
    exact .inr h
  · exact .inl rfl

theorem Writes.retypes {c : Command} {s s' : Store} (h : Writes c s s') : c.Retypes s s' := by
  cases h with
  | same h => exact .of_eq h
  | declare hc hd ht h =>
    refine .of_declare h fun _ => .declared ?_
    rw [hc, Command.declares?, hd, ht]
    rfl
  | array hc ht h =>
    refine .of_declare h fun _ => .declared ?_
    rw [hc, Command.declares?, Value.type, ht]
  | peek hc hnew ha ht h => exact .of_declare h fun _ => .element hc rfl ha ht
  | @count l v hc ht h =>
    refine .of_declare h fun hold => .counted hc rfl ?_
    rw [ht] at hold ⊢
    exact (l.type_eq s).resolve_right hold
  | assign h => exact .of_assign h
  | poke h =>
    obtain ⟨cells, hcells, -, rfl⟩ := Store.poke_ok.1 h
    exact fun other => .inl (Store.type?_writeElement hcells other _ _)

/-! ## What is announced -/

section Announced

variable {s s' : Store}

theorem Declaration.prepare_ok {d : Declaration} (h : d.prepare.run s = .ok () s') :
    d.update = true ∧ s' = s ∨
      d.update = false ∧ (Store.declare d.name d.type.default).run s = .ok () s' := by
  unfold prepare at h
  split at h
  · rename_i hd
    obtain ⟨t, s₁, hask, hpure⟩ := Attempt.run_bind_eq_ok.1 h
    obtain ⟨-, rfl⟩ := Prepare.run_ask_ok.1 hask
    cases hpure
    exact .inl ⟨hd, rfl⟩
  · rename_i hd
    exact .inr ⟨by simpa using hd, Prepare.run_update_ok h⟩

theorem fitScalar_ok {name : String} {t : VarType} {v w : Value} (h : fitScalar name t v = .ok w) :
    t = v.type ∨ t = .real := by
  unfold fitScalar at h
  split at h
  · exact .inr rfl
  · split at h
    · exact .inl ‹_›
    · cases h

/-- An element is announced into a variable of its type, into a real, or into a new variable. -/
theorem Peek.prepare_ok {p : Peek} (h : p.prepare.run s = .ok () s') :
    ∃ elem, s.HoldsArray p.array elem ∧
      ((s.type? p.dest = some elem.scalar ∨ s.type? p.dest = some .real) ∧ s' = s ∨
        (Store.declare p.dest elem.default).run s = .ok () s') := by
  obtain ⟨elem, s₁, hask, hrest⟩ := Attempt.run_bind_eq_ok.1 h
  obtain ⟨helem, rfl⟩ := Prepare.run_ask_ok.1 hask
  refine ⟨elem, Store.elemOf_eq_ok.1 helem, ?_⟩
  rw [Attempt.run_bind_ok (EStateM.run_get s)] at hrest
  cases hdest : s.get? p.dest with
  | none =>
    rw [hdest] at hrest
    exact .inr (Prepare.run_update_ok hrest)
  | some old =>
    rw [hdest] at hrest
    obtain ⟨w, s₁, hfit, hpure⟩ := Attempt.run_bind_eq_ok.1 hrest
    obtain ⟨hw, rfl⟩ := Prepare.run_ask_ok.1 hfit
    cases hpure
    rw [Store.type?_of_get? hdest]
    refine .inl ⟨?_, rfl⟩
    rcases fitScalar_ok hw with ht | ht
    · exact .inl (by rw [ht, ElemType.type_default])
    · exact .inr (by rw [ht])

theorem CountedLoop.prepare_ok {l : CountedLoop} (h : l.prepare.run s = .ok () s') :
    (s.type? l.var = some .int ∨ s.type? l.var = some .real) ∧ s' = s ∨
      (Store.declare l.var (.int 0)).run s = .ok () s' := by
  unfold prepare at h
  rw [Attempt.run_bind_ok (EStateM.run_get s)] at h
  split at h
  · cases h
    exact .inl ⟨.inl ‹_›, rfl⟩
  · cases h
    exact .inl ⟨.inr ‹_›, rfl⟩
  · cases h
  · exact .inr (Prepare.run_update_ok h)

/-- The destination of an element is a number, and a whole one only if the elements are. -/
theorem Peek.announced {p : Peek} (h : p.prepare.run s = .ok () s') :
    s'.type? p.dest = some .real ∨ s'.type? p.dest = some .int ∧ s.HoldsArray p.array .int := by
  obtain ⟨elem, ha, hrest⟩ := p.prepare_ok h
  have hdest : s'.type? p.dest = some elem.scalar ∨ s'.type? p.dest = some .real := by
    rcases hrest with ⟨hold, rfl⟩ | hdeclare
    · exact hold
    · obtain ⟨-, rfl⟩ := Store.declare_ok.1 hdeclare
      exact .inl (by simp)
  rcases hdest with hdest | hdest
  · cases elem with
    | int => exact .inr ⟨hdest, ha⟩
    | real => exact .inl hdest
  · exact .inl hdest

theorem CountedLoop.announced {l : CountedLoop} (h : l.prepare.run s = .ok () s') :
    s'.type? l.var = some .int ∨ s'.type? l.var = some .real := by
  rcases l.prepare_ok h with ⟨hold, rfl⟩ | hdeclare
  · exact hold
  · obtain ⟨-, rfl⟩ := Store.declare_ok.1 hdeclare
    exact .inl (by simp [Value.type])

/-- A declaration that has been announced has bound its variable. -/
theorem Command.announced {c : Command} {name : String} {t : VarType}
    (hd : c.declares? = some (name, t)) (h : c.prepare.run s = .ok () s') :
    s'.type? name = some t := by
  cases c with
  | declare d =>
    rcases d.prepare_ok h with ⟨hupdate, -⟩ | ⟨hupdate, hdeclare⟩
    · simp [declares?, hupdate] at hd
    · obtain ⟨rfl, rfl⟩ : d.name = name ∧ d.type = t := by simpa [declares?, hupdate] using hd
      obtain ⟨-, rfl⟩ := Store.declare_ok.1 hdeclare
      simp
  | array d =>
    cases hd
    obtain ⟨-, rfl⟩ := Store.declare_ok.1 (Prepare.run_update_ok h)
    simp [Value.type]
  | _ => cases hd

theorem Command.prepare_retypes {c : Command} (h : c.prepare.run s = .ok () s') :
    c.Retypes s s' := by
  cases c with
  | declare d =>
    rcases d.prepare_ok h with ⟨-, hs⟩ | ⟨hd, hdeclare⟩
    · exact .of_eq hs
    · exact .of_declare hdeclare fun _ => .declared (by simp [declares?, hd])
  | array d =>
    exact .of_declare (Prepare.run_update_ok h) fun _ =>
      .declared (by simp [declares?, Value.type])
  | peek p =>
    obtain ⟨elem, ha, ⟨-, hs⟩ | hdeclare⟩ := p.prepare_ok h
    · exact .of_eq hs
    · exact .of_declare hdeclare fun _ => .element rfl rfl ha elem.type_default
  | poke p =>
    obtain ⟨elem, s₁, hask, hpure⟩ := Attempt.run_bind_eq_ok.1 h
    obtain ⟨-, rfl⟩ := Prepare.run_ask_ok.1 hask
    cases hpure
    exact .of_eq rfl
  | countTo l =>
    rcases l.prepare_ok h with ⟨-, hs⟩ | hdeclare
    · exact .of_eq hs
    · exact .of_declare hdeclare fun _ => .counted rfl rfl rfl
  | _ =>
    cases h
    exact .of_eq rfl

end Announced

/-! ## Where types come from, and that they stay -/

namespace Store

/-- Every variable has a type that a command of the code can bind it to. -/
def Origin (code : List CodeLine) (s : Store) : Prop :=
  ∀ name t, s.type? name = some t → ∃ l ∈ code, l.command.Binds (DeclaresArray code) name t

/-- A bound variable stays bound, and keeps its type unless it is an array. -/
def Persists (s s' : Store) : Prop :=
  ∀ name t, s.type? name = some t →
    ∃ t', s'.type? name = some t' ∧ (t' = t ∨ t.isArray ∧ t'.isArray)

variable {code code' : List CodeLine} {s s₁ s' : Store}

theorem Origin.empty (code : List CodeLine) : Origin code .empty := by
  intro name t ht
  rw [type?_empty] at ht
  cases ht

/-- Only declarations make arrays. -/
theorem Origin.declaresArray (ho : Origin code s) {name : String} {elem : ElemType}
    (h : s.HoldsArray name elem) : DeclaresArray code name elem := by
  obtain ⟨l, hl, hb⟩ := ho name _ h
  cases hb with
  | declared hd => exact ⟨l, hl, hd⟩
  | @element p elem' _ _ _ ht => cases elem' <;> cases ht
  | counted _ _ ht => cases ht

/-- The step: a command of the code makes no other types. -/
theorem Origin.retypes (ho : Origin code s) (hsub : code ⊆ code') {l : CodeLine} (hl : l ∈ code')
    (h : l.command.Retypes s s') : Origin code' s' := by
  intro name t ht
  rcases h name with hsame | ⟨t', ht', hb, -⟩
  · rw [hsame] at ht
    obtain ⟨l', hl', hb⟩ := ho name t ht
    exact ⟨l', hsub hl', hb.mono (.mono hsub)⟩
  · cases ht.symm.trans ht'
    exact ⟨l, hl, hb.mono fun ha => (ho.declaresArray ha).mono hsub⟩

theorem Persists.refl (s : Store) : Persists s s := fun _ t ht => ⟨t, ht, .inl rfl⟩

theorem Persists.trans (h : Persists s s₁) (h' : Persists s₁ s') : Persists s s' := by
  intro name t ht
  obtain ⟨t₁, ht₁, hor⟩ := h name t ht
  obtain ⟨t', ht', hor'⟩ := h' name t₁ ht₁
  refine ⟨t', ht', ?_⟩
  rcases hor' with rfl | ⟨ha₁, ha'⟩
  · exact hor
  · rcases hor with rfl | ⟨ha, -⟩
    · exact .inr ⟨ha₁, ha'⟩
    · exact .inr ⟨ha, ha'⟩

theorem Persists.of_retypes {c : Command} (h : c.Retypes s s') : Persists s s' := by
  intro name t ht
  rcases h name with hsame | ⟨t', ht', -, harray⟩
  · exact ⟨t, hsame.trans ht, .inl rfl⟩
  · exact ⟨t', ht', .inr (harray t ht)⟩

end Store

/-- In a run, every type is due to a command of the code. -/
theorem Machine.Reached.origin {code : List CodeLine} {m : Machine} (h : Reached code m) :
    m.store.Origin code := by
  refine h.induct (P := fun m => m.store.Origin code) (.empty code) fun {m m'} _ ho hstep => ?_
  obtain ⟨c, hc, hwrites⟩ := hstep.writes
  obtain ⟨l, hl, rfl⟩ := commandAt_eq_some.1 hc
  exact ho.retypes (List.Subset.refl code) (List.mem_of_getElem? hl) hwrites.retypes

namespace Prepare

variable {code : List CodeLine}

theorem commands_origin {s : Store} (h : (commands code).run .empty = .ok () s) :
    s.Origin code := by
  induction code using List.reverseRecOn generalizing s with
  | nil =>
    cases h
    exact .empty []
  | append_singleton code l ih =>
    obtain ⟨s₁, h₁, hlast⟩ := commands_append.1 h
    obtain ⟨s₂, h₂, hnil⟩ := commands_cons.1 hlast
    cases hnil
    exact (ih h₁).retypes (List.subset_append_left _ _) (by simp) (Command.prepare_retypes h₂)

theorem commands_persists {s s' : Store} (h : (commands code).run s = .ok () s') :
    s.Persists s' := by
  induction code generalizing s with
  | nil =>
    cases h
    exact .refl _
  | cons l code ih =>
    obtain ⟨s₁, h₁, hrest⟩ := commands_cons.1 h
    exact (Store.Persists.of_retypes (Command.prepare_retypes h₁)).trans (ih hrest)

end Prepare

/-- The stores just before and just behind a command when the script is read. -/
theorem Session.Accepted.announced {source : String} {s₀ s : Session} (h : Accepted source s₀ s)
    {q : Nat} {l : CodeLine} (hq : s.program.code[q]? = some l) :
    ∃ before behind : Store, before.Origin (s.program.code.take q) ∧
      l.command.prepare.run before = .ok () behind ∧
      behind.Origin (s.program.code.take (q + 1)) ∧ behind.Persists s.program.store := by
  obtain ⟨hlt, rfl⟩ := List.getElem?_eq_some_iff.1 hq
  have hprepared := h.prepared
  rw [← List.take_append_drop (q + 1) s.program.code] at hprepared
  obtain ⟨behind, hbehind, hrest⟩ := Prepare.commands_append.1 hprepared
  have horigin := Prepare.commands_origin hbehind
  rw [List.take_succ_eq_append_getElem hlt] at hbehind
  obtain ⟨before, hbefore, hlast⟩ := Prepare.commands_append.1 hbehind
  obtain ⟨s₁, hprepare, hnil⟩ := Prepare.commands_cons.1 hlast
  cases hnil
  exact ⟨before, behind, Prepare.commands_origin hbefore, hprepare, horigin,
    Prepare.commands_persists hrest⟩

/-! ## The types that are predicted -/

/-- How the type of a variable in a run, which comes first, and its type when the script has been
read can differ. -/
inductive Predicts (code : List CodeLine) (name : String) : VarType → VarType → Prop
  | same (t : VarType) : Predicts code name t t
  | array (elem elem' : ElemType) : Predicts code name (.array elem) (.array elem')
  /-- A loop counts in the variable, or an element of an array of whole numbers is read into it.
  This command or one before it binds the variable to a real. -/
  | narrow {q : Nat} {c : Command} (hc : commandAt code q = some c) (hnew : c.declares? = none)
      (hint : c.Binds (DeclaresArray code) name .int)
      (hreal : ∃ l ∈ code.take (q + 1),
        l.command.Binds (DeclaresArray (code.take (q + 1))) name .real) :
      Predicts code name .int .real
  /-- An element is read into the variable, from an array that is declared with whole numbers
  before, and with reals as well. -/
  | widen {q : Nat} {p : Peek} (hc : commandAt code q = some (.peek p)) (hn : p.dest = name)
      (hint : DeclaresArray (code.take q) p.array .int)
      (hreal : DeclaresArray code p.array .real) : Predicts code name .real .int

variable {code : List CodeLine} {name : String}

theorem Predicts.of_isArray {t u u' : VarType} (h : Predicts code name t u) (hu : u.isArray)
    (hu' : u'.isArray) : Predicts code name t u' := by
  obtain ⟨elem', rfl⟩ := VarType.isArray_iff.1 hu'
  cases h with
  | same =>
    obtain ⟨elem, rfl⟩ := VarType.isArray_iff.1 hu
    exact .array elem elem'
  | array elem => exact .array elem elem'
  | narrow => cases hu
  | widen => cases hu

/-- The variable that a command binds in a run has a type when that command has been read. -/
theorem Command.Binds.predicts {q : Nat} {l : CodeLine} {t : VarType} {before behind : Store}
    (hq : code[q]? = some l) (hb : l.command.Binds (DeclaresArray code) name t)
    (hbefore : before.Origin (code.take q))
    (hprepare : l.command.prepare.run before = .ok () behind)
    (hbehind : behind.Origin (code.take (q + 1))) :
    ∃ u, behind.type? name = some u ∧ Predicts code name t u := by
  have hc : commandAt code q = some l.command := commandAt_eq_some.2 ⟨l, hq, rfl⟩
  cases hb with
  | declared hd => exact ⟨t, announced hd hprepare, .same t⟩
  | @element p elem hl hn ha ht =>
    rw [hl] at hc hprepare
    subst hn ht
    -- the run has read an element of type `elem`, and the array may have had other ones when read
    cases elem with
    | int =>
      rcases p.announced hprepare with hreal | ⟨hint, -⟩
      · exact ⟨.real, hreal, .narrow hc rfl (.element rfl rfl ha rfl) (hbehind _ _ hreal)⟩
      · exact ⟨.int, hint, .same _⟩
    | real =>
      rcases p.announced hprepare with hreal | ⟨hint, harray⟩
      · exact ⟨.real, hreal, .same _⟩
      · exact ⟨.int, hint, .widen hc rfl (hbefore.declaresArray harray) ha⟩
  | @counted loop hl hn ht =>
    rw [hl] at hc hprepare
    subst hn ht
    -- the variable was not bound in the run, and so the loop counts in whole numbers
    rcases loop.announced hprepare with hint | hreal
    · exact ⟨.int, hint, .same _⟩
    · exact ⟨.real, hreal, .narrow hc rfl (.counted rfl rfl rfl) (hbehind _ _ hreal)⟩

/-- Every variable that a run binds was bound when the script had been read, to the same type unless
`Predicts` gives a reason for whole numbers in place of reals or the reverse. -/
theorem Session.Accepted.predictedTypes {source : String} {s₀ s : Session}
    (h : Accepted source s₀ s) {m : Machine} (hm : Machine.Reached s.program.code m)
    {name : String} {v : Value} (hv : m.store.get? name = some v) :
    ∃ w, s.program.store.get? name = some w ∧ Predicts s.program.code name v.type w.type := by
  -- the command that has bound the variable in the run has been read as well
  obtain ⟨l, hl, hbinds⟩ := hm.origin name v.type (Store.type?_of_get? hv)
  obtain ⟨q, hq⟩ := List.mem_iff_getElem?.1 hl
  obtain ⟨before, behind, hbefore, hprepare, hbehind, hpersists⟩ := h.announced hq
  obtain ⟨u, hu, hpredicts⟩ := hbinds.predicts hq hbefore hprepare hbehind
  -- the rest of the script changes this type only from an array to an array
  obtain ⟨u', hu', hor⟩ := hpersists name u hu
  obtain ⟨w, hw, rfl⟩ := Option.map_eq_some_iff.1 hu'
  refine ⟨w, hw, ?_⟩
  rcases hor with heq | ⟨harray, harray'⟩
  · exact heq ▸ hpredicts
  · exact hpredicts.of_isArray harray harray'

/-- Declarations that are read and not executed. -/
def Session.skippedTypes : String :=
  "array real a 1\narray int b 1\nif false\nreal x\nreal z\narray int a 1\nend if\n" ++
    "for x = 1 to 2\nend for\npeek z = b 0\npeek y = a 0"

/-- The program comes to its end, and the variable has the first type there and the second one
before. -/
def Program.retypes (p : Program) (name : String) (t u : VarType) : Bool :=
  p.run.result.isOk && p.run.program.store.type? name = some t && p.store.type? name = some u

theorem Program.retypes_elim {p : Program} (hp : p.parsed = true) {t u : VarType}
    (h : p.retypes name t u = true) :
    Machine.Reached p.code p.run.program.machine ∧
      p.run.program.machine.store.type? name = some t ∧ p.store.type? name = some u := by
  simp only [retypes, Bool.and_eq_true, decide_eq_true_eq] at h
  obtain ⟨⟨hok, ht⟩, hu⟩ := h
  cases hrun : p.run.result with
  | ok n =>
    obtain ⟨-, hsteps, -⟩ := (Program.run_eq_ok hp).1 ⟨hrun, rfl⟩
    exact ⟨⟨n, hsteps⟩, ht, hu⟩
  | error e =>
    rw [hrun] at hok
    cases hok

theorem Session.exists_skippedTypes : ∃ s, Accepted skippedTypes {} s ∧
    s.program.retypes "x" .int .real ∧ s.program.retypes "y" .real .int ∧
    s.program.retypes "z" .int .real := by
  obtain ⟨s, hs, htest⟩ := exists_accepted skippedTypes
    (fun p => p.retypes "x" .int .real && p.retypes "y" .real .int && p.retypes "z" .int .real)
    (by decide +kernel)
  simp only [Bool.and_eq_true, and_assoc] at htest
  exact ⟨s, hs, htest⟩

/-- The type that a scalar has when the script has been read need not be the one that it has in the
run, in any of the ways that `Predicts` lists. -/
theorem Session.types_mispredicted : ∃ s m, Accepted skippedTypes {} s ∧
    Machine.Reached s.program.code m ∧
    (m.store.type? "x" = some .int ∧ s.program.store.type? "x" = some .real) ∧
    (m.store.type? "y" = some .real ∧ s.program.store.type? "y" = some .int) ∧
    m.store.type? "z" = some .int ∧ s.program.store.type? "z" = some .real := by
  obtain ⟨s, hs, hx, hy, hz⟩ := exists_skippedTypes
  have hp := hs.parsed_eq_true
  obtain ⟨hreached, hx⟩ := Program.retypes_elim hp hx
  exact ⟨s, _, hs, hreached, hx, (Program.retypes_elim hp hy).2, (Program.retypes_elim hp hz).2⟩

theorem Session.predictedTypes_skippedTypes : ∃ s m v w, Accepted skippedTypes {} s ∧
    Machine.Reached s.program.code m ∧ m.store.get? "y" = some v ∧ v.type = .real ∧
    s.program.store.get? "y" = some w ∧ w.type = .int ∧
    Predicts s.program.code "y" v.type w.type := by
  obtain ⟨s, hs, -, hy, -⟩ := exists_skippedTypes
  obtain ⟨hreached, ht, hu⟩ := Program.retypes_elim hs.parsed_eq_true hy
  obtain ⟨v, hv, ht⟩ := Option.map_eq_some_iff.1 ht
  obtain ⟨w, hw, hpredicts⟩ := hs.predictedTypes hreached hv
  rw [Store.type?_of_get? hw] at hu
  exact ⟨s, _, v, w, hs, hreached, hv, ht, hw, Option.some.inj hu, hpredicts⟩

end PenScript
