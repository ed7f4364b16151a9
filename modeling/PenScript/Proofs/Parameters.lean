import PenScript.Command.Params
import PenScript.Proofs.Cutting
import PenScript.Proofs.StoreTypes

/-!
# Parameters read back

* `CountedLoop.Separable start stop step` : words that are told apart by `to` and `step`;
* `CountedLoop.bounds?_layOut`, `CountedLoop.exists_layOut` : what the words of a loop are cut into;
* `Declaration.WellFormed` and its kind : the fields that commands have which can be configured;
* `Command.wellFormed_of_configure`, `Command.WellFormed.configure_params` : a command that has been
  configured has such fields, and is configured again from its parameters;
* `Command.paramsReadBack` : the main result.
-/

namespace PenScript

open Text (Tight Solid Spaced words unwords trim)

/-! ## The words of a loop -/

namespace CountedLoop

variable {w : List Char} {ws start stop : List (List Char)} {step : Option (List (List Char))}

theorem not_step_of_to (h : sameWord "to" w = true) : sameWord "step" w = false := by
  unfold sameWord at h ⊢
  rw [beq_iff_eq] at h
  rw [h]
  rfl

/-- Words that are told apart: no `to` stands before the one that cuts, and no `step` before the one
that cuts, or it stands before the `to`. -/
def Separable (start stop : List (List Char)) (step : Option (List (List Char))) : Prop :=
  (∀ w ∈ start, sameWord "to" w = false) ∧
    (step.isNone = true ∧ (∃ w ∈ start, sameWord "step" w = true) ∨
      ∀ w ∈ start ++ stop, sameWord "step" w = false)

/-- The words with `to` and `step` between them. -/
def layOut (link mark : List Char) (start stop : List (List Char))
    (step : Option (List (List Char))) : List (List Char) :=
  start ++ link :: (stop ++ step.elim [] (mark :: ·))

variable {link mark : List Char}

theorem findIdx?_step_layOut (hlink : sameWord "to" link = true)
    (hmark : sameWord "step" mark = true) (h : Separable start stop step) :
    ((layOut link mark start stop step).findIdx? (sameWord "step")).filter (start.length < ·) =
      step.map fun _ => start.length + 1 + stop.length := by
  obtain ⟨-, ⟨hstep, w, hw, hsame⟩ | hnone⟩ := h
  · -- A `step` before the `to` hides any other.
    rw [Option.isNone_iff_eq_none.1 hstep, layOut, List.findIdx?_append]
    cases hp : start.findIdx? (sameWord "step") with
    | none =>
      rw [List.findIdx?_eq_none_iff.1 hp w hw] at hsame
      cases hsame
    | some p =>
      have hlt : p < start.length := (List.findIdx?_eq_some_iff_getElem.1 hp).1
      simp
      omega
  · obtain ⟨hstart, hstop⟩ := List.forall_mem_append.1 hnone
    have hlink := not_step_of_to hlink
    cases step with
    | none =>
      have hall : ∀ w ∈ layOut link mark start stop none, sameWord "step" w = false := by
        simp only [layOut, Option.elim_none, List.append_nil, List.forall_mem_append,
          List.forall_mem_cons]
        exact ⟨hstart, hlink, hstop⟩
      rw [List.findIdx?_eq_none_iff.2 hall]
      rfl
    | some s =>
      have hbefore : ∀ w ∈ start ++ link :: stop, sameWord "step" w = false := by
        simp only [List.forall_mem_append, List.forall_mem_cons]
        exact ⟨hstart, hlink, hstop⟩
      have hfound : (layOut link mark start stop (some s)).findIdx? (sameWord "step") =
          some (start.length + 1 + stop.length) :=
        Text.findIdx?_eq_some_iff_append.2 ⟨start ++ link :: stop, mark, s, by simp [layOut],
          by simp; omega, hmark, hbefore⟩
      rw [hfound]
      simp
      omega

theorem bounds?_layOut (hlink : sameWord "to" link = true) (hmark : sameWord "step" mark = true)
    (h : Separable start stop step) :
    bounds? (layOut link mark start stop step) = some (start, stop, step) := by
  have hcut : (layOut link mark start stop step).findIdx? (sameWord "to") = some start.length :=
    Text.findIdx?_eq_some_iff_append.2 ⟨start, link, _, rfl, rfl, hlink, h.1⟩
  unfold bounds?
  simp only [hcut, Option.bind_eq_bind, Option.bind_some, findIdx?_step_layOut hlink hmark h]
  cases step with
  | none => simp [layOut]
  | some s =>
    have hbehind : layOut link mark start stop (some s) =
        (start ++ link :: stop ++ [mark]) ++ s := by
      simp [layOut]
    have hlength : start.length + 1 + stop.length + 1 =
        (start ++ link :: stop ++ [mark]).length := by
      simp
      omega
    simp only [Option.map_some]
    rw [hlength, hbehind, List.drop_left]
    simp

/-- The words of a loop are cut at the first `to` and at a `step` behind it. -/
theorem exists_layOut (h : bounds? ws = some (start, stop, step)) : Separable start stop step ∧
    ∃ link mark, sameWord "to" link = true ∧ sameWord "step" mark = true ∧
      ws = layOut link mark start stop step := by
  obtain ⟨cut, hcut, -⟩ := Option.bind_eq_some_iff.1 h
  obtain ⟨as, link, bs, rfl, -, hlink, has⟩ := Text.findIdx?_eq_some_iff_append.1 hcut
  have hcases : ∃ stop' step' mark, sameWord "step" mark = true ∧ Separable as stop' step' ∧
      as ++ link :: bs = layOut link mark as stop' step' := by
    by_cases hstep : ∀ w ∈ as, sameWord "step" w = false
    · cases hb : bs.findIdx? (sameWord "step") with
      | none =>
        have hbs := List.findIdx?_eq_none_iff.1 hb
        exact ⟨bs, none, "step".toList, by decide,
          ⟨has, .inr (List.forall_mem_append.2 ⟨hstep, hbs⟩)⟩, by simp [layOut]⟩
      | some q =>
        obtain ⟨mid, mark, rest, rfl, -, hmark, hmid⟩ := Text.findIdx?_eq_some_iff_append.1 hb
        exact ⟨mid, some rest, mark, hmark,
          ⟨has, .inr (List.forall_mem_append.2 ⟨hstep, hmid⟩)⟩, by simp [layOut]⟩
    · have hfound : ∃ w ∈ as, sameWord "step" w = true := by simpa using hstep
      exact ⟨bs, none, "step".toList, by decide, ⟨has, .inl ⟨rfl, hfound⟩⟩, by simp [layOut]⟩
  obtain ⟨stop', step', mark, hmark, hseparable, heq⟩ := hcases
  rw [heq, bounds?_layOut hlink hmark hseparable] at h
  cases h
  exact ⟨hseparable, link, mark, hlink, hmark, heq⟩

end CountedLoop

/-! ## Declarations -/

namespace Declaration

/-- The fields of a declaration that can be configured. -/
def WellFormed (d : Declaration) : Prop :=
  d.update = false ∧ checkName d.name.toList = .ok () ∧
    ∀ v, d.value = some v → Tight v.toList ∧ v.toList ≠ []

variable {t : VarType} {params : String} {d : Declaration} {name value : List Char}

theorem wellFormed_of_configure (h : configure t params = .ok d) : d.type = t ∧ d.WellFormed := by
  obtain ⟨name, value, hparts, hname, rfl⟩ := configure_ok h
  refine ⟨rfl, rfl, by simpa using hname, ?_⟩
  unfold parts at hparts
  split at hparts
  · split at hparts
    · cases hparts
    · rename_i hne
      cases hparts
      simpa [Text.tight_trim] using hne
  · cases hparts
    simp

theorem configure_of_parts {value : Option (List Char)}
    (hparts : parts t params.toList = .ok (name, value)) (hname : checkName name = .ok ()) :
    configure t params = .ok ⟨t, String.ofList name, value.map String.ofList, false⟩ := by
  obtain ⟨hne, -⟩ := solid_of_checkName hname
  unfold configure
  rw [hparts]
  simp [hne, (solid_of_checkName hname).hasBlank_eq, hname, bind, Except.bind, pure, Except.pure]

/-- The name and the value are found again on either side of the `=` between them. -/
theorem parts_assigned (hname : checkName name = .ok ()) (hvalue : Tight value) (hne : value ≠ []) :
    parts t (name ++ ' ' :: '=' :: ' ' :: value) = .ok (name, some value) := by
  have hleft : trim (name ++ [' ']) = name := trim_name hname Text.isBlank_of_mem_space
  have hright : trim (' ' :: value) = value := hvalue.trim_cons_space
  unfold parts
  rw [splitAssignment?_spaced (splitAssignment?_of_checkName hname)]
  simp [hleft, hright, hne]

theorem parts_bare (hname : checkName name = .ok ()) : parts t name = .ok (name, none) := by
  unfold parts
  rw [splitAssignment?_of_checkName hname, (solid_of_checkName hname).tight.trim_eq]

theorem WellFormed.configure_params (h : d.WellFormed) : configure d.type d.params = .ok d := by
  obtain ⟨t, name, value, update⟩ := d
  obtain ⟨hupdate, hname, hvalue⟩ := h
  cases hupdate
  cases value with
  | none =>
    show configure t name = _
    rw [configure_of_parts (parts_bare hname) hname]
    simp
  | some v =>
    obtain ⟨htight, hne⟩ := hvalue v rfl
    have hparams : (params ⟨t, name, some v, false⟩).toList =
        name.toList ++ ' ' :: '=' :: ' ' :: v.toList := by
      simp [params]
    show configure t (params ⟨t, name, some v, false⟩) = _
    rw [configure_of_parts (hparams ▸ parts_assigned hname htight hne) hname]
    simp

end Declaration

/-! ## Commands on arrays -/

section Arrays

variable {params : String} {name : List Char} {ws : List (List Char)}

/-- The last words of a text, with one space between them. -/
theorem spaced_of_words {s : List Char} (before : List (List Char)) (h : words s = before ++ ws)
    (hne : ws ≠ []) : Spaced (unwords ws) := by
  have hsolid := Text.solid_of_words h
  exact Text.spaced_unwords (fun w hw => hsolid w (List.mem_append_right before hw)) hne

/-- A name, and what stands behind it. -/
theorem words_name (hname : checkName name = .ok ()) (s : List Char) :
    words (name ++ ' ' :: s) = name :: words s :=
  (solid_of_checkName hname).words_append_cons (by decide) s

/-- The fields of an array that can be configured. -/
def ArrayDeclaration.WellFormed (d : ArrayDeclaration) : Prop :=
  checkName d.name.toList = .ok () ∧ Spaced d.size.toList

theorem ArrayDeclaration.wellFormed_of_configure {d : ArrayDeclaration}
    (h : configure params = .ok d) : d.WellFormed := by
  unfold configure at h
  split at h
  · rename_i elem name first rest hwords
    obtain ⟨e, -, h₁⟩ := Attempt.bind_eq_ok.1 h
    obtain ⟨⟨⟩, hname, h₂⟩ := Attempt.bind_eq_ok.1 h₁
    cases h₂
    have hspaced := spaced_of_words [elem, name] hwords (List.cons_ne_nil first rest)
    exact ⟨by simpa using hname, by simpa using hspaced⟩
  · cases h

theorem ElemType.ofWord_name (e : ElemType) : ofWord e.name.toList = .ok e := by
  cases e <;> rfl

theorem ElemType.solid_name (e : ElemType) : Solid e.name.toList := by
  cases e <;> decide

theorem ArrayDeclaration.WellFormed.configure_params {d : ArrayDeclaration} (h : d.WellFormed) :
    configure d.params = .ok d := by
  obtain ⟨elem, name, size⟩ := d
  obtain ⟨hname, hne, hsize⟩ := h
  obtain ⟨first, rest, hwords⟩ := List.exists_cons_of_ne_nil hne
  have hparams : words (params ⟨elem, name, size⟩).toList =
      elem.name.toList :: name.toList :: first :: rest := by
    simp only [params, String.toList_append, List.append_assoc]
    show words (elem.name.toList ++ ' ' :: (name.toList ++ ' ' :: size.toList)) = _
    rw [elem.solid_name.words_append_cons (by decide), words_name hname, ← hwords]
  rw [hwords] at hsize
  unfold configure
  rw [hparams]
  simp [elem.ofWord_name, hname, hsize, bind, Except.bind, pure, Except.pure]

/-- The fields of a `peek` that can be configured. -/
def Peek.WellFormed (p : Peek) : Prop :=
  checkName p.dest.toList = .ok () ∧ checkName p.array.toList = .ok () ∧ Spaced p.index.toList

theorem Peek.wellFormed_of_configure {p : Peek} (h : configure params = .ok p) : p.WellFormed := by
  unfold configure at h
  split at h
  · cases h
  · rename_i dest source hsplit
    dsimp only at h
    split at h
    · rename_i array first rest hwords
      split at h
      · cases h
      · obtain ⟨⟨⟩, hdest, h₁⟩ := Attempt.bind_eq_ok.1 h
        obtain ⟨⟨⟩, harray, h₂⟩ := Attempt.bind_eq_ok.1 h₁
        cases h₂
        have hspaced := spaced_of_words [array] hwords (List.cons_ne_nil first rest)
        exact ⟨by simpa using hdest, by simpa using harray, by simpa using hspaced⟩
    · cases h

theorem Peek.WellFormed.configure_params {p : Peek} (h : p.WellFormed) :
    configure p.params = .ok p := by
  obtain ⟨dest, array, index⟩ := p
  obtain ⟨hdest, harray, hne, hindex⟩ := h
  obtain ⟨first, rest, hwords⟩ := List.exists_cons_of_ne_nil hne
  have hparams : (params ⟨dest, array, index⟩).toList =
      dest.toList ++ ' ' :: '=' :: ' ' :: (array.toList ++ ' ' :: index.toList) := by
    simp [params]
  have hleft : trim (dest.toList ++ [' ']) = dest.toList :=
    trim_name hdest Text.isBlank_of_mem_space
  have hright : words (' ' :: (array.toList ++ ' ' :: index.toList)) =
      array.toList :: first :: rest := by
    rw [Text.words_cons_of_isBlank (by decide), words_name harray, ← hwords]
  rw [hwords] at hindex
  unfold configure
  rw [hparams, splitAssignment?_spaced (splitAssignment?_of_checkName hdest)]
  simp [hleft, hright, (solid_of_checkName hdest).1, (solid_of_checkName hdest).hasBlank_eq, hdest,
    harray, hindex, bind, Except.bind, pure, Except.pure]

/-- The fields of a `poke` that can be configured. The index may hold comparisons. -/
def Poke.WellFormed (p : Poke) : Prop :=
  checkName p.array.toList = .ok () ∧ Spaced p.index.toList ∧
    splitAssignment? p.index.toList = none ∧ Tight p.value.toList ∧ p.value.toList ≠ []

theorem Poke.wellFormed_of_configure {p : Poke} (h : configure params = .ok p) : p.WellFormed := by
  unfold configure at h
  split at h
  · cases h
  · rename_i target value hsplit
    split at h
    · rename_i array first rest hwords
      split at h
      · cases h
      · rename_i hvalue
        obtain ⟨⟨⟩, harray, h₁⟩ := Attempt.bind_eq_ok.1 h
        cases h₁
        have hspaced := spaced_of_words [array] hwords (List.cons_ne_nil first rest)
        obtain ⟨-, hnone, -, -⟩ := splitAfter_eq_some.1 hsplit
        have hindex : splitAssignment? (unwords (first :: rest)) = none := by
          have hall := splitAssignment?_eq_none.1 hnone
          rw [hwords, List.forall_mem_cons] at hall
          rw [splitAssignment?_eq_none, Text.words_unwords]
          · exact hall.2
          · exact (List.forall_mem_cons.1 (Text.solid_of_words hwords)).2
        refine ⟨by simpa using harray, by simpa using hspaced, by simpa using hindex, ?_, ?_⟩
        · simpa using Text.tight_trim value
        · simpa using hvalue
    · cases h

theorem Poke.WellFormed.configure_params {p : Poke} (h : p.WellFormed) :
    configure p.params = .ok p := by
  obtain ⟨array, index, value⟩ := p
  obtain ⟨harray, ⟨hne, hindex⟩, hnone, hvalue, hvalue'⟩ := h
  obtain ⟨first, rest, hwords⟩ := List.exists_cons_of_ne_nil hne
  have hparams : (params ⟨array, index, value⟩).toList =
      (array.toList ++ ' ' :: index.toList) ++ ' ' :: '=' :: ' ' :: value.toList := by
    simp [params]
  have htarget : splitAssignment? (array.toList ++ ' ' :: index.toList) = none :=
    (splitAssignment?_append_cons (by decide)).2 ⟨splitAssignment?_of_checkName harray, hnone⟩
  have hleft : words (array.toList ++ ' ' :: index.toList ++ [' ']) =
      array.toList :: first :: rest := by
    rw [Text.words_append_cons (by decide), words_name harray, ← hwords]
    exact List.append_nil _
  have hright : trim (' ' :: value.toList) = value.toList := hvalue.trim_cons_space
  rw [hwords] at hindex
  unfold configure
  rw [hparams, splitAssignment?_spaced htarget]
  simp only [hleft, hright]
  simp [hvalue', harray, hindex, bind, Except.bind, pure, Except.pure]

end Arrays

/-! ## Counted loops -/

namespace CountedLoop

variable {params : String} {l : CountedLoop}

/-- The fields of a counted loop that can be configured. Its end may hold further words `to`. -/
def WellFormed (l : CountedLoop) : Prop :=
  checkName l.var.toList = .ok () ∧ Spaced l.start.toList ∧ Spaced l.stop.toList ∧
    (∀ s, l.step = some s → Spaced s.toList) ∧
    Separable (words l.start.toList) (words l.stop.toList) (l.step.map fun s => words s.toList)

variable {var link mark : List Char} {start stop : List (List Char)}
  {step : Option (List (List Char))}

theorem wellFormed_of_words (hvar : checkName var = .ok ())
    (hsolid : ∀ w ∈ layOut link mark start stop step, Solid w)
    (hne : ¬ (start.isEmpty = true ∨ stop.isEmpty = true ∨ step = some []))
    (h : Separable start stop step) :
    WellFormed ⟨String.ofList var, text start, text stop, step.map text⟩ := by
  simp only [List.isEmpty_iff, not_or] at hne
  have hstart : ∀ w ∈ start, Solid w := fun w hw => hsolid w (by simp [layOut, hw])
  have hstop : ∀ w ∈ stop, Solid w := fun w hw => hsolid w (by simp [layOut, hw])
  have hstep : ∀ ws, step = some ws → ∀ w ∈ ws, Solid w := by
    rintro ws rfl w hw
    exact hsolid w (by simp [layOut, hw])
  refine ⟨by simpa using hvar, ?_, ?_, ?_, ?_⟩
  · simpa [text] using Text.spaced_unwords hstart hne.1
  · simpa [text] using Text.spaced_unwords hstop hne.2.1
  · intro s hs
    obtain ⟨ws, hws, rfl⟩ := Option.map_eq_some_iff.1 hs
    have hws' : ws ≠ [] := by
      rintro rfl
      exact hne.2.2 hws
    simpa [text] using Text.spaced_unwords (hstep ws hws) hws'
  · have hwords : (step.map text).map (fun s => words s.toList) = step := by
      cases step with
      | none => rfl
      | some ws => simp [text, Text.words_unwords (hstep ws rfl)]
    rw [hwords]
    simpa [text, Text.words_unwords hstart, Text.words_unwords hstop] using h

theorem wellFormed_of_configure (h : configure params = .ok l) : l.WellFormed := by
  unfold configure at h
  split at h
  · cases h
  · rename_i var rest hsplit
    dsimp only at h
    split at h
    · cases h
    · obtain ⟨⟨⟩, hvar, h₁⟩ := Attempt.bind_eq_ok.1 h
      split at h₁
      · cases h₁
      · rename_i start stop step hbounds
        split at h₁
        · cases h₁
        · rename_i hne
          cases h₁
          obtain ⟨hseparable, link, mark, -, -, hwords⟩ := exists_layOut hbounds
          exact wellFormed_of_words hvar (Text.solid_of_words hwords) hne hseparable

theorem words_bounds (start stop : List Char) (step : Option (List Char)) :
    words (start ++ ' ' :: ("to".toList ++ ' ' :: (stop ++
        step.elim [] fun s => ' ' :: ("step".toList ++ ' ' :: s)))) =
      layOut "to".toList "step".toList (words start) (words stop) (step.map words) := by
  have hlink : Solid "to".toList := by decide
  have hmark : Solid "step".toList := by decide
  rw [Text.words_append_cons (by decide), hlink.words_append_cons (by decide)]
  cases step with
  | none => simp [layOut]
  | some s =>
    rw [Option.elim_some, Text.words_append_cons (by decide), hmark.words_append_cons (by decide)]
    rfl

theorem configure_of_bounds? {right : List Char}
    (hparams : params.toList = var ++ ' ' :: '=' :: ' ' :: right) (hvar : checkName var = .ok ())
    (hbounds : bounds? (words right) = some (start, stop, step))
    (hne : ¬ (start.isEmpty = true ∨ stop.isEmpty = true ∨ step = some [])) :
    configure params = .ok ⟨String.ofList var, text start, text stop, step.map text⟩ := by
  have hsolid := solid_of_checkName hvar
  have hleft : trim (var ++ [' ']) = var := trim_name hvar Text.isBlank_of_mem_space
  have hright : words (' ' :: right) = words right := Text.words_cons_of_isBlank (by decide) right
  unfold configure
  rw [hparams, splitAssignment?_spaced (splitAssignment?_of_checkName hvar)]
  simp only [hleft, hright, hbounds, hsolid.hasBlank_eq, hvar, List.isEmpty_iff, hsolid.1]
  rw [List.isEmpty_iff, List.isEmpty_iff] at hne
  simp only [hne]
  rfl

theorem text_words {s : String} (h : Spaced s.toList) : text (words s.toList) = s := by
  rw [text, h.2, String.ofList_toList]

theorem WellFormed.configure_params (h : l.WellFormed) : configure l.params = .ok l := by
  obtain ⟨var, start, stop, step⟩ := l
  obtain ⟨hvar, hstart, hstop, hstep, hseparable⟩ := h
  dsimp only at hvar hstart hstop hstep hseparable
  have hparams : (params ⟨var, start, stop, step⟩).toList = var.toList ++ ' ' :: '=' :: ' ' ::
      (start.toList ++ ' ' :: ("to".toList ++ ' ' :: (stop.toList ++
        (step.map String.toList).elim [] fun s => ' ' :: ("step".toList ++ ' ' :: s)))) := by
    cases step <;> simp [params]
  have hmap : (step.map String.toList).map words = step.map fun s => words s.toList := by
    cases step <;> rfl
  have hbounds := words_bounds start.toList stop.toList (step.map String.toList)
  have hne : ¬ ((words start.toList).isEmpty = true ∨ (words stop.toList).isEmpty = true ∨
      (step.map fun s => words s.toList) = some []) := by
    simp only [List.isEmpty_iff, hstart.1, hstop.1, false_or]
    rintro hempty
    obtain ⟨s, hs, hwords⟩ := Option.map_eq_some_iff.1 hempty
    exact (hstep s hs).1 hwords
  have htexts : (step.map fun s => words s.toList).map text = step := by
    cases step with
    | none => rfl
    | some s => simp [text_words (hstep s rfl)]
  refine (configure_of_bounds? hparams hvar ?_ hne).trans ?_
  · rw [hbounds, hmap]
    exact bounds?_layOut (by decide) (by decide) hseparable
  · rw [String.ofList_toList, text_words hstart, text_words hstop, htexts]

end CountedLoop

/-! ## Conditions and methods -/

section Texts

variable {k : Keyword} {params : String} {s : String}

/-- A text that is not empty, with no blank at either end. -/
def Trimmed (s : String) : Prop := Tight s.toList ∧ s.toList ≠ []

theorem trimmed_of_configureCondition (h : configureCondition k params = .ok s) : Trimmed s := by
  unfold configureCondition at h
  dsimp only at h
  split at h
  · cases h
  · rename_i hne
    cases h
    exact ⟨by simpa using Text.tight_trim params.toList, by simpa using hne⟩

theorem Trimmed.configureCondition_eq (h : Trimmed s) : configureCondition k s = .ok s := by
  unfold configureCondition
  rw [h.1.trim_eq]
  simp [h.2]

theorem checkName_of_configureMethod (h : configureMethod k params = .ok s) :
    checkName s.toList = .ok () := by
  unfold configureMethod at h
  dsimp only at h
  split at h
  · cases h
  split at h
  · cases h
  obtain ⟨⟨⟩, hname, h₁⟩ := Attempt.bind_eq_ok.1 h
  cases h₁
  simpa using hname

theorem configureMethod_of_checkName (h : checkName s.toList = .ok ()) :
    configureMethod k s = .ok s := by
  have hsolid := solid_of_checkName h
  have hparen : '(' ∉ s.toList := not_mem_of_checkName h (by decide)
  unfold configureMethod
  rw [hsolid.tight.trim_eq]
  simp [hsolid.1, hsolid.hasBlank_eq, hparen, h, bind, Except.bind, pure, Except.pure]

end Texts

/-! ## Drawing commands -/

namespace Inscription

/-- The text of a formula that can be configured is no text in quotes. -/
def WellFormed : Inscription → Prop
  | literal _ => True
  | formula text => Trimmed text ∧ text.toList.head? ≠ some '\x22'

variable {s : List Char} {what : Inscription}

theorem wellFormed_of_configure (h : configure s = .ok what) (hs : Tight s) : what.WellFormed := by
  unfold configure at h
  split at h
  · cases h
  · split at h
    · cases h
      trivial
    · cases h
  · rename_i hne hquote
    cases h
    refine ⟨⟨by simpa using hs, by simpa using hne⟩, ?_⟩
    cases s with
    | nil => exact absurd rfl hne
    | cons c rest =>
      rw [String.toList_ofList, List.head?_cons]
      rintro ⟨⟩
      exact hquote rest rfl

theorem tight_params (what : Inscription) (h : what.WellFormed) : Tight what.params.toList := by
  cases what with
  | literal text =>
    have hquote : Tight ['\x22'] := Solid.tight (by decide)
    simpa [params] using hquote.around hquote (by simp) (by simp) text.toList
  | formula text => exact h.1.1

theorem configure_params (what : Inscription) (h : what.WellFormed) :
    configure what.params.toList = .ok what := by
  cases what with
  | literal text =>
    have htext : (params (.literal text)).toList = '\x22' :: (text.toList ++ ['\x22']) := by
      simp [params]
    rw [htext]
    simp [configure]
  | formula text =>
    obtain ⟨⟨-, hne⟩, hquote⟩ := h
    show configure text.toList = _
    unfold configure
    split
    · rename_i heq
      exact absurd heq hne
    · rename_i heq
      rw [heq] at hquote
      exact absurd rfl hquote
    · rw [String.ofList_toList]

end Inscription

namespace Drawing

/-- The fields of a drawing command that can be configured. -/
def WellFormed : Drawing → Prop
  | pen red green blue => Solid red.toList ∧ Solid green.toList ∧ Solid blue.toList
  | moveTo x y | drawTo x y => Solid x.toList ∧ Solid y.toList
  | rectangle width height => Solid width.toList ∧ Solid height.toList
  | circle radius => Trimmed radius
  | write what => what.WellFormed
  | fill _ | clear => True

variable {k : Keyword} {params : String} {d : Drawing}

theorem solid_of_configureTwo {s : List Char} {f : String → String → Drawing}
    (h : configureTwo k s f = .ok d) :
    ∃ a b, Solid a.toList ∧ Solid b.toList ∧ d = f a b := by
  unfold configureTwo at h
  split at h
  · rename_i a b hwords
    cases h
    have hsolid := Text.solid_of_words hwords
    exact ⟨_, _, by simpa using hsolid a (by simp), by simpa using hsolid b (by simp), rfl⟩
  · cases h

theorem configureTwo_spaced {a b : String} (ha : Solid a.toList) (hb : Solid b.toList)
    (f : String → String → Drawing) :
    configureTwo k (trim (a ++ " " ++ b).toList) f = .ok (f a b) := by
  have htext : (a ++ " " ++ b).toList = a.toList ++ [' '] ++ b.toList := by simp
  have hwords : words (a.toList ++ [' '] ++ b.toList) = [a.toList, b.toList] := by
    rw [List.append_assoc, List.singleton_append, ha.words_append_cons (by decide), hb.words_eq]
  unfold configureTwo
  rw [htext, (ha.tight.around hb.tight ha.1 hb.1 [' ']).trim_eq, hwords]
  simp

theorem wellFormed_of_configure (h : configure k params = .ok d) :
    d.keyword = k ∧ d.WellFormed := by
  unfold configure at h
  cases k with
  | pen =>
    dsimp only at h
    split at h
    · rename_i r g b hwords
      cases h
      have hsolid := Text.solid_of_words hwords
      exact ⟨rfl, by simpa using hsolid r (by simp), by simpa using hsolid g (by simp),
        by simpa using hsolid b (by simp)⟩
    · cases h
  | fill =>
    dsimp only at h
    split at h
    · cases h
      exact ⟨rfl, trivial⟩
    · split at h
      · cases h
        exact ⟨rfl, trivial⟩
      · cases h
  | moveTo | drawTo | rectangle =>
    obtain ⟨a, b, ha, hb, rfl⟩ := solid_of_configureTwo h
    exact ⟨rfl, ha, hb⟩
  | circle =>
    dsimp only at h
    split at h
    · cases h
    · rename_i hne
      cases h
      exact ⟨rfl, by simpa using Text.tight_trim params.toList, by simpa using hne⟩
  | clear =>
    dsimp only at h
    split at h
    · cases h
      exact ⟨rfl, trivial⟩
    · cases h
  | write =>
    obtain ⟨what, hwhat, rfl⟩ := Attempt.map_eq_ok.1 h
    exact ⟨rfl, Inscription.wellFormed_of_configure hwhat (Text.tight_trim _)⟩
  | _ => cases h

theorem WellFormed.configure_params (h : d.WellFormed) : configure d.keyword d.params = .ok d := by
  cases d with
  | pen red green blue =>
    obtain ⟨hred, hgreen, hblue⟩ := h
    have htext : (params (.pen red green blue)).toList =
        red.toList ++ ([' '] ++ green.toList ++ [' ']) ++ blue.toList := by
      simp [params]
    have hwords : words (red.toList ++ ([' '] ++ green.toList ++ [' ']) ++ blue.toList) =
        [red.toList, green.toList, blue.toList] := by
      rw [List.append_assoc, List.append_assoc, List.append_assoc, List.singleton_append,
        List.singleton_append, hred.words_append_cons (by decide),
        hgreen.words_append_cons (by decide), hblue.words_eq]
    simp only [configure, keyword]
    rw [htext, (hred.tight.around hblue.tight hred.1 hblue.1 _).trim_eq, hwords]
    simp
  | fill on => cases on <;> rfl
  | moveTo x y => exact configureTwo_spaced h.1 h.2 moveTo
  | drawTo x y => exact configureTwo_spaced h.1 h.2 drawTo
  | rectangle w l => exact configureTwo_spaced h.1 h.2 rectangle
  | circle radius =>
    have htrim : trim radius.toList = radius.toList := h.1.trim_eq
    simp [configure, keyword, params, htrim, h.2]
  | clear => rfl
  | write what =>
    simp only [configure, keyword, params]
    rw [(what.tight_params h).trim_eq, what.configure_params h]
    rfl

end Drawing

/-! ## All commands -/

namespace Command

/-- The fields of a command that can be configured. -/
def WellFormed : Command → Prop
  | declare d => d.type.isArray = false ∧ d.WellFormed
  | array d => d.WellFormed
  | peek p => p.WellFormed
  | poke p => p.WellFormed
  | ifThen condition | whileDo condition => Trimmed condition
  | countTo l => l.WellFormed
  | method name | call name => checkName name.toList = .ok ()
  | draw d => d.WellFormed ∧ d.validate = .ok ()
  | orElse | endIf | endWhile | endFor | endMethod => True

variable {k : Keyword} {text : String} {c : Command}

theorem eq_of_configureBare {c' : Command} (h : configureBare k c' text = .ok c) : c = c' := by
  obtain ⟨⟨⟩, -, hc⟩ := Attempt.bind_eq_ok.1 h
  cases hc
  rfl

theorem wellFormed_of_configure (h : configure k text = .ok c) : c.keyword = k ∧ c.WellFormed := by
  cases k with
  | int | real | boolean =>
    obtain ⟨d, hd, rfl⟩ := Attempt.map_eq_ok.1 h
    obtain ⟨ht, hwell⟩ := Declaration.wellFormed_of_configure hd
    exact ⟨by rw [keyword, ht]; rfl, by rw [ht]; rfl, hwell⟩
  | array =>
    obtain ⟨d, hd, rfl⟩ := Attempt.map_eq_ok.1 h
    exact ⟨rfl, ArrayDeclaration.wellFormed_of_configure hd⟩
  | peek =>
    obtain ⟨p, hp, rfl⟩ := Attempt.map_eq_ok.1 h
    exact ⟨rfl, Peek.wellFormed_of_configure hp⟩
  | poke =>
    obtain ⟨p, hp, rfl⟩ := Attempt.map_eq_ok.1 h
    exact ⟨rfl, Poke.wellFormed_of_configure hp⟩
  | «if» | «while» =>
    obtain ⟨s, hs, rfl⟩ := Attempt.map_eq_ok.1 h
    exact ⟨rfl, trimmed_of_configureCondition hs⟩
  | «for» =>
    obtain ⟨l, hl, rfl⟩ := Attempt.map_eq_ok.1 h
    exact ⟨rfl, CountedLoop.wellFormed_of_configure hl⟩
  | method | call =>
    obtain ⟨s, hs, rfl⟩ := Attempt.map_eq_ok.1 h
    exact ⟨rfl, checkName_of_configureMethod hs⟩
  | «else» | endIf | endWhile | endFor | endMethod =>
    rw [eq_of_configureBare h]
    exact ⟨rfl, trivial⟩
  | pen | fill | moveTo | drawTo | rectangle | circle | clear | write =>
    obtain ⟨d, hd, h₁⟩ := Attempt.bind_eq_ok.1 h
    obtain ⟨⟨⟩, hvalidate, hc⟩ := Attempt.bind_eq_ok.1 h₁
    cases hc
    obtain ⟨hkeyword, hwell⟩ := Drawing.wellFormed_of_configure hd
    exact ⟨hkeyword, hwell, hvalidate⟩

theorem WellFormed.configure_params (h : c.WellFormed) : configure c.keyword c.params = .ok c := by
  cases c with
  | declare d =>
    obtain ⟨t, name, value, update⟩ := d
    obtain ⟨hscalar, hd⟩ := h
    have hconfigure := hd.configure_params
    cases t with
    | array elem => cases hscalar
    | int | real | bool => exact Attempt.map_eq_ok.2 ⟨_, hconfigure, rfl⟩
  | array d => exact Attempt.map_eq_ok.2 ⟨d, h.configure_params, rfl⟩
  | peek p => exact Attempt.map_eq_ok.2 ⟨p, Peek.WellFormed.configure_params h, rfl⟩
  | poke p => exact Attempt.map_eq_ok.2 ⟨p, Poke.WellFormed.configure_params h, rfl⟩
  | countTo l => exact Attempt.map_eq_ok.2 ⟨l, CountedLoop.WellFormed.configure_params h, rfl⟩
  | ifThen s => exact Attempt.map_eq_ok.2 ⟨s, Trimmed.configureCondition_eq h, rfl⟩
  | whileDo s => exact Attempt.map_eq_ok.2 ⟨s, Trimmed.configureCondition_eq h, rfl⟩
  | method s => exact Attempt.map_eq_ok.2 ⟨s, configureMethod_of_checkName h, rfl⟩
  | call s => exact Attempt.map_eq_ok.2 ⟨s, configureMethod_of_checkName h, rfl⟩
  | draw d =>
    have hdrawing : configureDrawing d.keyword d.params = .ok (draw d) :=
      Attempt.bind_eq_ok.2 ⟨d, h.1.configure_params, Attempt.bind_eq_ok.2 ⟨(), h.2, rfl⟩⟩
    cases d <;> exact hdrawing
  | orElse | endIf | endWhile | endFor | endMethod => rfl

/-- A command that has been configured is configured again from its own parameters, and the commands
that can be configured are exactly the well-formed ones. -/
theorem paramsReadBack :
    (∀ k text c, configure k text = .ok c → c.keyword = k ∧ configure k c.params = .ok c) ∧
      ∀ c : Command, c.WellFormed ↔ ∃ text, configure c.keyword text = .ok c := by
  constructor
  · intro k text c h
    obtain ⟨rfl, hwell⟩ := wellFormed_of_configure h
    exact ⟨rfl, hwell.configure_params⟩
  · intro c
    exact ⟨fun h => ⟨c.params, h.configure_params⟩, fun ⟨_, h⟩ => (wellFormed_of_configure h).2⟩

/-- Comparisons in an index, a `to` in the end of a loop, and values that start with `=`. -/
theorem paramsReadBack_separators :
    (configure .poke "a\ti<=2 ==  j =  ==5 " = .ok (.poke ⟨"a", "i<=2 == j", "==5"⟩) ∧
      configure .poke "a i<=2 == j = ==5" = .ok (.poke ⟨"a", "i<=2 == j", "==5"⟩)) ∧
    (configure .for "i= 1 TO n  to m STEP 2 to 3" =
        .ok (.countTo ⟨"i", "1", "n to m", some "2 to 3"⟩) ∧
      configure .for "i = 1 to n to m step 2 to 3" =
        .ok (.countTo ⟨"i", "1", "n to m", some "2 to 3"⟩)) ∧
    configure .boolean "b = =x = =" = .ok (.declare ⟨.bool, "b", some "=x = =", false⟩) := by
  have hpoke : configure .poke "a\ti<=2 ==  j =  ==5 " = .ok (.poke ⟨"a", "i<=2 == j", "==5"⟩) :=
    rfl
  have hloop : configure .for "i= 1 TO n  to m STEP 2 to 3" =
      .ok (.countTo ⟨"i", "1", "n to m", some "2 to 3"⟩) := rfl
  have hvalue : configure .boolean "b= =x = =\n" =
      .ok (.declare ⟨.bool, "b", some "=x = =", false⟩) := rfl
  exact ⟨⟨hpoke, (paramsReadBack.1 _ _ _ hpoke).2⟩, ⟨hloop, (paramsReadBack.1 _ _ _ hloop).2⟩,
    (paramsReadBack.1 _ _ _ hvalue).2⟩

end Command

end PenScript
