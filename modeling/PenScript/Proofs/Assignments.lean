import PenScript.Proofs.Listing
import PenScript.Proofs.Parameters

/-!
# Lines that assign

A line `x = e` that starts with no keyword assigns to the variable `x`.

* `ScriptLine.trim_blankCommas_trim` : it does not matter whether a line is trimmed before its
  commas become spaces;
* `ScriptLine.Assigns x w e` : the line `x w = e` has the form of an assignment, where `w` is blank;
* `ScriptLine.Assigns.exists_text` : the text of such a line, as it is cut later;
* `ScriptLine.ofWord?_of_name` : it starts with no keyword, whether a blank follows the name or not;
* `splitAssignment?_of_name` : it is cut at the `=` behind the name, both when it is read as an
  assignment and when the declaration is configured;
* `Session.assignmentRead` : the main result.
-/

namespace PenScript

open Text (isBlank trim lower)

/-! ## The `=` behind a name -/

section Name

variable {x w r : List Char}

theorem not_mem_comparisonStarts_of_name (hx : checkName x = .ok ())
    (hw : ∀ c ∈ w, isBlank c = true) : ∀ c ∈ x ++ w, c ∉ comparisonStarts := by
  have hall : (comparisonStarts.all Formula.isOperator) = true := by decide
  intro c hc hmem
  rcases List.mem_append.1 hc with hc | hc
  · exact not_mem_of_checkName hx (List.all_eq_true.1 hall c hmem) hc
  · exact not_mem_comparisonStarts_of_isBlank (hw c hc) hmem

theorem splitAssignment?_of_name (hx : checkName x = .ok ()) (hw : ∀ c ∈ w, isBlank c = true)
    (hr : r.head? ≠ some '=') : splitAssignment? (x ++ w ++ '=' :: r) = some (x ++ w, r) := by
  have hstarts := not_mem_comparisonStarts_of_name hx hw
  have hnone : '=' ∉ x ++ w := fun hmem => hstarts _ hmem (by decide)
  refine splitAfter_eq_some.2 ⟨rfl, splitAfter_of_not_mem hnone ' ', ?_, hr⟩
  have hmem : (x ++ w).getLastD ' ' ∈ ' ' :: (x ++ w) := List.getLastD_mem_cons
  rcases List.mem_cons.1 hmem with hlast | hlast
  · rw [hlast]
    decide
  · exact hstarts _ hlast

end Name

theorem Keyword.equals_not_mem_word (k : Keyword) : '=' ∉ k.word.toList := by
  have htable : all.all (fun k => !k.word.toList.contains '=') = true := by decide +kernel
  simpa using of_all htable k

namespace ScriptLine

variable {s x w e r : List Char}

/-! ## The text of the line -/

theorem blankCommas_of_blank (h : ∀ c ∈ s, isBlank c = true) (quoted : Bool) :
    blankCommas quoted s = s :=
  blankCommas_of_not_mem (fun hc => absurd (h _ hc) (by decide)) quoted

theorem trim_blankCommas_trim (s : List Char) :
    trim (blankCommas false (trim s)) = trim (blankCommas false s) := by
  obtain ⟨before, behind, hs, hbefore, hbehind⟩ := Text.exists_trim s
  have hcommas : blankCommas false s = before ++ blankCommas false (trim s) ++ behind := by
    conv_lhs => rw [hs]
    rw [blankCommas_append, blankCommas_append, blankCommas_of_blank hbefore,
      blankCommas_of_blank hbehind, quotedAfter_of_not_mem (quote_not_mem_of_blank hbefore)]
  rw [hcommas, Text.trim_append_blank hbehind, Text.trim_blank_append hbefore]

/-- The line `x w = e` has the form of an assignment: a name, maybe blanks, and an `=` with no other
one and something that is not blank behind it, once the commas outside quotes are spaces. -/
structure Assigns (x w e : List Char) : Prop where
  name : checkName x = .ok ()
  blank : ∀ c ∈ w, isBlank c = true
  single : e.head? ≠ some '='
  value : ∃ c ∈ blankCommas false e, isBlank c = false

namespace Assigns

variable (h : Assigns x w e)
include h

theorem not_mem_line {c : Char} (hname : Text.continuesName c = false) (hblank : isBlank c = false)
    (hne : c ≠ '=') : c ∉ x ++ w ++ ['='] := by
  intro hc
  simp only [List.mem_append, List.mem_singleton] at hc
  rcases hc with (hc | hc) | hc
  · have := Text.continuesName_of_mem (checkName_eq_ok.1 h.name).1 hc
    rw [hname] at this
    cases this
  · rw [h.blank c hc] at hblank
    cases hblank
  · exact hne hc

/-- Neither the name nor the blanks nor the `=` are changed. -/
theorem blankCommas_eq :
    blankCommas false (x ++ w ++ '=' :: e) = x ++ w ++ '=' :: blankCommas false e := by
  have hcomma : ',' ∉ x ++ w ++ ['='] := h.not_mem_line (by decide +kernel) (by decide) (by decide)
  have hquote : '\x22' ∉ x ++ w ++ ['='] :=
    h.not_mem_line (by decide +kernel) (by decide) (by decide)
  have hline : x ++ w ++ '=' :: e = (x ++ w ++ ['=']) ++ e := by simp
  rw [hline, blankCommas_append, quotedAfter_of_not_mem hquote, blankCommas_of_not_mem hcomma]
  simp

theorem trim_value_ne_nil : trim (blankCommas false e) ≠ [] := by
  obtain ⟨before, behind, he, hbefore, hbehind⟩ := Text.exists_trim (blankCommas false e)
  obtain ⟨c, hc, hblank⟩ := h.value
  intro hnil
  rw [he, hnil] at hc
  rcases List.mem_append.1 hc with hc | hc
  · rw [hbefore c (by simpa using hc)] at hblank
    cases hblank
  · rw [hbehind c hc] at hblank
    cases hblank

theorem head?_blankCommas : (blankCommas false e).head? ≠ some '=' := by
  have he := h.single
  cases e with
  | nil => simp [blankCommas]
  | cons c e =>
    unfold blankCommas
    split
    · simpa using he
    · split
      · simp
      · simpa using he

theorem exists_text : ∃ r, trim (blankCommas false (x ++ w ++ '=' :: e)) = x ++ w ++ '=' :: r ∧
    r.head? ≠ some '=' ∧ trim r = trim (blankCommas false e) := by
  obtain ⟨before, behind, he, hbefore, hbehind⟩ := Text.exists_trim (blankCommas false e)
  have hne := h.trim_value_ne_nil
  have htight := Text.tight_trim (blankCommas false e)
  have hhead := h.head?_blankCommas
  rw [h.blankCommas_eq]
  generalize trim (blankCommas false e) = v at he hne htight ⊢
  rw [he] at hhead ⊢
  refine ⟨before ++ v, ?_, ?_, ?_⟩
  · have hname := solid_of_checkName h.name
    have hline := hname.tight.around htight hname.1 hne (w ++ '=' :: before)
    have htext : x ++ w ++ '=' :: (before ++ v ++ behind) =
        x ++ (w ++ '=' :: before) ++ v ++ behind := by simp
    rw [htext, Text.trim_append_blank hbehind, hline.trim_eq]
    simp
  · rwa [List.head?_append_of_ne_nil _ (by simp [hne])] at hhead
  · rw [Text.trim_blank_append hbefore, htight.trim_eq]

end Assigns

/-! ## The keyword of the line -/

theorem cutWord_fst (s : List Char) : (cutWord s).1 = s.takeWhile fun c => !isBlank c := by
  unfold cutWord Text.cutAtBlank
  cases hdrop : s.dropWhile fun c => !isBlank c with
  | nil =>
    have htake := List.takeWhile_append_dropWhile (p := fun c => !isBlank c) (l := s)
    rw [hdrop, List.append_nil] at htake
    exact htake.symm
  | cons c rest => rfl

/-- A line that starts with a name and an `=` starts with no keyword: the name is none, and if there
is no blank behind it the `=` belongs to the word. -/
theorem ofWord?_of_name (hx : checkName x = .ok ()) (hw : ∀ c ∈ w, isBlank c = true)
    (r : List Char) :
    Keyword.ofWord? (String.ofList (lower (cutWord (x ++ w ++ '=' :: r)).1)) = none ∧
      String.ofList (lower (cutWord (x ++ w ++ '=' :: r)).1) ≠ "end" := by
  have hname : ∀ c ∈ x, (!isBlank c) = true := fun c hc => by
    simp [(solid_of_checkName hx).2 c hc]
  rw [cutWord_fst, List.append_assoc, List.takeWhile_append_of_pos hname]
  cases w with
  | cons c w =>
    have hc : isBlank c = true := hw c List.mem_cons_self
    have hreserved := (checkName_eq_ok.1 hx).2
    simp only [isReserved, Bool.or_eq_false_iff, Option.isSome_eq_false_iff] at hreserved
    rw [List.cons_append, List.takeWhile_cons_of_neg (by simp [hc]), List.append_nil]
    refine ⟨by simpa using hreserved.2, fun hend => ?_⟩
    rw [hend] at hreserved
    exact absurd hreserved.1 (by decide)
  | nil =>
    rw [List.nil_append, List.takeWhile_cons_of_pos (by decide)]
    generalize hhead : x ++ '=' :: r.takeWhile _ = head
    have hequals : '=' ∈ lower head :=
      Text.mem_lower (by decide) (by decide) (by rw [← hhead]; simp)
    constructor
    · refine Option.eq_none_iff_forall_ne_some.2 fun k hk => ?_
      have hword := k.equals_not_mem_word
      rw [Keyword.word_eq_of_ofWord? hk, String.toList_ofList] at hword
      exact hword hequals
    · intro hend
      have htext := congrArg String.toList hend
      rw [String.toList_ofList] at htext
      rw [htext] at hequals
      exact absurd hequals (by decide)

theorem keywordAndParams_fst (h : String.ofList (lower (cutWord s).1) ≠ "end") :
    (keywordAndParams s).1 = String.ofList (lower (cutWord s).1) := by
  unfold keywordAndParams
  dsimp only
  rw [if_neg fun hend => h hend.1]

/-- The text of a line has its commas as spaces, and nothing at its ends. -/
theorem read?_eq_some {text : String} (hne : trim text.toList ≠ [])
    (hcomment : isComment (trim text.toList) = false) (number : Nat) :
    ∃ l, read? text number = some l ∧
      l.keyword = (keywordAndParams (trim (blankCommas false text.toList))).1 ∧
      l.text = String.ofList (trim (blankCommas false text.toList)) := by
  unfold read?
  simp [hne, hcomment, trim_blankCommas_trim]

/-- The parts of a line that assigns. -/
theorem Assigns.exists_read? {x w e : String} (h : Assigns x.toList w.toList e.toList)
    (number : Nat) : ∃ l r, read? (x ++ w ++ "=" ++ e) number = some l ∧
      Keyword.ofWord? l.keyword = none ∧
      l.text = String.ofList (trim (blankCommas false (x ++ w ++ "=" ++ e).toList)) ∧
      l.text.toList = x.toList ++ w.toList ++ '=' :: r ∧ r.head? ≠ some '=' ∧
      trim r = trim (blankCommas false e.toList) := by
  obtain ⟨r, htext, hr, hvalue⟩ := h.exists_text
  obtain ⟨c, hc, hstarts⟩ := startsName_of_checkName h.name
  have hline : (x ++ w ++ "=" ++ e).toList = x.toList ++ w.toList ++ '=' :: e.toList := by simp
  have hhead : (trim (x ++ w ++ "=" ++ e).toList).head? = some c := by
    refine Text.head?_trim ((solid_of_checkName h.name).2 c (List.mem_of_mem_head? hc)) ?_
    rw [hline, List.append_assoc, List.head?_append, hc]
    rfl
  have hne : trim (x ++ w ++ "=" ++ e).toList ≠ [] := by
    intro hnil
    rw [hnil] at hhead
    cases hhead
  obtain ⟨l, hl, hkeyword, hl'⟩ := read?_eq_some hne (isComment_of_startsName hhead hstarts) number
  obtain ⟨hword, hend⟩ := ofWord?_of_name h.name h.blank r
  rw [hline, htext] at hkeyword
  refine ⟨l, r, hl, ?_, hl', ?_, hr, hvalue⟩
  · rw [hkeyword, keywordAndParams_fst hend, hword]
  · rw [hl', String.toList_ofList, hline, htext]

end ScriptLine

namespace Session

variable {text : String} {line : Nat} {l : ScriptLine} {s : Session}

theorem readLine_of_request_error {err : ScriptError} (hl : ScriptLine.read? text line = some l)
    (hreq : request l s.program.store = .error err) :
    (readLine text line).run s = .error err s := by
  unfold readLine
  rw [hl]
  dsimp only
  rw [Attempt.run_bind_ok (EStateM.run_get s), hreq]
  rfl

variable {x w r : List Char}

theorem assigned?_of_name (hx : checkName x = .ok ()) (hw : ∀ c ∈ w, isBlank c = true)
    (hr : r.head? ≠ some '=') : assigned? (x ++ w ++ '=' :: r) = some (String.ofList x) := by
  have hsolid := solid_of_checkName hx
  unfold assigned?
  rw [splitAssignment?_of_name hx hw hr]
  simp [trim_name hx hw, hsolid.1, hsolid.hasBlank_eq]

theorem request_of_assigned? {name : String} (hkeyword : Keyword.ofWord? l.keyword = none)
    (hname : assigned? l.text.toList = some name) (store : Store) :
    (store.get? name = none → request l store = .error (.undeclaredVariable name)) ∧
      ∀ v, store.get? name = some v → request l store =
        if v.type.isArray then .error (.arrayAssignment name)
        else .ok ⟨v.type.declaredBy, l.text, true⟩ := by
  unfold request
  rw [hkeyword, hname]
  constructor
  · intro hv
    simp [hv]
  · intro v hv
    simp only [hv, Option.map_some]
    cases v.type <;> rfl

/-- The declaration is cut at the same `=` as the line. -/
theorem command_of_name {t : VarType} {text : String} (ht : t.isArray = false)
    (hx : checkName x = .ok ()) (hw : ∀ c ∈ w, isBlank c = true) (hr : r.head? ≠ some '=')
    (hne : trim r ≠ []) (htext : text.toList = x ++ w ++ '=' :: r) :
    Request.command ⟨t.declaredBy, text, true⟩ =
      .ok (.declare ⟨t, String.ofList x, some (String.ofList (trim r)), true⟩) := by
  have hparts : Declaration.parts t text.toList = .ok (x, some (trim r)) := by
    unfold Declaration.parts
    rw [htext, splitAssignment?_of_name hx hw hr]
    simp [hne, trim_name hx hw]
  unfold Request.command
  rw [configure_declaredBy ht, Declaration.configure_of_parts hparts hx]
  rfl

/-- An update announces nothing. -/
theorem prepare_of_update {d : Declaration} {store : Store} {v : Value} (hd : d.update = true)
    (hv : store.get? d.name = some v) :
    (Command.declare d).prepare.run store = .ok () store := by
  have htype : store.typeOf d.name = .ok v.type := by
    unfold Store.typeOf
    rw [Store.lookup_eq_ok.2 hv]
    rfl
  have hask : (Prepare.ask (·.typeOf d.name)).run store = .ok v.type store := by
    rw [EStateM.run, Prepare.ask, htype]
  show d.prepare.run store = _
  unfold Declaration.prepare
  rw [if_pos hd, Attempt.run_bind_ok hask]
  rfl

/-- A line `x = e` is read as an assignment in every session: it adds the command that changes `x`
in its type if `x` is a scalar there, and is rejected otherwise. -/
theorem assignmentRead {x w e : String} (hx : checkName x.toList = .ok ())
    (hw : ∀ c ∈ w.toList, isBlank c = true) (he : e.toList.head? ≠ some '=')
    (hvalue : ∃ c ∈ ScriptLine.blankCommas false e.toList, isBlank c = false) (s : Session)
    (line : Nat) :
    (∀ v, s.program.store.get? x = some v → v.type.isArray = false →
      (readLine (x ++ w ++ "=" ++ e) line).run s = .ok (some s.program.size) (s.enlist
        ⟨.declare ⟨v.type, x, some (String.ofList (trim (ScriptLine.blankCommas false e.toList))),
            true⟩, line,
          String.ofList (trim (ScriptLine.blankCommas false (x ++ w ++ "=" ++ e).toList))⟩
        s.program.store s.books)) ∧
    (∀ v, s.program.store.get? x = some v → v.type.isArray = true →
      (readLine (x ++ w ++ "=" ++ e) line).run s = .error (.arrayAssignment x) s) ∧
    (s.program.store.get? x = none →
      (readLine (x ++ w ++ "=" ++ e) line).run s = .error (.undeclaredVariable x) s) := by
  have h : ScriptLine.Assigns x.toList w.toList e.toList := ⟨hx, hw, he, hvalue⟩
  obtain ⟨l, r, hl, hkeyword, hl', htext, hr, hr'⟩ := h.exists_read? line
  have hname : assigned? l.text.toList = some x := by
    rw [htext, assigned?_of_name hx hw hr, String.ofList_toList]
  obtain ⟨hunbound, hbound⟩ := request_of_assigned? hkeyword hname s.program.store
  refine ⟨fun v hv hscalar => ?_, fun v hv harray => ?_, fun hv => ?_⟩
  · have hreq := hbound v hv
    have hcommand := command_of_name hscalar hx hw hr (by rw [hr']; exact h.trim_value_ne_nil) htext
    rw [hscalar, if_neg (by simp)] at hreq
    rw [hr', String.ofList_toList] at hcommand
    rw [← hl']
    exact readLine_eq_ok.2 (.inr ⟨l, _, _, _, _, hl, hreq, hcommand, prepare_of_update rfl hv, rfl,
      rfl, rfl⟩)
  · refine readLine_of_request_error hl ?_
    rw [hbound v hv, if_pos harray]
  · exact readLine_of_request_error hl (hunbound hv)

/-- A session in which a variable is bound whose name starts like a keyword. -/
def bindingEnds : Session where
  program := { machine := { store := Store.empty.insert "Ends" (.bool true) } }

/-- Comparisons, commas inside and outside quotes, what looks like a comment, and another `=`. -/
theorem assignmentRead_crowded :
    (readLine "Ends=x<=2, \"a,b\" // = c" 7).run bindingEnds = .ok (some 0) (bindingEnds.enlist
      ⟨.declare ⟨.bool, "Ends", some "x<=2  \"a,b\" // = c", true⟩, 7,
        "Ends=x<=2  \"a,b\" // = c"⟩ bindingEnds.program.store bindingEnds.books) := by
  have hx : checkName "Ends".toList = .ok () :=
    checkName_eq_ok.2 ⟨by decide +kernel, by decide +kernel⟩
  have hv : bindingEnds.program.store.get? "Ends" = some (.bool true) := by
    show (Store.empty.insert "Ends" (.bool true)).get? "Ends" = _
    rw [Store.get?_insert, if_pos rfl]
  have hread := (assignmentRead (w := "") (e := "x<=2, \"a,b\" // = c") hx (by simp) (by decide)
    ⟨'x', by decide +kernel, by decide⟩ bindingEnds 7).1 _ hv rfl
  have hvalue : String.ofList (trim (ScriptLine.blankCommas false
      "x<=2, \"a,b\" // = c".toList)) = "x<=2  \"a,b\" // = c" := by decide +kernel
  have htext : String.ofList (trim (ScriptLine.blankCommas false
      ("Ends" ++ "" ++ "=" ++ "x<=2, \"a,b\" // = c").toList)) = "Ends=x<=2  \"a,b\" // = c" := by
    decide +kernel
  rw [hvalue, htext] at hread
  exact hread

end Session

end PenScript
