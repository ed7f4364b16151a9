import PenScript.Proofs.Accepted
import PenScript.Proofs.Cutting
import PenScript.Proofs.StoreTypes

/-!
# Listings read back

* `CodeLine.Listable c st` : the text of a command fills a line of its own and asks there, where the
  variables are `st`, for the command again;
* `Session.listable_of_request` : so does the text of every command that a line gives;
* `Listable code st st'` : the same for all the commands of a code, which announce their variables in
  order, from `st` to `st'`;
* `renumber n code` : the code with its lines numbered from `n` on;
* `Session.Accepted.readBack` : the main result.
-/

namespace PenScript

open Text (Tight)

/-! ## Texts of requests -/

theorem startsName_of_checkName {name : List Char} (h : checkName name = .ok ()) :
    ∃ c, name.head? = some c ∧ Text.startsName c = true := by
  unfold checkName at h
  cases name with
  | nil => cases h
  | cons c rest =>
    refine ⟨c, rfl, ?_⟩
    split at h
    · cases h
    · rename_i hshape
      simp only [Text.isIdentifier, Bool.not_eq_true, Bool.not_eq_false', Bool.and_eq_true] at hshape
      exact hshape.1

/-- The text of a declaration starts as its name does. -/
theorem Declaration.startsName_of_configure {t : VarType} {params : String} {d : Declaration}
    (h : configure t params = .ok d) (htight : Tight params.toList) :
    ∃ c, params.toList.head? = some c ∧ Text.startsName c = true := by
  obtain ⟨name, value, hparts, hname, -⟩ := configure_ok h
  obtain ⟨c, hc, hstarts⟩ := startsName_of_checkName hname
  unfold parts at hparts
  split at hparts
  · rename_i left right hsplit
    split at hparts
    · cases hparts
    · cases hparts
      have heq := (splitAfter_eq_some.1 hsplit).1
      cases left with
      | nil => cases hc
      | cons d left =>
        -- the text has no blank at its start, so trimming its left part keeps the first character
        have hhead : params.toList.head? = some d := by rw [heq]; rfl
        rw [Text.head?_trim (htight.1 d hhead) rfl] at hc
        exact ⟨d, hhead, Option.some.inj hc ▸ hstarts⟩
  · cases hparts
    rw [htight.trim_eq] at hc
    exact ⟨c, hc, hstarts⟩

namespace ScriptLine

theorem isComment_of_startsName {s : List Char} {c : Char} (hs : s.head? = some c)
    (hc : Text.startsName c = true) : isComment s = false := by
  cases s with
  | nil => rfl
  | cons d rest =>
    cases hs
    rw [isComment]
    rintro rest' heq
    cases heq
    exact absurd hc (by decide)

theorem toList_joined_ne_nil (k : Keyword) (params : String) : (joined k params).toList ≠ [] := by
  unfold joined
  split
  · exact k.toList_word_ne_nil
  · simp [k.toList_word_ne_nil]

theorem mem_joined {k : Keyword} {params : String} {c : Char}
    (h : c ∈ (joined k params).toList) :
    c ∈ k.word.toList ∨ c = ' ' ∨ c ∈ params.toList := by
  unfold joined at h
  split at h
  · exact .inl h
  · simp only [String.toList_append, List.mem_append] at h
    rcases h with (hword | hblank) | hparams
    · exact .inl hword
    · exact .inr (.inl (by simpa using hblank))
    · exact .inr (.inr hparams)

end ScriptLine

/-- The text of the command fills a line of its own, and asks for the command there. -/
structure CodeLine.Listable (c : CodeLine) (st : Store) : Prop where
  oneLine : '\n' ∉ c.text.toList ∧ Tight c.text.toList ∧ c.text.toList ≠ []
  reads : ∀ n, ∃ l r, ScriptLine.read? c.text n = some l ∧ Session.request l st = .ok r ∧
    r.command = .ok c.command ∧ r.text = c.text

namespace Session

theorem listable_of_keyword {l : ScriptLine} {st : Store} {k : Keyword} {c : Command} {line : Nat}
    (hl : l.Cut) (hk : Keyword.ofWord? l.keyword = some k) (hfeed : '\n' ∉ l.text.toList)
    (hc : Request.command ⟨k, l.params, false⟩ = .ok c) :
    CodeLine.Listable ⟨c, line, ScriptLine.joined k l.params⟩ st := by
  obtain ⟨htight, hclean, hmem⟩ := hl.params hk
  constructor
  · refine ⟨fun hn => ?_, (ScriptLine.cut_joined k htight hclean 0).tight,
      ScriptLine.toList_joined_ne_nil k _⟩
    rcases ScriptLine.mem_joined hn with hword | hblank | hparams
    · exact (k.word_plain _ hword).2.2.2.2 rfl
    · cases hblank
    · exact hfeed (hmem _ hparams)
  · intro n
    refine ⟨_, ⟨k, l.params, false⟩, ScriptLine.read?_joined k htight hclean n, ?_, hc, rfl⟩
    rw [request, Keyword.ofWord?_word]

/-- A scalar is declared by its keyword. -/
theorem configure_declaredBy {t : VarType} (ht : t.isArray = false) (params : String) :
    Command.configure t.declaredBy params = (Declaration.configure t params).map .declare := by
  cases t with
  | array elem => cases ht
  | _ => rfl

theorem listable_of_update {l : ScriptLine} {st : Store} {t : VarType} {c : Command} {line : Nat}
    (hl : l.Cut) (ht : t.isArray = false) (hfeed : '\n' ∉ l.text.toList)
    (hreq : request l st = .ok ⟨t.declaredBy, l.text, true⟩)
    (hc : Request.command ⟨t.declaredBy, l.text, true⟩ = .ok c) :
    CodeLine.Listable ⟨c, line, l.text⟩ st := by
  obtain ⟨c', hconfigure, -⟩ := Attempt.bind_eq_ok.1 hc
  rw [configure_declaredBy ht] at hconfigure
  obtain ⟨d, hd, -⟩ := Attempt.map_eq_ok.1 hconfigure
  obtain ⟨x, hx, hstarts⟩ := Declaration.startsName_of_configure hd hl.tight
  have hne : l.text.toList ≠ [] := by
    intro hnil
    rw [hnil] at hx
    cases hx
  constructor
  · exact ⟨hfeed, hl.tight, hne⟩
  · intro n
    exact ⟨{ l with number := n }, _,
      hl.read?_text hne (ScriptLine.isComment_of_startsName hx hstarts) n, hreq, hc, rfl⟩

/-- The text of a request asks for its command again. -/
theorem listable_of_request {l : ScriptLine} {st : Store} {r : Request} {c : Command} (line : Nat)
    (hl : l.Cut) (hfeed : '\n' ∉ l.text.toList) (hr : request l st = .ok r)
    (hc : r.command = .ok c) : CodeLine.Listable ⟨c, line, r.text⟩ st := by
  have hreq := hr
  unfold request at hr
  split at hr
  · rename_i k hk
    cases hr
    exact listable_of_keyword hl hk hfeed hc
  · split at hr
    · cases hr
    · split at hr
      · cases hr
      · cases hr
      · rename_i t hscalar ht
        cases hr
        have ht : t.isArray = false := by
          cases t with
          | array elem => exact absurd rfl (hscalar elem)
          | _ => rfl
        exact listable_of_update hl ht hfeed hreq hc

end Session

/-! ## Listings of codes -/

/-- All texts can be listed, each with the variables that the commands before it announce. -/
def Listable : List CodeLine → Store → Store → Prop
  | [], st, st' => st' = st
  | c :: code, st, st' => c.Listable st ∧
      ∃ st₁, c.command.prepare.run st = .ok () st₁ ∧ Listable code st₁ st'

theorem Listable.of_mem {code : List CodeLine} : ∀ {st st' : Store}, Listable code st st' →
    ∀ c ∈ code, ∃ st, c.Listable st := by
  induction code with
  | nil =>
    intro st st' h c hc
    cases hc
  | cons d code ih =>
    intro st st' h c hc
    obtain ⟨hd, st₁, -, hrest⟩ := h
    rcases List.mem_cons.1 hc with rfl | hc
    · exact ⟨st, hd⟩
    · exact ih hrest c hc

/-- The listing of a code that can be listed has the texts of its commands as its lines. -/
theorem Listable.lines_listing {p : Program} {st st' : Store} (h : Listable p.code st st') :
    Text.lines p.listing.toList = p.code.map (·.text.toList) := by
  have hlines : p.listing.toList = List.intercalate ['\n'] (p.code.map (·.text.toList)) := by
    rw [Program.listing, String.toList_intercalate, List.map_map]
    rfl
  rw [hlines]
  refine Text.lines_intercalate fun l hl => ?_
  obtain ⟨c, hc, rfl⟩ := List.mem_map.1 hl
  obtain ⟨st, hst⟩ := h.of_mem c hc
  exact hst.oneLine

/-- The code with its lines numbered from `n` on. -/
def renumber (n : Nat) (code : List CodeLine) : List CodeLine :=
  code.mapIdx fun i c => { c with line := n + i }

theorem renumber_cons (n : Nat) (c : CodeLine) (code : List CodeLine) :
    renumber n (c :: code) = { c with line := n } :: renumber (n + 1) code := by
  unfold renumber
  rw [List.mapIdx_cons]
  congr 2
  funext i c
  rw [Nat.add_assoc, Nat.add_comm 1 i]

@[simp] theorem map_command_renumber (n : Nat) (code : List CodeLine) :
    (renumber n code).map (·.command) = code.map (·.command) := by
  induction code generalizing n with
  | nil => rfl
  | cons c code ih => rw [renumber_cons, List.map_cons, List.map_cons, ih]

/-- Whether blocks fit has nothing to do with line numbers. -/
theorem Track.commands_renumber {code : List CodeLine} {b : Bookkeeping}
    (h : (commands code).run {} = .ok () b) (hb : b.blocks = []) (n : Nat) :
    (commands (renumber n code)).run {} = .ok () b := by
  obtain ⟨t, ht, -⟩ := exists_tree_of_commands h hb
  have ht' : Nested (renumber n code) t := (map_command_renumber n code).trans ht
  rw [commands_tree t ht']
  exact (commands_tree t ht).1 h

namespace Session

/-- The step: what a line adds can be listed. -/
theorem readLine_listable {text : String} {line : Nat} {r : Option Nat} {s s' : Session}
    (h : (readLine text line).run s = .ok r s') (hfeed : '\n' ∉ text.toList) :
    s' = s ∨ ∃ c store books, c.Listable s.program.store ∧
      c.command.prepare.run s.program.store = .ok () store ∧ s' = s.enlist c store books := by
  rcases readLine_eq_ok.1 h with
    ⟨-, -, rfl⟩ | ⟨l, req, c, store, books, hl, hreq, hc, hstore, -, -, rfl⟩
  · exact .inl rfl
  · obtain ⟨hcut, hmem⟩ := ScriptLine.cut_of_read? hl
    have hfeed' : '\n' ∉ l.text.toList := by
      intro hn
      rcases hmem _ hn with htext | hblank
      · exact hfeed htext
      · cases hblank
    exact .inr ⟨⟨c, line, req.text⟩, store, books, listable_of_request line hcut hfeed' hreq hc,
      hstore, rfl⟩

/-- The run: what lines add can be listed. -/
theorem readLines_listable (ls : List (List Char)) : ∀ {line : Nat} {s s' : Session},
    readLines ls line s = ([], s') → (∀ l ∈ ls, '\n' ∉ l) →
    ∀ {added}, s'.program.code = s.program.code ++ added →
      Listable added s.program.store s'.program.store := by
  induction ls with
  | nil =>
    intro line s s' h hfeeds added hadded
    cases h
    rw [List.self_eq_append_right.1 hadded]
    rfl
  | cons text ls ih =>
    intro line s s' h hfeeds added hadded
    obtain ⟨r, s₁, h₁, h₂⟩ := readLines_cons_nil h
    have hfeed : '\n' ∉ (String.ofList text).toList := by
      rw [String.toList_ofList]
      exact hfeeds text List.mem_cons_self
    have hrest : ∀ l ∈ ls, '\n' ∉ l := fun l hl => hfeeds l (List.mem_cons_of_mem text hl)
    rcases readLine_listable h₁ hfeed with rfl | ⟨c, store, books, hc, hstore, rfl⟩
    · exact ih h₂ hrest hadded
    · obtain ⟨more, hmore, -⟩ := readLines_nil ls h₂
      have hsplit : added = c :: more := by
        have hcode : s.program.code ++ added = s.program.code ++ [c] ++ more :=
          hadded.symm.trans hmore
        rw [List.append_assoc] at hcode
        exact List.append_cancel_left hcode
      rw [hsplit]
      exact ⟨hc, store, hstore, ih h₂ hrest hmore⟩

/-- Reading lines changes the code and the variables of the program, and nothing else. -/
theorem readLines_program (ls : List (List Char)) : ∀ {line : Nat} {s s' : Session},
    readLines ls line s = ([], s') →
    s'.program = { s.program.setStore s'.program.store with code := s'.program.code } := by
  induction ls with
  | nil =>
    intro line s s' h
    cases h
    rfl
  | cons text ls ih =>
    intro line s s' h
    obtain ⟨r, s₁, h₁, h₂⟩ := readLines_cons_nil h
    rcases readLine_eq_ok.1 h₁ with
      ⟨-, -, rfl⟩ | ⟨l, req, c, store, books, -, -, -, -, -, -, rfl⟩
    · exact ih h₂
    · have hprogram := ih h₂
      exact hprogram

/-- Texts that can be listed read as the commands that they are the texts of. -/
theorem readLines_texts {store : Store} {books : Bookkeeping} (code : List CodeLine) :
    ∀ {n : Nat} {s : Session}, Listable code s.program.store store →
    (Track.commands (renumber n code)).run s.books = .ok () books →
    ∃ s', readLines (code.map (·.text.toList)) n s = ([], s') ∧
      s'.program.code = s.program.code ++ renumber n code ∧ s'.program.store = store ∧
      s'.books = books := by
  induction code with
  | nil =>
    intro n s hlist htrack
    have hbooks := (Track.commands_nil _ _).1 htrack
    exact ⟨s, rfl, (List.append_nil s.program.code).symm, hlist.symm, hbooks.symm⟩
  | cons c code ih =>
    intro n s hlist htrack
    obtain ⟨hc, st₁, hst₁, hlist⟩ := hlist
    rw [renumber_cons, Track.commands_cons] at htrack
    obtain ⟨b₁, hb₁, htrack⟩ := htrack
    obtain ⟨l, req, hl, hreq, hcommand, htext⟩ := hc.reads n
    have hline : (readLine (String.ofList c.text.toList) n).run s =
        .ok (some s.program.size) (s.enlist { c with line := n } st₁ b₁) := by
      rw [String.ofList_toList]
      refine readLine_eq_ok.2 (.inr ⟨l, req, c.command, st₁, b₁, hl, hreq, hcommand, hst₁, hb₁,
        rfl, ?_⟩)
      rw [htext]
    obtain ⟨s', hread, hcode, hstore, hbooks⟩ :=
      @ih (n + 1) (s.enlist { c with line := n } st₁ b₁) hlist htrack
    refine ⟨s', ?_, ?_, hstore, hbooks⟩
    · rw [List.map_cons, readLines_cons, hline]
      exact hread
    · rw [hcode, renumber_cons]
      show s.program.code ++ [_] ++ _ = _
      rw [List.append_assoc, List.singleton_append]

/-- Reading the listing of a script gives its program back: the commands with their texts, the
variables and the books. The lines are those of the listing. -/
theorem Accepted.readBack {source : String} {s₀ s : Session} (h : Accepted source s₀ s)
    (s₁ : Session) :
    ∃ s', Accepted s.program.listing s₁ s' ∧ s'.books = s.books ∧
      s'.program = { s.program with
        code := s.program.code.mapIdx fun i c => { c with line := i }
        limit := s₁.program.limit } := by
  obtain ⟨r, hread, hblocks, hcalls, rfl⟩ := accepted_iff.1 h
  obtain ⟨added, hcode, -, htrack⟩ := readLines_nil _ hread
  have hadded : r.program.code = added := hcode
  subst hadded
  have hlist := readLines_listable _ hread (fun l => Text.not_mem_of_mem_lines) hcode
  obtain ⟨r', hread', hcode', hstore', hbooks'⟩ :=
    @readLines_texts _ _ _ 0 s₁.reset hlist (Track.commands_renumber htrack hblocks 0)
  rw [← hlist.lines_listing] at hread'
  have hnew : r'.program.code = renumber 0 r.program.code := hcode'
  have hcalls' : undeclaredCalls r'.program.code = [] := by
    rw [hnew, undeclaredCalls_eq_nil, map_command_renumber]
    exact undeclaredCalls_eq_nil.1 hcalls
  have hblocks' : r'.books.blocks = [] := by rw [hbooks', hblocks]
  refine ⟨_, accepted_iff.2 ⟨r', hread', hblocks', hcalls', rfl⟩, hbooks', ?_⟩
  have hprogram := readLines_program _ hread
  have hprogram' := readLines_program _ hread'
  rw [hstore', hnew] at hprogram'
  have hlines : renumber 0 r.program.code =
      r.program.code.mapIdx fun i c => { c with line := i } := by
    unfold renumber
    congr 1
    funext i c
    rw [Nat.zero_add]
  rw [hlines] at hprogram'
  show r'.program.markParsed = _
  rw [hprogram', hprogram]
  rfl

/-- Commas, cases, blanks and comments that no listing has. -/
def untidy : String :=
  "INT n, = 3\n\n  Write \"a, b\"\n// until five\nwhile n < 5,\n n  =  n + 1\nEnd   While\r\n" ++
    "method m\nend method\ncall m"

theorem readBack_untidy : ∃ s s', Accepted untidy {} s ∧
    s.program.code.map (·.text) = ["int n  = 3", "write \"a, b\"", "while n < 5", "n  =  n + 1",
      "end-while", "method m", "end-method", "call m"] ∧
    s.program.code.map (·.line) = [0, 2, 4, 5, 6, 7, 8, 9] ∧
    Accepted s.program.listing {} s' ∧ s'.books = s.books ∧
    s'.program = { s.program with
      code := s.program.code.mapIdx fun i c => { c with line := i }
      limit := 50000 } := by
  obtain ⟨s, hs, htest⟩ := exists_accepted untidy
    (fun p => p.code.map (·.text) = ["int n  = 3", "write \"a, b\"", "while n < 5", "n  =  n + 1",
        "end-while", "method m", "end-method", "call m"] &&
      p.code.map (·.line) = [0, 2, 4, 5, 6, 7, 8, 9])
    (by decide +kernel)
  simp only [Bool.and_eq_true, decide_eq_true_eq] at htest
  obtain ⟨s', hs', hbooks, hprogram⟩ := hs.readBack {}
  exact ⟨s, s', hs, htest.1, htest.2, hs', hbooks, hprogram⟩

end Session

end PenScript
