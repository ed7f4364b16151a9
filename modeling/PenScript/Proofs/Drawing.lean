import Mathlib.Data.List.Forall2
import PenScript.Proofs.Frame

/-!
# What drawing commands draw

* `Formula.Counts s formula lo hi k` : the formula has the value `k`, a whole number in a range;
* `Drawing.Makes s filled d made` lists what drawing commands make of their arguments: numbers come
  to the canvas as they are, and outlines are filled if filling is on;
* `Drawing.stroke_eq_ok` : a drawing command makes exactly this, and fails where there is nothing to
  make;
* `Command.Makes` : the same for all commands, of which the others draw nothing;
* `Machine.makes_of_step`, `Machine.canvas_of_step_error` : a step adds what its command makes, and
  a command that fails leaves the drawing and the fill flag as they were.
-/

namespace PenScript

open Exec (Keeps)

theorem Attempt.mapM_eq_ok {ε α β : Type} {g : α → Except ε β} {xs : List α} {ys : List β} :
    xs.mapM g = .ok ys ↔ List.Forall₂ (fun x y => g x = .ok y) xs ys := by
  induction xs generalizing ys with
  | nil =>
    rw [List.mapM_nil, List.forall₂_nil_left_iff]
    exact ⟨fun h => (Except.ok.inj h).symm, fun h => h ▸ rfl⟩
  | cons x xs ih =>
    rw [List.mapM_cons, bind_eq_ok, List.forall₂_cons_left_iff]
    constructor
    · rintro ⟨y, hy, h⟩
      obtain ⟨zs, hzs, h⟩ := bind_eq_ok.1 h
      cases h
      exact ⟨y, zs, hy, ih.1 hzs, rfl⟩
    · rintro ⟨y, zs, hy, hzs, rfl⟩
      exact ⟨y, hy, bind_eq_ok.2 ⟨zs, ih.2 hzs, rfl⟩⟩

/-! ## Numbers on the canvas -/

/-- The formula has the value `k`, a whole number from `lo` to `hi`. -/
def Formula.Counts (s : Store) (formula : String) (lo hi k : Nat) : Prop :=
  ∃ n, Formula.int s formula = .ok n ∧ n.toInt = k ∧ lo ≤ k ∧ k ≤ hi

open Formula (Counts)

namespace Drawing

variable {s : Store} {formula : String} {filled : Bool} {d : Drawing} {made : Option Stroke}

theorem toInt_eq_of_nonneg {n : Int64} (h : 0 ≤ n.toInt) : n.toInt = n.toUInt64.toNat := by
  have hcases := BitVec.toInt_eq_toNat_cond n.toBitVec
  have hlt := n.toBitVec.isLt
  have hint : n.toBitVec.toInt = n.toInt := rfl
  have hnat : n.toBitVec.toNat = n.toUInt64.toNat := rfl
  rw [hint, hnat] at hcases
  rw [hnat] at hlt
  split at hcases <;> omega

/-- No bit of a channel is lost. -/
theorem toNat_channel {n : Int64} (h : 0 ≤ n.toInt) (h' : n.toInt ≤ 255) :
    ((channel n).toNat : Int) = n.toInt := by
  have heq := toInt_eq_of_nonneg h
  rw [channel, UInt64.toNat_toUInt8]
  omega

/-- No bit of a length is lost. -/
theorem toNat_length {n : Int64} (h : 0 ≤ n.toInt) (h' : n.toInt ≤ 4294967295) :
    ((length n).toNat : Int) = n.toInt := by
  have heq := toInt_eq_of_nonneg h
  rw [length, UInt64.toNat_toUInt32]
  omega

/-- The formula has a value that the argument may have. -/
def Computes (s : Store) (range : ArgRange) (formula : String) (n : Int64) : Prop :=
  Formula.int s formula = .ok n ∧ range.contains n = true

theorem compute_eq_ok {a : DrawingArg} {k : Keyword} {n : Int64} :
    a.compute k s formula = .ok n ↔ Computes s a.range formula n := by
  unfold DrawingArg.compute Computes
  rw [Attempt.bind_eq_ok]
  constructor
  · rintro ⟨n', hn, hcheck⟩
    unfold DrawingArg.check at hcheck
    split at hcheck
    · cases hcheck
      exact ⟨Attempt.mapError_eq_ok.1 hn, ‹_›⟩
    · cases hcheck
  · rintro ⟨hn, hrange⟩
    exact ⟨n, Attempt.mapError_eq_ok.2 hn, by rw [DrawingArg.check, if_pos hrange]⟩

theorem argValues_eq_ok {ns : List Int64} : d.argValues s = .ok ns ↔
    List.Forall₂ (fun a n => Computes s a.1.range a.2 n) d.args ns := by
  unfold argValues
  rw [Attempt.mapM_eq_ok]
  simp only [compute_eq_ok]

theorem exists_channel {k : UInt8} :
    (∃ n, Computes s .channel formula n ∧ channel n = k) ↔ Counts s formula 0 255 k.toNat := by
  constructor
  · rintro ⟨n, ⟨hn, hrange⟩, rfl⟩
    have hrange : 0 ≤ n.toInt ∧ n.toInt ≤ 255 := by simpa [ArgRange.contains] using hrange
    have heq := toNat_channel hrange.1 hrange.2
    exact ⟨n, hn, heq.symm, by omega, by omega⟩
  · rintro ⟨n, hn, heq, -, hhigh⟩
    have hrange : 0 ≤ n.toInt ∧ n.toInt ≤ 255 := by omega
    refine ⟨n, ⟨hn, by simpa [ArgRange.contains] using hrange⟩, UInt8.toNat_inj.1 ?_⟩
    have := toNat_channel hrange.1 hrange.2
    omega

theorem exists_length {range : ArgRange} {lo : Nat} {k : UInt32}
    (hrange : ∀ n, range.contains n = true ↔ (lo : Int) ≤ n.toInt ∧ n.toInt ≤ 4294967295) :
    (∃ n, Computes s range formula n ∧ length n = k) ↔ Counts s formula lo 4294967295 k.toNat := by
  constructor
  · rintro ⟨n, ⟨hn, hin⟩, rfl⟩
    have hin := (hrange n).1 hin
    have heq := toNat_length (by omega) hin.2
    exact ⟨n, hn, heq.symm, by omega, by omega⟩
  · rintro ⟨n, hn, heq, hlow, hhigh⟩
    refine ⟨n, ⟨hn, (hrange n).2 (by omega)⟩, UInt32.toNat_inj.1 ?_⟩
    have := toNat_length (n := n) (by omega) (by omega)
    omega

theorem exists_nonNegative {k : UInt32} :
    (∃ n, Computes s .nonNegative formula n ∧ length n = k) ↔
      Counts s formula 0 4294967295 k.toNat := by
  refine exists_length fun n => ?_
  simp only [ArgRange.contains, UInt32.size, Bool.and_eq_true, decide_eq_true_eq]
  omega

theorem exists_positive {k : UInt32} :
    (∃ n, Computes s .positive formula n ∧ length n = k) ↔
      Counts s formula 1 4294967295 k.toNat := by
  refine exists_length fun n => ?_
  simp only [ArgRange.contains, UInt32.size, Bool.and_eq_true, decide_eq_true_eq]
  omega

theorem computes_any {n : Int64} : Computes s .any formula n ↔ Formula.int s formula = .ok n :=
  and_iff_left rfl

/-! ## The strokes of drawing commands -/

/-- What a drawing command makes, with the variables `s` and with filling on or off. -/
inductive Makes (s : Store) (filled : Bool) : Drawing → Option Stroke → Prop
  | pen {r g b : String} {red green blue : UInt8} (hr : Counts s r 0 255 red.toNat)
      (hg : Counts s g 0 255 green.toNat) (hb : Counts s b 0 255 blue.toNat) :
      Makes s filled (.pen r g b) (some (.pen red green blue))
  | fill (on : Bool) : Makes s filled (.fill on) none
  | moveTo {x y : String} {a b : Int64} (hx : Formula.int s x = .ok a)
      (hy : Formula.int s y = .ok b) : Makes s filled (.moveTo x y) (some (.moveTo a b))
  | drawTo {x y : String} {a b : Int64} (hx : Formula.int s x = .ok a)
      (hy : Formula.int s y = .ok b) : Makes s filled (.drawTo x y) (some (.drawTo a b))
  | rectangle {w h : String} {width height : UInt32} (hw : Counts s w 0 4294967295 width.toNat)
      (hh : Counts s h 0 4294967295 height.toNat) :
      Makes s filled (.rectangle w h) (some (.rectangle width height filled))
  | circle {r : String} {radius : UInt32} (hr : Counts s r 1 4294967295 radius.toNat) :
      Makes s filled (.circle r) (some (.circle radius filled))
  | clear : Makes s filled .clear (some .clear)
  | literal (text : String) : Makes s filled (.write (.literal text)) (some (.text text))
  | formula {e : String} {v : Value} (hv : Formula.evaluate s e = .ok v) :
      Makes s filled (.write (.formula e)) (some (.text v.display))

/-- All but the formulas that are written make a stroke of numbers, which are computed first. -/
theorem stroke_eq_ok_of_args (hd : ∀ e, d ≠ .write (.formula e)) :
    d.stroke s filled = .ok made ↔
      ∃ ns, List.Forall₂ (fun a n => Computes s a.1.range a.2 n) d.args ns ∧
        d.stroke? filled ns = made := by
  unfold stroke
  split
  · exact absurd rfl (hd _)
  · rw [Attempt.bind_eq_ok]
    constructor
    · rintro ⟨ns, hns, h⟩
      exact ⟨ns, argValues_eq_ok.1 hns, Except.ok.inj h⟩
    · rintro ⟨ns, hns, h⟩
      exact ⟨ns, argValues_eq_ok.2 hns, by rw [h]; rfl⟩

theorem stroke_formula {e : String} : (Drawing.write (.formula e)).stroke s filled = .ok made ↔
    ∃ v, Formula.evaluate s e = .ok v ∧ some (.text v.display) = made := by
  rw [stroke, Attempt.map_eq_ok]
  simp only [inscribe, Attempt.bind_eq_ok, Attempt.mapError_eq_ok]
  constructor
  · rintro ⟨_, ⟨v, hv, h⟩, rfl⟩
    cases h
    exact ⟨v, hv, rfl⟩
  · rintro ⟨v, hv, rfl⟩
    exact ⟨_, ⟨v, hv, rfl⟩, rfl⟩

theorem Makes.stroke_eq (h : Makes s filled d made) : d.stroke s filled = .ok made := by
  cases h with
  | pen hr hg hb =>
    obtain ⟨x, hx, rfl⟩ := exists_channel.2 hr
    obtain ⟨y, hy, rfl⟩ := exists_channel.2 hg
    obtain ⟨z, hz, rfl⟩ := exists_channel.2 hb
    exact (stroke_eq_ok_of_args (by simp)).2
      ⟨[x, y, z], .cons hx (.cons hy (.cons hz .nil)), rfl⟩
  | moveTo hx hy | drawTo hx hy =>
    exact (stroke_eq_ok_of_args (by simp)).2
      ⟨_, .cons (computes_any.2 hx) (.cons (computes_any.2 hy) .nil), rfl⟩
  | rectangle hw hh =>
    obtain ⟨x, hx, rfl⟩ := exists_nonNegative.2 hw
    obtain ⟨y, hy, rfl⟩ := exists_nonNegative.2 hh
    exact (stroke_eq_ok_of_args (by simp)).2 ⟨[x, y], .cons hx (.cons hy .nil), rfl⟩
  | circle hr =>
    obtain ⟨x, hx, rfl⟩ := exists_positive.2 hr
    exact (stroke_eq_ok_of_args (by simp)).2 ⟨[x], .cons hx .nil, rfl⟩
  | fill on | clear | literal text =>
    exact (stroke_eq_ok_of_args (by simp)).2 ⟨[], .nil, rfl⟩
  | formula hv => exact stroke_formula.2 ⟨_, hv, rfl⟩

theorem makes_of_stroke (h : d.stroke s filled = .ok made) : Makes s filled d made := by
  by_cases hd : ∃ e, d = .write (.formula e)
  · obtain ⟨e, rfl⟩ := hd
    obtain ⟨v, hv, rfl⟩ := stroke_formula.1 h
    exact .formula hv
  · have hd : ∀ e, d ≠ .write (.formula e) := fun e he => hd ⟨e, he⟩
    obtain ⟨ns, hns, rfl⟩ := (stroke_eq_ok_of_args hd).1 h
    cases d with
    | pen r g b =>
      obtain _ | ⟨hx, _ | ⟨hy, _ | ⟨hz, _ | _⟩⟩⟩ := hns
      exact .pen (exists_channel.1 ⟨_, hx, rfl⟩) (exists_channel.1 ⟨_, hy, rfl⟩)
        (exists_channel.1 ⟨_, hz, rfl⟩)
    | moveTo x y =>
      obtain _ | ⟨hx, _ | ⟨hy, _ | _⟩⟩ := hns
      exact .moveTo (computes_any.1 hx) (computes_any.1 hy)
    | drawTo x y =>
      obtain _ | ⟨hx, _ | ⟨hy, _ | _⟩⟩ := hns
      exact .drawTo (computes_any.1 hx) (computes_any.1 hy)
    | rectangle w h =>
      obtain _ | ⟨hx, _ | ⟨hy, _ | _⟩⟩ := hns
      exact .rectangle (exists_nonNegative.1 ⟨_, hx, rfl⟩) (exists_nonNegative.1 ⟨_, hy, rfl⟩)
    | circle r =>
      obtain _ | ⟨hx, _ | _⟩ := hns
      exact .circle (exists_positive.1 ⟨_, hx, rfl⟩)
    | fill on => exact .fill on
    | clear => exact .clear
    | write what =>
      cases what with
      | literal text => exact .literal text
      | formula e => exact absurd rfl (hd e)

/-- A drawing command makes what it should, and fails if there is no such thing. -/
theorem stroke_eq_ok : d.stroke s filled = .ok made ↔ Makes s filled d made :=
  ⟨makes_of_stroke, Makes.stroke_eq⟩

/-- What a command for filling turns it to. -/
def fills? : Drawing → Option Bool
  | .fill on => some on
  | _ => none

/-- A drawing command adds what it makes, and turns filling on or off if it is for that. -/
theorem execute_eq_ok {m m' : Machine} : d.execute.run m = .ok () m' ↔
    ∃ made, Makes m.store m.fill d made ∧ m' = { m with
      fill := d.fills?.getD m.fill
      strokes := made.elim m.strokes m.strokes.push } := by
  simp only [← stroke_eq_ok]
  rw [EStateM.run, Drawing.execute.eq_def]
  cases hs : d.stroke m.store m.fill with
  | error e => simp
  | ok made =>
    simp only [Except.ok.injEq, exists_eq_left', EStateM.Result.ok.injEq, true_and]
    cases made <;> cases d <;> exact eq_comm

end Drawing

/-! ## Commands and steps -/

namespace Command

variable {c : Command}

/-- What a command makes: nothing, unless it is for drawing. -/
def Makes (s : Store) (filled : Bool) : Command → Option Stroke → Prop
  | draw d, made => d.Makes s filled made
  | _, made => made = none

/-- What a command for filling turns it to. -/
def fills? : Command → Option Bool
  | draw d => d.fills?
  | _ => none

theorem makes_none (hc : ∀ d, c ≠ .draw d) (s : Store) (filled : Bool) : c.Makes s filled none := by
  cases c with
  | draw d => exact absurd rfl (hc d)
  | _ => rfl

theorem fills?_eq_none (hc : ∀ d, c ≠ .draw d) : c.fills? = none := by
  cases c with
  | draw d => exact absurd rfl (hc d)
  | _ => rfl

/-- Only drawing commands turn filling on or off. -/
theorem execute_fill (hc : ∀ d, c ≠ .draw d) (code : List CodeLine) (pos : Nat) :
    Keeps Machine.fill (c.execute code pos) :=
  Spares.keeps ⟨fun _ _ => rfl, fun _ _ => rfl, fun _ _ => rfl, fun _ _ _ _ _ => rfl,
    fun d hd => absurd hd (hc d)⟩

end Command

namespace Machine

variable {code : List CodeLine} {l : CodeLine} {m m' : Machine} {e : CommandError}

@[simp] theorem strokes_moveTo (m : Machine) (size : Nat) (flow : Flow) :
    (m.moveTo size flow).strokes = m.strokes := by
  cases flow <;> rfl

@[simp] theorem fill_moveTo (m : Machine) (size : Nat) (flow : Flow) :
    (m.moveTo size flow).fill = m.fill := by
  cases flow <;> rfl

/-- The step: the drawing gets what the command makes, at most one stroke. -/
theorem makes_of_step (h : step code l m = .ok () m') :
    ∃ made, l.command.Makes m.store m.fill made ∧
      m'.strokes.toList = m.strokes.toList ++ made.toList ∧
      m'.fill = l.command.fills?.getD m.fill := by
  obtain ⟨flow, m₁, hexec, rfl⟩ := execute_of_step h
  rw [strokes_moveTo, fill_moveTo]
  by_cases hdraw : ∃ d, l.command = .draw d
  · obtain ⟨d, hd⟩ := hdraw
    rw [hd] at hexec ⊢
    obtain ⟨⟨⟩, m₂, hmade, hpure⟩ := Attempt.run_bind_eq_ok.1 hexec
    cases hpure
    obtain ⟨made, hmakes, rfl⟩ := Drawing.execute_eq_ok.1 hmade
    refine ⟨made, hmakes, ?_, rfl⟩
    cases made <;> simp [noteExecute]
  · have hc : ∀ d, l.command ≠ .draw d := fun d hd => hdraw ⟨d, hd⟩
    refine ⟨none, Command.makes_none hc _ _, ?_, ?_⟩
    · rw [(Command.execute_strokes hc code m.pc).ok hexec]
      simp [noteExecute]
    · rw [(Command.execute_fill hc code m.pc).ok hexec, Command.fills?_eq_none hc]
      rfl

/-- A command that fails leaves the drawing and the fill flag as they were, in any code. -/
theorem canvas_of_step_error (h : step code l m = .error e m') :
    m'.strokes = m.strokes ∧ m'.fill = m.fill := by
  have hexec := execute_of_step_error h
  by_cases hdraw : ∃ d, l.command = .draw d
  · obtain ⟨d, hd⟩ := hdraw
    rw [hd] at hexec
    have hm : m' = m.noteExecute l := d.execute_atomic.bind_pure _ _ _ _ hexec
    rw [hm]
    exact ⟨rfl, rfl⟩
  · have hc : ∀ d, l.command ≠ .draw d := fun d hd => hdraw ⟨d, hd⟩
    have hstrokes := (Command.execute_strokes hc code m.pc).error hexec
    have hfill := (Command.execute_fill hc code m.pc).error hexec
    exact ⟨hstrokes, hfill⟩

end Machine

end PenScript
