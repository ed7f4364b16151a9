import Mathlib.Order.Bounds.Basic
import PenScript.Proofs.Resolver

/-!
# Searching any code for blocks

Here nothing is said of how the items are nested.

* `Block.seen items m i` counts a marker among the first `i` items, `Block.between items m s e`
  strictly between two positions;
* `Block.EndsAt items k s e`, `Block.DividesAt items k s q`, `Block.StartsAt items k e s` : an end, a
  middle or a start of kind `k`, with as many starts as ends of that kind on the way to it;
* `Block.Ahead`, `Block.Behind` : what the searches know of the items that they have passed, which
  every item keeps (`Ahead.scanEnd`, `Behind.scanStart`);
* `Block.exists_endsAt`, `Block.exists_startsAt` : on a way with more ends than starts, or with more
  starts than ends, there is one that fits;
* `Block.exactSearches` : the main result.
-/

namespace PenScript.Block

variable {items : List (Option Marker)} {k : Kind} {m : Marker} {s e i q pos d : Nat}

/-! ## Counting markers -/

/-- How often a marker stands among the first items. -/
def seen (items : List (Option Marker)) (m : Marker) (i : Nat) : Nat := (items.take i).count (some m)

/-- How often a marker stands strictly between two positions. -/
def between (items : List (Option Marker)) (m : Marker) (s e : Nat) : Nat :=
  ((items.take e).drop (s + 1)).count (some m)

theorem seen_succ_of_eq (h : items[i]? = some (some m)) :
    seen items m (i + 1) = seen items m i + 1 := by
  simp [seen, List.take_add_one, h]

theorem seen_succ_of_ne (h : items[i]? ≠ some (some m)) :
    seen items m (i + 1) = seen items m i := by
  cases hi : items[i]? with
  | none => simp [seen, List.take_add_one, hi]
  | some item =>
    have hne : item ≠ some m := fun heq => h (by rw [hi, heq])
    simp [seen, List.take_add_one, hi, hne]

theorem seen_le_succ (items : List (Option Marker)) (m : Marker) (i : Nat) :
    seen items m i ≤ seen items m (i + 1) := by
  by_cases h : items[i]? = some (some m)
  · rw [seen_succ_of_eq h]; omega
  · rw [seen_succ_of_ne h]

theorem seen_add_between (items : List (Option Marker)) (m : Marker) (h : s < e) :
    seen items m (s + 1) + between items m s e = seen items m e := by
  have htake : (items.take e).take (s + 1) = items.take (s + 1) := by
    rw [List.take_take, Nat.min_eq_left h]
  rw [seen, between, ← htake, ← List.count_append, List.take_append_drop, seen]

/-- As many starts as ends of a kind stand strictly between two positions. -/
def Balanced (items : List (Option Marker)) (k : Kind) (s e : Nat) : Prop :=
  between items ⟨k, .start⟩ s e = between items ⟨k, .stop⟩ s e

theorem balanced_iff (h : s < e) : Balanced items k s e ↔
    seen items ⟨k, .start⟩ e + seen items ⟨k, .stop⟩ (s + 1) =
      seen items ⟨k, .stop⟩ e + seen items ⟨k, .start⟩ (s + 1) := by
  have hstart := seen_add_between items ⟨k, .start⟩ h
  have hstop := seen_add_between items ⟨k, .stop⟩ h
  rw [Balanced]
  omega

/-- The position holds an end, with as many starts as ends on the way to it from `s`. -/
def EndsAt (items : List (Option Marker)) (k : Kind) (s e : Nat) : Prop :=
  s < e ∧ items[e]? = some (some ⟨k, .stop⟩) ∧ Balanced items k s e

/-- The position holds a middle, with as many starts as ends on the way to it from `s`. -/
def DividesAt (items : List (Option Marker)) (k : Kind) (s q : Nat) : Prop :=
  s < q ∧ items[q]? = some (some ⟨k, .middle⟩) ∧ Balanced items k s q

/-- The position holds a start, with as many starts as ends on the way from it to `e`. -/
def StartsAt (items : List (Option Marker)) (k : Kind) (e s : Nat) : Prop :=
  s < e ∧ items[s]? = some (some ⟨k, .start⟩) ∧ Balanced items k s e

/-- Behind `s` there are more ends than starts, if one counts up to the position. -/
def Outnumbered (items : List (Option Marker)) (k : Kind) (s e : Nat) : Prop :=
  s < e ∧ between items ⟨k, .start⟩ s (e + 1) < between items ⟨k, .stop⟩ s (e + 1)

theorem outnumbered_iff : Outnumbered items k s e ↔ s < e ∧
    seen items ⟨k, .start⟩ (e + 1) + seen items ⟨k, .stop⟩ (s + 1) <
      seen items ⟨k, .stop⟩ (e + 1) + seen items ⟨k, .start⟩ (s + 1) := by
  refine and_congr_right fun h => ?_
  have hlt : s < e + 1 := by omega
  have hstart := seen_add_between items ⟨k, .start⟩ hlt
  have hstop := seen_add_between items ⟨k, .stop⟩ hlt
  omega

/-- A marker is at most one of the two. -/
theorem ne_of_getElem? {r r' : Role} (h : items[i]? = some (some ⟨k, r⟩)) (hr : r ≠ r') :
    items[i]? ≠ some (some ⟨k, r'⟩) := by
  intro h'
  rw [h] at h'
  simp [hr] at h'

/-! ## What is on the way -/

/-- If there are more ends than starts on the way to a position, one of the ends comes first. -/
theorem exists_endsAt (hs : s + 1 ≤ pos)
    (h : seen items ⟨k, .start⟩ pos + seen items ⟨k, .stop⟩ (s + 1) <
      seen items ⟨k, .stop⟩ pos + seen items ⟨k, .start⟩ (s + 1)) :
    ∃ e < pos, EndsAt items k s e := by
  induction pos, hs using Nat.le_induction with
  | base => omega
  | succ pos hle ih =>
    have hlt : s < pos := hle
    by_cases hless : seen items ⟨k, .start⟩ pos + seen items ⟨k, .stop⟩ (s + 1) <
        seen items ⟨k, .stop⟩ pos + seen items ⟨k, .start⟩ (s + 1)
    · obtain ⟨e, he, hends⟩ := ih hless
      exact ⟨e, Nat.lt_succ_of_lt he, hends⟩
    -- otherwise the last item makes the difference
    · have hstop : items[pos]? = some (some ⟨k, .stop⟩) := by
        by_contra hne
        rw [seen_succ_of_ne hne] at h
        have hgrow := seen_le_succ items ⟨k, .start⟩ pos
        omega
      rw [seen_succ_of_eq hstop, seen_succ_of_ne (ne_of_getElem? hstop (by decide))] at h
      exact ⟨pos, Nat.lt_succ_self pos, hlt, hstop, (balanced_iff hlt).2 (by omega)⟩

/-- If there are more starts than ends on the way from a position, one of the starts comes last. -/
theorem exists_startsAt (he : pos ≤ e)
    (h : seen items ⟨k, .stop⟩ e + seen items ⟨k, .start⟩ pos <
      seen items ⟨k, .start⟩ e + seen items ⟨k, .stop⟩ pos) :
    ∃ s, pos ≤ s ∧ StartsAt items k e s := by
  induction he using Nat.decreasingInduction with
  | self => omega
  | of_succ pos hlt ih =>
    by_cases hless : seen items ⟨k, .stop⟩ e + seen items ⟨k, .start⟩ (pos + 1) <
        seen items ⟨k, .start⟩ e + seen items ⟨k, .stop⟩ (pos + 1)
    · obtain ⟨s, hs, hstarts⟩ := ih hless
      exact ⟨s, by omega, hstarts⟩
    · have hstart : items[pos]? = some (some ⟨k, .start⟩) := by
        by_contra hne
        rw [seen_succ_of_ne hne] at hless
        have hgrow := seen_le_succ items ⟨k, .stop⟩ pos
        omega
      rw [seen_succ_of_eq hstart, seen_succ_of_ne (ne_of_getElem? hstart (by decide))] at hless
      refine ⟨pos, Nat.le_refl pos, hlt, hstart, (balanced_iff hlt).2 ?_⟩
      rw [seen_succ_of_eq hstart, seen_succ_of_ne (ne_of_getElem? hstart (by decide))]
      omega

/-! ## The searches -/

/-- The first position below a bound with a property, if there is one. -/
def FirstBelow (P : Nat → Prop) (bound : Nat) : Option Nat → Prop
  | some q => q < bound ∧ P q ∧ ∀ j < q, ¬ P j
  | none => ∀ j < bound, ¬ P j

namespace FirstBelow

variable {P : Nat → Prop} {bound : Nat} {o o' : Option Nat}

theorem skip (h : FirstBelow P bound o) (hb : ¬ P bound) : FirstBelow P (bound + 1) o := by
  cases o with
  | none =>
    intro j hj
    rcases Nat.lt_succ_iff_lt_or_eq.1 hj with hlt | rfl
    · exact h j hlt
    · exact hb
  | some q => exact ⟨Nat.lt_succ_of_lt h.1, h.2⟩

theorem take (h : FirstBelow P bound o) (hb : P bound) :
    FirstBelow P (bound + 1) (o.or (some bound)) := by
  cases o with
  | none => exact ⟨Nat.lt_succ_self bound, hb, h⟩
  | some q => exact ⟨Nat.lt_succ_of_lt h.1, h.2⟩

theorem unique (h : FirstBelow P bound o) (h' : FirstBelow P bound o') : o = o' := by
  cases o with
  | none =>
    cases o' with
    | none => rfl
    | some q => exact absurd h'.2.1 (h q h'.1)
  | some q =>
    cases o' with
    | none => exact absurd h.2.1 (h' q h.1)
    | some q' =>
      have hle : ¬ q' < q := fun hlt => h.2.2 q' hlt h'.2.1
      have hge : ¬ q < q' := fun hlt => h'.2.2 q hlt h.2.1
      rw [show q = q' by omega]

end FirstBelow

/-- A result is the first end that fits from `s`, with the first middle that does. -/
def Ends (items : List (Option Marker)) (k : Kind) (s : Nat) : Option Extent → Prop
  | some x => IsLeast {e | EndsAt items k s e} x.stop ∧
      FirstBelow (DividesAt items k s) x.stop x.middle
  | none => ∀ e, ¬ EndsAt items k s e

/-- A result is the last start that fits from `e`. -/
def Starts (items : List (Option Marker)) (k : Kind) (e : Nat) : Option Nat → Prop
  | some s => IsGreatest {s | StartsAt items k e s} s
  | none => ∀ s, ¬ StartsAt items k e s

/-- What the search for an end from `s` knows when it comes to a position: no end fits before, the
first middle that does, and how many more starts than ends it has passed. -/
structure Ahead (items : List (Option Marker)) (k : Kind) (s pos d : Nat) (mid : Option Nat) :
    Prop where
  lt : s < pos
  depth : seen items ⟨k, .start⟩ pos + seen items ⟨k, .stop⟩ (s + 1) =
    d + seen items ⟨k, .stop⟩ pos + seen items ⟨k, .start⟩ (s + 1)
  early : ∀ e < pos, ¬ EndsAt items k s e
  middle : FirstBelow (DividesAt items k s) pos mid

namespace Ahead

variable {mid : Option Nat}

theorem balanced (h : Ahead items k s pos d mid) : Balanced items k s pos ↔ d = 0 := by
  rw [balanced_iff h.lt, h.depth]
  omega

/-- The search passes an item that is no end that fits. -/
theorem pass {d' : Nat} {mid' : Option Nat} (h : Ahead items k s pos d mid)
    (hdepth : seen items ⟨k, .start⟩ (pos + 1) + d + seen items ⟨k, .stop⟩ pos =
      seen items ⟨k, .start⟩ pos + d' + seen items ⟨k, .stop⟩ (pos + 1))
    (hend : ¬ EndsAt items k s pos) (hmid : FirstBelow (DividesAt items k s) (pos + 1) mid') :
    Ahead items k s (pos + 1) d' mid' where
  lt := Nat.lt_succ_of_lt h.lt
  depth := by
    have := h.depth
    omega
  early := by
    intro e he
    rcases Nat.lt_succ_iff_lt_or_eq.1 he with hlt | rfl
    · exact h.early e hlt
    · exact hend
  middle := hmid

theorem start (h : Ahead items k s pos d mid) (hi : items[pos]? = some (some ⟨k, .start⟩)) :
    Ahead items k s (pos + 1) (d + 1) mid := by
  have hstop : items[pos]? ≠ some (some ⟨k, .stop⟩) := ne_of_getElem? hi (by decide)
  have hmiddle : items[pos]? ≠ some (some ⟨k, .middle⟩) := ne_of_getElem? hi (by decide)
  refine h.pass ?_ (fun hends => hstop hends.2.1) (h.middle.skip fun hdiv => hmiddle hdiv.2.1)
  rw [seen_succ_of_eq hi, seen_succ_of_ne hstop]
  omega

theorem stop (h : Ahead items k s pos (d + 1) mid) (hi : items[pos]? = some (some ⟨k, .stop⟩)) :
    Ahead items k s (pos + 1) d mid := by
  have hstart : items[pos]? ≠ some (some ⟨k, .start⟩) := ne_of_getElem? hi (by decide)
  have hmiddle : items[pos]? ≠ some (some ⟨k, .middle⟩) := ne_of_getElem? hi (by decide)
  have hbalanced : ¬ Balanced items k s pos := by rw [h.balanced]; omega
  refine h.pass ?_ (fun hends => hbalanced hends.2.2) (h.middle.skip fun hdiv => hmiddle hdiv.2.1)
  rw [seen_succ_of_ne hstart, seen_succ_of_eq hi]
  omega

theorem other (h : Ahead items k s pos d mid) (hstart : items[pos]? ≠ some (some ⟨k, .start⟩))
    (hstop : items[pos]? ≠ some (some ⟨k, .stop⟩)) {mid' : Option Nat}
    (hmid : FirstBelow (DividesAt items k s) (pos + 1) mid') :
    Ahead items k s (pos + 1) d mid' := by
  refine h.pass ?_ (fun hends => hstop hends.2.1) hmid
  rw [seen_succ_of_ne hstart, seen_succ_of_ne hstop]

/-- The search for an end gives the first one that fits, with the first middle that does. -/
theorem scanEnd (h : Ahead items k s pos d mid) :
    Ends items k s (scanEnd k d mid pos (items.drop pos)) := by
  induction hn : items.length - pos generalizing pos d mid with
  | zero =>
    rw [List.drop_eq_nil_of_le (by omega), Block.scanEnd]
    intro e hends
    have hlt := (List.getElem?_eq_some_iff.1 hends.2.1).1
    exact h.early e (by omega) hends
  | succ n ih =>
    have hlt : pos < items.length := by omega
    have hi : items[pos]? = some items[pos] := List.getElem?_eq_getElem hlt
    have hn' : items.length - (pos + 1) = n := by omega
    rw [List.drop_eq_getElem_cons hlt, scanEnd_cons]
    by_cases hstart : items[pos] = some ⟨k, .start⟩
    · rw [if_pos hstart]
      exact ih (h.start (by rw [hi, hstart])) hn'
    have hstart' : items[pos]? ≠ some (some ⟨k, .start⟩) := by rwa [hi, ne_eq, Option.some_inj]
    rw [if_neg hstart]
    by_cases hmiddle : items[pos] = some ⟨k, .middle⟩ ∧ d = 0
    · rw [if_pos hmiddle]
      have hmiddle' : items[pos]? = some (some ⟨k, .middle⟩) := by rw [hi, hmiddle.1]
      refine ih (h.other hstart' (ne_of_getElem? hmiddle' (by decide)) (h.middle.take ?_)) hn'
      exact ⟨h.lt, hmiddle', h.balanced.2 hmiddle.2⟩
    rw [if_neg hmiddle]
    by_cases hstop : items[pos] = some ⟨k, .stop⟩
    · have hstop' : items[pos]? = some (some ⟨k, .stop⟩) := by rw [hi, hstop]
      rw [if_pos hstop]
      cases d with
      | zero =>
        refine ⟨⟨⟨h.lt, hstop', h.balanced.2 rfl⟩, fun e hends => ?_⟩, h.middle⟩
        exact Nat.le_of_not_lt fun hlt => h.early e hlt hends
      | succ d => exact ih (h.stop hstop') hn'
    · have hstop' : items[pos]? ≠ some (some ⟨k, .stop⟩) := by rwa [hi, ne_eq, Option.some_inj]
      rw [if_neg hstop]
      refine ih (h.other hstart' hstop' (h.middle.skip fun hdiv => hmiddle ⟨?_, ?_⟩)) hn'
      · exact Option.some_inj.1 (hi.symm.trans hdiv.2.1)
      · exact h.balanced.1 hdiv.2.2

end Ahead

/-- What the search for a start from `e` knows when the items before a position are left: no start
fits behind, and how many more ends than starts it has passed. -/
structure Behind (items : List (Option Marker)) (k : Kind) (e pos d : Nat) : Prop where
  le : pos ≤ e
  depth : seen items ⟨k, .stop⟩ e + seen items ⟨k, .start⟩ pos =
    d + seen items ⟨k, .start⟩ e + seen items ⟨k, .stop⟩ pos
  late : ∀ s, pos ≤ s → ¬ StartsAt items k e s

namespace Behind

theorem pass {d' : Nat} (h : Behind items k e (pos + 1) d)
    (hdepth : seen items ⟨k, .start⟩ (pos + 1) + d' + seen items ⟨k, .stop⟩ pos =
      seen items ⟨k, .start⟩ pos + d + seen items ⟨k, .stop⟩ (pos + 1))
    (hstart : ¬ StartsAt items k e pos) : Behind items k e pos d' where
  le := Nat.le_of_succ_le h.le
  depth := by
    have := h.depth
    omega
  late := by
    intro s hs
    rcases Nat.lt_or_eq_of_le hs with hlt | rfl
    · exact h.late s hlt
    · exact hstart

/-- A start fits if no more ends than starts have been passed. -/
theorem startsAt_iff (h : Behind items k e (pos + 1) d)
    (hi : items[pos]? = some (some ⟨k, .start⟩)) : StartsAt items k e pos ↔ d = 0 := by
  have hdepth := h.depth
  rw [StartsAt, balanced_iff h.le]
  refine ⟨fun hstarts => by omega, fun hd => ⟨h.le, hi, by omega⟩⟩

/-- The search for a start gives the last one that fits. -/
theorem scanStart (h : Behind items k e pos d) :
    Starts items k e (scanStart k d (items.take pos).reverse) := by
  induction pos generalizing d with
  | zero => exact fun s => h.late s (Nat.zero_le s)
  | succ pos ih =>
    cases hi : items[pos]? with
    | none =>
      have hnone : ∀ r, items[pos]? ≠ some (some ⟨k, r⟩) := by simp [hi]
      rw [List.take_add_one, hi, Option.toList_none, List.append_nil]
      refine ih (h.pass ?_ fun hstarts => hnone _ hstarts.2.1)
      rw [seen_succ_of_ne (hnone _), seen_succ_of_ne (hnone _)]
    | some item =>
      have hlength : (items.take pos).reverse.length = pos := by
        have hlt := (List.getElem?_eq_some_iff.1 hi).1
        rw [List.length_reverse, List.length_take]
        omega
      rw [List.take_add_one, hi, Option.toList_some, List.reverse_append, List.reverse_singleton,
        List.singleton_append, scanStart_cons]
      by_cases hstop : item = some ⟨k, .stop⟩
      · rw [if_pos hstop]
        rw [hstop] at hi
        have hstart : items[pos]? ≠ some (some ⟨k, .start⟩) := ne_of_getElem? hi (by decide)
        refine ih (h.pass ?_ fun hstarts => hstart hstarts.2.1)
        rw [seen_succ_of_ne hstart, seen_succ_of_eq hi]
        omega
      have hstop' : items[pos]? ≠ some (some ⟨k, .stop⟩) := by rwa [hi, ne_eq, Option.some_inj]
      rw [if_neg hstop]
      by_cases hstart : item = some ⟨k, .start⟩
      · rw [if_pos hstart]
        rw [hstart] at hi
        cases d with
        | zero =>
          rw [if_pos rfl, hlength]
          refine ⟨(h.startsAt_iff hi).2 rfl, fun s hstarts => ?_⟩
          exact Nat.le_of_not_lt fun hlt => h.late s hlt hstarts
        | succ d =>
          refine ih (h.pass ?_ fun hstarts => d.succ_ne_zero ((h.startsAt_iff hi).1 hstarts))
          rw [seen_succ_of_eq hi, seen_succ_of_ne hstop']
          omega
      · have hstart' : items[pos]? ≠ some (some ⟨k, .start⟩) := by
          rwa [hi, ne_eq, Option.some_inj]
        rw [if_neg hstart]
        refine ih (h.pass ?_ fun hstarts => hstart' hstarts.2.1)
        rw [seen_succ_of_ne hstart', seen_succ_of_ne hstop']

end Behind

theorem findEnd?_ends (items : List (Option Marker)) (s : Nat) (k : Kind) :
    Ends items k s (findEnd? items s k) := by
  refine Ahead.scanEnd ⟨Nat.lt_succ_self s, by omega, fun e he hends => ?_, fun q hq hdiv => ?_⟩
  · exact absurd hends.1 (by omega)
  · exact absurd hdiv.1 (by omega)

theorem findStart?_starts (items : List (Option Marker)) (e : Nat) (k : Kind) :
    Starts items k e (findStart? items e k) :=
  Behind.scanStart ⟨Nat.le_refl e, by omega, fun _ hs hstarts => absurd hstarts.1 (by omega)⟩

/-! ## The two directions -/

/-- The first end that fits is the first position at which the ends outnumber the starts. -/
theorem isLeast_endsAt_iff : IsLeast {e | EndsAt items k s e} e ↔
    IsLeast {e | Outnumbered items k s e} e := by
  have hout : ∀ {e}, EndsAt items k s e → Outnumbered items k s e := by
    rintro e ⟨hlt, hstop, hbalanced⟩
    rw [balanced_iff hlt] at hbalanced
    rw [outnumbered_iff, seen_succ_of_eq hstop, seen_succ_of_ne (ne_of_getElem? hstop (by decide))]
    omega
  have hends : ∀ {e}, Outnumbered items k s e → ∃ e' ≤ e, EndsAt items k s e' := by
    intro e h
    obtain ⟨hlt, hless⟩ := outnumbered_iff.1 h
    obtain ⟨e', he', hends⟩ := exists_endsAt (by omega) hless
    exact ⟨e', by omega, hends⟩
  constructor
  · rintro ⟨he, hleast⟩
    refine ⟨hout he, fun e' h => ?_⟩
    obtain ⟨e'', hle, hends⟩ := hends h
    exact Nat.le_trans (hleast hends) hle
  · rintro ⟨he, hleast⟩
    obtain ⟨e', hle, hends⟩ := hends he
    obtain rfl : e = e' := Nat.le_antisymm (hleast (hout hends)) hle
    exact ⟨hends, fun e'' h => hleast (hout h)⟩

/-- From the first end that fits a start, that start is the last one that fits. -/
theorem isGreatest_startsAt (hs : items[s]? = some (some ⟨k, .start⟩))
    (h : IsLeast {e | EndsAt items k s e} e) : IsGreatest {s | StartsAt items k e s} s := by
  obtain ⟨⟨hlt, hstop, hbalanced⟩, hleast⟩ := h
  refine ⟨⟨hlt, hs, hbalanced⟩, fun s' ⟨hlt', hs', hbalanced'⟩ => Nat.le_of_not_lt fun hss' => ?_⟩
  -- before a later start that fits, an earlier end would have fitted
  rw [balanced_iff hlt] at hbalanced
  rw [balanced_iff hlt', seen_succ_of_eq hs', seen_succ_of_ne (ne_of_getElem? hs' (by decide))]
    at hbalanced'
  obtain ⟨e', he', hends⟩ : ∃ e' < s', EndsAt items k s e' := exists_endsAt (by omega) (by omega)
  have := hleast hends
  omega

/-- From the last start that fits an end, that end is the first one that fits. -/
theorem isLeast_endsAt (he : items[e]? = some (some ⟨k, .stop⟩))
    (h : IsGreatest {s | StartsAt items k e s} s) : IsLeast {e | EndsAt items k s e} e := by
  obtain ⟨⟨hlt, hstart, hbalanced⟩, hgreatest⟩ := h
  refine ⟨⟨hlt, he, hbalanced⟩, fun e' ⟨hlt', he', hbalanced'⟩ => Nat.le_of_not_lt fun hee' => ?_⟩
  rw [balanced_iff hlt] at hbalanced
  rw [balanced_iff hlt'] at hbalanced'
  have hstops := seen_succ_of_eq he'
  have hstarts := seen_succ_of_ne (ne_of_getElem? he' (show Role.stop ≠ .start by decide))
  obtain ⟨s', hs', hfits⟩ : ∃ s', e' + 1 ≤ s' ∧ StartsAt items k e s' :=
    exists_startsAt (by omega) (by omega)
  have := hgreatest hfits
  omega

/-! ## The main result -/

/-- The searches find what they look for, whatever the items are, and each undoes the other. -/
structure ExactSearches (items : List (Option Marker)) (k : Kind) : Prop where
  /-- The search for an end gives the least position with an end that fits, and the first middle
  before it that does. -/
  endFound : ∀ s mid e, findEnd items s k = .ok ⟨mid, e⟩ ↔
    IsLeast {e | EndsAt items k s e} e ∧ FirstBelow (DividesAt items k s) e mid
  /-- That is the first position at which the ends outnumber the starts. -/
  endFirst : ∀ s e, IsLeast {e | EndsAt items k s e} e ↔ IsLeast {e | Outnumbered items k s e} e
  endMissing : ∀ s err, findEnd items s k = .error err ↔
    (∀ e, ¬ EndsAt items k s e) ∧ err = ⟨k.endKeyword, k.startKeyword, s⟩
  /-- The search for a start gives the greatest position with a start that fits. -/
  startFound : ∀ e s, findStart items e k = .ok s ↔ IsGreatest {s | StartsAt items k e s} s
  startMissing : ∀ e err, findStart items e k = .error err ↔
    (∀ s, ¬ StartsAt items k e s) ∧ err = ⟨k.startKeyword, k.endKeyword, e⟩
  /-- From a start to its end and back. -/
  back : ∀ s mid e, items[s]? = some (some ⟨k, .start⟩) → findEnd items s k = .ok ⟨mid, e⟩ →
    findStart items e k = .ok s
  /-- From an end to its start and forth. -/
  forth : ∀ e s, items[e]? = some (some ⟨k, .stop⟩) → findStart items e k = .ok s →
    ∃ mid, findEnd items s k = .ok ⟨mid, e⟩

theorem findEnd_eq_ok {mid : Option Nat} : findEnd items s k = .ok ⟨mid, e⟩ ↔
    IsLeast {e | EndsAt items k s e} e ∧ FirstBelow (DividesAt items k s) e mid := by
  have hends := findEnd?_ends items s k
  rw [findEnd]
  cases hfound : findEnd? items s k with
  | none =>
    rw [hfound] at hends
    simp only [reduceCtorEq, false_iff]
    exact fun h => hends e h.1.1
  | some x =>
    rw [hfound] at hends
    obtain ⟨hleast, hmiddle⟩ := hends
    constructor
    · rintro ⟨⟩
      exact ⟨hleast, hmiddle⟩
    · rintro ⟨hleast', hmiddle'⟩
      obtain ⟨mid', e'⟩ := x
      obtain rfl : e' = e := hleast.unique hleast'
      have hmid : mid' = mid := hmiddle.unique hmiddle'
      rw [hmid]

theorem findEnd_eq_error {err : Missing} : findEnd items s k = .error err ↔
    (∀ e, ¬ EndsAt items k s e) ∧ err = ⟨k.endKeyword, k.startKeyword, s⟩ := by
  have hends := findEnd?_ends items s k
  rw [findEnd]
  cases hfound : findEnd? items s k with
  | none =>
    rw [hfound] at hends
    simp only [Except.error.injEq]
    exact ⟨fun h => ⟨hends, h.symm⟩, fun h => h.2.symm⟩
  | some x =>
    rw [hfound] at hends
    simp only [reduceCtorEq, false_iff]
    exact fun h => h.1 x.stop hends.1.1

theorem findStart_eq_ok : findStart items e k = .ok s ↔ IsGreatest {s | StartsAt items k e s} s := by
  have hstarts := findStart?_starts items e k
  rw [findStart]
  cases hfound : findStart? items e k with
  | none =>
    rw [hfound] at hstarts
    simp only [reduceCtorEq, false_iff]
    exact fun h => hstarts s h.1
  | some s' =>
    rw [hfound] at hstarts
    simp only [Except.ok.injEq]
    exact ⟨fun h => h ▸ hstarts, fun h => hstarts.unique h⟩

theorem findStart_eq_error {err : Missing} : findStart items e k = .error err ↔
    (∀ s, ¬ StartsAt items k e s) ∧ err = ⟨k.startKeyword, k.endKeyword, e⟩ := by
  have hstarts := findStart?_starts items e k
  rw [findStart]
  cases hfound : findStart? items e k with
  | none =>
    rw [hfound] at hstarts
    simp only [Except.error.injEq]
    exact ⟨fun h => ⟨hstarts, h.symm⟩, fun h => h.2.symm⟩
  | some s' =>
    rw [hfound] at hstarts
    simp only [reduceCtorEq, false_iff]
    exact fun h => h.1 s' hstarts.1

/-- In any list of items, well nested or not, both searches are exact and undo each other. -/
theorem exactSearches (items : List (Option Marker)) (k : Kind) : ExactSearches items k where
  endFound _ _ _ := findEnd_eq_ok
  endFirst _ _ := isLeast_endsAt_iff
  endMissing _ _ := findEnd_eq_error
  startFound _ _ := findStart_eq_ok
  startMissing _ _ := findStart_eq_error
  back s mid e hs h := by
    obtain ⟨hleast, -⟩ := findEnd_eq_ok.1 h
    exact findStart_eq_ok.2 (isGreatest_startsAt hs hleast)
  forth e s he h := by
    have hleast := isLeast_endsAt he (findStart_eq_ok.1 h)
    have hends := findEnd?_ends items s k
    cases hfound : findEnd? items s k with
    | none =>
      rw [hfound] at hends
      exact absurd hleast.1 (hends e)
    | some x =>
      rw [hfound] at hends
      have hstop : x.stop = e := hends.1.unique hleast
      exact ⟨x.middle, by rw [findEnd, hfound, ← hstop]⟩

/-- A stray end, a conditional with two middles across which a loop lies, and a start without an
end. -/
def crossed : List (Option Marker) :=
  [some ⟨.conditional, .stop⟩, some ⟨.conditional, .start⟩, some ⟨.whileLoop, .start⟩,
    some ⟨.conditional, .start⟩, some ⟨.conditional, .middle⟩, some ⟨.conditional, .stop⟩,
    some ⟨.conditional, .middle⟩, none, some ⟨.conditional, .middle⟩, some ⟨.conditional, .stop⟩,
    some ⟨.whileLoop, .stop⟩, some ⟨.conditional, .start⟩]

theorem exactSearches_crossed :
    findStart crossed 9 .conditional = .ok 1 ∧
      (∃ mid, findEnd crossed 1 .conditional = .ok ⟨mid, 9⟩) ∧
      FirstBelow (DividesAt crossed .conditional 1) 9 (some 6) ∧
      IsLeast {e | Outnumbered crossed .conditional 1 e} 9 ∧
      (∀ e, ¬ EndsAt crossed .conditional 11 e) ∧ ∀ s, ¬ StartsAt crossed .conditional 0 s := by
  have h := exactSearches crossed .conditional
  have hend : findEnd crossed 1 .conditional = .ok ⟨some 6, 9⟩ := rfl
  have hstart := h.back 1 (some 6) 9 rfl hend
  obtain ⟨hleast, hmiddle⟩ := (h.endFound 1 (some 6) 9).1 hend
  exact ⟨hstart, h.forth 9 1 rfl hstart, hmiddle, (h.endFirst 1 9).1 hleast,
    ((h.endMissing 11 _).1 rfl).1, ((h.startMissing 0 _).1 rfl).1⟩

end PenScript.Block
