import LogFanout.Text.Cut
import Mathlib.Data.List.Basic

/-!
# Where a text is cut

A text is cut at the first place where a mark stands (`cutFirst_eq_some_iff`), or at the last place
where a character stands (`cutLast_eq_some_iff`), unless the mark stands nowhere in it.
-/

namespace LogFanout.Text

/-- The parts before and after the first place where a mark stands. -/
structure FirstCut (mark cs before after : List Char) : Prop where
  eq : cs = before ++ mark ++ after
  first : ∀ before' after', cs = before' ++ mark ++ after' → before.length ≤ before'.length

/-- There is only one first place. -/
lemma FirstCut.unique {mark cs before after before' after' : List Char}
    (cut : FirstCut mark cs before after) (cut' : FirstCut mark cs before' after') :
    before = before' ∧ after = after' := by
  have length : before.length = before'.length :=
    Nat.le_antisymm (cut.first _ _ cut'.eq) (cut'.first _ _ cut.eq)
  have eq := cut.eq.symm.trans cut'.eq
  rw [List.append_assoc, List.append_assoc] at eq
  obtain ⟨front, rest⟩ := List.append_inj eq length
  exact ⟨front, List.append_cancel_left rest⟩

/-- A mark in front is the first one. -/
lemma FirstCut.here (mark after : List Char) : FirstCut mark (mark ++ after) [] after :=
  ⟨rfl, fun _ _ _ => Nat.zero_le _⟩

/-- A mark that does not stand in front stands first where it does behind the first character. -/
lemma FirstCut.cons {mark cs before after : List Char} {c : Char}
    (cut : FirstCut mark cs before after) (apart : ¬mark <+: c :: cs) :
    FirstCut mark (c :: cs) (c :: before) after where
  eq := by rw [cut.eq, List.cons_append, List.cons_append]
  first before' after' eq := by
    cases before' with
    | nil =>
      rw [List.nil_append] at eq
      exact absurd ⟨after', eq.symm⟩ apart
    | cons d before' =>
      obtain ⟨rfl, rest⟩ := List.cons.inj eq
      exact Nat.succ_le_succ (cut.first before' after' rest)

lemma cutFirst_of_leads {mark cs : List Char} {c : Char} (front : mark <+: c :: cs) :
    cutFirst mark (c :: cs) = some ([], (c :: cs).drop mark.length) := by
  rw [cutFirst, if_pos (List.isPrefixOf_iff_prefix.mpr front)]

lemma cutFirst_of_apart {mark cs : List Char} {c : Char} (apart : ¬mark <+: c :: cs) :
    cutFirst mark (c :: cs) =
      (cutFirst mark cs).map fun (before, after) => (c :: before, after) := by
  rw [cutFirst, if_neg (mt List.isPrefixOf_iff_prefix.mp apart)]

/-- A cut gives the first place of the mark, and there is none if the mark stands nowhere. -/
lemma cutFirst_cases (mark cs : List Char) :
    (∃ before after, cutFirst mark cs = some (before, after) ∧ FirstCut mark cs before after) ∨
      cutFirst mark cs = none ∧ ∀ before after, cs ≠ before ++ mark ++ after := by
  induction cs with
  | nil =>
    by_cases empty : mark = []
    · subst empty
      exact .inl ⟨[], [], rfl, .here [] []⟩
    · refine .inr ⟨if_neg empty, fun before after eq => ?_⟩
      obtain ⟨front, -⟩ := List.append_eq_nil_iff.mp eq.symm
      exact empty (List.append_eq_nil_iff.mp front).2
  | cons c cs ih =>
    by_cases front : mark <+: c :: cs
    · rw [cutFirst_of_leads front]
      obtain ⟨after, eq⟩ := front
      rw [← eq, List.drop_left]
      exact .inl ⟨[], after, rfl, .here mark after⟩
    rw [cutFirst_of_apart front]
    rcases ih with ⟨before, after, eq, cut⟩ | ⟨eq, nowhere⟩
    · rw [eq]
      exact .inl ⟨c :: before, after, rfl, cut.cons front⟩
    · rw [eq]
      refine .inr ⟨rfl, fun before after split => ?_⟩
      cases before with
      | nil =>
        rw [List.nil_append] at split
        exact front ⟨after, split.symm⟩
      | cons d before => exact nowhere before after (List.cons.inj split).2

lemma cutFirst_eq_some_iff {mark cs before after : List Char} :
    cutFirst mark cs = some (before, after) ↔ FirstCut mark cs before after := by
  rcases cutFirst_cases mark cs with ⟨front, back, eq, cut⟩ | ⟨eq, nowhere⟩
  · rw [eq]
    constructor
    · intro same
      cases same
      exact cut
    · intro cut'
      obtain ⟨rfl, rfl⟩ := cut.unique cut'
      rfl
  · rw [eq]
    constructor
    · intro found
      cases found
    · intro cut
      exact absurd cut.eq (nowhere before after)

lemma cutFirst_eq_none_iff {mark cs : List Char} :
    cutFirst mark cs = none ↔ ∀ before after, cs ≠ before ++ mark ++ after := by
  rcases cutFirst_cases mark cs with ⟨front, back, eq, cut⟩ | ⟨eq, nowhere⟩
  · rw [eq]
    constructor
    · intro none
      cases none
    · intro nowhere
      exact absurd cut.eq (nowhere front back)
  · exact ⟨fun _ => nowhere, fun _ => eq⟩

lemma cutLast_eq_none_iff {mark : Char} {cs : List Char} :
    cutLast mark cs = none ↔ mark ∉ cs := by
  induction cs with
  | nil => simp [cutLast]
  | cons c cs ih =>
    rw [cutLast, List.mem_cons, not_or, ← ih]
    cases cutLast mark cs with
    | none => simp [eq_comm]
    | some parts => simp

/-- No mark stands behind the last one. -/
lemma cutLast_eq_some_iff {mark : Char} {cs before after : List Char} :
    cutLast mark cs = some (before, after) ↔ cs = before ++ mark :: after ∧ mark ∉ after := by
  induction cs generalizing before after with
  | nil => simp [cutLast]
  | cons c cs ih =>
    rw [cutLast]
    cases cut : cutLast mark cs with
    | some parts =>
      -- The last mark stands further on, so the first character goes with the part before it.
      obtain ⟨front, back⟩ := parts
      obtain ⟨eq, last⟩ := ih.mp cut
      constructor
      · intro found
        cases found
        exact ⟨congrArg (c :: ·) eq, last⟩
      · rintro ⟨split, last'⟩
        cases before with
        | nil =>
          obtain ⟨-, rfl⟩ := List.cons.inj split
          simp [eq] at last'
        | cons d before =>
          obtain ⟨rfl, rest⟩ := List.cons.inj split
          have same := cut.symm.trans (ih.mpr ⟨rest, last'⟩)
          cases same
          rfl
    | none =>
      have absent := cutLast_eq_none_iff.mp cut
      constructor
      · intro found
        by_cases here : c = mark
        · cases (if_pos here).symm.trans found
          exact ⟨by rw [here, List.nil_append], absent⟩
        · cases (if_neg here).symm.trans found
      · rintro ⟨split, -⟩
        cases before with
        | nil =>
          obtain ⟨rfl, rfl⟩ := List.cons.inj split
          exact if_pos rfl
        | cons d before =>
          obtain ⟨-, rest⟩ := List.cons.inj split
          exact absurd (rest ▸ List.mem_append_right before List.mem_cons_self) absent

/-- What stands before and behind the first mark is told by the whole. -/
lemma append_cons_inj {mark : Char} {before before' after after' : List Char}
    (first : mark ∉ before) (first' : mark ∉ before')
    (eq : before ++ mark :: after = before' ++ mark :: after') :
    before = before' ∧ after = after' := by
  induction before generalizing before' with
  | nil =>
    cases before' with
    | nil => exact ⟨rfl, (List.cons.inj eq).2⟩
    | cons c _ => exact absurd ((List.cons.inj eq).1 ▸ List.mem_cons_self) first'
  | cons c before ih =>
    cases before' with
    | nil => exact absurd ((List.cons.inj eq).1 ▸ List.mem_cons_self) first
    | cons c' before' =>
      obtain ⟨rfl, rest⟩ := List.cons.inj eq
      obtain ⟨rfl, same⟩ :=
        ih (mt (List.mem_cons_of_mem _) first) (mt (List.mem_cons_of_mem _) first') rest
      exact ⟨rfl, same⟩

end LogFanout.Text
