import Mathlib

/-! # Places in lists

The first entry of a list with a property, and the last one, said by what stands before or behind it
and not by a search; and the states that the events of a list lead through, one for each place.
-/
namespace Sinkhole

section Entries

variable {α : Type} {P : α → Prop} {entries : List α} {entry other : α}

/-- The entry has the property, and no earlier one has it. -/
def IsFirst (P : α → Prop) (entries : List α) (entry : α) : Prop :=
  ∃ front back, entries = front ++ entry :: back ∧ P entry ∧ ∀ earlier ∈ front, ¬ P earlier

/-- The entry has the property, and no later one has it. -/
def IsLast (P : α → Prop) (entries : List α) (entry : α) : Prop :=
  ∃ front back, entries = front ++ entry :: back ∧ P entry ∧ ∀ later ∈ back, ¬ P later

variable {test : α → Bool}

theorem find?_eq_some_iff_isFirst (htest : ∀ entry, test entry = true ↔ P entry) :
    entries.find? test = some entry ↔ IsFirst P entries entry := by
  rw [List.find?_eq_some_iff_append, htest, IsFirst]
  constructor
  · rintro ⟨hentry, front, back, hentries, hfront⟩
    refine ⟨front, back, hentries, hentry, ?_⟩
    intro earlier hearlier hholds
    have hfails := hfront earlier hearlier
    rw [(htest earlier).2 hholds] at hfails
    cases hfails
  · rintro ⟨front, back, hentries, hentry, hfront⟩
    refine ⟨hentry, front, back, hentries, ?_⟩
    intro earlier hearlier
    rw [Bool.not_eq_true', Bool.eq_false_iff, ne_eq, htest]
    exact hfront earlier hearlier

theorem isFirst_reverse_iff : IsFirst P entries.reverse entry ↔ IsLast P entries entry := by
  constructor
  · rintro ⟨front, back, hentries, hentry, hfront⟩
    refine ⟨back.reverse, front.reverse, ?_, hentry, ?_⟩
    · rw [← List.reverse_reverse entries, hentries]
      simp
    · intro later hlater
      exact hfront later (List.mem_reverse.1 hlater)
  · rintro ⟨front, back, rfl, hentry, hback⟩
    refine ⟨back.reverse, front.reverse, by simp, hentry, ?_⟩
    intro earlier hearlier
    exact hback earlier (List.mem_reverse.1 hearlier)

theorem find?_eq_none_iff_forall (htest : ∀ entry, test entry = true ↔ P entry) :
    entries.find? test = none ↔ ∀ entry ∈ entries, ¬ P entry := by
  simp only [List.find?_eq_none, htest]

namespace IsFirst

theorem mem (h : IsFirst P entries entry) : entry ∈ entries := by
  obtain ⟨front, back, rfl, -, -⟩ := h
  exact List.mem_append_right _ List.mem_cons_self

theorem holds (h : IsFirst P entries entry) : P entry := by
  obtain ⟨_, _, -, hentry, -⟩ := h
  exact hentry

theorem unique (h : IsFirst P entries entry) (hother : IsFirst P entries other) :
    entry = other := by
  classical
  have htest : ∀ entry, decide (P entry) = true ↔ P entry := fun _ => decide_eq_true_iff
  rw [← find?_eq_some_iff_isFirst htest] at h hother
  exact Option.some.inj (h.symm.trans hother)

end IsFirst

end Entries

section States

variable {σ ε : Type} {step : σ → ε → σ} {start : σ} {events : List ε} {event : ε} {k l : Nat}

theorem foldl_take_succ (h : events[k]? = some event) :
    (events.take (k + 1)).foldl step start = step ((events.take k).foldl step start) event := by
  rw [List.take_add_one, h, List.foldl_append]
  rfl

theorem foldl_take_succ_of_none (h : events[k]? = none) :
    (events.take (k + 1)).foldl step start = (events.take k).foldl step start := by
  rw [List.take_add_one, h, Option.toList_none, List.append_nil]

theorem foldl_take_keeps {P : σ → Prop} (hstep : ∀ state event, P state → P (step state event))
    (hle : k ≤ l) (h : P ((events.take k).foldl step start)) :
    P ((events.take l).foldl step start) := by
  induction hle with
  | refl => exact h
  | @step l _ ih =>
    cases hevent : events[l]? with
    | none =>
      rw [foldl_take_succ_of_none hevent]
      exact ih
    | some event =>
      rw [foldl_take_succ hevent]
      exact hstep _ event ih

end States

end Sinkhole
