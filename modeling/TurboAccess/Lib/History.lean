import Mathlib.Data.List.Induction

/-!
# Histories

A history is a list of events, the oldest first.  This module says that an event
of a kind was not followed by one of another kind, and which event of a history
is the latest one of a kind since an event of another kind, and how both change
when an event is added.
-/

namespace TurboAccess
namespace History

variable {ε : Type*} {opens closes : ε → Prop}

/-- An opening event was not followed by a closing one. -/
def Standing (opens closes : ε → Prop) (history : List ε) : Prop :=
  ∃ before opening after, history = before ++ opening :: after ∧
    opens opening ∧ ∀ later ∈ after, ¬ closes later

theorem not_standing_nil : ¬ Standing opens closes [] := by
  rintro ⟨before, opening, after, split, -⟩
  simp at split

/-- What stands after an event was opened by it, or stood before and was not
closed by it. -/
theorem standing_append_iff
    (history : List ε)
    (last : ε) :
    Standing opens closes (history ++ [last]) ↔
      opens last ∨ ¬ closes last ∧ Standing opens closes history := by
  constructor
  · rintro ⟨before, opening, after, split, opened, unclosed⟩
    cases after using List.reverseRecOn with
    | nil =>
        obtain ⟨-, rfl⟩ := List.append_inj' split rfl |>.imp_right
          List.singleton_inj.mp
        exact Or.inl opened
    | append_singleton after final =>
        rw [← List.cons_append, ← List.append_assoc] at split
        obtain ⟨rfl, same⟩ := List.append_inj' split rfl
        obtain rfl := List.singleton_inj.mp same
        refine Or.inr ⟨unclosed last (by simp), before, opening, after, rfl,
          opened, ?_⟩
        intro later member
        exact unclosed later (List.mem_append_left _ member)
  · rintro (opened | ⟨notClosed, before, opening, after, rfl, opened, unclosed⟩)
    · exact ⟨history, last, [], rfl, opened, by simp⟩
    · refine ⟨before, opening, after ++ [last], by simp, opened, ?_⟩
      intro later member
      rcases List.mem_append.mp member with member | member
      · exact unclosed later member
      · rw [List.mem_singleton.mp member]
        exact notClosed

/-- An event is the latest of its kind, and comes after the latest event of
another kind. -/
def LatestSince
    (opens closes : ε → Prop)
    (history : List ε)
    (event : ε) : Prop :=
  ∃ before opening between after,
    history = before ++ opening :: between ++ event :: after ∧
      opens opening ∧ closes event ∧
        (∀ later ∈ between ++ after, ¬ opens later) ∧
          ∀ later ∈ after, ¬ closes later

/-- The latest event of a kind, if there is any. -/
theorem exists_latest
    {history : List ε}
    (occurs : ∃ event ∈ history, opens event) :
    ∃ before event after, history = before ++ event :: after ∧ opens event ∧
      ∀ later ∈ after, ¬ opens later := by
  induction history using List.reverseRecOn with
  | nil => simp at occurs
  | append_singleton history last inductionHypothesis =>
      by_cases lastOpens : opens last
      · exact ⟨history, last, [], rfl, lastOpens, by simp⟩
      · have earlier : ∃ event ∈ history, opens event := by
          obtain ⟨event, member, eventOpens⟩ := occurs
          rcases List.mem_append.mp member with member | member
          · exact ⟨event, member, eventOpens⟩
          · rw [List.mem_singleton.mp member] at eventOpens
            exact absurd eventOpens lastOpens
        obtain ⟨before, event, after, rfl, eventOpens, none⟩ :=
          inductionHypothesis earlier
        refine ⟨before, event, after ++ [last], by simp, eventOpens, ?_⟩
        intro later member
        rcases List.mem_append.mp member with member | member
        · exact none later member
        · rw [List.mem_singleton.mp member]
          exact lastOpens

theorem not_latestSince_nil (event : ε) :
    ¬ LatestSince opens closes [] event := by
  rintro ⟨before, opening, between, after, split, -⟩
  simp at split

/-- Adding an event of neither kind changes nothing. -/
theorem latestSince_append_other
    {last : ε}
    (notOpens : ¬ opens last)
    (notCloses : ¬ closes last)
    (history : List ε)
    (event : ε) :
    LatestSince opens closes (history ++ [last]) event ↔
      LatestSince opens closes history event := by
  constructor
  · rintro ⟨before, opening, between, after, split, opened, closed, noOpen,
      noClose⟩
    cases after using List.reverseRecOn with
    | nil =>
        obtain ⟨-, rfl⟩ := List.append_inj' split rfl |>.imp_right
          List.singleton_inj.mp
        exact absurd closed notCloses
    | append_singleton after final =>
        rw [← List.cons_append, ← List.append_assoc] at split
        obtain ⟨rfl, -⟩ := List.append_inj' split rfl
        refine ⟨before, opening, between, after, rfl, opened, closed, ?_, ?_⟩
        · intro later member
          apply noOpen later
          rw [← List.append_assoc]
          exact List.mem_append_left _ member
        · intro later member
          exact noClose later (List.mem_append_left _ member)
  · rintro ⟨before, opening, between, after, rfl, opened, closed, noOpen,
      noClose⟩
    refine ⟨before, opening, between, after ++ [last], by simp, opened, closed,
      ?_, ?_⟩
    · intro later member
      rw [← List.append_assoc] at member
      rcases List.mem_append.mp member with member | member
      · exact noOpen later member
      · rw [List.mem_singleton.mp member]
        exact notOpens
    · intro later member
      rcases List.mem_append.mp member with member | member
      · exact noClose later member
      · rw [List.mem_singleton.mp member]
        exact notCloses

/-- After an opening event nothing has been closed since. -/
theorem not_latestSince_append_opens
    {last : ε}
    (lastOpens : opens last)
    (notCloses : ¬ closes last)
    (history : List ε)
    (event : ε) :
    ¬ LatestSince opens closes (history ++ [last]) event := by
  rintro ⟨before, opening, between, after, split, -, closed, noOpen, -⟩
  cases after using List.reverseRecOn with
  | nil =>
      obtain ⟨-, rfl⟩ := List.append_inj' split rfl |>.imp_right
        List.singleton_inj.mp
      exact notCloses closed
  | append_singleton after final =>
      rw [← List.cons_append, ← List.append_assoc] at split
      obtain ⟨-, rfl⟩ := List.append_inj' split rfl |>.imp_right
        List.singleton_inj.mp
      exact noOpen last (by simp) lastOpens

/-- A closing event is the latest one, if anything was ever opened. -/
theorem latestSince_append_closes
    {last : ε}
    (notOpens : ¬ opens last)
    (lastCloses : closes last)
    (history : List ε)
    (event : ε) :
    LatestSince opens closes (history ++ [last]) event ↔
      event = last ∧ ∃ opening ∈ history, opens opening := by
  constructor
  · rintro ⟨before, opening, between, after, split, opened, -, -, noClose⟩
    cases after using List.reverseRecOn with
    | nil =>
        obtain ⟨rfl, rfl⟩ := List.append_inj' split rfl |>.imp_right
          List.singleton_inj.mp
        exact ⟨rfl, opening, by simp, opened⟩
    | append_singleton after final =>
        rw [← List.cons_append, ← List.append_assoc] at split
        obtain ⟨-, rfl⟩ := List.append_inj' split rfl |>.imp_right
          List.singleton_inj.mp
        exact absurd lastCloses (noClose last (by simp))
  · rintro ⟨rfl, occurs⟩
    obtain ⟨before, opening, after, rfl, opened, none⟩ := exists_latest occurs
    refine ⟨before, opening, after, [], by simp, opened, lastCloses, ?_, ?_⟩
    · simpa using none
    · simp

/-- What is seen of a history does not change when an event is replaced by one
that looks the same. -/
theorem map_set_of_same
    {α : Type*}
    {history : List ε}
    {position : Nat}
    {old new : ε}
    (found : history[position]? = some old)
    (view : ε → α)
    (same : view new = view old) :
    (history.set position new).map view = history.map view := by
  obtain ⟨inside, rfl⟩ := List.getElem?_eq_some_iff.mp found
  have mapped : position < (history.map view).length := by simpa using inside
  rw [List.map_set, same, ← List.getElem_map view (h := mapped),
    List.set_getElem_self]

end History
end TurboAccess
