/-
This file says what may be relied on in the searches of an engine beyond where its matches lie. A
search tries the pattern at places of the text; a condition at the start of a pattern holds for all
of the group behind it when the inside of the group is a pattern by itself; and a match starts where
its pattern was tried, unless the pattern has the escape that moves the start. The engine of this
library, which refuses that escape, keeps to all of it.
-/

import Banana.Proofs.Pattern.Enclosed

namespace Banana.Pattern

/-- The escape that makes a match start at the place where it stands. -/
def startMark : List Char := ['\\', 'K']

/-- How the searches of an engine go about a text. -/
structure Engine.Trials (engine : Engine) where
  /-- The match of a pattern that is tried at a place of a text. -/
  tryAt? : engine.Regex → List Char → Nat → Option Match
  /-- What a search finds is found by trying the pattern at some place. -/
  tried : ∀ {regex : engine.Regex} {text : List Char} {found : Match},
    engine.find? regex text = some found →
      ∃ place ≤ text.length, tryAt? regex text place = some found
  /-- A pattern in a group that is tied to the start of the text is tried with success only
  there. -/
  tied : ∀ {inside : String} {inner regex : engine.Regex},
    engine.compile? inside.toList = some inner →
    engine.compile? ('^' :: Grammar.enclosed inside) = some regex → ∀ text place,
      tryAt? regex text place = if place = 0 then tryAt? inner text 0 else none
  /-- A match starts where its pattern is tried, unless the pattern says otherwise. -/
  unmoved : ∀ {pattern : List Char} {regex : engine.Regex},
    engine.compile? pattern = some regex → ¬ startMark <:+: pattern → ∀ {text place found},
      tryAt? regex text place = some found → found.start = place

/-! ### The engine of this library -/

theorem exists_place_of_findFrom? {pattern : Pattern} {position : Nat} {text : List Char}
    {found : Match} (isFound : pattern.findFrom? position text = some found) :
    ∃ place ≤ text.length,
      pattern.matchAt? ⟨position + place, text.drop place, []⟩ = some found := by
  induction text generalizing position with
  | nil =>
    rw [findFrom?] at isFound
    exact ⟨0, Nat.le_refl 0, isFound⟩
  | cons c rest inductionHypothesis =>
    rw [findFrom?] at isFound
    split at isFound
    · next here isHere =>
      cases isFound
      exact ⟨0, Nat.zero_le _, isHere⟩
    · obtain ⟨place, within, isThere⟩ := inductionHypothesis isFound
      refine ⟨place + 1, Nat.succ_le_succ within, ?_⟩
      rw [List.drop_succ_cons, ← Nat.succ_add_eq_add_succ]
      exact isThere

/-- At the start of a text the tie in front of a pattern changes nothing. -/
theorem matchAt?_tied_front (inner : Pattern) (text : List Char) :
    (Pattern.sequence (.anchor .start) inner).matchAt? (.front text) =
      inner.matchAt? (.front text) := by
  rw [matchAt?_eq_head?, matchAt?_eq_head?]
  simp [ways, Anchor.holds, Cursor.front]

/-- The engine of this library tries a pattern at every place from the start on. -/
def trials : Engine.Trials engine where
  tryAt? pattern text place := pattern.matchAt? ⟨place, text.drop place, []⟩
  tried isFound := by
    obtain ⟨place, within, isThere⟩ := exists_place_of_findFrom? isFound
    rw [Nat.zero_add] at isThere
    exact ⟨place, within, isThere⟩
  tied {inside inner regex} isPattern parsed text place := by
    have either : IsTied regex ∧ regex.matchAt? (.front text) = inner.matchAt? (.front text) := by
      rcases parse?_tied isPattern parsed with rfl | ⟨rfl, rfl⟩
      · exact ⟨.sequence .start inner, matchAt?_tied_front inner text⟩
      · exact ⟨.start, rfl⟩
    obtain ⟨isTied, same⟩ := either
    split
    · next atStart =>
      subst atStart
      exact same
    · next further => exact isTied.matchAt?_eq_none further
  unmoved _ _ _ _ _ isFound := (matchAt?_bounds isFound).1

end Banana.Pattern
