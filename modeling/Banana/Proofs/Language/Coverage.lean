/-
This file proves that no text is lost or covered twice in highlighting, whatever the grammar, as
long as it keeps groups end to end, and that the grammars of all catalogs do so. Only the rule of
character literals has classes for groups: an apostrophe, an escape sequence and an apostrophe.
-/

import Banana.Proofs.Highlight.Tiling
import Banana.Proofs.Language.Strings

namespace Banana.Grammar.Language

open Highlight Schema Source Direct

/-- The only rule with a class for each group is the one of literals with an escape sequence. -/
theorem eq_literalRule_of_groups {state : State} {rule : ReadyRule Pattern.engine}
    (member : rule ∈ rules state) {kinds : List TokenClass} (action : rule.action = .groups kinds) :
    rule = ⟨tied escapedLiteral, .groups [.string, .escape, .string]⟩ := by
  cases state with
  | root =>
    simp only [rules, rootRules, List.mem_cons, List.not_mem_nil, or_false] at member
    rcases member with rfl | rfl | rfl | rfl | rfl | rfl | rfl | rfl | rfl | rfl | rfl | rfl | rfl |
      rfl
    case inr.inr.inr.inr.inr.inr.inr.inr.inr.inr.inr.inr.inl => rfl
    all_goals cases action
  | whitespace =>
    simp only [rules, whitespaceRules, List.mem_cons, List.not_mem_nil, or_false] at member
    rcases member with rfl | rfl <;> cases action
  | string =>
    simp only [rules, stringRules, List.mem_cons, List.not_mem_nil, or_false] at member
    rcases member with rfl | rfl | rfl | rfl <;> cases action

/-- The groups of a literal lie end to end. -/
theorem groupsEndToEnd (components : List Component) :
    (highlighter components).GroupsEndToEnd := by
  intro state rules defined rule member kinds action text found _ matched nonempty
  obtain rfl := Option.some.inj defined
  obtain rfl := eq_literalRule_of_groups member action
  obtain rfl := Action.groups.inj action
  change (tied escapedLiteral).find? text = some found at matched
  cases text with
  | nil =>
    have within := (Pattern.find?_bounds matched).2
    exact absurd within (Nat.not_le_of_gt nonempty)
  | cons c rest =>
    rw [find?_escapedLiteral] at matched
    split at matched
    · obtain ⟨sequence, -, rfl⟩ := Option.map_eq_some_iff.mp matched
      show EndToEnd 0 [(0, 1), (1, sequence.length + 1),
        (sequence.length + 1, sequence.length + 2)] (sequence.length + 2)
      exact ⟨rfl, by decide, rfl, Nat.le_add_left _ _, rfl, Nat.le_succ _, rfl⟩
    · cases matched

/-- Highlighting loses no text, covers none twice and always goes on. This holds with every engine
for every accepted grammar that keeps groups end to end, for the grammar of every catalog, and
wherever searches are given up. -/
theorem highlight_covers :
    (∀ engine grammar highlighter, Highlighter.ofGrammarWith engine grammar = .ok highlighter →
      ∀ givesUp, (highlighter.limitedBy givesUp).GroupsEndToEnd →
        ∀ source, Covers source ((highlighter.limitedBy givesUp).highlight source)) ∧
    (∀ catalog : Catalog, ∃ highlighter,
      Highlighter.ofGrammar (.ofComponents catalog.components) = .ok highlighter ∧
        ∀ givesUp source, Covers source ((highlighter.limitedBy givesUp).highlight source)) ∧
    (∀ engine (highlighter : Highlighter engine) (stack : Stack) (place : Position)
      (text : List Char), text ≠ [] → 0 < (highlighter.step stack place text).length ∧
        (highlighter.step stack place text).length ≤ text.length) := by
  refine ⟨?_, ?_, ?_⟩
  · intro engine grammar highlighter _ givesUp endToEnd source
    exact Highlighter.covers_highlight endToEnd source
  · intro catalog
    refine ⟨_, ofGrammar_ofComponents catalog.components, fun givesUp source => ?_⟩
    exact Highlighter.covers_highlight
      ((groupsEndToEnd catalog.components).limitedBy rfl givesUp) source
  · intro engine highlighter stack place text nonempty
    exact highlighter.step_advances stack place nonempty

/-- A source with groups in it is covered, also when only short texts are searched. -/
theorem highlight_covers_literal :
    Highlighter.ofGrammar (.ofComponents []) = .ok (highlighter []) ∧
      ((highlighter []).limitedBy fun _ text => 4 < text.length).GroupsEndToEnd ∧
      Covers "x = '\\n'" (((highlighter []).limitedBy fun _ text => 4 < text.length).highlight
        "x = '\\n'") ∧
      ['\''] ≠ [] ∧ 0 < ((highlighter []).step .initial ⟨1, 1, 0⟩ ['\'']).length :=
  have endToEnd := (groupsEndToEnd []).limitedBy rfl fun _ text => 4 < text.length
  ⟨ofGrammar_ofComponents [], endToEnd,
    highlight_covers.1 _ _ _ (ofGrammar_ofComponents []) _ endToEnd "x = '\\n'",
    List.cons_ne_nil _ _,
    (highlight_covers.2.2 _ (highlighter []) .initial ⟨1, 1, 0⟩ ['\''] (List.cons_ne_nil _ _)).1⟩

end Banana.Grammar.Language
