/-
This file compares highlighters on the same source. Two highlighters whose steps always go past the
same text and into the same states come to the same moments, whatever tokens each of them finds
there; so whatever two of them differ in shows at single moments only.
-/

import Banana.Proofs.Highlight.Applications

namespace Banana.Highlighter

open Grammar Highlight Source

variable {engine : Pattern.Engine}

/-- Whether two highlighters go past the same text and into the same states in every step. -/
def InLockstep (first second : Highlighter engine) : Prop :=
  ∀ stack place text,
    (first.step stack place text).length = (second.step stack place text).length ∧
      (first.step stack place text).stack = (second.step stack place text).stack

/-- The states after a number of lines of a source. -/
def statesAfter (highlighter : Highlighter engine) (source : String) (count : Nat) : Stack :=
  (highlighter.scanLines .initial 1 0 ((Text.lines source.toList).take count)).2

variable {first second : Highlighter engine}

/-- Highlighters with the same rules and the same limit are in lockstep, whatever their grammars
give the matches as classes. -/
theorem inLockstep_of_same_rules (sameRules : first.rules = second.rules)
    (sameLimit : first.givesUp = second.givesUp) : first.InLockstep second := by
  intro stack place text
  have find : first.find? = second.find? := by
    funext pattern rest
    rw [find?, find?, sameLimit]
  rw [step, step, find, sameRules]
  cases firstRule? second.find? text ((second.rules stack.current).getD []) with
  | none => exact ⟨rfl, rfl⟩
  | some applied => exact ⟨rfl, rfl⟩

/-! ### Moments in common -/

theorem InLockstep.lineMoments (inLockstep : first.InLockstep second) (stack : Stack)
    (place : Position) (text : List Char) :
    first.lineMoments stack place text = second.lineMoments stack place text ∧
      (first.scanLine stack place text).2 = (second.scanLine stack place text).2 := by
  fun_induction Highlighter.lineMoments first stack place text with
  | case1 stack place => simp only [Highlighter.lineMoments, scanLine_nil, and_self]
  | case2 stack place c rest step next inductionHypothesis =>
    obtain ⟨sameLength, sameStack⟩ := inLockstep stack place (c :: rest)
    rw [Highlighter.lineMoments, scanLine, scanLine, ← sameLength, ← sameStack]
    exact ⟨congrArg _ inductionHypothesis.1, inductionHypothesis.2⟩

theorem InLockstep.linesMoments (inLockstep : first.InLockstep second) (stack : Stack)
    (number offset : Nat) (lines : List (List Char)) :
    first.linesMoments stack number offset lines = second.linesMoments stack number offset lines ∧
      (first.scanLines stack number offset lines).2 =
        (second.scanLines stack number offset lines).2 := by
  induction lines generalizing stack number offset with
  | nil => exact ⟨rfl, rfl⟩
  | cons line rest inductionHypothesis =>
    obtain ⟨here, after⟩ := inLockstep.lineMoments stack ⟨number, 1, offset⟩ line
    obtain ⟨others, last⟩ := inductionHypothesis
      (second.scanLine stack ⟨number, 1, offset⟩ line).2 (number + 1)
      (offset + Text.utf8Length line + 1)
    constructor
    · rw [Highlighter.linesMoments, Highlighter.linesMoments, here, after, others]
    · show (first.scanLines (first.scanLine stack ⟨number, 1, offset⟩ line).2 _ _ rest).2 = _
      rw [after]
      exact last

/-- Highlighters in lockstep come to the same moments. -/
theorem InLockstep.moments (inLockstep : first.InLockstep second) (source : String) :
    first.moments source = second.moments source :=
  (inLockstep.linesMoments .initial 1 0 _).1

/-- Highlighters in lockstep are in the same states after every line. -/
theorem InLockstep.statesAfter (inLockstep : first.InLockstep second) (source : String)
    (count : Nat) : first.statesAfter source count = second.statesAfter source count :=
  (inLockstep.linesMoments .initial 1 0 _).2

/-! ### Tokens in common -/

/-- Highlighters that find the same in every step find the same tokens. -/
theorem highlight_eq_of_step
    (same : ∀ stack place text, first.step stack place text = second.step stack place text)
    (source : String) : first.highlight source = second.highlight source := by
  have inLockstep : first.InLockstep second := fun stack place text => by
    rw [same]
    exact ⟨rfl, rfl⟩
  rw [highlight_eq_flatMap_moments, highlight_eq_flatMap_moments, inLockstep.moments]
  exact congrArg (List.flatMap · _) (funext fun moment => congrArg Step.tokens (same _ _ _))

/-- What relates the tokens found at each moment relates the tokens of the source, one by one. -/
theorem InLockstep.forall₂_highlight (inLockstep : first.InLockstep second) {source : String}
    {related : Token → Token → Prop}
    (each : ∀ moment ∈ first.moments source,
      List.Forall₂ related (moment.step first).tokens (moment.step second).tokens) :
    List.Forall₂ related (first.highlight source) (second.highlight source) := by
  rw [highlight_eq_flatMap_moments, highlight_eq_flatMap_moments, ← inLockstep.moments]
  generalize first.moments source = moments at each
  induction moments with
  | nil => exact .nil
  | cons moment rest inductionHypothesis =>
    obtain ⟨here, others⟩ := List.forall_mem_cons.mp each
    exact List.rel_append here (inductionHypothesis others)

end Banana.Highlighter
