/-
This file follows highlighting from one moment of a line to a later one. What is found on the way is
a part of the tokens of the line, and the rest of the line is scanned from the later moment on; so
whatever is shown of a passage, with the states, the places and the texts at its two ends, holds
where it stands in a source.
-/

import Banana.Proofs.Highlight.Moments

namespace Banana.Highlighter

open Grammar Highlight Source

variable {engine : Pattern.Engine} {highlighter : Highlighter engine}

/-! ### Going on -/

/-- The moment behind the step made at a moment. At the end of the line no text is left. -/
def Moment.next (moment : Moment) (highlighter : Highlighter engine) : Moment where
  stack := (moment.step highlighter).stack
  place := advance moment.place (moment.text.take (moment.step highlighter).length)
  text := moment.text.drop (moment.step highlighter).length

/-- Going on from a moment to another one on the same line, with the tokens found on the way. -/
inductive Goes (highlighter : Highlighter engine) : Moment → List Token → Moment → Prop
  | stay (moment : Moment) : Goes highlighter moment [] moment
  | step {moment last : Moment} {tokens : List Token} (nonempty : moment.text ≠ [])
      (further : Goes highlighter (moment.next highlighter) tokens last) :
      Goes highlighter moment ((moment.step highlighter).tokens ++ tokens) last

/-- One step. -/
theorem Goes.single {moment : Moment} (nonempty : moment.text ≠ []) :
    Goes highlighter moment (moment.step highlighter).tokens (moment.next highlighter) := by
  have one := Goes.step nonempty (Goes.stay (moment.next highlighter))
  rwa [List.append_nil] at one

theorem Goes.trans {first middle last : Moment} {tokens others : List Token}
    (goes : Goes highlighter first tokens middle) (further : Goes highlighter middle others last) :
    Goes highlighter first (tokens ++ others) last := by
  induction goes with
  | stay moment => exact further
  | step nonempty _ inductionHypothesis =>
    rw [List.append_assoc]
    exact .step nonempty (inductionHypothesis further)

/-- The rest of a line is the passage to a later moment and the rest from there on. -/
theorem Goes.scanLine {first last : Moment} {tokens : List Token}
    (goes : Goes highlighter first tokens last) :
    highlighter.scanLine first.stack first.place first.text =
      (tokens ++ (highlighter.scanLine last.stack last.place last.text).1,
        (highlighter.scanLine last.stack last.place last.text).2) := by
  induction goes with
  | stay moment => rfl
  | step nonempty _ inductionHypothesis =>
    rw [scanLine_of_ne_nil _ _ _ nonempty]
    change (_ ++ (highlighter.scanLine (Moment.next _ _).stack (Moment.next _ _).place
      (Moment.next _ _).text).1, (highlighter.scanLine (Moment.next _ _).stack
        (Moment.next _ _).place (Moment.next _ _).text).2) = _
    rw [inductionHypothesis, List.append_assoc]
    rfl

/-- What is left of a line at a later moment was left at an earlier one. -/
theorem Goes.suffix {first last : Moment} {tokens : List Token}
    (goes : Goes highlighter first tokens last) : last.text <:+ first.text := by
  induction goes with
  | stay moment => exact List.suffix_refl _
  | step nonempty _ inductionHypothesis =>
    exact inductionHypothesis.trans (List.drop_suffix _ _)

/-! ### Moments of a line -/

theorem lineMoments_of_ne_nil (moment : Moment) (nonempty : moment.text ≠ []) :
    highlighter.lineMoments moment.stack moment.place moment.text =
      moment :: highlighter.lineMoments (moment.next highlighter).stack
        (moment.next highlighter).place (moment.next highlighter).text := by
  obtain ⟨stack, place, text⟩ := moment
  cases text with
  | nil => exact absurd rfl nonempty
  | cons c rest =>
    rw [lineMoments, drop_step]
    rfl

/-- The moments of the rest of a line are those that one comes to with some text left. -/
theorem mem_lineMoments_iff (first moment : Moment) :
    moment ∈ highlighter.lineMoments first.stack first.place first.text ↔
      moment.text ≠ [] ∧ ∃ tokens, Goes highlighter first tokens moment := by
  constructor
  · induction length : first.text.length using Nat.strongRecOn generalizing first with
    | ind bound inductionHypothesis =>
      intro member
      by_cases nonempty : first.text = []
      · rw [nonempty, lineMoments] at member
        exact absurd member List.not_mem_nil
      · rw [lineMoments_of_ne_nil first nonempty] at member
        rcases List.mem_cons.mp member with rfl | later
        · exact ⟨nonempty, [], .stay _⟩
        · have goesOn := (highlighter.step_advances first.stack first.place nonempty).1
          have some := List.length_pos_iff.mpr nonempty
          have shorter : (first.next highlighter).text.length < bound := by
            rw [Moment.next, Moment.step, List.length_drop]
            omega
          obtain ⟨left, tokens, goes⟩ := inductionHypothesis _ shorter _ rfl later
          exact ⟨left, _, .step nonempty goes⟩
  · rintro ⟨left, tokens, goes⟩
    induction goes with
    | stay moment =>
      rw [lineMoments_of_ne_nil moment left]
      exact List.mem_cons_self
    | step nonempty _ inductionHypothesis =>
      rw [lineMoments_of_ne_nil _ nonempty]
      exact List.mem_cons_of_mem _ (inductionHypothesis left)

/-! ### Moments of a source -/

/-- Each moment of lines is one of a line, all of whose moments and tokens are among them. -/
theorem exists_line_of_mem_linesMoments {stack : Stack} {number offset : Nat}
    {lines : List (List Char)} {moment : Moment}
    (member : moment ∈ highlighter.linesMoments stack number offset lines) :
    ∃ start : Moment, start.text ∈ lines ∧
      moment ∈ highlighter.lineMoments start.stack start.place start.text ∧
      highlighter.lineMoments start.stack start.place start.text ⊆
        highlighter.linesMoments stack number offset lines ∧
      (highlighter.scanLine start.stack start.place start.text).1 <:+:
        (highlighter.scanLines stack number offset lines).1 := by
  induction lines generalizing stack number offset with
  | nil => exact absurd member List.not_mem_nil
  | cons line rest inductionHypothesis =>
    rw [linesMoments] at member
    rcases List.mem_append.mp member with here | further
    · exact ⟨⟨stack, ⟨number, 1, offset⟩, line⟩, List.mem_cons_self, here,
        List.subset_append_left _ _, (List.prefix_append _ _).isInfix⟩
    · obtain ⟨start, isLine, isMoment, moments, tokens⟩ := inductionHypothesis further
      exact ⟨start, List.mem_cons_of_mem line isLine, isMoment,
        List.Subset.trans moments (List.subset_append_right _ _),
        tokens.trans (List.suffix_append _ _).isInfix⟩

/-- Highlighting a source of one line starts with the whole line. -/
theorem start_mem_moments {source : String} (oneLine : '\n' ∉ source.toList)
    (nonempty : source.toList ≠ []) :
    ⟨.initial, ⟨1, 1, 0⟩, source.toList⟩ ∈ highlighter.moments source := by
  rw [moments, Text.lines, Text.split_of_not_mem oneLine, linesMoments]
  exact List.mem_append_left _ ((mem_lineMoments_iff ⟨.initial, ⟨1, 1, 0⟩, source.toList⟩ _).mpr
    ⟨nonempty, [], .stay _⟩)

/-- No line feed is left at a moment. -/
theorem no_feed_of_mem_moments {source : String} {moment : Moment}
    (member : moment ∈ highlighter.moments source) : '\n' ∉ moment.text := by
  obtain ⟨start, isLine, isMoment, -, -⟩ := exists_line_of_mem_linesMoments member
  obtain ⟨-, tokens, goes⟩ := (mem_lineMoments_iff start moment).mp isMoment
  exact fun isIn => Text.not_mem_of_mem_split isLine (goes.suffix.subset isIn)

/-- The passage from a moment of a source is found in the source. -/
theorem Goes.isInfix {source : String} {first last : Moment} {tokens : List Token}
    (member : first ∈ highlighter.moments source) (goes : Goes highlighter first tokens last) :
    tokens <:+: highlighter.highlight source := by
  obtain ⟨start, -, isMoment, -, onLine⟩ := exists_line_of_mem_linesMoments member
  obtain ⟨-, before, comes⟩ := (mem_lineMoments_iff start first).mp isMoment
  refine List.IsInfix.trans ?_ onLine
  rw [(comes.trans goes).scanLine]
  exact ⟨before, _, rfl⟩

/-- Where a passage from a moment of a source leads to is a moment of the source, unless it is the
end of the line. -/
theorem Goes.mem_moments {source : String} {first last : Moment} {tokens : List Token}
    (member : first ∈ highlighter.moments source) (goes : Goes highlighter first tokens last)
    (left : last.text ≠ []) : last ∈ highlighter.moments source := by
  obtain ⟨start, -, isMoment, ofSource, -⟩ := exists_line_of_mem_linesMoments member
  obtain ⟨-, before, comes⟩ := (mem_lineMoments_iff start first).mp isMoment
  exact ofSource ((mem_lineMoments_iff start last).mpr ⟨left, _, comes.trans goes⟩)

/-- Whether a source is shown as some pieces from a moment on: the text left at the moment starts
with the pieces, their tokens are tokens of the source, and behind them highlighting goes on in the
states of the moment. -/
structure ShowsPieces (highlighter : Highlighter engine) (source : String) (moment : Moment)
    (pieces : List Piece) (behind : List Char) : Prop where
  text : moment.text = textOf pieces ++ behind
  noneEmpty : NoneEmpty pieces
  goes : Goes highlighter moment (layOut moment.place pieces)
    ⟨moment.stack, advance moment.place (textOf pieces), behind⟩
  inSource : layOut moment.place pieces <:+: highlighter.highlight source

end Banana.Highlighter
