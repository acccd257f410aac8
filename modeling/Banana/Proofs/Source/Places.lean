/-
This file ties the three coordinates of a place to the text that stands before it. The line is one
more than the number of line feeds in that text, the column is one more than the length of its last
line, and the offset is its length in bytes. Looking the place up by its line and column gives the
text before it back, and the line with that number is the last line of that text with what is left
of it behind the place.
-/

import Mathlib.Data.List.TakeWhile
import Banana.Completion.Resolve
import Banana.Source.File
import Banana.Source.Span

namespace Banana.Text

/-! ### The last line -/

theorem lastLine_of_not_mem {text : List Char} (oneLine : '\n' ∉ text) : lastLine text = text := by
  rw [lastLine, List.takeWhile_eq_self_iff.mpr, List.reverse_reverse]
  intro c member
  exact bne_iff_ne.mpr (ne_of_mem_of_not_mem (List.mem_reverse.mp member) oneLine)

/-- A character of an earlier line, or the feed behind it, is not in the last line. -/
theorem lastLine_cons_of_feed {c : Char} {rest : List Char} (feed : c = '\n' ∨ '\n' ∈ rest) :
    lastLine (c :: rest) = lastLine rest := by
  rw [lastLine, lastLine, List.reverse_cons, List.takeWhile_append]
  split
  · next whole =>
    -- No feed is left in the rest, so the character itself is one.
    have noFeed : '\n' ∉ rest := by
      intro member
      have self := List.takeWhile_eq_self_iff.mp ((List.takeWhile_prefix _).eq_of_length whole)
      exact absurd (self '\n' (List.mem_reverse.mpr member)) (by decide)
    obtain rfl := feed.resolve_right noFeed
    rw [(List.takeWhile_prefix _).eq_of_length whole]
    simp
  · rfl

/-- What is added without a line feed is added to the last line. -/
theorem lastLine_append {before more : List Char} (oneLine : '\n' ∉ more) :
    lastLine (before ++ more) = lastLine before ++ more := by
  have noFeed : ∀ c ∈ more.reverse, (c != '\n') = true := fun c member =>
    bne_iff_ne.mpr (ne_of_mem_of_not_mem (List.mem_reverse.mp member) oneLine)
  rw [lastLine, lastLine, List.reverse_append, List.takeWhile_append_of_pos noFeed,
    List.reverse_append, List.reverse_reverse]

@[simp]
theorem lastLine_feed (before : List Char) : lastLine (before ++ ['\n']) = [] := by
  rw [lastLine, List.reverse_append]
  rfl

/-! ### Lines by their numbers -/

theorem head?_split (text : List Char) :
    (lines text)[0]? = some (text.takeWhile (· != '\n')) := by
  induction text with
  | nil => rfl
  | cons c rest inductionHypothesis =>
    rw [lines, split]
    by_cases feed : c = '\n'
    · rw [if_pos feed, feed]
      rfl
    · rw [if_neg feed, List.takeWhile_cons_of_pos (by simpa using feed)]
      cases cut : split '\n' rest with
      | nil => exact absurd cut (split_ne_nil '\n' rest)
      | cons part others =>
        rw [lines, cut] at inductionHypothesis
        exact congrArg (Option.map (c :: ·)) inductionHypothesis

/-- The line that a text breaks off in is the last line of that text and what is left of it. -/
theorem lines_getElem?_count (before after : List Char) :
    (lines (before ++ after))[before.count '\n']? =
      some (lastLine before ++ after.takeWhile (· != '\n')) := by
  induction before with
  | nil => exact head?_split after
  | cons c rest inductionHypothesis =>
    rw [List.cons_append, lines, split]
    by_cases feed : c = '\n'
    · rw [if_pos feed, feed, List.count_cons_self, lastLine_cons_of_feed (Or.inl rfl)]
      exact inductionHypothesis
    · rw [if_neg feed, List.count_cons_of_ne feed]
      cases cut : split '\n' (rest ++ after) with
      | nil => exact absurd cut (split_ne_nil '\n' _)
      | cons part others =>
        rw [lines, cut] at inductionHypothesis
        by_cases inRest : '\n' ∈ rest
        · obtain ⟨count, isCount⟩ :=
            Nat.exists_eq_succ_of_ne_zero (Nat.ne_of_gt (List.count_pos_iff.mpr inRest))
          rw [isCount] at inductionHypothesis ⊢
          rw [lastLine_cons_of_feed (Or.inr inRest)]
          exact inductionHypothesis
        · rw [List.count_eq_zero_of_not_mem inRest] at inductionHypothesis ⊢
          rw [lastLine_of_not_mem inRest] at inductionHypothesis
          rw [lastLine_of_not_mem fun member => by
            rcases List.mem_cons.mp member with same | isIn
            · exact feed same.symm
            · exact inRest isIn]
          exact congrArg (Option.map (c :: ·)) inductionHypothesis

/-! ### The text before a place -/

/-- The number of the line that a text breaks off in and the column that it breaks off at lead back
to that text. -/
theorem beforePlace_append (before after : List Char) :
    beforePlace ((lastLine before).length + 1) (before.count '\n' + 1) (before ++ after) =
      some before := by
  induction before with
  | nil => simp [beforePlace, lastLine]
  | cons c rest inductionHypothesis =>
    by_cases feed : c = '\n'
    · rw [lastLine_cons_of_feed (Or.inl feed), feed, List.count_cons_self, List.cons_append,
        beforePlace, if_pos rfl, inductionHypothesis]
      rfl
    · rw [List.count_cons_of_ne feed]
      by_cases inRest : '\n' ∈ rest
      · obtain ⟨count, isCount⟩ :=
          Nat.exists_eq_succ_of_ne_zero (Nat.ne_of_gt (List.count_pos_iff.mpr inRest))
        rw [isCount] at inductionHypothesis ⊢
        rw [lastLine_cons_of_feed (Or.inr inRest), List.cons_append, beforePlace, if_neg feed,
          inductionHypothesis]
        rfl
      · have oneLine : '\n' ∉ c :: rest := by
          rw [List.mem_cons, not_or]
          exact ⟨Ne.symm feed, inRest⟩
        have visible : ∀ d ∈ c :: rest, (d != '\n') = true := fun d member =>
          bne_iff_ne.mpr (ne_of_mem_of_not_mem member oneLine)
        rw [List.count_eq_zero_of_not_mem inRest, lastLine_of_not_mem oneLine, beforePlace,
          List.takeWhile_append_of_pos visible, Nat.add_sub_cancel, List.take_left]

end Banana.Text

namespace Banana.Source

open Completion

/-- The place right behind the text that a source starts with. -/
def placeAfter (before : List Char) : Position where
  line := before.count '\n' + 1
  column := (Text.lastLine before).length + 1
  offset := Text.utf8Length before

/-- The place behind a text is found again by its line and column. -/
theorem linePrefix?_placeAfter (before after : List Char) :
    linePrefix? (String.ofList (before ++ after)) (placeAfter before).line
      (placeAfter before).column = some (String.ofList before) := by
  rw [linePrefix?, String.toList_ofList]
  exact congrArg (Option.map String.ofList) (Text.beforePlace_append before after)

/-- The line of the place behind a text. -/
theorem line?_placeAfter (name : String) (before after : List Char) :
    (File.mk name (String.ofList (before ++ after))).line? (placeAfter before).line =
      some (String.ofList (Text.lastLine before ++ after.takeWhile (· != '\n'))) := by
  show ((Text.lines (String.ofList (before ++ after)).toList)[before.count '\n']?).map _ = _
  rw [String.toList_ofList, Text.lines_getElem?_count]
  rfl

/-- The offset of a place is at least as large as the number of characters before it. -/
theorem length_le_utf8Length (text : List Char) : text.length ≤ Text.utf8Length text := by
  induction text with
  | nil => exact Nat.le_refl 0
  | cons c rest inductionHypothesis =>
    have positive := Char.utf8Size_pos c
    rw [List.length_cons, Text.utf8Length]
    omega

end Banana.Source
