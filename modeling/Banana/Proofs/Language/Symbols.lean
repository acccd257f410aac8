/-
This file says what the patterns of brackets, symbol runs and comments find. An angle bracket is
found alone only where no other symbol follows, and a comment goes to the end of its line.
-/

import Banana.Proofs.Language.Words

namespace Banana.Grammar.Language

open Pattern Highlight Direct Schema

/-! ### Brackets -/

theorem bracketClass_ofComponents (components : List Component) (c : Char) :
    (Grammar.ofComponents components).bracketClass c = bracketKind? c := by
  unfold bracketKind?
  split
  case h_7 _ round roundClosing square squareClosing curly curlyClosing =>
    have isNot {other : Char} (different : c = other → False) : (other == c) = false :=
      beq_false_of_ne fun same => different same.symm
    simp [bracketClass, Grammar.ofComponents, isNot round, isNot roundClosing, isNot square,
      isNot squareClosing, isNot curly, isNot curlyClosing]
  all_goals rfl

theorem contains_bracket (c : Char) : bracket.contains c = (bracketKind? c).isSome := by
  unfold bracketKind?
  split
  case h_7 _ round roundClosing square squareClosing curly curlyClosing =>
    have isNot {other : Char} (different : c = other → False) : (c == other) = false :=
      beq_false_of_ne different
    simp [CharSet.contains, bracket, between_self, isNot round, isNot roundClosing, isNot square,
      isNot squareClosing, isNot curly, isNot curlyClosing, -beq_eq_false_iff_ne]
  all_goals decide

/-! ### Symbols -/

theorem contains_angle (c : Char) : angle.contains c = true ↔ c = '<' ∨ c = '>' := by
  simp [CharSet.contains, angle, between_self]

theorem find?_loneAngle (c : Char) (rest : List Char) :
    (tied loneAngle).find? (c :: rest) =
      if (c = '<' ∨ c = '>') ∧ rest.takeWhile isSymbol = [] then some ⟨0, 1, []⟩ else none := by
  have parts : loneAngle.ways (.front (c :: rest)) =
      ((Pattern.one angle).ways (.front (c :: rest))).flatMap
        (Pattern.ahead false (someOf symbol)).ways := rfl
  cases isAngle : angle.contains c with
  | false =>
    have notAngle : ¬ (c = '<' ∨ c = '>') := by
      rw [← contains_angle, isAngle]
      decide
    rw [if_neg fun both => notAngle both.1]
    refine find?_tied_of_no_way ?_
    rw [parts, ways_one_of_not_mem (front_rest _) isAngle]
    rfl
  | true =>
    rw [ways_one_of_mem (front_rest _) isAngle, List.flatMap_singleton, ways] at parts
    have behind : ((Cursor.front (c :: rest)).skip 1).rest = rest := rfl
    have standsThere := (contains_angle c).mp isAngle
    rcases ways_oneOrMore symbol ((Cursor.front (c :: rest)).skip 1) with
      ⟨absent, noWay⟩ | ⟨present, longest⟩
    · rw [behind, run_eq contains_symbol, List.length_eq_zero_iff] at absent
      rw [someOf, noWay] at parts
      rw [if_pos ⟨standsThere, absent⟩]
      refine find?_tied_of_head? (Nat.succ_pos _) ?_
      rw [parts]
      rfl
    · rw [behind, run_eq contains_symbol] at present
      rw [someOf, longest.head?] at parts
      rw [if_neg fun both => present (List.length_eq_zero_iff.mpr both.2)]
      exact find?_tied_of_no_way parts

/-! ### Comments -/

theorem contains_withoutFeed {c : Char} (notFeed : c ≠ '\n') :
    CharSet.withoutFeed.contains c = true := by
  simp [CharSet.contains, CharSet.withoutFeed, between_self, notFeed]

theorem run_withoutFeed {text : List Char} (oneLine : '\n' ∉ text) :
    run .withoutFeed text = text.length := by
  induction text with
  | nil => rfl
  | cons c rest inductionHypothesis =>
    rw [List.mem_cons, not_or] at oneLine
    rw [run_cons_of_mem (contains_withoutFeed (Ne.symm oneLine.1)), inductionHypothesis oneLine.2]
    rfl

/-- Of some ways only those that stop at the end of the text are left before the end. -/
theorem ways_finish (cursor : Cursor) :
    (Pattern.anchor .finish).ways cursor = if cursor.rest.isEmpty then [cursor] else [] := rfl

theorem find?_comment {c : Char} {rest : List Char} (oneLine : '\n' ∉ c :: rest) :
    (tied comment).find? (c :: rest) =
      if c = '#' then some ⟨0, (c :: rest).length, []⟩ else none := by
  rw [List.mem_cons, not_or] at oneLine
  have parts : comment.ways (.front (c :: rest)) =
      (((Pattern.char '#').ways (.front (c :: rest))).flatMap
        (runOf .withoutFeed).ways).flatMap (Pattern.anchor .finish).ways := rfl
  by_cases isMark : c = '#'
  · subst isMark
    rw [if_pos rfl]
    have behind : ((Cursor.front ('#' :: rest)).skip 1).rest = rest := rfl
    have longest := (longest_zeroOrMore .withoutFeed ((Cursor.front ('#' :: rest)).skip 1)).of_skip
    rw [behind, run_withoutFeed oneLine.2, Nat.add_comm] at longest
    refine find?_tied_of_head? (Nat.le_refl _) ?_
    rw [parts, ways_char, front_rest, List.head?_cons, if_pos rfl, List.flatMap_singleton]
    refine longest.head?_flatMap ?_
    rw [ways_finish, Cursor.rest_skip, front_rest, ← List.length_cons, List.drop_length]
    rfl
  · rw [if_neg isMark]
    refine find?_tied_of_no_way ?_
    rw [parts, ways_char, front_rest, List.head?_cons,
      if_neg fun same => isMark (Option.some.inj same)]
    rfl

end Banana.Grammar.Language
