/-
This file says what repetitions of one set of characters match. A greedy one takes the longest run
of characters of the set that its bounds allow, and its other ways, tried afterwards, stop earlier
in that run. So whatever follows the repetition decides: if it can go on behind the longest run,
nothing else is tried, and if it cannot start with a character of the set, nothing else would do.
-/

import Banana.Proofs.Pattern.Travel

namespace Banana.Pattern

/-! ### Sets of characters -/

theorem between_self (low c : Char) : (decide (low ≤ c) && decide (c ≤ low)) = (c == low) := by
  rw [Bool.eq_iff_iff]
  simp only [Bool.and_eq_true, decide_eq_true_eq, beq_iff_eq]
  constructor
  · rintro ⟨above, below⟩
    exact Char.le_antisymm below above
  · rintro rfl
    exact ⟨Char.le_refl c, Char.le_refl c⟩

theorem contains_single (c : Char) : (CharSet.single c).contains = (· == c) := by
  funext other
  simp [CharSet.contains, CharSet.single, between_self]

/-! ### Runs -/

/-- How many characters of a set a text starts with. -/
def run (set : CharSet) (text : List Char) : Nat :=
  (text.takeWhile set.contains).length

theorem run_nil (set : CharSet) : run set [] = 0 := rfl

theorem run_cons_of_mem {set : CharSet} {c : Char} (isIn : set.contains c = true)
    (rest : List Char) : run set (c :: rest) = run set rest + 1 := by
  rw [run, List.takeWhile_cons_of_pos isIn]
  rfl

theorem run_cons_of_not_mem {set : CharSet} {c : Char} (isOut : set.contains c = false)
    (rest : List Char) : run set (c :: rest) = 0 := by
  rw [run, List.takeWhile_cons_of_neg (by rw [isOut]; decide)]
  rfl

theorem run_le_length (set : CharSet) (text : List Char) : run set text ≤ text.length :=
  (List.takeWhile_prefix _).length_le

/-- Inside a run stands a character of the set. -/
theorem drop_eq_cons_of_lt_run {set : CharSet} {text : List Char} {count : Nat}
    (inside : count < run set text) :
    ∃ c rest, text.drop count = c :: rest ∧ set.contains c = true := by
  induction text generalizing count with
  | nil => exact absurd inside (Nat.not_lt_zero count)
  | cons c rest inductionHypothesis =>
    cases isIn : set.contains c with
    | false =>
      rw [run_cons_of_not_mem isIn] at inside
      exact absurd inside (Nat.not_lt_zero count)
    | true =>
      rw [run_cons_of_mem isIn] at inside
      cases count with
      | zero => exact ⟨c, rest, rfl, isIn⟩
      | succ count => exact inductionHypothesis (Nat.lt_of_succ_lt_succ inside)

/-- Behind some characters of a run the rest of the run follows. -/
theorem run_drop {set : CharSet} {text : List Char} {count : Nat} (within : count ≤ run set text) :
    run set (text.drop count) = run set text - count := by
  induction text generalizing count with
  | nil => simp [run_nil]
  | cons c rest inductionHypothesis =>
    cases count with
    | zero => rfl
    | succ count =>
      cases isIn : set.contains c with
      | false =>
        rw [run_cons_of_not_mem isIn] at within
        exact absurd within (Nat.not_succ_le_zero count)
      | true =>
        rw [run_cons_of_mem isIn] at within ⊢
        rw [List.drop_succ_cons, inductionHypothesis (by omega)]
        omega

/-- Behind a run stands what is left when its characters are dropped. -/
theorem drop_run (set : CharSet) (text : List Char) :
    text.drop (run set text) = text.dropWhile set.contains := by
  calc text.drop (run set text)
      = (text.takeWhile set.contains ++ text.dropWhile set.contains).drop (run set text) := by
        rw [List.takeWhile_append_dropWhile]
    _ = text.dropWhile set.contains := List.drop_left

/-! ### One character -/

theorem ways_one_of_mem {set : CharSet} {cursor : Cursor} {c : Char} {rest : List Char}
    (front : cursor.rest = c :: rest) (isIn : set.contains c = true) :
    (Pattern.one set).ways cursor = [cursor.skip 1] := by
  rw [ways, front, Cursor.skip_cons cursor front]
  simp only [isIn, if_true]
  rfl

theorem ways_one_of_not_mem {set : CharSet} {cursor : Cursor} {c : Char} {rest : List Char}
    (front : cursor.rest = c :: rest) (isOut : set.contains c = false) :
    (Pattern.one set).ways cursor = [] := by
  rw [ways, front]
  simp only [isOut, Bool.false_eq_true, if_false]

theorem ways_one_of_nil {set : CharSet} {cursor : Cursor} (atEnd : cursor.rest = []) :
    (Pattern.one set).ways cursor = [] := by
  rw [ways, atEnd]

/-- One character of a set is a run of at least one. -/
theorem ways_one (set : CharSet) (cursor : Cursor) :
    (Pattern.one set).ways cursor = if run set cursor.rest = 0 then [] else [cursor.skip 1] := by
  cases front : cursor.rest with
  | nil => rw [ways_one_of_nil front, run_nil, if_pos rfl]
  | cons c rest =>
    cases isIn : set.contains c with
    | true =>
      rw [ways_one_of_mem front isIn, run_cons_of_mem isIn, if_neg (Nat.succ_ne_zero _)]
    | false => rw [ways_one_of_not_mem front isIn, run_cons_of_not_mem isIn, if_pos rfl]

/-! ### Ways that stop at the end of a run or inside it -/

/-- Whether the first of some ways goes on by a number of characters and all others by fewer. -/
def Longest (cursors : List Cursor) (cursor : Cursor) (count : Nat) : Prop :=
  ∃ others, cursors = cursor.skip count :: others ∧
    ∀ other ∈ others, ∃ fewer < count, other = cursor.skip fewer

namespace Longest

variable {cursors : List Cursor} {cursor : Cursor} {count : Nat}

theorem single (cursor : Cursor) (count : Nat) : Longest [cursor.skip count] cursor count :=
  ⟨[], rfl, fun _ member => absurd member List.not_mem_nil⟩

/-- Seen from an earlier place all ways go further by the same number. -/
theorem of_skip {before : Nat} (longest : Longest cursors (cursor.skip before) count) :
    Longest cursors cursor (before + count) := by
  obtain ⟨others, rfl, shorter⟩ := longest
  refine ⟨others, by rw [Cursor.skip_skip], fun other member => ?_⟩
  obtain ⟨fewer, isFewer, rfl⟩ := shorter other member
  exact ⟨before + fewer, by omega, Cursor.skip_skip _ _ _⟩

/-- To stop at once is shorter than to go on. -/
theorem append_stop (longest : Longest cursors cursor count) (further : 0 < count) :
    Longest (cursors ++ [cursor]) cursor count := by
  obtain ⟨others, rfl, shorter⟩ := longest
  refine ⟨others ++ [cursor], rfl, fun other member => ?_⟩
  rcases List.mem_append.mp member with isOther | isLast
  · exact shorter other isOther
  · exact ⟨0, further, List.mem_singleton.mp isLast⟩

theorem head? (longest : Longest cursors cursor count) :
    cursors.head? = some (cursor.skip count) := by
  obtain ⟨others, rfl, -⟩ := longest
  rfl

/-- What can go on behind the longest way does so there. -/
theorem head?_flatMap (longest : Longest cursors cursor count) {second : Ways} {next : Cursor}
    (goesOn : (second (cursor.skip count)).head? = some next) :
    (cursors.flatMap second).head? = some next := by
  obtain ⟨others, rfl, -⟩ := longest
  rw [List.flatMap_cons, List.head?_append, goesOn]
  rfl

/-- What cannot go on behind a shorter way goes on behind the longest one or not at all. -/
theorem flatMap_eq (longest : Longest cursors cursor count) {second : Ways}
    (stuck : ∀ fewer < count, second (cursor.skip fewer) = []) :
    cursors.flatMap second = second (cursor.skip count) := by
  obtain ⟨others, rfl, shorter⟩ := longest
  have noOther : others.flatMap second = [] := by
    refine List.flatMap_eq_nil_iff.mpr fun other member => ?_
    obtain ⟨fewer, isFewer, rfl⟩ := shorter other member
    exact stuck fewer isFewer
  rw [List.flatMap_cons, noOther, List.append_nil]

end Longest

/-- A set without a character of a run cannot go on inside the run. -/
theorem ways_one_inside_run {set other : CharSet}
    (disjoint : ∀ c, set.contains c = true → other.contains c = false) {cursor : Cursor}
    {count : Nat} (inside : count < run set cursor.rest) :
    (Pattern.one other).ways (cursor.skip count) = [] := by
  obtain ⟨c, rest, front, isIn⟩ := drop_eq_cons_of_lt_run inside
  exact ways_one_of_not_mem (by rw [Cursor.rest_skip, front]) (disjoint c isIn)

/-! ### Repetitions -/

theorem longest_iterate (set : CharSet) (room : Nat) (cursor : Cursor)
    (enough : cursor.rest.length ≤ room) :
    Longest (iterateWays (Pattern.one set).ways true room cursor) cursor
      (run set cursor.rest) := by
  induction room generalizing cursor with
  | zero =>
    have atEnd : cursor.rest = [] := List.length_eq_zero_iff.mp (Nat.le_zero.mp enough)
    rw [atEnd]
    exact Longest.single cursor 0
  | succ room inductionHypothesis =>
    rw [iterateWays]
    cases front : cursor.rest with
    | nil =>
      rw [ways_one_of_nil front]
      exact Longest.single cursor 0
    | cons c rest =>
      cases isIn : set.contains c with
      | false =>
        rw [ways_one_of_not_mem front isIn, run_cons_of_not_mem isIn]
        exact Longest.single cursor 0
      | true =>
        have restSkipped : (cursor.skip 1).rest = rest := Cursor.rest_skip_one front
        have goesOn : cursor.position < (cursor.skip 1).position := by
          rw [Cursor.position_skip cursor (by rw [front]; exact Nat.succ_pos _)]
          exact Nat.lt_succ_self _
        rw [front, List.length_cons] at enough
        have longest := inductionHypothesis (cursor.skip 1) (by rw [restSkipped]; omega)
        rw [restSkipped] at longest
        rw [ways_one_of_mem front isIn, run_cons_of_mem isIn, Nat.add_comm]
        simp only [List.flatMap_cons, List.flatMap_nil, List.append_nil, if_pos goesOn, if_true]
        exact longest.of_skip.append_stop (by omega)

theorem longest_oneOrMore {set : CharSet} {cursor : Cursor}
    (present : run set cursor.rest ≠ 0) :
    Longest (oneOrMoreWays (Pattern.one set).ways true cursor) cursor
      (run set cursor.rest) := by
  have inside : 1 ≤ run set cursor.rest := Nat.pos_of_ne_zero present
  have goesOn : cursor.position < (cursor.skip 1).position := by
    rw [Cursor.position_skip cursor (Nat.le_trans inside (run_le_length _ _))]
    exact Nat.lt_succ_self _
  have longest := longest_iterate set (cursor.skip 1).rest.length (cursor.skip 1) (Nat.le_refl _)
  have total : 1 + run set (cursor.skip 1).rest = run set cursor.rest := by
    rw [Cursor.rest_skip, run_drop inside]
    omega
  rw [oneOrMoreWays, ways_one, if_neg present]
  simp only [List.flatMap_cons, List.flatMap_nil, List.append_nil, if_pos goesOn]
  exact total ▸ longest.of_skip

/-- One character of a set or more: the whole run, if there is one. -/
theorem ways_oneOrMore (set : CharSet) (cursor : Cursor) :
    (run set cursor.rest = 0 ∧ (Pattern.repeated (.one set) 1 none true).ways cursor = []) ∨
    (run set cursor.rest ≠ 0 ∧ Longest ((Pattern.repeated (.one set) 1 none true).ways cursor)
      cursor (run set cursor.rest)) := by
  by_cases absent : run set cursor.rest = 0
  · refine Or.inl ⟨absent, ?_⟩
    show oneOrMoreWays (Pattern.one set).ways true cursor = []
    rw [oneOrMoreWays, ways_one, if_pos absent]
    rfl
  · exact Or.inr ⟨absent, longest_oneOrMore absent⟩

/-- Where there is no character of a set, there is no run of at least one. -/
theorem ways_oneOrMore_of_run_eq_zero {set : CharSet} {cursor : Cursor}
    (absent : run set cursor.rest = 0) :
    (Pattern.repeated (.one set) 1 none true).ways cursor = [] := by
  rcases ways_oneOrMore set cursor with ⟨-, noWay⟩ | ⟨present, -⟩
  · exact noWay
  · exact absurd absent present

/-- Any number of characters of a set: the whole run. -/
theorem longest_zeroOrMore (set : CharSet) (cursor : Cursor) :
    Longest ((Pattern.repeated (.one set) 0 none true).ways cursor) cursor
      (run set cursor.rest) := by
  show Longest (oneOrMoreWays (Pattern.one set).ways true cursor ++ [cursor]) _ _
  by_cases absent : run set cursor.rest = 0
  · rw [oneOrMoreWays, ways_one, if_pos absent, absent]
    exact Longest.single cursor 0
  · exact (longest_oneOrMore absent).append_stop (Nat.pos_of_ne_zero absent)

/-- One character of a set and then any number of a larger one: a run of the larger set. -/
theorem ways_one_zeroOrMore {first part : CharSet}
    (included : ∀ c, first.contains c = true → part.contains c = true) {cursor : Cursor}
    {c : Char} {rest : List Char} (front : cursor.rest = c :: rest) :
    (first.contains c = false ∧ (Pattern.sequence (.one first)
      (.repeated (.one part) 0 none true)).ways cursor = []) ∨
    (first.contains c = true ∧ Longest ((Pattern.sequence (.one first)
      (.repeated (.one part) 0 none true)).ways cursor) cursor (run part cursor.rest)) := by
  rw [ways]
  cases isIn : first.contains c with
  | false =>
    rw [ways_one_of_not_mem front isIn]
    exact Or.inl ⟨rfl, rfl⟩
  | true =>
    have inside : 1 ≤ run part cursor.rest := by
      rw [front, run_cons_of_mem (included c isIn)]
      exact Nat.succ_pos _
    have longest := (longest_zeroOrMore part (cursor.skip 1)).of_skip
    have total : 1 + run part (cursor.skip 1).rest = run part cursor.rest := by
      rw [Cursor.rest_skip, run_drop inside]
      omega
    rw [total] at longest
    rw [ways_one_of_mem front isIn, List.flatMap_singleton]
    exact Or.inr ⟨rfl, longest⟩

theorem longest_atMost (set : CharSet) (count : Nat) (cursor : Cursor) :
    Longest (atMostWays (Pattern.one set).ways true count cursor) cursor
      (min count (run set cursor.rest)) := by
  induction count generalizing cursor with
  | zero =>
    rw [Nat.zero_min]
    exact Longest.single cursor 0
  | succ count inductionHypothesis =>
    rw [atMostWays, ways_one]
    by_cases absent : run set cursor.rest = 0
    · rw [if_pos absent, absent, Nat.min_zero]
      exact Longest.single cursor 0
    · have longest := (inductionHypothesis (cursor.skip 1)).of_skip
      rw [Cursor.rest_skip, run_drop (Nat.pos_of_ne_zero absent)] at longest
      have total : 1 + min count (run set cursor.rest - 1) =
          min (count + 1) (run set cursor.rest) := by
        omega
      rw [total] at longest
      rw [if_neg absent]
      simp only [List.flatMap_cons, List.flatMap_nil, List.append_nil, if_true]
      exact longest.append_stop (by omega)

/-- A fixed number of characters of a set, followed by something else. -/
theorem exactlyWays_one (set : CharSet) (last : Ways) (count : Nat) (cursor : Cursor) :
    exactlyWays (Pattern.one set).ways last count cursor =
      if count ≤ run set cursor.rest then last (cursor.skip count) else [] := by
  induction count generalizing cursor with
  | zero => rw [exactlyWays, if_pos (Nat.zero_le _), Cursor.skip]
  | succ count inductionHypothesis =>
    rw [exactlyWays, ways_one]
    by_cases absent : run set cursor.rest = 0
    · rw [if_pos absent, if_neg (by omega)]
      rfl
    · rw [if_neg absent, List.flatMap_singleton, inductionHypothesis, Cursor.rest_skip,
        run_drop (Nat.pos_of_ne_zero absent), Cursor.skip_skip, Nat.add_comm 1]
      by_cases within : count + 1 ≤ run set cursor.rest
      · rw [if_pos within, if_pos (by omega)]
      · rw [if_neg within, if_neg (by omega)]

/-- Between two numbers of characters of a set: as much of the run as the second one allows, if the
first one is reached. -/
theorem ways_bounded (set : CharSet) {least most : Nat} (ordered : least ≤ most)
    (cursor : Cursor) :
    (run set cursor.rest < least ∧
      (Pattern.repeated (.one set) least (some most) true).ways cursor = []) ∨
    (least ≤ run set cursor.rest ∧
      Longest ((Pattern.repeated (.one set) least (some most) true).ways cursor) cursor
        (min most (run set cursor.rest))) := by
  rw [ways, exactlyWays_one]
  by_cases within : least ≤ run set cursor.rest
  · rw [if_pos within]
    have longest := (longest_atMost set (most - least) (cursor.skip least)).of_skip
    rw [Cursor.rest_skip, run_drop within] at longest
    have total : least + min (most - least) (run set cursor.rest - least) =
        min most (run set cursor.rest) := by
      omega
    exact Or.inr ⟨within, total ▸ longest⟩
  · rw [if_neg within]
    exact Or.inl ⟨Nat.lt_of_not_le within, rfl⟩

/-- Something at most once: its ways, and then not at all. -/
theorem ways_optional (inner : Pattern) (cursor : Cursor) :
    (Pattern.repeated inner 0 (some 1) true).ways cursor = inner.ways cursor ++ [cursor] := by
  show (inner.ways cursor).flatMap (fun next => [next]) ++ [cursor] = _
  rw [List.flatMap_singleton']

end Banana.Pattern
