/-
This file says which places the ways of a pattern reach, in whatever order they are tried. A place
is given by the text before it and the text behind it, so what a pattern takes is the part of the
text between two places. Where everything that is wanted of a match is the same at all places that
are reached, the order of the ways does not matter.
-/

import Banana.Proofs.Pattern.Travel

namespace Banana.Pattern

/-! ### Places in a text -/

/-- The place between two parts of a text. -/
def Cursor.between (before after : List Char) (groups : List (Nat × Nat × Nat)) : Cursor :=
  ⟨before.length, after, groups⟩

theorem Cursor.advance_between (before : List Char) (c : Char) (rest : List Char)
    (groups : List (Nat × Nat × Nat)) :
    (Cursor.between before (c :: rest) groups).advance rest =
      .between (before ++ [c]) rest groups := by
  simp [between, advance]

theorem Cursor.position_between_lt (before : List Char) (c : Char) (rest further : List Char)
    (groups : List (Nat × Nat × Nat)) :
    (Cursor.between before rest groups).position <
      (Cursor.between (before ++ [c]) further groups).position := by
  simp [between]

section Places

variable {before after : List Char} {groups : List (Nat × Nat × Nat)} {next : Cursor}

/-! ### The places that are reached -/

theorem mem_ways_one {set : CharSet} :
    next ∈ (Pattern.one set).ways (.between before after groups) ↔
      ∃ c rest, after = c :: rest ∧ set.contains c = true ∧
        next = .between (before ++ [c]) rest groups := by
  cases after with
  | nil => simp [ways, Cursor.between]
  | cons c rest =>
    have ways_eq : (Pattern.one set).ways (.between before (c :: rest) groups) =
        if set.contains c then [.between (before ++ [c]) rest groups] else [] := by
      rw [← Cursor.advance_between]
      rfl
    rw [ways_eq]
    constructor
    · intro member
      split at member
      · next isIn => exact ⟨c, rest, rfl, isIn, List.mem_singleton.mp member⟩
      · exact absurd member List.not_mem_nil
    · rintro ⟨_, _, ⟨⟩, isIn, rfl⟩
      rw [if_pos isIn]
      exact List.mem_singleton_self _

/-- Iterations of one character of a set take any part of the run of the set. -/
theorem mem_iterateWays {set : CharSet} {room : Nat} (enough : after.length ≤ room) :
    next ∈ iterateWays (Pattern.one set).ways true room (.between before after groups) ↔
      ∃ taken rest, after = taken ++ rest ∧ (∀ c ∈ taken, set.contains c = true) ∧
        next = .between (before ++ taken) rest groups := by
  induction room generalizing before after with
  | zero =>
    have atEnd : after = [] := List.length_eq_zero_iff.mp (Nat.le_zero.mp enough)
    subst atEnd
    rw [iterateWays, List.mem_singleton]
    constructor
    · rintro rfl
      exact ⟨[], [], rfl, by simp, by rw [List.append_nil]⟩
    · rintro ⟨taken, rest, nothing, -, rfl⟩
      obtain ⟨rfl, rfl⟩ := List.append_eq_nil_iff.mp nothing.symm
      rw [List.append_nil]
  | succ room inductionHypothesis =>
    simp only [iterateWays, if_true, List.mem_append, List.mem_flatMap, List.mem_singleton]
    constructor
    · rintro (⟨reached, isReached, goesOn⟩ | rfl)
      · obtain ⟨c, rest, rfl, isIn, rfl⟩ := mem_ways_one.mp isReached
        split at goesOn
        · obtain ⟨taken, last, rfl, all, rfl⟩ :=
            (inductionHypothesis (Nat.le_of_succ_le_succ enough)).mp goesOn
          refine ⟨c :: taken, last, rfl, List.forall_mem_cons.mpr ⟨isIn, all⟩, ?_⟩
          rw [List.append_assoc]
          rfl
        · exact absurd goesOn List.not_mem_nil
      · exact ⟨[], after, rfl, by simp, by rw [List.append_nil]⟩
    · rintro ⟨taken, rest, rfl, all, rfl⟩
      cases taken with
      | nil => exact Or.inr (by rw [List.append_nil]; rfl)
      | cons c taken =>
        obtain ⟨isIn, others⟩ := List.forall_mem_cons.mp all
        refine Or.inl ⟨_, mem_ways_one.mpr ⟨c, taken ++ rest, rfl, isIn, rfl⟩, ?_⟩
        rw [if_pos (Cursor.position_between_lt _ _ _ _ _)]
        refine (inductionHypothesis (Nat.le_of_succ_le_succ enough)).mpr
          ⟨taken, rest, rfl, others, ?_⟩
        rw [List.append_assoc]
        rfl

/-- At least one character of a set: any part of the run that is not empty. -/
theorem mem_ways_oneOrMore {set : CharSet} :
    next ∈ (Pattern.repeated (.one set) 1 none true).ways (.between before after groups) ↔
      ∃ taken rest, after = taken ++ rest ∧ taken ≠ [] ∧
        (∀ c ∈ taken, set.contains c = true) ∧ next = .between (before ++ taken) rest groups := by
  show next ∈ oneOrMoreWays (Pattern.one set).ways true _ ↔ _
  rw [oneOrMoreWays, List.mem_flatMap]
  constructor
  · rintro ⟨reached, isReached, goesOn⟩
    obtain ⟨c, rest, rfl, isIn, rfl⟩ := mem_ways_one.mp isReached
    rw [if_pos (Cursor.position_between_lt _ _ _ _ _)] at goesOn
    obtain ⟨taken, last, rfl, all, rfl⟩ := (mem_iterateWays (Nat.le_refl _)).mp goesOn
    refine ⟨c :: taken, last, rfl, List.cons_ne_nil _ _, List.forall_mem_cons.mpr ⟨isIn, all⟩, ?_⟩
    rw [List.append_assoc]
    rfl
  · rintro ⟨taken, rest, rfl, some, all, rfl⟩
    cases taken with
    | nil => exact absurd rfl some
    | cons c taken =>
      obtain ⟨isIn, others⟩ := List.forall_mem_cons.mp all
      refine ⟨_, mem_ways_one.mpr ⟨c, taken ++ rest, rfl, isIn, rfl⟩, ?_⟩
      rw [if_pos (Cursor.position_between_lt _ _ _ _ _)]
      refine (mem_iterateWays (Nat.le_refl _)).mpr ⟨taken, rest, rfl, others, ?_⟩
      rw [List.append_assoc]
      rfl

/-- Any number of characters of a set: any part of the run. -/
theorem mem_ways_zeroOrMore {set : CharSet} :
    next ∈ (Pattern.repeated (.one set) 0 none true).ways (.between before after groups) ↔
      ∃ taken rest, after = taken ++ rest ∧ (∀ c ∈ taken, set.contains c = true) ∧
        next = .between (before ++ taken) rest groups := by
  show next ∈ (Pattern.repeated (.one set) 1 none true).ways _ ++ [_] ↔ _
  rw [List.mem_append, mem_ways_oneOrMore, List.mem_singleton]
  constructor
  · rintro (⟨taken, rest, same, -, all, reached⟩ | rfl)
    · exact ⟨taken, rest, same, all, reached⟩
    · exact ⟨[], after, rfl, by simp, by rw [List.append_nil]⟩
  · rintro ⟨taken, rest, rfl, all, rfl⟩
    cases taken with
    | nil => exact Or.inr (by rw [List.append_nil]; rfl)
    | cons c taken => exact Or.inl ⟨c :: taken, rest, rfl, List.cons_ne_nil _ _, all, rfl⟩

theorem mem_ways_sequence {first second : Pattern} {cursor : Cursor} :
    next ∈ (Pattern.sequence first second).ways cursor ↔
      ∃ reached ∈ first.ways cursor, next ∈ second.ways reached :=
  List.mem_flatMap

theorem mem_ways_either {first second : Pattern} {cursor : Cursor} :
    next ∈ (Pattern.either first second).ways cursor ↔
      next ∈ first.ways cursor ∨ next ∈ second.ways cursor :=
  List.mem_append

/-- A group remembers the text between the place where it starts and the one that it reaches. -/
theorem mem_ways_capture {index : Nat} {inner : Pattern} :
    next ∈ (Pattern.capture index inner).ways (.between before after groups) ↔
      ∃ reached ∈ inner.ways (.between before after groups),
        next = reached.remember index before.length := by
  rw [ways, List.mem_map]
  exact exists_congr fun reached => and_congr_right fun _ => eq_comm

theorem mem_ways_start :
    next ∈ (Pattern.anchor .start).ways (.between before after groups) ↔
      before = [] ∧ next = .between before after groups := by
  cases before with
  | nil => simp [ways, Anchor.holds, Cursor.between]
  | cons c rest => simp [ways, Anchor.holds, Cursor.between]

theorem mem_ways_finish :
    next ∈ (Pattern.anchor .finish).ways (.between before after groups) ↔
      after = [] ∧ next = .between before after groups := by
  cases after with
  | nil => simp [ways, Anchor.holds, Cursor.between]
  | cons c rest => simp [ways, Anchor.holds, Cursor.between]

end Places

/-! ### Matches as reached places -/

/-- A match stops at a place that some way reaches, and only where no way reaches any there is no
match. -/
theorem matchAt?_cases (pattern : Pattern) (cursor : Cursor) :
    (∃ next ∈ pattern.ways cursor,
      pattern.matchAt? cursor = some ⟨cursor.position, next.position, next.groups⟩) ∨
    ((∀ next, next ∉ pattern.ways cursor) ∧ pattern.matchAt? cursor = none) := by
  rw [matchAt?_eq_head?]
  cases pattern.ways cursor with
  | nil => exact Or.inr ⟨fun _ => List.not_mem_nil, rfl⟩
  | cons next others => exact Or.inl ⟨next, List.mem_cons_self, rfl⟩

/-- A pattern that matches at the start of a text only is not found further on. -/
theorem findFrom?_eq_none_of_start {pattern : Pattern}
    (atStart : ∀ before after next, next ∈ pattern.ways (.between before after []) → before = [])
    {before : List Char} (further : before ≠ []) (after : List Char) :
    pattern.findFrom? before.length after = none := by
  have unmatched {before : List Char} (further : before ≠ []) (after : List Char) :
      pattern.matchAt? (.between before after []) = none := by
    rcases matchAt?_cases pattern (.between before after []) with ⟨next, isWay, -⟩ | ⟨-, noMatch⟩
    · exact absurd (atStart _ _ _ isWay) further
    · exact noMatch
  induction after generalizing before with
  | nil => exact unmatched further []
  | cons c rest inductionHypothesis =>
    have noMatch : pattern.matchAt? ⟨before.length, c :: rest, []⟩ = none :=
      unmatched further (c :: rest)
    have next := @inductionHypothesis (before ++ [c]) (by simp)
    rw [List.length_append] at next
    rw [findFrom?, noMatch]
    exact next

/-- What is found of a pattern that matches at the start of a text only. -/
theorem find?_of_start {pattern : Pattern}
    (atStart : ∀ before after next, next ∈ pattern.ways (.between before after []) → before = [])
    (text : List Char) : pattern.find? text = pattern.matchAt? (.between [] text []) := by
  cases text with
  | nil => rfl
  | cons c rest =>
    have later := findFrom?_eq_none_of_start atStart (List.cons_ne_nil c []) rest
    have later : pattern.findFrom? (0 + 1) rest = none := later
    rw [find?, findFrom?, later]
    split
    · next found isFound => exact isFound.symm
    · next isNone => exact isNone.symm

/-- The text of a part between two places. -/
theorem drop_take_of_parts (before part after : List Char) :
    ((before ++ part ++ after).take (before ++ part).length).drop before.length = part := by
  rw [List.take_left, List.drop_left]

end Banana.Pattern
