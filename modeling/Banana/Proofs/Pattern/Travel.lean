/-
This file says how far the ways of a pattern can go. Every way goes some characters further in the
text that was there before, and only a pattern with groups touches the groups; so a match starts and
stops in the text that is searched. A pattern that is tied to the start of the text matches there or
not at all.
-/

import Banana.Proofs.Pattern.Ways

namespace Banana.Pattern

/-! ### Going on in a text -/

/-- The place some characters further, or the end of the text. -/
def Cursor.skip (cursor : Cursor) : Nat → Cursor
  | 0 => cursor
  | count + 1 =>
    match cursor.rest with
    | c :: rest => (cursor.advance rest).skip count
    | [] => cursor

namespace Cursor

theorem skip_cons (cursor : Cursor) {c : Char} {rest : List Char} (front : cursor.rest = c :: rest)
    (count : Nat) : cursor.skip (count + 1) = (cursor.advance rest).skip count := by
  rw [skip, front]

theorem skip_nil (cursor : Cursor) (atEnd : cursor.rest = []) (count : Nat) :
    cursor.skip count = cursor := by
  cases count with
  | zero => rfl
  | succ count => rw [skip, atEnd]

@[simp]
theorem rest_skip (cursor : Cursor) (count : Nat) :
    (cursor.skip count).rest = cursor.rest.drop count := by
  induction count generalizing cursor with
  | zero => rfl
  | succ count inductionHypothesis =>
    cases front : cursor.rest with
    | nil => rw [skip_nil cursor front, front, List.drop_nil]
    | cons c rest =>
      rw [skip_cons cursor front, inductionHypothesis, List.drop_succ_cons]
      rfl

/-- Behind the first character stands the rest. -/
theorem rest_skip_one {cursor : Cursor} {c : Char} {rest : List Char}
    (front : cursor.rest = c :: rest) : (cursor.skip 1).rest = rest := by
  rw [rest_skip, front]
  rfl

theorem position_skip (cursor : Cursor) {count : Nat} (within : count ≤ cursor.rest.length) :
    (cursor.skip count).position = cursor.position + count := by
  induction count generalizing cursor with
  | zero => rfl
  | succ count inductionHypothesis =>
    cases front : cursor.rest with
    | nil =>
      rw [front] at within
      exact absurd within (Nat.not_succ_le_zero count)
    | cons c rest =>
      rw [front] at within
      have shorter : count ≤ (cursor.advance rest).rest.length := Nat.le_of_succ_le_succ within
      rw [skip_cons cursor front, inductionHypothesis _ shorter]
      show cursor.position + 1 + count = cursor.position + (count + 1)
      omega

@[simp]
theorem groups_skip (cursor : Cursor) (count : Nat) :
    (cursor.skip count).groups = cursor.groups := by
  induction count generalizing cursor with
  | zero => rfl
  | succ count inductionHypothesis =>
    cases front : cursor.rest with
    | nil => rw [skip_nil cursor front]
    | cons c rest =>
      rw [skip_cons cursor front, inductionHypothesis]
      rfl

theorem skip_skip (cursor : Cursor) (first second : Nat) :
    (cursor.skip first).skip second = cursor.skip (first + second) := by
  induction first generalizing cursor with
  | zero => rw [Nat.zero_add, skip]
  | succ first inductionHypothesis =>
    cases front : cursor.rest with
    | nil => simp only [skip_nil cursor front]
    | cons c rest =>
      rw [skip_cons cursor front, inductionHypothesis, Nat.succ_add, skip_cons cursor front]

/-- Other groups at a place change nothing about the way from there on. -/
theorem skip_groups (cursor : Cursor) (groups : List (Nat × Nat × Nat)) (count : Nat) :
    Cursor.skip { cursor with groups := groups } count =
      { cursor.skip count with groups := groups } := by
  induction count generalizing cursor with
  | zero => rfl
  | succ count inductionHypothesis =>
    obtain ⟨position, rest, old⟩ := cursor
    cases rest with
    | nil => rfl
    | cons c rest => exact inductionHypothesis ⟨position + 1, rest, old⟩

/-- A place at which a group has just ended. -/
def remember (cursor : Cursor) (index start : Nat) : Cursor :=
  { cursor with groups := (index, start, cursor.position) :: cursor.groups }

@[simp]
theorem rest_remember (cursor : Cursor) (index start : Nat) :
    (cursor.remember index start).rest = cursor.rest := rfl

@[simp]
theorem position_remember (cursor : Cursor) (index start : Nat) :
    (cursor.remember index start).position = cursor.position := rfl

@[simp]
theorem groups_remember (cursor : Cursor) (index start : Nat) :
    (cursor.remember index start).groups = (index, start, cursor.position) :: cursor.groups := rfl

end Cursor

/-! ### Relations that ways stay in -/

/-- A relation between places that a pattern without groups stays in, because it holds between a
place and the next one. -/
structure IsTravel (related : Cursor → Cursor → Prop) : Prop where
  refl : ∀ cursor, related cursor cursor
  trans : ∀ first second third, related first second → related second third → related first third
  advance : ∀ cursor c rest, cursor.rest = c :: rest → related cursor (cursor.advance rest)
  back : ∀ cursor found, related cursor found →
    related cursor { cursor with groups := found.groups }

/-- Whether a pattern has groups that remember what they match. -/
def isCapturing : Pattern → Bool
  | .capture _ _ => true
  | .sequence first second | .either first second => first.isCapturing || second.isCapturing
  | .repeated inner _ _ _ | .ahead _ inner | .once inner => inner.isCapturing
  | .empty | .one _ | .anchor _ => false

/-- All ways from a place end at places that are related to it. -/
def Ways.StayIn (ways : Ways) (related : Cursor → Cursor → Prop) : Prop :=
  ∀ cursor, ∀ next ∈ ways cursor, related cursor next

namespace Ways.StayIn

variable {ways : Ways} {related : Cursor → Cursor → Prop}

theorem flatMap (stay : ways.StayIn related) (travel : IsTravel related) {second : Ways}
    (secondStay : second.StayIn related) :
    Ways.StayIn (fun cursor => (ways cursor).flatMap second) related := by
  intro cursor next member
  obtain ⟨between, isBetween, isNext⟩ := List.mem_flatMap.mp member
  exact travel.trans _ _ _ (stay cursor between isBetween) (secondStay between next isNext)

/-- The order in which a repetition tries to go on and to stop does not matter here. -/
theorem manner (travel : IsTravel related) (greedy : Bool) {cursor : Cursor} {again : List Cursor}
    (stay : ∀ next ∈ again, related cursor next) :
    ∀ next ∈ (if greedy then again ++ [cursor] else cursor :: again), related cursor next := by
  intro next member
  have either : next ∈ again ∨ next = cursor := by
    cases greedy
    · exact (List.mem_cons.mp member).symm
    · simpa using member
  rcases either with isAgain | rfl
  · exact stay next isAgain
  · exact travel.refl next

theorem iterate (stay : ways.StayIn related) (travel : IsTravel related) (greedy : Bool)
    (room : Nat) : Ways.StayIn (iterateWays ways greedy room) related := by
  induction room with
  | zero =>
    intro cursor next member
    rw [List.mem_singleton.mp member]
    exact travel.refl cursor
  | succ room inductionHypothesis =>
    intro cursor
    refine manner travel greedy fun next member => ?_
    obtain ⟨between, isBetween, isNext⟩ := List.mem_flatMap.mp member
    split at isNext
    · exact travel.trans _ _ _ (stay cursor between isBetween)
        (inductionHypothesis between next isNext)
    · exact absurd isNext List.not_mem_nil

theorem oneOrMore (stay : ways.StayIn related) (travel : IsTravel related) (greedy : Bool) :
    Ways.StayIn (oneOrMoreWays ways greedy) related := by
  intro cursor next member
  obtain ⟨between, isBetween, isNext⟩ := List.mem_flatMap.mp member
  have first := stay cursor between isBetween
  split at isNext
  · exact travel.trans _ _ _ first (stay.iterate travel greedy _ between next isNext)
  · rw [List.mem_singleton.mp isNext]
    exact first

theorem zeroOrMore (stay : ways.StayIn related) (travel : IsTravel related) (greedy : Bool) :
    Ways.StayIn (zeroOrMoreWays ways greedy) related :=
  fun cursor => manner travel greedy (stay.oneOrMore travel greedy cursor)

theorem atMost (stay : ways.StayIn related) (travel : IsTravel related) (greedy : Bool)
    (count : Nat) : Ways.StayIn (atMostWays ways greedy count) related := by
  induction count with
  | zero =>
    intro cursor next member
    rw [List.mem_singleton.mp member]
    exact travel.refl cursor
  | succ count inductionHypothesis =>
    exact fun cursor => manner travel greedy (stay.flatMap travel inductionHypothesis cursor)

theorem exactly (stay : ways.StayIn related) (travel : IsTravel related) {last : Ways}
    (lastStay : last.StayIn related) (count : Nat) :
    Ways.StayIn (exactlyWays ways last count) related := by
  induction count with
  | zero => exact lastStay
  | succ count inductionHypothesis => exact stay.flatMap travel inductionHypothesis

end Ways.StayIn

/-- The ways of a pattern stay in a relation between places, which must not look at the groups
where the pattern has some. -/
theorem ways_stayIn {related : Cursor → Cursor → Prop} (travel : IsTravel related)
    (pattern : Pattern)
    (regroup : pattern.isCapturing = true → ∀ cursor next groups, related cursor next →
      related cursor { next with groups := groups }) : pattern.ways.StayIn related := by
  induction pattern with
  | empty =>
    intro cursor next member
    rw [List.mem_singleton.mp member]
    exact travel.refl cursor
  | one set =>
    intro cursor next member
    rw [ways] at member
    split at member
    · next c rest front =>
      split at member
      · rw [List.mem_singleton.mp member]
        exact travel.advance cursor c rest front
      · exact absurd member List.not_mem_nil
    · exact absurd member List.not_mem_nil
  | anchor condition =>
    intro cursor next member
    rw [ways] at member
    split at member
    · rw [List.mem_singleton.mp member]
      exact travel.refl cursor
    · exact absurd member List.not_mem_nil
  | sequence first second firstStays secondStays =>
    exact (firstStays fun capturing => regroup (by simp [isCapturing, capturing])).flatMap travel
      (secondStays fun capturing => regroup (by simp [isCapturing, capturing]))
  | either first second firstStays secondStays =>
    intro cursor next member
    rcases List.mem_append.mp member with isFirst | isSecond
    · exact firstStays (fun capturing => regroup (by simp [isCapturing, capturing])) cursor next
        isFirst
    · exact secondStays (fun capturing => regroup (by simp [isCapturing, capturing])) cursor next
        isSecond
  | capture index inner innerStays =>
    intro cursor next member
    obtain ⟨between, isBetween, rfl⟩ := List.mem_map.mp member
    exact regroup rfl cursor between _ (innerStays (fun _ => regroup rfl) cursor between isBetween)
  | repeated inner least most greedy innerStays =>
    have stay := innerStays regroup
    cases most with
    | some most => exact stay.exactly travel (stay.atMost travel greedy _) least
    | none =>
      cases least with
      | zero => exact stay.zeroOrMore travel greedy
      | succ least => exact stay.exactly travel (stay.oneOrMore travel greedy) least
  | ahead positive inner innerStays =>
    intro cursor next member
    cases positive with
    | true =>
      rw [ways] at member
      split at member
      · next found isFirst =>
        rw [List.mem_singleton.mp member]
        exact travel.back cursor found
          (innerStays regroup cursor found (List.mem_of_head? isFirst))
      · exact absurd member List.not_mem_nil
    | false =>
      rw [ways] at member
      split at member
      · exact absurd member List.not_mem_nil
      · rw [List.mem_singleton.mp member]
        exact travel.refl cursor
  | once inner innerStays =>
    intro cursor next member
    exact innerStays regroup cursor next (List.mem_of_head? (Option.mem_toList.mp member))

/-! ### Every way goes on in the same text -/

/-- Whether a place lies some characters further in the same text, whatever its groups are. -/
def LiesBehind (cursor next : Cursor) : Prop :=
  ∃ count ≤ cursor.rest.length, ∃ groups, next = { cursor.skip count with groups := groups }

theorem isTravel_liesBehind : IsTravel LiesBehind where
  refl cursor := ⟨0, Nat.zero_le _, cursor.groups, rfl⟩
  trans := by
    rintro first second third ⟨count, within, groups, rfl⟩ ⟨more, moreWithin, others, rfl⟩
    have remaining : more ≤ (first.skip count).rest.length := moreWithin
    rw [Cursor.rest_skip, List.length_drop] at remaining
    refine ⟨count + more, by omega, others, ?_⟩
    rw [Cursor.skip_groups, Cursor.skip_skip]
  advance := by
    intro cursor c rest front
    refine ⟨1, by rw [front]; exact Nat.succ_le_succ (Nat.zero_le _), cursor.groups, ?_⟩
    rw [Cursor.skip_cons cursor front]
    rfl
  back := by
    rintro cursor found -
    exact ⟨0, Nat.zero_le _, found.groups, rfl⟩

theorem isTravel_sameGroups : IsTravel fun cursor next => next.groups = cursor.groups where
  refl _ := rfl
  trans _ _ _ first second := second.trans first
  advance _ _ _ _ := rfl
  back _ _ same := same

/-- A way of a pattern goes some characters further, and may remember groups. -/
theorem exists_skip_of_mem_ways {pattern : Pattern} {cursor next : Cursor}
    (member : next ∈ pattern.ways cursor) :
    ∃ count ≤ cursor.rest.length, ∃ groups,
      next = { cursor.skip count with groups := groups } := by
  refine ways_stayIn isTravel_liesBehind pattern ?_ cursor next member
  rintro - cursor next groups ⟨count, within, -, rfl⟩
  exact ⟨count, within, groups, rfl⟩

/-- A way of a pattern without groups only goes some characters further. -/
theorem exists_skip_of_not_capturing {pattern : Pattern} (plain : pattern.isCapturing = false)
    {cursor next : Cursor} (member : next ∈ pattern.ways cursor) :
    ∃ count ≤ cursor.rest.length, next = cursor.skip count := by
  obtain ⟨count, within, groups, rfl⟩ := exists_skip_of_mem_ways member
  have sameGroups := ways_stayIn isTravel_sameGroups pattern
    (fun capturing => absurd (plain.symm.trans capturing) (by decide)) cursor _ member
  refine ⟨count, within, ?_⟩
  have groupsEq : groups = cursor.groups := sameGroups
  rw [groupsEq, ← Cursor.groups_skip cursor count]

/-! ### Matches lie in the text -/

/-- A match at a place starts there and stops in the text that follows. -/
theorem matchAt?_bounds {pattern : Pattern} {cursor : Cursor} {found : Match}
    (matched : pattern.matchAt? cursor = some found) :
    found.start = cursor.position ∧ found.start ≤ found.stop ∧
      found.stop ≤ cursor.position + cursor.rest.length := by
  rw [matchAt?_eq_head?] at matched
  obtain ⟨next, isFirst, rfl⟩ := Option.map_eq_some_iff.mp matched
  obtain ⟨count, within, groups, rfl⟩ := exists_skip_of_mem_ways (List.mem_of_head? isFirst)
  have stop : (cursor.skip count).position = cursor.position + count := cursor.position_skip within
  refine ⟨rfl, ?_, ?_⟩
  · show cursor.position ≤ (cursor.skip count).position
    omega
  · show (cursor.skip count).position ≤ cursor.position + cursor.rest.length
    omega

theorem findFrom?_bounds {pattern : Pattern} {position : Nat} {text : List Char} {found : Match}
    (matched : pattern.findFrom? position text = some found) :
    position ≤ found.start ∧ found.start ≤ found.stop ∧
      found.stop ≤ position + text.length := by
  induction text generalizing position with
  | nil =>
    rw [findFrom?] at matched
    obtain ⟨start, ordered, within⟩ := matchAt?_bounds matched
    exact ⟨Nat.le_of_eq start.symm, ordered, within⟩
  | cons c rest inductionHypothesis =>
    rw [findFrom?] at matched
    split at matched
    · next here matchedHere =>
      cases matched
      obtain ⟨start, ordered, within⟩ := matchAt?_bounds matchedHere
      exact ⟨Nat.le_of_eq start.symm, ordered, within⟩
    · obtain ⟨later, ordered, within⟩ := inductionHypothesis matched
      rw [List.length_cons]
      omega

/-- A match in a text starts and stops in it. -/
theorem find?_bounds {pattern : Pattern} {text : List Char} {found : Match}
    (matched : pattern.find? text = some found) :
    found.start ≤ found.stop ∧ found.stop ≤ text.length := by
  obtain ⟨-, ordered, within⟩ := findFrom?_bounds matched
  omega

/-! ### Patterns tied to the start -/

/-- The place at the start of a text. -/
def Cursor.front (text : List Char) : Cursor := ⟨0, text, []⟩

/-- Whether a pattern starts with the condition to stand at the start of the text. -/
inductive IsTied : Pattern → Prop
  | start : IsTied (.anchor .start)
  | sequence {first : Pattern} (isTied : IsTied first) (second : Pattern) :
      IsTied (.sequence first second)

section Tied

variable {pattern : Pattern}

theorem IsTied.ways_eq_nil (isTied : IsTied pattern) {cursor : Cursor}
    (further : cursor.position ≠ 0) : pattern.ways cursor = [] := by
  induction isTied with
  | start => simp [ways, Anchor.holds, further]
  | sequence _ second inductionHypothesis => rw [ways, inductionHypothesis, List.flatMap_nil]

theorem IsTied.matchAt?_eq_none (isTied : IsTied pattern) {cursor : Cursor}
    (further : cursor.position ≠ 0) : pattern.matchAt? cursor = none := by
  rw [matchAt?_eq_head?, isTied.ways_eq_nil further]
  rfl

theorem IsTied.findFrom?_eq_none (isTied : IsTied pattern) {position : Nat}
    (further : position ≠ 0) (text : List Char) : pattern.findFrom? position text = none := by
  induction text generalizing position with
  | nil =>
    rw [findFrom?]
    exact isTied.matchAt?_eq_none further
  | cons c rest inductionHypothesis =>
    rw [findFrom?, isTied.matchAt?_eq_none further]
    exact inductionHypothesis (Nat.succ_ne_zero position)

/-- A tied pattern is found at the start or not at all. -/
theorem IsTied.find?_eq (isTied : IsTied pattern) (text : List Char) :
    pattern.find? text = pattern.matchAt? (.front text) := by
  rw [find?]
  cases text with
  | nil => rfl
  | cons c rest =>
    rw [findFrom?, isTied.findFrom?_eq_none (Nat.succ_ne_zero 0)]
    split
    · next found matchedHere => exact matchedHere.symm
    · next absent => exact absent.symm

end Tied

/-- A pattern tied to the start of a text finds its first way there. -/
theorem find?_start (pattern : Pattern) (text : List Char) :
    (Pattern.sequence (.anchor .start) pattern).find? text =
      (pattern.ways (.front text)).head?.map fun found => ⟨0, found.position, found.groups⟩ := by
  have tied : (Pattern.sequence (.anchor .start) pattern).ways (.front text) =
      pattern.ways (.front text) := by
    simp [ways, Anchor.holds, Cursor.front]
  rw [(IsTied.sequence .start pattern).find?_eq, matchAt?_eq_head?, tied]
  rfl

end Banana.Pattern
