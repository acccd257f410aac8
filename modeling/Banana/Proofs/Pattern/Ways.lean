/-
This file lists the ways in which a pattern matches at a place, in the order in which a search tries
them. A search hands each way to a continuation and takes the first one that is accepted; so it is
the list of ways, read until the continuation accepts one. That leaves nothing of the search to
reason about: what a pattern finds is the head of a list, and the list of a pattern is made of the
lists of its parts.
-/

import Banana.Pattern.Match

namespace Banana.Pattern

/-- The places at which the ways of something end, in the order in which they are tried. -/
abbrev Ways := Cursor → List Cursor

/-- Further iterations, each of which matches something, and no more than `room` of them. -/
def iterateWays (ways : Ways) (greedy : Bool) : Nat → Ways
  | 0, cursor => [cursor]
  | room + 1, cursor =>
    let again := (ways cursor).flatMap fun next =>
      if cursor.position < next.position then iterateWays ways greedy room next else []
    if greedy then again ++ [cursor] else cursor :: again

/-- One iteration or more. -/
def oneOrMoreWays (ways : Ways) (greedy : Bool) : Ways := fun cursor =>
  (ways cursor).flatMap fun next =>
    if cursor.position < next.position then iterateWays ways greedy next.rest.length next
    else [next]

/-- At most a number of iterations. -/
def atMostWays (ways : Ways) (greedy : Bool) : Nat → Ways
  | 0, cursor => [cursor]
  | count + 1, cursor =>
    let again := (ways cursor).flatMap (atMostWays ways greedy count)
    if greedy then again ++ [cursor] else cursor :: again

/-- A number of iterations, followed by something else. -/
def exactlyWays (ways last : Ways) : Nat → Ways
  | 0, cursor => last cursor
  | count + 1, cursor => (ways cursor).flatMap (exactlyWays ways last count)

/-- Any number of iterations. -/
def zeroOrMoreWays (ways : Ways) (greedy : Bool) : Ways := fun cursor =>
  if greedy then oneOrMoreWays ways greedy cursor ++ [cursor]
  else cursor :: oneOrMoreWays ways greedy cursor

/-- The ways of a pattern. -/
def ways : Pattern → Ways
  | .empty, cursor => [cursor]
  | .one set, cursor =>
    match cursor.rest with
    | c :: rest => if set.contains c then [cursor.advance rest] else []
    | [] => []
  | .anchor condition, cursor => if condition.holds cursor then [cursor] else []
  | .sequence first second, cursor => (first.ways cursor).flatMap second.ways
  | .either first second, cursor => first.ways cursor ++ second.ways cursor
  | .capture index inner, cursor => (inner.ways cursor).map fun next =>
      { next with groups := (index, cursor.position, next.position) :: next.groups }
  | .repeated inner least (some most) greedy, cursor =>
    exactlyWays inner.ways (atMostWays inner.ways greedy (most - least)) least cursor
  | .repeated inner 0 none greedy, cursor => zeroOrMoreWays inner.ways greedy cursor
  | .repeated inner (least + 1) none greedy, cursor =>
    exactlyWays inner.ways (oneOrMoreWays inner.ways greedy) least cursor
  | .ahead true inner, cursor =>
    match (inner.ways cursor).head? with
    | some found => [{ cursor with groups := found.groups }]
    | none => []
  | .ahead false inner, cursor =>
    match (inner.ways cursor).head? with
    | some _ => []
    | none => [cursor]
  | .once inner, cursor => (inner.ways cursor).head?.toList

/-! ### A search reads the list of ways -/

/-- A search tries exactly the given ways, in their order. -/
def Search.Tries (search : Search) (ways : Ways) : Prop :=
  ∀ cursor onward, search cursor onward = (ways cursor).findSome? onward

/-- The first accepted way of one list or, where there is none, of another one. -/
theorem orElse_eq_findSome?_append (first second : List Cursor)
    (onward : Cursor → Option Cursor) :
    (first.findSome? onward <|> second.findSome? onward) =
      (first ++ second).findSome? onward := by
  rw [List.findSome?_append]
  cases first.findSome? onward <;> rfl

/-- Reading lists one after the other is reading the joined list. -/
theorem findSome?_flatMap (first : List Cursor) (second : Cursor → List Cursor)
    (onward : Cursor → Option Cursor) :
    (first.flatMap second).findSome? onward =
      first.findSome? fun next => (second next).findSome? onward := by
  induction first with
  | nil => rfl
  | cons next rest inductionHypothesis =>
    rw [List.flatMap_cons, List.findSome?_append, List.findSome?_cons, inductionHypothesis]
    cases (second next).findSome? onward <;> rfl

namespace Search.Tries

variable {search : Search} {ways : Ways}

/-- The order in which a repetition tries to go on and to stop. -/
theorem manner (greedy : Bool) (again : List Cursor) (cursor : Cursor)
    (onward : Cursor → Option Cursor) :
    (if greedy then (again.findSome? onward <|> onward cursor)
      else (onward cursor <|> again.findSome? onward)) =
      (if greedy then again ++ [cursor] else cursor :: again).findSome? onward := by
  rw [← List.findSome?_singleton (f := onward)]
  cases greedy
  · exact orElse_eq_findSome?_append [cursor] again onward
  · exact orElse_eq_findSome?_append again [cursor] onward

theorem iterate (tries : search.Tries ways) (greedy : Bool) (room : Nat) :
    Search.Tries (Pattern.iterate search greedy room) (iterateWays ways greedy room) := by
  induction room with
  | zero =>
    intro cursor onward
    rw [Pattern.iterate, iterateWays, List.findSome?_singleton]
  | succ room inductionHypothesis =>
    intro cursor onward
    rw [iterateWays, ← manner, findSome?_flatMap]
    simp only [Pattern.iterate]
    have again : (search cursor fun next =>
        if cursor.position < next.position then Pattern.iterate search greedy room next onward
        else none) =
        (ways cursor).findSome? fun next =>
          (if cursor.position < next.position then iterateWays ways greedy room next
            else []).findSome? onward := by
      rw [tries]
      refine congrArg (List.findSome? · (ways cursor)) (funext fun next => ?_)
      split
      · exact inductionHypothesis next onward
      · rfl
    rw [again]

theorem oneOrMore (tries : search.Tries ways) (greedy : Bool) :
    Search.Tries (Pattern.oneOrMore search greedy) (oneOrMoreWays ways greedy) := by
  intro cursor onward
  rw [Pattern.oneOrMore, oneOrMoreWays, findSome?_flatMap, tries]
  refine congrArg (List.findSome? · (ways cursor)) (funext fun next => ?_)
  split
  · exact tries.iterate greedy next.rest.length next onward
  · rw [List.findSome?_singleton]

theorem atMost (tries : search.Tries ways) (greedy : Bool) (count : Nat) :
    Search.Tries (Pattern.atMost search greedy count) (atMostWays ways greedy count) := by
  induction count with
  | zero =>
    intro cursor onward
    rw [Pattern.atMost, atMostWays, List.findSome?_singleton]
  | succ count inductionHypothesis =>
    intro cursor onward
    rw [atMostWays, ← manner, findSome?_flatMap]
    simp only [Pattern.atMost]
    rw [tries]
    simp only [inductionHypothesis _ onward]

theorem exactly {last : Search} {lastWays : Ways} (tries : search.Tries ways)
    (lastTries : last.Tries lastWays) (count : Nat) :
    Search.Tries (Pattern.exactly search last count) (exactlyWays ways lastWays count) := by
  induction count with
  | zero => exact lastTries
  | succ count inductionHypothesis =>
    intro cursor onward
    rw [Pattern.exactly, exactlyWays, findSome?_flatMap, tries]
    simp only [inductionHypothesis _ onward]

theorem zeroOrMore (tries : search.Tries ways) (greedy : Bool) :
    Search.Tries (Pattern.zeroOrMore search greedy) (zeroOrMoreWays ways greedy) := by
  intro cursor onward
  rw [Pattern.zeroOrMore, zeroOrMoreWays, ← manner, tries.oneOrMore greedy cursor onward]

end Search.Tries

/-- A search without a continuation takes the first way. -/
theorem findSome?_some (cursors : List Cursor) : cursors.findSome? some = cursors.head? := by
  cases cursors <;> rfl

/-- The search for a pattern tries the ways of the pattern. -/
theorem search_tries (pattern : Pattern) : Search.Tries pattern.search pattern.ways := by
  induction pattern with
  | empty =>
    intro cursor onward
    rw [search, ways, List.findSome?_singleton]
  | one set =>
    intro cursor onward
    rw [search, ways]
    cases cursor.rest with
    | nil => rfl
    | cons c rest =>
      cases isIn : set.contains c with
      | true => simp only [isIn, if_true, List.findSome?_singleton]
      | false => simp only [isIn, Bool.false_eq_true, if_false, List.findSome?_nil]
  | anchor condition =>
    intro cursor onward
    rw [search, ways]
    split
    · rw [List.findSome?_singleton]
    · rfl
  | sequence first second firstTries secondTries =>
    intro cursor onward
    rw [search, ways, findSome?_flatMap, firstTries]
    simp only [secondTries _ onward]
  | either first second firstTries secondTries =>
    intro cursor onward
    rw [search, ways, firstTries, secondTries, orElse_eq_findSome?_append]
  | capture index inner innerTries =>
    intro cursor onward
    rw [search, ways, innerTries, List.findSome?_map]
    rfl
  | repeated inner least most greedy innerTries =>
    intro cursor onward
    cases most with
    | some most => exact innerTries.exactly (innerTries.atMost greedy _) least cursor onward
    | none =>
      cases least with
      | zero => exact innerTries.zeroOrMore greedy cursor onward
      | succ least => exact innerTries.exactly (innerTries.oneOrMore greedy) least cursor onward
  | ahead positive inner innerTries =>
    intro cursor onward
    cases positive with
    | true =>
      rw [search, ways, innerTries, findSome?_some]
      cases (inner.ways cursor).head? with
      | none => rfl
      | some found => exact List.findSome?_singleton.symm
    | false =>
      rw [search, ways, innerTries, findSome?_some]
      cases (inner.ways cursor).head? with
      | none => exact List.findSome?_singleton.symm
      | some found => rfl
  | once inner innerTries =>
    intro cursor onward
    rw [search, ways, innerTries, findSome?_some]
    cases (inner.ways cursor).head? with
    | none => rfl
    | some found => exact List.findSome?_singleton.symm

/-- What a pattern finds at a place is its first way. -/
theorem matchAt?_eq_head? (pattern : Pattern) (cursor : Cursor) :
    pattern.matchAt? cursor = (pattern.ways cursor).head?.map fun found =>
      ⟨cursor.position, found.position, found.groups⟩ := by
  rw [matchAt?, search_tries, findSome?_some]

end Banana.Pattern
