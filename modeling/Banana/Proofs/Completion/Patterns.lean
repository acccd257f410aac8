/-
This file holds the three forms of a line as the patterns that they are documented as, and shows
that a search for the patterns reads out of a line what the readers of lines take. Two of the
patterns are tied to the start of a line and have nothing to search for; the one of paths is looked
for from every place on, and its first match is at the longest path, because the earliest place
counts and every match ends at the end of the line.
-/

import Banana.Pattern.Parse
import Banana.Proofs.Completion.Forms
import Banana.Proofs.Pattern.Reach

namespace Banana.Completion

open Pattern

/-! ### The patterns -/

/-- The pattern of a path at the end of a line. -/
def pathText : String := "(?:^|[^A-Za-z0-9_$.])([A-Za-z_$][A-Za-z_$ .]*\\.)$"

/-- The pattern of an open call behind an assignment sign, with white space written out. -/
def callText : String :=
  "^[^=]+=[\t-\r \u0085\u00A0\u1680\u2000-\u200A\u2028\u2029\u202F\u205F\u3000]*" ++
    "([A-Za-z_$]+) *\\(([^)]*)$"

/-- The pattern of an assignment in which no call has started. -/
def bareText : String := "^[^=]+=[^(\\n\\r]+$"

/-- Everything that a path may follow. -/
def outsideSet : CharSet := ⟨true, joiningSet.ranges⟩

/-- Everything but the equals sign. -/
def targetSet : CharSet := ⟨true, [('=', '=')]⟩

/-- Everything but the parenthesis that closes a call. -/
def argsSet : CharSet := ⟨true, [(')', ')')]⟩

/-- Everything but the ends of a line and the parenthesis that starts a call. -/
def bareSet : CharSet := ⟨true, [('(', '('), ('\n', '\n'), ('\r', '\r')]⟩

/-- As many characters of a set as there are. -/
def anyOf (set : CharSet) : Pattern := .repeated (.one set) 0 none true

/-- As many characters of a set as there are, and at least one. -/
def manyOf (set : CharSet) : Pattern := .repeated (.one set) 1 none true

/-- A path that ends in a dot. -/
def openPath : Pattern :=
  .sequence (.sequence (.one nameSet) (anyOf pathSet)) (.char '.')

def pathPattern : Pattern :=
  .sequence (.sequence (.either (.anchor .start) (.one outsideSet)) (.capture 1 openPath))
    (.anchor .finish)

/-- What is assigned to, and the sign. -/
def assignment : Pattern :=
  .sequence (.sequence (.anchor .start) (manyOf targetSet)) (.char '=')

def callPattern : Pattern :=
  .sequence (.sequence (.sequence (.sequence (.sequence (.sequence assignment (anyOf whiteSet))
    (.capture 1 (manyOf nameSet))) (anyOf (.single ' '))) (.char '(')) (.capture 2 (anyOf argsSet)))
    (.anchor .finish)

def barePattern : Pattern :=
  .sequence (.sequence assignment (manyOf bareSet)) (.anchor .finish)

theorem parse?_pathText : Pattern.parse? pathText.toList = some pathPattern := by
  cbv

theorem parse?_callText : Pattern.parse? callText.toList = some callPattern := by
  cbv

theorem parse?_bareText : Pattern.parse? bareText.toList = some barePattern := by
  cbv

/-! ### What the patterns read -/

/-- The part of a line that a group of a match covers. -/
def part? (line : List Char) (found : Match) (index : Nat) : Option (List Char) :=
  (found.group? index).map fun (start, stop) => (line.take stop).drop start

/-- A group that was remembered last covers the text between the two places. -/
theorem part?_of_last (before part after : List Char) (start stop index : Nat)
    (others : List (Nat × Nat × Nat)) :
    part? (before ++ part ++ after)
      ⟨start, stop, (index, before.length, (before ++ part).length) :: others⟩ index =
        some part := by
  simp only [part?, Match.group?, List.find?_cons, beq_self_eq_true, Option.map_some]
  rw [drop_take_of_parts]

/-! ### Paths -/

theorem contains_outsideSet (c : Char) : outsideSet.contains c = !joinsPath c := by
  rw [← contains_joiningSet]
  simp [CharSet.contains, outsideSet, joiningSet]

/-- A path falls into its first character, what it goes on with and its last dot. -/
theorem isOpenPath_iff_parts (path : List Char) :
    IsOpenPath path ↔ ∃ c taken, path = c :: taken ++ ['.'] ∧ nameSet.contains c = true ∧
      ∀ d ∈ taken, pathSet.contains d = true := by
  constructor
  · rintro ⟨⟨c, rest, rfl, isName⟩, all, last⟩
    obtain ⟨taken, same⟩ := List.getLast?_eq_some_iff.mp last
    cases taken with
    | nil =>
      obtain ⟨rfl, -⟩ := List.cons.inj same
      exact absurd isName (by decide)
    | cons first taken =>
      obtain ⟨rfl, rfl⟩ := List.cons.inj same
      refine ⟨c, taken, rfl, isName, fun d member => all d ?_⟩
      exact List.mem_cons_of_mem _ (List.mem_append_left _ member)
  · rintro ⟨c, taken, rfl, isName, all⟩
    refine ⟨⟨c, taken ++ ['.'], rfl, isName⟩, fun d member => ?_, List.getLast?_concat⟩
    rcases List.mem_append.mp member with inside | isDot
    · rcases List.mem_cons.mp inside with rfl | inside
      · rw [contains_nameSet] at isName
        rw [contains_pathSet, isPathChar, isName]
        rfl
      · exact all d inside
    · rw [List.mem_singleton.mp isDot]
      decide

theorem mem_ways_openPath {before after : List Char} {groups : List (Nat × Nat × Nat)}
    {next : Cursor} :
    next ∈ openPath.ways (.between before after groups) ↔
      ∃ path rest, after = path ++ rest ∧ IsOpenPath path ∧
        next = .between (before ++ path) rest groups := by
  simp only [openPath, Pattern.char, anyOf, mem_ways_sequence, isOpenPath_iff_parts]
  constructor
  · rintro ⟨dotted, ⟨named, isNamed, isTaken⟩, isDot⟩
    obtain ⟨c, _, rfl, isName, rfl⟩ := mem_ways_one.mp isNamed
    obtain ⟨taken, _, rfl, all, rfl⟩ := mem_ways_zeroOrMore.mp isTaken
    obtain ⟨dot, rest, rfl, isIn, rfl⟩ := mem_ways_one.mp isDot
    rw [contains_single, beq_iff_eq] at isIn
    subst isIn
    exact ⟨c :: taken ++ ['.'], rest, by simp, ⟨c, taken, rfl, isName, all⟩, by simp⟩
  · rintro ⟨_, rest, rfl, ⟨c, taken, rfl, isName, all⟩, rfl⟩
    refine ⟨_, ⟨_, mem_ways_one.mpr ⟨c, taken ++ '.' :: rest, by simp, isName, rfl⟩,
      mem_ways_zeroOrMore.mpr ⟨taken, '.' :: rest, rfl, all, rfl⟩⟩,
      mem_ways_one.mpr ⟨'.', rest, rfl, by rw [contains_single]; rfl, ?_⟩⟩
    simp

/-- Whether a path may start behind some skipped text that follows some other text. -/
def StartsPath (before skipped : List Char) : Prop :=
  (before = [] ∧ skipped = []) ∨ ∃ c, skipped = [c] ∧ joinsPath c = false

/-- The start of a line or a character that no path joins: what may be skipped before a path. -/
theorem mem_ways_pathStart {before after : List Char} {groups : List (Nat × Nat × Nat)}
    {next : Cursor} :
    next ∈ (Pattern.either (.anchor .start) (.one outsideSet)).ways
        (.between before after groups) ↔
      ∃ skipped rest, after = skipped ++ rest ∧ StartsPath before skipped ∧
        next = .between (before ++ skipped) rest groups := by
  rw [mem_ways_either, mem_ways_start, mem_ways_one]
  simp only [contains_outsideSet, Bool.not_eq_true']
  constructor
  · rintro (⟨atStart, rfl⟩ | ⟨c, rest, rfl, isOutside, rfl⟩)
    · exact ⟨[], after, rfl, Or.inl ⟨atStart, rfl⟩, by rw [List.append_nil]⟩
    · exact ⟨[c], rest, rfl, Or.inr ⟨c, rfl, isOutside⟩, rfl⟩
  · rintro ⟨_, rest, rfl, ⟨atStart, rfl⟩ | ⟨c, rfl, isOutside⟩, rfl⟩
    · exact Or.inl ⟨atStart, by rw [List.append_nil]; rfl⟩
    · exact Or.inr ⟨c, rest, rfl, isOutside, rfl⟩

theorem mem_ways_pathPattern {before after : List Char} {next : Cursor} :
    next ∈ pathPattern.ways (.between before after []) ↔
      ∃ skipped path, after = skipped ++ path ∧ StartsPath before skipped ∧ IsOpenPath path ∧
        next = .between (before ++ skipped ++ path) []
          [(1, (before ++ skipped).length, (before ++ skipped ++ path).length)] := by
  simp only [pathPattern, mem_ways_sequence]
  constructor
  · rintro ⟨_, ⟨_, isStart, isPath⟩, isEnd⟩
    obtain ⟨skipped, _, rfl, starts, rfl⟩ := mem_ways_pathStart.mp isStart
    obtain ⟨_, isInner, rfl⟩ := mem_ways_capture.mp isPath
    obtain ⟨path, rest, rfl, isOpen, rfl⟩ := mem_ways_openPath.mp isInner
    obtain ⟨rfl, rfl⟩ := mem_ways_finish.mp isEnd
    exact ⟨skipped, path, by rw [List.append_nil], starts, isOpen, rfl⟩
  · rintro ⟨skipped, path, rfl, starts, isOpen, rfl⟩
    exact ⟨_, ⟨_, mem_ways_pathStart.mpr ⟨skipped, path, rfl, starts, rfl⟩,
      mem_ways_capture.mpr ⟨_, mem_ways_openPath.mpr
        ⟨path, [], (List.append_nil path).symm, isOpen, rfl⟩, rfl⟩⟩,
      mem_ways_finish.mpr ⟨rfl, rfl⟩⟩

/-- A match of the pattern of paths shows the path that it ends with, and it fails only where there
is none. -/
theorem matchAt?_pathPattern (before after : List Char) :
    (∃ found skipped path, pathPattern.matchAt? (.between before after []) = some found ∧
      after = skipped ++ path ∧ StartsPath before skipped ∧ IsOpenPath path ∧
        part? (before ++ after) found 1 = some path) ∨
    (pathPattern.matchAt? (.between before after []) = none ∧
      ∀ skipped path, after = skipped ++ path → StartsPath before skipped →
        ¬ IsOpenPath path) := by
  rcases matchAt?_cases pathPattern (.between before after []) with
    ⟨next, isWay, found⟩ | ⟨noWay, noMatch⟩
  · obtain ⟨skipped, path, rfl, isStart, isOpen, rfl⟩ := mem_ways_pathPattern.mp isWay
    refine Or.inl ⟨_, skipped, path, found, rfl, isStart, isOpen, ?_⟩
    have shown := part?_of_last (before ++ skipped) path [] before.length
      (before ++ skipped ++ path).length 1 []
    rw [List.append_nil, List.append_assoc before skipped path] at shown
    rw [← List.append_assoc] at shown ⊢
    exact shown
  · refine Or.inr ⟨noMatch, fun skipped path same isStart isOpen => ?_⟩
    exact noWay _ (mem_ways_pathPattern.mpr ⟨skipped, path, same, isStart, isOpen, rfl⟩)

/-- At the end of a line there is no path any more. -/
theorem matchAt?_pathPattern_nil (before : List Char) :
    pathPattern.matchAt? (.between before [] []) = none := by
  rcases matchAt?_pathPattern before [] with
    ⟨_, skipped, path, -, same, -, isOpen, -⟩ | ⟨noMatch, -⟩
  · obtain ⟨c, rest, rfl, -⟩ := isOpen.starts
    exact absurd same (by simp)
  · exact noMatch

/-- Where no path starts at once, one starts behind the next character or is searched for from
there. -/
theorem findFrom?_pathPattern_cons {before : List Char} {c : Char} {rest : List Char}
    (noStart : before = [] → isPath (c :: rest) = false) :
    (pathPattern.findFrom? before.length (c :: rest)).bind
        (part? (before ++ c :: rest) · 1) =
      if joinsPath c = false ∧ isPath rest = true then some rest
      else (pathPattern.findFrom? (before ++ [c]).length rest).bind
        (part? (before ++ c :: rest) · 1) := by
  have whenFound (found : Match) (isFound :
      pathPattern.matchAt? (.between before (c :: rest) []) = some found) :
      pathPattern.findFrom? before.length (c :: rest) = some found := by
    rw [findFrom?]
    split
    · next other isOther => exact isOther.symm.trans isFound
    · next isNone => cases isNone.symm.trans isFound
  have whenNone (isNone : pathPattern.matchAt? (.between before (c :: rest) []) = none) :
      pathPattern.findFrom? before.length (c :: rest) =
        pathPattern.findFrom? (before ++ [c]).length rest := by
    rw [findFrom?, List.length_append]
    split
    · next found isFound => cases isFound.symm.trans isNone
    · rfl
  rcases matchAt?_pathPattern before (c :: rest) with
    ⟨found, skipped, path, isFound, same, isStart, isOpen, shown⟩ | ⟨noMatch, noPath⟩
  · rw [whenFound found isFound, Option.bind_some, shown]
    rcases isStart with ⟨atStart, rfl⟩ | ⟨d, rfl, isOutside⟩
    · rw [List.nil_append] at same
      subst same
      rw [← isPath_iff, noStart atStart] at isOpen
      cases isOpen
    · obtain ⟨rfl, rfl⟩ := List.cons.inj same
      rw [if_pos ⟨isOutside, (isPath_iff _).mpr isOpen⟩]
  · rw [whenNone noMatch, if_neg]
    rintro ⟨isOutside, isWhole⟩
    exact noPath [c] rest rfl (Or.inr ⟨c, rfl, isOutside⟩) ((isPath_iff _).mp isWhole)

/-- From a place on at which no path starts, the search finds what the reader reads behind the next
character. -/
theorem findFrom?_pathPattern {before : List Char} {c : Char} {rest : List Char}
    (noStart : before = [] → isPath (c :: rest) = false) :
    (pathPattern.findFrom? before.length (c :: rest)).bind
      (part? (before ++ c :: rest) · 1) = pathAtEnd? (some c) rest := by
  induction rest generalizing before c with
  | nil =>
    have noMatch := matchAt?_pathPattern_nil (before ++ [c])
    rw [Cursor.between] at noMatch
    rw [findFrom?_pathPattern_cons noStart, findFrom?, noMatch, if_neg (by simp [isPath])]
    rfl
  | cons d rest inductionHypothesis =>
    have next := @inductionHypothesis (before ++ [c]) d (by simp)
    rw [List.append_assoc, List.singleton_append] at next
    rw [findFrom?_pathPattern_cons noStart, next, pathAtEnd?]
    simp only [Option.any_some, Bool.and_eq_true, Bool.not_eq_true']

/-- The search for the pattern of paths finds the path that the reader of lines finds. -/
theorem find?_pathPattern (line : List Char) :
    (pathPattern.find? line).bind (part? line · 1) = pathAtEnd? none line := by
  cases line with
  | nil =>
    have noMatch : pathPattern.find? [] = none := matchAt?_pathPattern_nil []
    rw [noMatch]
    rfl
  | cons c rest =>
    rw [pathAtEnd?, Option.any_none, Bool.not_false, Bool.true_and]
    cases isWhole : isPath (c :: rest) with
    | false => exact @findFrom?_pathPattern [] c rest fun _ => isWhole
    | true =>
      have isOpen := (isPath_iff _).mp isWhole
      have isName : isNameChar c = true := by
        obtain ⟨⟨d, others, same, isName⟩, -, -⟩ := isOpen
        obtain ⟨rfl, rfl⟩ := List.cons.inj same
        rwa [contains_nameSet] at isName
      rw [if_pos rfl, find?, findFrom?]
      rcases matchAt?_pathPattern [] (c :: rest) with
        ⟨found, skipped, path, isFound, same, isStart, -, shown⟩ | ⟨noMatch, noPath⟩
      · have isFound : pathPattern.matchAt? ⟨0, c :: rest, []⟩ = some found := isFound
        rw [isFound, Option.bind_some]
        -- A path does not start behind a character that belongs to it.
        rcases isStart with ⟨-, rfl⟩ | ⟨d, rfl, isOutside⟩
        · rw [List.nil_append] at same
          rw [same]
          exact same ▸ shown
        · obtain ⟨rfl, rfl⟩ := List.cons.inj same
          rw [joinsPath, isName] at isOutside
          cases isOutside
      · exact absurd isOpen (noPath [] (c :: rest) rfl (Or.inl ⟨rfl, rfl⟩))

/-! ### Assignments and calls -/

theorem contains_targetSet (c : Char) : targetSet.contains c = true ↔ c ≠ '=' := by
  simp [CharSet.contains, targetSet, between_self]

theorem contains_argsSet (c : Char) : argsSet.contains c = true ↔ c ≠ ')' := by
  simp [CharSet.contains, argsSet, between_self]

theorem contains_bareSet (c : Char) :
    bareSet.contains c = true ↔ c ≠ '(' ∧ c ≠ '\n' ∧ c ≠ '\r' := by
  simp [CharSet.contains, bareSet, between_self]

theorem mem_ways_assignment {before after : List Char} {groups : List (Nat × Nat × Nat)}
    {next : Cursor} :
    next ∈ assignment.ways (.between before after groups) ↔
      before = [] ∧ ∃ target value, after = target ++ '=' :: value ∧ target ≠ [] ∧
        '=' ∉ target ∧ next = .between (target ++ ['=']) value groups := by
  simp only [assignment, manyOf, Pattern.char, mem_ways_sequence, mem_ways_start]
  constructor
  · rintro ⟨_, ⟨_, ⟨rfl, rfl⟩, isTarget⟩, isSign⟩
    obtain ⟨target, _, rfl, some, all, rfl⟩ := mem_ways_oneOrMore.mp isTarget
    obtain ⟨sign, value, rfl, isIn, rfl⟩ := mem_ways_one.mp isSign
    rw [contains_single, beq_iff_eq] at isIn
    subst isIn
    simp only [contains_targetSet, ne_eq, List.forall_mem_ne'] at all
    exact ⟨rfl, target, value, rfl, some, all, rfl⟩
  · rintro ⟨rfl, target, value, rfl, some, noSign, rfl⟩
    refine ⟨_, ⟨_, ⟨rfl, rfl⟩, mem_ways_oneOrMore.mpr ⟨target, '=' :: value, rfl, some, ?_, rfl⟩⟩,
      mem_ways_one.mpr ⟨'=', value, rfl, by rw [contains_single]; rfl, rfl⟩⟩
    simpa only [contains_targetSet, ne_eq, List.forall_mem_ne'] using noSign

theorem mem_ways_callPattern {before after : List Char} {next : Cursor} :
    next ∈ callPattern.ways (.between before after []) ↔
      before = [] ∧ ∃ target white name spaces args,
        after = target ++ ['='] ++ white ++ name ++ spaces ++ ['('] ++ args ∧
        (target ≠ [] ∧ '=' ∉ target) ∧ (∀ c ∈ white, whiteSet.contains c = true) ∧
        (name ≠ [] ∧ ∀ c ∈ name, nameSet.contains c = true) ∧ (∀ c ∈ spaces, c = ' ') ∧
        ')' ∉ args ∧
        next = .between (target ++ ['='] ++ white ++ name ++ spaces ++ ['('] ++ args) []
          [(2, (target ++ ['='] ++ white ++ name ++ spaces ++ ['(']).length,
              (target ++ ['='] ++ white ++ name ++ spaces ++ ['('] ++ args).length),
            (1, (target ++ ['='] ++ white).length,
              (target ++ ['='] ++ white ++ name).length)] := by
  simp only [callPattern, manyOf, anyOf, Pattern.char, mem_ways_sequence]
  constructor
  · rintro ⟨_, ⟨_, ⟨_, ⟨_, ⟨_, ⟨_, isAssigned, isWhite⟩, isNamed⟩, isSpaced⟩, isOpened⟩, isGiven⟩,
      isEnd⟩
    obtain ⟨rfl, target, _, rfl, some, noSign, rfl⟩ := mem_ways_assignment.mp isAssigned
    obtain ⟨white, _, rfl, allWhite, rfl⟩ := mem_ways_zeroOrMore.mp isWhite
    obtain ⟨_, isName, rfl⟩ := mem_ways_capture.mp isNamed
    obtain ⟨name, _, rfl, someName, allNames, rfl⟩ := mem_ways_oneOrMore.mp isName
    obtain ⟨spaces, _, rfl, allSpaces, rfl⟩ := mem_ways_zeroOrMore.mp isSpaced
    obtain ⟨opening, _, rfl, isOpening, rfl⟩ := mem_ways_one.mp isOpened
    obtain ⟨_, areArgs, rfl⟩ := mem_ways_capture.mp isGiven
    obtain ⟨args, rest, rfl, allArgs, rfl⟩ := mem_ways_zeroOrMore.mp areArgs
    obtain ⟨rfl, rfl⟩ := mem_ways_finish.mp isEnd
    rw [contains_single, beq_iff_eq] at isOpening
    subst isOpening
    simp only [contains_single, beq_iff_eq] at allSpaces
    simp only [contains_argsSet, ne_eq, List.forall_mem_ne'] at allArgs
    exact ⟨rfl, target, white, name, spaces, args, by simp, ⟨some, noSign⟩, allWhite,
      ⟨someName, allNames⟩, allSpaces, allArgs, rfl⟩
  · rintro ⟨rfl, target, white, name, spaces, args, rfl, ⟨some, noSign⟩, allWhite,
      ⟨someName, allNames⟩, allSpaces, notClosed, rfl⟩
    refine ⟨_, ⟨_, ⟨_, ⟨_, ⟨_, ⟨_,
      mem_ways_assignment.mpr ⟨rfl, target, white ++ name ++ spaces ++ ['('] ++ args, by simp, some,
        noSign, rfl⟩,
      mem_ways_zeroOrMore.mpr ⟨white, name ++ spaces ++ ['('] ++ args, by simp, allWhite, rfl⟩⟩,
      mem_ways_capture.mpr ⟨_, mem_ways_oneOrMore.mpr
        ⟨name, spaces ++ ['('] ++ args, by simp, someName, allNames, rfl⟩, rfl⟩⟩,
      mem_ways_zeroOrMore.mpr ⟨spaces, ['('] ++ args, by simp [Cursor.between], ?_, rfl⟩⟩,
      mem_ways_one.mpr ⟨'(', args, rfl, by rw [contains_single]; rfl, rfl⟩⟩,
      mem_ways_capture.mpr ⟨_, mem_ways_zeroOrMore.mpr ⟨args, [], by simp, ?_, rfl⟩, rfl⟩⟩,
      mem_ways_finish.mpr ⟨rfl, rfl⟩⟩
    · simpa only [contains_single, beq_iff_eq] using allSpaces
    · simpa only [contains_argsSet, ne_eq, List.forall_mem_ne'] using notClosed

/-- A match of the pattern of calls shows the name and the arguments of the call that a line opens,
and it fails only where the line opens none. -/
theorem find?_callPattern (line : List Char) :
    (∃ found value name args, callPattern.find? line = some found ∧ Assigns line value ∧
      OpensCall value name args ∧ part? line found 1 = some name ∧
        part? line found 2 = some args) ∨
    (callPattern.find? line = none ∧
      ∀ value name args, Assigns line value → ¬ OpensCall value name args) := by
  rw [find?_of_start fun _ _ _ isWay => (mem_ways_callPattern.mp isWay).1]
  rcases matchAt?_cases callPattern (.between [] line []) with
    ⟨next, isWay, isFound⟩ | ⟨noWay, noMatch⟩
  · obtain ⟨-, target, white, name, spaces, args, rfl, ⟨some, noSign⟩, allWhite, isName,
      allSpaces, notClosed, rfl⟩ := mem_ways_callPattern.mp isWay
    refine Or.inl ⟨_, white ++ name ++ spaces ++ '(' :: args, name, args, isFound,
      ⟨target, by simp, some, noSign⟩,
      ⟨white, spaces, rfl, allWhite, isName.1, isName.2, allSpaces, notClosed⟩, ?_, ?_⟩
    · have named := part?_of_last (target ++ ['='] ++ white) name (spaces ++ ['('] ++ args) 0
        (target ++ ['='] ++ white ++ name ++ spaces ++ ['('] ++ args).length 1 []
      rw [← List.append_assoc, ← List.append_assoc] at named
      exact named
    · have given := part?_of_last (target ++ ['='] ++ white ++ name ++ spaces ++ ['(']) args [] 0
        (target ++ ['='] ++ white ++ name ++ spaces ++ ['('] ++ args).length 2
        [(1, (target ++ ['='] ++ white).length, (target ++ ['='] ++ white ++ name).length)]
      rw [List.append_nil] at given
      exact given
  · refine Or.inr ⟨noMatch, ?_⟩
    rintro _ name args ⟨target, rfl, some, noSign⟩
      ⟨white, spaces, rfl, allWhite, someName, allNames, allSpaces, notClosed⟩
    exact noWay _ (mem_ways_callPattern.mpr ⟨rfl, target, white, name, spaces, args, by simp,
      ⟨some, noSign⟩, allWhite, ⟨someName, allNames⟩, allSpaces, notClosed, rfl⟩)

theorem mem_ways_barePattern {before after : List Char} {next : Cursor} :
    next ∈ barePattern.ways (.between before after []) ↔
      before = [] ∧ ∃ target value, after = target ++ '=' :: value ∧ target ≠ [] ∧
        '=' ∉ target ∧ isBareValue value = true ∧
        next = .between (target ++ ['='] ++ value) [] [] := by
  simp only [barePattern, manyOf, mem_ways_sequence]
  have isBare (value : List Char) :
      isBareValue value = true ↔ value ≠ [] ∧ ∀ c ∈ value, bareSet.contains c = true := by
    simp [isBareValue, contains_bareSet, and_assoc]
  constructor
  · rintro ⟨_, ⟨_, isAssigned, isValue⟩, isEnd⟩
    obtain ⟨rfl, target, _, rfl, some, noSign, rfl⟩ := mem_ways_assignment.mp isAssigned
    obtain ⟨value, rest, rfl, someValue, all, rfl⟩ := mem_ways_oneOrMore.mp isValue
    obtain ⟨rfl, rfl⟩ := mem_ways_finish.mp isEnd
    rw [List.append_nil]
    exact ⟨rfl, target, value, rfl, some, noSign, (isBare value).mpr ⟨someValue, all⟩, rfl⟩
  · rintro ⟨rfl, target, value, rfl, some, noSign, isBareValue, rfl⟩
    obtain ⟨someValue, all⟩ := (isBare value).mp isBareValue
    exact ⟨_, ⟨_, mem_ways_assignment.mpr ⟨rfl, target, value, rfl, some, noSign, rfl⟩,
      mem_ways_oneOrMore.mpr ⟨value, [], (List.append_nil _).symm, someValue, all, rfl⟩⟩,
      mem_ways_finish.mpr ⟨rfl, rfl⟩⟩

/-- The pattern of bare assignments is found exactly in the lines that assign a bare value. -/
theorem isSome_find?_barePattern (line : List Char) :
    (barePattern.find? line).isSome = true ↔
      ∃ value, assigned? line = some value ∧ isBareValue value = true := by
  simp only [assigned?_eq_some_iff]
  rw [find?_of_start fun _ _ _ isWay => (mem_ways_barePattern.mp isWay).1]
  rcases matchAt?_cases barePattern (.between [] line []) with
    ⟨next, isWay, isFound⟩ | ⟨noWay, noMatch⟩
  · obtain ⟨-, target, value, same, some, noSign, isBare, -⟩ := mem_ways_barePattern.mp isWay
    rw [isFound]
    exact iff_of_true rfl ⟨value, ⟨target, same, some, noSign⟩, isBare⟩
  · rw [noMatch]
    refine iff_of_false (by decide) ?_
    rintro ⟨value, ⟨target, same, some, noSign⟩, isBare⟩
    exact noWay _ (mem_ways_barePattern.mpr
      ⟨rfl, target, value, same, some, noSign, isBare, rfl⟩)

/-! ### The context of a line by the patterns -/

/-- The context that three patterns find in a line, tried one after the other. There is no context
if a group took no part in the match that it is read from. -/
def Context.ofPatterns? (path call bare : Pattern) (line : List Char) : Option Context :=
  match (path.find? line).bind (part? line · 1) with
  | some path => some (.dottedPath (String.ofList path))
  | none =>
    match call.find? line with
    | some found => do
      let name ← part? line found 1
      let args ← part? line found 2
      return .callArgument (String.ofList name) (String.ofList args)
    | none => some (if (bare.find? line).isSome then .postAssignment else .nothing)

/-- The readers of lines and the patterns agree. -/
theorem ofPatterns?_eq_ofLine (line : List Char) :
    Context.ofPatterns? pathPattern callPattern barePattern line = some (.ofLine line) := by
  rw [Context.ofPatterns?, Context.ofLine, find?_pathPattern]
  cases pathAtEnd? none line with
  | some path => rfl
  | none =>
    rcases find?_callPattern line with
      ⟨found, value, name, args, isFound, isAssigned, opens, isName, areArgs⟩ | ⟨noMatch, noCall⟩
    · simp only [isFound, isName, areArgs, (assigned?_eq_some_iff _ _).mpr isAssigned,
        (openCall?_eq_some_iff _ _ _).mpr opens]
      rfl
    · simp only [noMatch]
      refine congrArg some ?_
      have isBare := isSome_find?_barePattern line
      cases found : assigned? line with
      | none =>
        rw [found] at isBare
        rw [if_neg (by simp [isBare])]
      | some value =>
        have notOpen : openCall? value = none := by
          refine Option.eq_none_iff_forall_ne_some.mpr fun call opens => ?_
          exact noCall value call.1 call.2 ((assigned?_eq_some_iff _ _).mp found)
            ((openCall?_eq_some_iff _ _ _).mp opens)
        rw [found] at isBare
        simp only [Option.some.injEq, exists_eq_left'] at isBare
        simp only [notOpen, isBare]

end Banana.Completion
