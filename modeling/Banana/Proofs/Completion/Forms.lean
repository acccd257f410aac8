/-
This file says what the three forms of a line are that ask for a completion, as the ways in which
the text of the line falls into parts, and that the readers of lines recognise exactly these forms.
A line falls into the parts of a form in one way only, apart from the path at its end: there may be
several, and the longest one counts.
-/

import Mathlib
import Banana.Completion.Context
import Banana.Proofs.Pattern.Run

namespace Banana.Completion

open Pattern

/-! ### Classes of characters -/

/-- What names are made of: letters, the underscore and the dollar sign. -/
def nameSet : CharSet := ⟨false, [('A', 'Z'), ('a', 'z'), ('_', '_'), ('$', '$')]⟩

/-- What paths are made of. -/
def pathSet : CharSet :=
  ⟨false, [('A', 'Z'), ('a', 'z'), ('_', '_'), ('$', '$'), (' ', ' '), ('.', '.')]⟩

/-- What cannot stand before a path, because the path would start in the middle of a run. -/
def joiningSet : CharSet :=
  ⟨false, [('A', 'Z'), ('a', 'z'), ('0', '9'), ('_', '_'), ('$', '$'), ('.', '.')]⟩

/-- White space. -/
def whiteSet : CharSet :=
  ⟨false, [('\t', '\r'), (' ', ' '), ('\u0085', '\u0085'), ('\u00A0', '\u00A0'),
    ('\u1680', '\u1680'), ('\u2000', '\u200A'), ('\u2028', '\u2028'), ('\u2029', '\u2029'),
    ('\u202F', '\u202F'), ('\u205F', '\u205F'), ('\u3000', '\u3000')]⟩

theorem isAlpha_eq_between (c : Char) :
    c.isAlpha = (decide ('A' ≤ c) && decide (c ≤ 'Z') || decide ('a' ≤ c) && decide (c ≤ 'z')) := by
  simp [Char.isAlpha, Char.isUpper, Char.isLower, Char.le_def]

theorem isDigit_eq_between (c : Char) :
    c.isDigit = (decide ('0' ≤ c) && decide (c ≤ '9')) := by
  simp [Char.isDigit, Char.le_def]

theorem contains_nameSet : nameSet.contains = isNameChar := by
  funext c
  simp [CharSet.contains, nameSet, isNameChar, isAlpha_eq_between, between_self, Bool.or_assoc]

theorem contains_pathSet : pathSet.contains = isPathChar := by
  funext c
  simp [CharSet.contains, pathSet, isPathChar, isNameChar, isAlpha_eq_between, between_self,
    Bool.or_assoc]

theorem contains_joiningSet : joiningSet.contains = joinsPath := by
  funext c
  simp [CharSet.contains, joiningSet, joinsPath, isNameChar, isAlpha_eq_between,
    isDigit_eq_between, between_self, Bool.or_assoc, Bool.or_comm, Bool.or_left_comm]

theorem contains_whiteSet : whiteSet.contains = Text.isBlank := by
  funext c
  rw [Bool.eq_iff_iff]
  simp only [CharSet.contains, whiteSet, Text.isBlank]
  simp [Char.le_def, UInt32.le_iff_toNat_le]
  omega

/-! ### The forms -/

/-- Whether a text is a path that is to be completed: it starts like a name and ends in a dot. -/
structure IsOpenPath (path : List Char) : Prop where
  starts : ∃ c rest, path = c :: rest ∧ nameSet.contains c = true
  consists : ∀ c ∈ path, pathSet.contains c = true
  ends : path.getLast? = some '.'

/-- Whether a line ends in a path that does not start in the middle of a run. -/
def EndsInPath (line path : List Char) : Prop :=
  IsOpenPath path ∧ ∃ before, line = before ++ path ∧
    ∀ c, before.getLast? = some c → joiningSet.contains c = false

/-- Whether a path is the longest one at the end of a line. -/
structure IsLongestPath (line path : List Char) : Prop where
  ends : EndsInPath line path
  longest : ∀ other, EndsInPath line other → other.length ≤ path.length

/-- Whether a line assigns a value, by its first equals sign, to something that stands before. -/
def Assigns (line value : List Char) : Prop :=
  ∃ target, line = target ++ '=' :: value ∧ target ≠ [] ∧ '=' ∉ target

/-- Whether a value is a call with a name that has been given some arguments and is not closed. -/
def OpensCall (value name args : List Char) : Prop :=
  ∃ white spaces, value = white ++ name ++ spaces ++ '(' :: args ∧
    (∀ c ∈ white, whiteSet.contains c = true) ∧
    name ≠ [] ∧ (∀ c ∈ name, nameSet.contains c = true) ∧
    (∀ c ∈ spaces, c = ' ') ∧ ')' ∉ args

/-- Whether some value is there that is no call and is not ended by a carriage return. -/
def IsBare (value : List Char) : Prop :=
  value ≠ [] ∧ '(' ∉ value ∧ '\r' ∉ value

/-! ### Paths -/

theorem isPath_iff (text : List Char) : isPath text = true ↔ IsOpenPath text := by
  rw [isPath, ← contains_nameSet, ← contains_pathSet]
  constructor
  · intro isPath
    simp only [Bool.and_eq_true, beq_iff_eq, List.all_eq_true] at isPath
    obtain ⟨⟨first, all⟩, last⟩ := isPath
    obtain ⟨c, isFirst, isName⟩ := (Option.any_eq_true _ _).mp first
    obtain ⟨rest, same⟩ := List.head?_eq_some_iff.mp isFirst
    exact ⟨⟨c, rest, same, isName⟩, all, last⟩
  · rintro ⟨⟨c, rest, rfl, isName⟩, all, last⟩
    simp only [Bool.and_eq_true, beq_iff_eq, List.all_eq_true]
    exact ⟨⟨isName, all⟩, last⟩

/-- Whether a text ends in a path, told which character stands before the text. -/
def EndsInPathBehind (previous : Option Char) (text path : List Char) : Prop :=
  IsOpenPath path ∧ ∃ before, text = before ++ path ∧
    ∀ c, (before.getLast?.or previous) = some c → joiningSet.contains c = false

theorem endsInPathBehind_none (line path : List Char) :
    EndsInPathBehind none line path ↔ EndsInPath line path := by
  simp only [EndsInPathBehind, EndsInPath, Option.or_none]

/-- A path at the end of a text is the whole text or a path at the end of what follows the first
character. -/
theorem endsInPathBehind_cons (previous : Option Char) (c : Char) (rest path : List Char) :
    EndsInPathBehind previous (c :: rest) path ↔
      (path = c :: rest ∧ previous.any joinsPath = false ∧ isPath (c :: rest) = true) ∨
        EndsInPathBehind (some c) rest path := by
  have behind (before : List Char) :
      (c :: before).getLast?.or previous = before.getLast?.or (some c) := by
    cases before with
    | nil => rfl
    | cons next others =>
      rw [List.getLast?_cons_cons]
      cases last : (next :: others).getLast? with
      | none => exact absurd (List.getLast?_eq_none_iff.mp last) (List.cons_ne_nil _ _)
      | some d => rfl
  constructor
  · rintro ⟨isOpen, before, same, free⟩
    cases before with
    | nil =>
      have whole : path = c :: rest := same.symm
      subst whole
      refine Or.inl ⟨rfl, ?_, (isPath_iff _).mpr isOpen⟩
      cases previous with
      | none => rfl
      | some before =>
        rw [Option.any_some, ← contains_joiningSet]
        exact free before rfl
    | cons first before =>
      obtain ⟨rfl, rest_eq⟩ := List.cons.inj same
      exact Or.inr ⟨isOpen, before, rest_eq, fun d last => free d ((behind before).trans last)⟩
  · rintro (⟨rfl, free, isWhole⟩ | ⟨isOpen, before, rfl, free⟩)
    · refine ⟨(isPath_iff _).mp isWhole, [], rfl, ?_⟩
      rintro d isPrevious
      have isPrevious : previous = some d := isPrevious
      rw [isPrevious, Option.any_some, ← contains_joiningSet] at free
      exact free
    · exact ⟨isOpen, c :: before, rfl, fun d last => free d ((behind before).symm.trans last)⟩

/-- A path at the end of a text is not longer than the text. -/
theorem EndsInPathBehind.length_le {previous : Option Char} {text path : List Char}
    (ends : EndsInPathBehind previous text path) : path.length ≤ text.length := by
  obtain ⟨-, before, rfl, -⟩ := ends
  rw [List.length_append]
  omega

/-- What the reader takes is the longest path at the end of a text, and it takes nothing only where
there is no path. -/
theorem pathAtEnd?_spec (previous : Option Char) (text : List Char) :
    match pathAtEnd? previous text with
    | some path => EndsInPathBehind previous text path ∧
        ∀ other, EndsInPathBehind previous text other → other.length ≤ path.length
    | none => ∀ path, ¬ EndsInPathBehind previous text path := by
  induction text generalizing previous with
  | nil =>
    rintro path ⟨⟨⟨c, rest, rfl, -⟩, -, -⟩, before, same, -⟩
    exact absurd same (by simp)
  | cons c rest inductionHypothesis =>
    have ends (path : List Char) := endsInPathBehind_cons previous c rest path
    by_cases isWhole : previous.any joinsPath = false ∧ isPath (c :: rest) = true
    · have taken : pathAtEnd? previous (c :: rest) = some (c :: rest) := by
        rw [pathAtEnd?, isWhole.1, isWhole.2]
        rfl
      rw [taken]
      refine ⟨(ends _).mpr (Or.inl ⟨rfl, isWhole⟩), fun other isOther => isOther.length_le⟩
    · have passed : pathAtEnd? previous (c :: rest) = pathAtEnd? (some c) rest := by
        rw [pathAtEnd?, if_neg]
        simpa using isWhole
      have later (path : List Char) :
          EndsInPathBehind previous (c :: rest) path ↔ EndsInPathBehind (some c) rest path := by
        rw [ends]
        exact or_iff_right fun whole => isWhole whole.2
      rw [passed]
      simp only [later]
      exact inductionHypothesis (some c)

/-- The path that the reader finds in a line is the longest one at its end. -/
theorem pathAtEnd?_eq_some_iff (line path : List Char) :
    pathAtEnd? none line = some path ↔ IsLongestPath line path := by
  have spec := pathAtEnd?_spec none line
  simp only [endsInPathBehind_none] at spec
  cases found : pathAtEnd? none line with
  | none =>
    rw [found] at spec
    constructor
    · intro impossible
      cases impossible
    · intro isLongest
      exact absurd isLongest.ends (spec path)
  | some taken =>
    rw [found] at spec
    constructor
    · rintro ⟨⟩
      exact ⟨spec.1, spec.2⟩
    · intro isLongest
      -- Of two ends of one line with the same length there is only one.
      have sameLength : taken.length = path.length :=
        Nat.le_antisymm (isLongest.longest taken spec.1) (spec.2 path isLongest.ends)
      obtain ⟨-, before, same, -⟩ := spec.1
      obtain ⟨-, other, otherSame, -⟩ := isLongest.ends
      rw [(List.append_inj' (same.symm.trans otherSame) sameLength).2]

theorem pathAtEnd?_eq_none_iff (line : List Char) :
    pathAtEnd? none line = none ↔ ∀ path, ¬ EndsInPath line path := by
  have spec := pathAtEnd?_spec none line
  simp only [endsInPathBehind_none] at spec
  cases found : pathAtEnd? none line with
  | none =>
    rw [found] at spec
    exact ⟨fun _ => spec, fun _ => rfl⟩
  | some taken =>
    rw [found] at spec
    constructor
    · intro impossible
      cases impossible
    · intro noPath
      exact absurd spec.1 (noPath taken)

/-! ### Runs in front of something else -/

/-- A run of characters with a property, in front of a character without it, is all that is taken.
-/
theorem takeWhile_append_cons {test : Char → Bool} {run : List Char}
    (all : ∀ c ∈ run, test c = true) {stop : Char} (stops : test stop = false)
    (rest : List Char) : (run ++ stop :: rest).takeWhile test = run := by
  rw [List.takeWhile_append_of_pos all, List.takeWhile_cons_of_neg (by simp [stops]),
    List.append_nil]

theorem dropWhile_append_cons {test : Char → Bool} {run : List Char}
    (all : ∀ c ∈ run, test c = true) {stop : Char} (stops : test stop = false)
    (rest : List Char) : (run ++ stop :: rest).dropWhile test = stop :: rest := by
  rw [List.dropWhile_append_of_pos all, List.dropWhile_cons_of_neg (by simp [stops])]

/-! ### Assignments and calls -/

theorem assigned?_eq_some_iff (line value : List Char) :
    assigned? line = some value ↔ Assigns line value := by
  constructor
  · intro isAssigned
    have parts := List.takeWhile_append_dropWhile (p := (· != '=')) (l := line)
    rw [assigned?] at isAssigned
    split at isAssigned
    · next first target sign behind isTarget isBehind =>
      cases isAssigned
      have isSign : sign = '=' := by
        have stops := List.head?_dropWhile_not (· != '=') line
        rw [isBehind] at stops
        simpa using stops
      subst isSign
      refine ⟨first :: target, ?_, List.cons_ne_nil _ _, ?_⟩
      · rw [← isTarget, ← isBehind, parts]
      · rw [← isTarget]
        intro member
        have notSign : ('=' != '=') = true := List.mem_takeWhile_imp (p := (· != '=')) member
        exact absurd notSign (by decide)
    · cases isAssigned
  · rintro ⟨target, rfl, some, noSign⟩
    have all : ∀ c ∈ target, (c != '=') = true := by
      intro c member
      exact bne_iff_ne.mpr fun isSign => noSign (isSign ▸ member)
    rw [assigned?, takeWhile_append_cons all (by decide), dropWhile_append_cons all (by decide)]
    cases target with
    | nil => exact absurd rfl some
    | cons c rest => rfl

/-- What starts a name is no white space. -/
theorem isBlank_of_isNameChar {c : Char} (isName : isNameChar c = true) :
    Text.isBlank c = false := by
  refine Bool.eq_false_iff.mpr fun isBlank => ?_
  rw [← contains_nameSet] at isName
  rw [← contains_whiteSet] at isBlank
  simp [CharSet.contains, nameSet, whiteSet, Char.le_def, UInt32.le_iff_toNat_le] at isName isBlank
  omega

theorem openCall?_eq_some_iff (value name args : List Char) :
    openCall? value = some (name, args) ↔ OpensCall value name args := by
  constructor
  · intro isOpen
    have white := List.takeWhile_append_dropWhile (p := Text.isBlank) (l := value)
    have called := List.takeWhile_append_dropWhile (p := isNameChar)
      (l := value.dropWhile Text.isBlank)
    have spaced := List.takeWhile_append_dropWhile (p := (· == ' '))
      (l := (value.dropWhile Text.isBlank).dropWhile isNameChar)
    rw [openCall?] at isOpen
    split at isOpen
    · next first others behind isName isBehind =>
      split at isOpen
      · cases isOpen
      · next notClosed =>
        cases isOpen
        refine ⟨value.takeWhile Text.isBlank,
          ((value.dropWhile Text.isBlank).dropWhile isNameChar).takeWhile (· == ' '), ?_, ?_,
          by rw [isName]; exact List.cons_ne_nil _ _, ?_, ?_, ?_⟩
        · rw [List.append_assoc, List.append_assoc, ← isBehind, spaced, called, white]
        · intro c member
          rw [contains_whiteSet]
          exact List.mem_takeWhile_imp member
        · intro c member
          rw [contains_nameSet]
          exact List.mem_takeWhile_imp member
        · intro c member
          exact beq_iff_eq.mp (List.mem_takeWhile_imp (p := (· == ' ')) member)
        · simpa using notClosed
    · cases isOpen
  · rintro ⟨white, spaces, rfl, allWhite, some, allNames, allSpaces, notClosed⟩
    rw [contains_whiteSet] at allWhite
    rw [contains_nameSet] at allNames
    obtain ⟨first, others, rfl⟩ := List.exists_cons_of_ne_nil some
    have noBlank := isBlank_of_isNameChar (allNames first List.mem_cons_self)
    have behindWhite : (white ++ (first :: others) ++ spaces ++ '(' :: args).dropWhile
        Text.isBlank = (first :: others) ++ (spaces ++ '(' :: args) := by
      rw [List.append_assoc, List.append_assoc]
      exact dropWhile_append_cons allWhite noBlank _
    have spacesTest : ∀ c ∈ spaces, (c == ' ') = true := fun c member =>
      beq_iff_eq.mpr (allSpaces c member)
    -- Behind the name stands a space or the parenthesis, neither of which is a part of names.
    have nameEnds :
        ∃ stop rest, spaces ++ '(' :: args = stop :: rest ∧ isNameChar stop = false := by
      cases spaces with
      | nil => exact ⟨'(', args, rfl, by decide⟩
      | cons c rest =>
        have isSpace := allSpaces c List.mem_cons_self
        exact ⟨c, rest ++ '(' :: args, rfl, by rw [isSpace]; decide⟩
    obtain ⟨stop, rest, behindName, stops⟩ := nameEnds
    have taken : ((first :: others) ++ (spaces ++ '(' :: args)).takeWhile isNameChar =
        first :: others := by
      rw [behindName]
      exact takeWhile_append_cons allNames stops rest
    have dropped : ((first :: others) ++ (spaces ++ '(' :: args)).dropWhile isNameChar =
        spaces ++ '(' :: args := by
      rw [behindName]
      exact dropWhile_append_cons allNames stops rest
    rw [openCall?, behindWhite, taken, dropped, dropWhile_append_cons spacesTest (by decide)]
    simp [notClosed]

theorem isBareValue_iff (value : List Char) :
    isBareValue value = true ↔ IsBare value ∧ '\n' ∉ value := by
  simp only [isBareValue, IsBare, Bool.and_eq_true, Bool.not_eq_true', List.isEmpty_eq_false_iff,
    List.all_eq_true, bne_iff_ne, ne_eq]
  constructor
  · rintro ⟨some, all⟩
    refine ⟨⟨some, fun member => ?_, fun member => ?_⟩, fun member => ?_⟩
    · exact (all _ member).1.1 rfl
    · exact (all _ member).2 rfl
    · exact (all _ member).1.2 rfl
  · rintro ⟨⟨some, noCall, noReturn⟩, noFeed⟩
    refine ⟨some, fun c member => ⟨⟨?_, ?_⟩, ?_⟩⟩
    · rintro rfl
      exact noCall member
    · rintro rfl
      exact noFeed member
    · rintro rfl
      exact noReturn member

end Banana.Completion
