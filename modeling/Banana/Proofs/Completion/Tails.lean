/-
This file says when the path of a text is only the tail of a longer one. A path never starts
directly behind a dot, a digit or another character of names; but blanks may stand in front of a
path as well as inside one, and so what follows a dot and blanks is taken for a path of its own
whenever the text up to the dot is no path that it could continue, as when a name in it has a digit.
White space of other kinds cannot stand in a path, and what follows a dot and such white space is
always a path of its own.
-/

import Banana.Proofs.Completion.Paths

namespace Banana.Completion

open Pattern

/-! ### The last visible character -/

/-- The last character of a text that is no white space. -/
def lastVisible (text : List Char) : Option Char :=
  (text.reverse.dropWhile Text.isBlank).head?

theorem lastVisible_eq_some_iff {text : List Char} {c : Char} (visible : Text.isBlank c = false) :
    lastVisible text = some c ↔
      ∃ front white, text = front ++ c :: white ∧ ∀ d ∈ white, Text.isBlank d = true := by
  rw [lastVisible, List.head?_eq_some_iff]
  constructor
  · rintro ⟨behind, isBehind⟩
    refine ⟨behind.reverse, (text.reverse.takeWhile Text.isBlank).reverse, ?_, fun d member => ?_⟩
    · have parts := List.takeWhile_append_dropWhile (p := Text.isBlank) (l := text.reverse)
      rw [isBehind] at parts
      calc text = text.reverse.reverse := text.reverse_reverse.symm
        _ = (text.reverse.takeWhile Text.isBlank ++ c :: behind).reverse := by rw [parts]
        _ = behind.reverse ++ c :: (text.reverse.takeWhile Text.isBlank).reverse := by simp
    · exact List.mem_takeWhile_imp (List.mem_reverse.mp member)
  · rintro ⟨front, white, rfl, allWhite⟩
    refine ⟨front.reverse, ?_⟩
    have reversed : (front ++ c :: white).reverse = white.reverse ++ c :: front.reverse := by simp
    rw [reversed]
    exact dropWhile_append_cons (fun d member => allWhite d (List.mem_reverse.mp member)) visible _

/-! ### Paths behind a dot and white space -/

theorem joiningSet_of_isBlank {c : Char} (isBlank : Text.isBlank c = true) :
    joiningSet.contains c = false := by
  refine Bool.eq_false_iff.mpr fun joins => ?_
  rw [← contains_whiteSet] at isBlank
  simp [CharSet.contains, joiningSet, whiteSet, Char.le_def, UInt32.le_iff_toNat_le]
    at joins isBlank
  omega

/-- The only white space in paths is the space. -/
theorem eq_space_of_pathSet {c : Char} (isBlank : Text.isBlank c = true)
    (inPath : pathSet.contains c = true) : c = ' ' := by
  rw [contains_pathSet, isPathChar, Bool.or_eq_true, Bool.or_eq_true, beq_iff_eq, beq_iff_eq]
    at inPath
  rcases inPath with (isName | isSpace) | isDot
  · rw [isBlank_of_isNameChar isName] at isBlank
    cases isBlank
  · exact isSpace
  · subst isDot
    exact absurd isBlank (by decide)

section BehindDot

variable {front white path : List Char} (allWhite : ∀ c ∈ white, Text.isBlank c = true)

include allWhite

/-- A path at the end of a line that reaches further back than one behind white space reaches over
all of the white space. -/
theorem EndsInPath.reaches_over_white {line other : List Char}
    (ends : EndsInPath (line ++ (white ++ path)) other) (longer : path.length < other.length) :
    (white ++ path).length < other.length := by
  by_contra within
  obtain ⟨isOpen, before, same, -⟩ := ends
  have isSuffix : other <:+ white ++ path :=
    List.suffix_of_suffix_length_le ⟨before, same.symm⟩ ⟨line, rfl⟩ (Nat.le_of_not_lt within)
  obtain ⟨skipped, isTail⟩ := isSuffix
  rcases List.append_eq_append_iff.mp isTail with ⟨part, inWhite, rfl⟩ | ⟨part, -, inPath⟩
  · -- The path would start with white space.
    obtain ⟨c, rest, starts, isName⟩ := isOpen.starts
    cases part with
    | nil => exact absurd longer (Nat.lt_irrefl _)
    | cons first others =>
      obtain ⟨rfl, -⟩ := List.cons.inj starts
      have isBlank := allWhite first (inWhite ▸ List.mem_append_right skipped List.mem_cons_self)
      rw [contains_nameSet] at isName
      rw [isBlank_of_isNameChar isName] at isBlank
      cases isBlank
  · rw [inPath, List.length_append] at longer
    omega

/-- What follows a dot and white space is the longest path at the end of a line exactly if it is a
path, there is white space, and the text up to the dot does not end in a path that blanks could
continue. -/
theorem isLongestPath_behind_dot_iff :
    IsLongestPath (front ++ ['.'] ++ (white ++ path)) path ↔
      IsOpenPath path ∧ white ≠ [] ∧
        ((∀ c ∈ white, c = ' ') → ∀ other, ¬ EndsInPath (front ++ ['.']) other) := by
  constructor
  · rintro ⟨⟨isOpen, before, same, free⟩, longest⟩
    have isBefore : before = front ++ ['.'] ++ white := by
      rw [← List.append_assoc] at same
      exact (List.append_cancel_right same).symm
    subst isBefore
    have nonempty : white ≠ [] := by
      rintro rfl
      rw [List.append_nil] at free
      exact absurd (free '.' List.getLast?_concat) (by decide)
    refine ⟨isOpen, nonempty, fun allSpaces other ends => ?_⟩
    obtain ⟨otherOpen, start, isStart, otherFree⟩ := ends
    have continued : EndsInPath (front ++ ['.'] ++ (white ++ path)) (other ++ (white ++ path)) := by
      refine ⟨⟨?_, fun c member => ?_, ?_⟩, start, ?_, otherFree⟩
      · obtain ⟨c, rest, rfl, isName⟩ := otherOpen.starts
        exact ⟨c, rest ++ (white ++ path), rfl, isName⟩
      · rcases List.mem_append.mp member with inOther | behind
        · exact otherOpen.consists c inOther
        · rcases List.mem_append.mp behind with inWhite | inPath
          · rw [allSpaces c inWhite]
            decide
          · exact isOpen.consists c inPath
      · rw [List.getLast?_append, List.getLast?_append, isOpen.ends]
        rfl
      · rw [isStart, List.append_assoc]
    have tooLong := longest _ continued
    rw [List.length_append, List.length_append] at tooLong
    have whiteLength := List.length_pos_iff.mpr nonempty
    omega
  · rintro ⟨isOpen, nonempty, noPath⟩
    refine ⟨⟨isOpen, front ++ ['.'] ++ white, by rw [List.append_assoc, List.append_assoc,
      List.append_assoc], ?_⟩, fun other ends => ?_⟩
    · intro c last
      rw [List.getLast?_append_of_ne_nil _ nonempty] at last
      exact joiningSet_of_isBlank (allWhite c (List.mem_of_getLast? last))
    · by_contra longer
      have reaches := ends.reaches_over_white allWhite (Nat.lt_of_not_le longer)
      obtain ⟨start, rfl, endsInStart⟩ := ends.of_append List.getLast?_concat reaches
      refine noPath (fun c member => ?_) start endsInStart
      exact eq_space_of_pathSet (allWhite c member)
        (ends.1.consists c (List.mem_append_right _ (List.mem_append_left _ member)))

end BehindDot

/-! ### The character before a path -/

/-- Whether a line ends in a path that is the tail of another one: a dot and white space stand in
front of it, and if the white space could stand in a path, then what ends in that dot is none. -/
def EndsInTail (line : List Char) : Prop :=
  ∃ front white path, line = front ++ ['.'] ++ (white ++ path) ∧
    (∀ c ∈ white, Text.isBlank c = true) ∧ IsOpenPath path ∧ white ≠ [] ∧
      ((∀ c ∈ white, c = ' ') → ∀ other, ¬ EndsInPath (front ++ ['.']) other)

/-- No character that could belong to a longer path stands directly before the path of a text. The
last visible character before it is no dot either, unless the line ends in the tail of a path. -/
theorem no_dot_before_path_iff (text : String) :
    (∀ before path, classify text = .dottedPath path →
      Text.lastLine text.toList = before ++ path.toList →
        ∀ c, before.getLast? = some c → joiningSet.contains c = false) ∧
    ((∀ before path, classify text = .dottedPath path →
      Text.lastLine text.toList = before ++ path.toList → lastVisible before ≠ some '.') ↔
        ¬ EndsInTail (Text.lastLine text.toList)) := by
  simp only [classify_eq_dottedPath_iff]
  constructor
  · rintro before path ⟨⟨-, start, isStart, free⟩, -⟩ same
    rw [List.append_cancel_right (same.symm.trans isStart)]
    exact free
  · constructor
    · rintro noDot ⟨front, white, path, same, allWhite, isTail⟩
      have isLongest := (isLongestPath_behind_dot_iff allWhite).mpr isTail
      refine noDot (front ++ '.' :: white) (String.ofList path) ?_ ?_ ?_
      · rwa [String.toList_ofList, same]
      · rw [String.toList_ofList, same]
        simp
      · exact (lastVisible_eq_some_iff (by decide)).mpr ⟨front, white, rfl, allWhite⟩
    · rintro noTail before path isLongest same isDot
      obtain ⟨front, white, rfl, allWhite⟩ := (lastVisible_eq_some_iff (by decide)).mp isDot
      have same : Text.lastLine text.toList = front ++ ['.'] ++ (white ++ path.toList) := by
        rw [same]
        simp
      rw [same] at isLongest
      exact noTail ⟨front, white, path.toList, same, allWhite,
        (isLongestPath_behind_dot_iff allWhite).mp isLongest⟩

/-- The tail of a path behind a name with a digit is taken for a path when a blank stands before
it. -/
theorem tail_behind_blank_is_path :
    classify "x = src1. a." = .dottedPath "a." ∧
      Text.lastLine "x = src1. a.".toList = "x = src1. ".toList ++ "a.".toList ∧
      lastVisible "x = src1. ".toList = some '.' := by
  exact ⟨by cbv, by cbv, by cbv⟩

end Banana.Completion
