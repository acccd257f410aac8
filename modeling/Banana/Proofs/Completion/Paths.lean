/-
This file says which texts are classified as a dotted path, and what becomes of the path when more
is typed behind it. Characters of paths and a dot make the path longer at its end, and its start
stays where it was: a path that starts earlier would have been the longer one before.
-/

import Banana.Proofs.Completion.Classification
import Banana.Proofs.Source.Places

namespace Banana.Completion

open Pattern

/-! ### Texts that end in a path -/

/-- The context of a text is the one that its last line asks for. -/
theorem classify_eq_iff (text : String) (context : Context) :
    classify text = context ↔ AsksFor (Text.lastLine text.toList) context := by
  have oneLine := (lastLine_spec text.toList).1
  constructor
  · rintro rfl
    exact asksFor_ofLine oneLine
  · exact ofLine_of_asksFor oneLine

/-- The path of a text is the longest one at the end of its last line. -/
theorem classify_eq_dottedPath_iff (text path : String) :
    classify text = .dottedPath path ↔ IsLongestPath (Text.lastLine text.toList) path.toList := by
  rw [classify_eq_iff]
  constructor
  · rintro ⟨isLongest⟩
    exact isLongest
  · exact AsksFor.path

/-- A text that is classified as a dotted path is something with that path behind it. -/
theorem exists_before_of_classify {text path : String}
    (classified : classify text = .dottedPath path) : ∃ before, text = before ++ path := by
  obtain ⟨before, same, -⟩ := ((classify_eq_dottedPath_iff text path).mp classified).ends.2
  have isSuffix : ∃ earlier, text.toList = earlier ++ Text.lastLine text.toList := by
    rcases (lastLine_spec text.toList).2 with isLine | ⟨earlier, isBehind⟩
    · exact ⟨[], isLine⟩
    · exact ⟨earlier ++ ['\n'], isBehind.trans (List.append_cons _ _ _)⟩
  obtain ⟨earlier, whole⟩ := isSuffix
  refine ⟨String.ofList (earlier ++ before), String.toList_inj.mp ?_⟩
  rw [String.toList_append, String.toList_ofList, List.append_assoc, ← same, ← whole]

/-- A line that ends in a path ends in a dot. -/
theorem EndsInPath.getLast? {line path : List Char} (ends : EndsInPath line path) :
    line.getLast? = some '.' := by
  obtain ⟨isOpen, before, rfl, -⟩ := ends
  rw [List.getLast?_append, isOpen.ends, Option.some_or]

/-! ### Paths that start before a place -/

/-- A path that reaches over the end of a line that ends in a dot is a path at the end of that line,
continued. -/
theorem EndsInPath.of_append {line tail path : List Char} (endsInDot : line.getLast? = some '.')
    (ends : EndsInPath (line ++ tail) path) (reaches : tail.length < path.length) :
    ∃ front, path = front ++ tail ∧ EndsInPath line front := by
  obtain ⟨isOpen, before, same, free⟩ := ends
  rcases List.append_eq_append_iff.mp same with ⟨part, -, inTail⟩ | ⟨front, isLine, isPath⟩
  · rw [inTail, List.length_append] at reaches
    omega
  · subst isPath
    have nonempty : front ≠ [] := by
      rintro rfl
      exact absurd reaches (Nat.lt_irrefl _)
    obtain ⟨first, rest, rfl⟩ := List.exists_cons_of_ne_nil nonempty
    refine ⟨first :: rest, rfl, ⟨?_, ?_, ?_⟩, before, isLine, free⟩
    · obtain ⟨c, others, isFirst, isName⟩ := isOpen.starts
      exact ⟨first, rest, rfl, (List.cons.inj isFirst).1 ▸ isName⟩
    · exact fun c member => isOpen.consists c (List.mem_append_left _ member)
    · rwa [isLine, List.getLast?_append_of_ne_nil _ nonempty] at endsInDot

/-! ### Typing on -/

theorem IsOpenPath.append {path more : List Char} (isOpen : IsOpenPath path)
    (all : ∀ c ∈ more, pathSet.contains c = true) : IsOpenPath (path ++ (more ++ ['.'])) where
  starts := by
    obtain ⟨c, rest, rfl, isName⟩ := isOpen.starts
    exact ⟨c, rest ++ (more ++ ['.']), rfl, isName⟩
  consists := by
    intro c member
    rcases List.mem_append.mp member with inPath | typed
    · exact isOpen.consists c inPath
    · rcases List.mem_append.mp typed with inMore | isDot
      · exact all c inMore
      · rw [List.mem_singleton.mp isDot]
        decide
  ends := by
    rw [← List.append_assoc]
    exact List.getLast?_concat

/-- What is typed behind the longest path at the end of a line makes that path longer. -/
theorem IsLongestPath.append {line path more : List Char} (isLongest : IsLongestPath line path)
    (all : ∀ c ∈ more, pathSet.contains c = true) :
    IsLongestPath (line ++ (more ++ ['.'])) (path ++ (more ++ ['.'])) where
  ends := by
    obtain ⟨isOpen, before, rfl, free⟩ := isLongest.ends
    exact ⟨isOpen.append all, before, List.append_assoc _ _ _, free⟩
  longest := by
    intro other ends
    rw [List.length_append]
    by_cases reaches : (more ++ ['.']).length < other.length
    · obtain ⟨front, rfl, endsInFront⟩ := ends.of_append isLongest.ends.getLast? reaches
      rw [List.length_append]
      exact Nat.add_le_add_right (isLongest.longest front endsInFront) _
    · exact (Nat.le_of_not_lt reaches).trans (Nat.le_add_left _ _)

/-- Characters of paths and a dot, typed behind a path, belong to it. -/
theorem classify_append {text path more : String} (classified : classify text = .dottedPath path)
    (all : ∀ c ∈ more.toList, pathSet.contains c = true) :
    classify (text ++ more ++ ".") = .dottedPath (path ++ more ++ ".") := by
  have typed (start : String) :
      (start ++ more ++ ".").toList = start.toList ++ (more.toList ++ ['.']) := by
    rw [String.toList_append, String.toList_append, List.append_assoc]
    rfl
  have oneLine : '\n' ∉ more.toList ++ ['.'] := by
    intro member
    rcases List.mem_append.mp member with inMore | isDot
    · exact absurd (all '\n' inMore) (by decide)
    · exact absurd (List.mem_singleton.mp isDot) (by decide)
  rw [classify_eq_dottedPath_iff, typed, typed, Text.lastLine_append oneLine]
  exact ((classify_eq_dottedPath_iff text path).mp classified).append all

end Banana.Completion
