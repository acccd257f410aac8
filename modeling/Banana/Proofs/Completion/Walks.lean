/-
This file says where a dotted path leads, segment by segment. A path is cut at its dots, the first
segment is a variable and each further one a member, and what is being typed behind the last dot
does not count; so a path with a name and a dot behind it leads one member further.
-/

import Mathlib.Data.List.TakeWhile
import Banana.Completion.Resolve
import Banana.Proofs.Completion.Forms

namespace Banana.Text

theorem trim_of_no_blank {text : List Char} (noBlank : ∀ c ∈ text, isBlank c = false) :
    trim text = text := by
  have untouched {text : List Char} (noBlank : ∀ c ∈ text, isBlank c = false) :
      text.dropWhile isBlank = text :=
    List.dropWhile_eq_self_iff.mpr fun filled => by simp [noBlank _ (List.getElem_mem filled)]
  rw [trim, untouched noBlank, untouched fun c member => noBlank c (List.mem_reverse.mp member),
    List.reverse_reverse]

end Banana.Text

namespace Banana.Completion

open Pattern Schema

/-! ### Segments -/

theorem segments_append (first second : String) :
    segments (first ++ "." ++ second) = segments first ++ segments second := by
  rw [segments, segments, segments, ← List.map_append, ← Text.split_append, String.toList_append,
    String.toList_append, List.append_assoc]
  rfl

theorem segments_ne_nil (path : String) : segments path ≠ [] :=
  fun none => Text.split_ne_nil '.' path.toList (List.map_eq_nil_iff.mp none)

/-- Whether a text is a name. -/
structure IsName (name : List Char) : Prop where
  nonempty : name ≠ []
  consists : ∀ c ∈ name, nameSet.contains c = true

instance (name : List Char) : Decidable (IsName name) :=
  decidable_of_iff (name ≠ [] ∧ name.all nameSet.contains = true)
    ⟨fun both => ⟨both.1, List.all_eq_true.mp both.2⟩,
      fun isName => ⟨isName.nonempty, List.all_eq_true.mpr isName.consists⟩⟩

theorem isNameChar_of_isName {name : List Char} (isName : IsName name) {c : Char}
    (member : c ∈ name) : isNameChar c = true := by
  rw [← contains_nameSet]
  exact isName.consists c member

/-- A name is one segment. -/
theorem segments_of_isName {name : String} (isName : IsName name.toList) :
    segments name = [name] := by
  have noDot : '.' ∉ name.toList := fun member =>
    absurd (isNameChar_of_isName isName member) (by decide)
  have trimmed : Text.trim name.toList = name.toList :=
    Text.trim_of_no_blank fun c member => isBlank_of_isNameChar (isNameChar_of_isName isName member)
  rw [segments, Text.split_of_not_mem noDot, List.map_singleton, trimmed, String.ofList_toList]

/-! ### Walks -/

/-- The type that a variable leads to, and from there one member after the other. -/
def walk? (table : TypeTable) : List String → Option ValueType
  | [] => none
  | root :: rest => (table.lookup root).bind (·.memberPath? rest)

theorem walk?_append (table : TypeTable) {steps : List String} (started : steps ≠ [])
    (more : List String) :
    walk? table (steps ++ more) = (walk? table steps).bind (·.memberPath? more) := by
  obtain ⟨root, rest, rfl⟩ := List.exists_cons_of_ne_nil started
  rw [List.cons_append, walk?, walk?, Option.bind_assoc]
  exact Option.bind_congr fun type _ => type.memberPath?_append rest more

/-- A path that ends in a dot leads where its segments before that dot lead. -/
theorem resolvePath?_dot (table : TypeTable) (front : String) :
    resolvePath? (front ++ ".") table = walk? table (segments front) := by
  have cut : segments (front ++ ".") = segments front ++ [""] := by
    have dotted := segments_append front ""
    rwa [String.append_empty] at dotted
  obtain ⟨root, rest, isFront⟩ := List.exists_cons_of_ne_nil (segments_ne_nil front)
  rw [resolvePath?, cut, isFront, List.cons_append]
  show (table.lookup root).bind (·.memberPath? (rest ++ [""]).dropLast) = _
  rw [List.dropLast_concat]
  rfl

/-- A name and a dot behind a path that ends in a dot lead to the member with that name. -/
theorem resolvePath?_append (table : TypeTable) {path name : String}
    (ends : path.toList.getLast? = some '.') (isName : IsName name.toList) :
    resolvePath? (path ++ name ++ ".") table =
      (resolvePath? path table).bind (·.member? name) := by
  obtain ⟨front, isPath⟩ := List.getLast?_eq_some_iff.mp ends
  have isPath : path = String.ofList front ++ "." := by
    rw [← String.toList_inj, isPath, String.toList_append, String.toList_ofList]
    rfl
  rw [isPath, resolvePath?_dot, resolvePath?_dot, segments_append, segments_of_isName isName,
    walk?_append table (segments_ne_nil _)]
  exact Option.bind_congr fun type _ => Option.bind_fun_some (type.member? name)

end Banana.Completion
