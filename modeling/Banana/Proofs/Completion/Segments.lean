/-
This file says which part of a dotted path counts. Texts without a dot that are joined by dots are
the segments of the path again, up to the white space around each of them. The first one is looked
up as a variable, those in the middle are members, one inside the other, and the last one is not
read at all; only a path that has no dot is a variable as a whole. A walk through the members can
be broken off behind any of them and taken up again from the type that it has reached.
-/

import Mathlib.Data.List.Forall2
import Banana.Proofs.Completion.Walks

namespace Banana.Text

/-- White space around a text is trimmed with whatever the text itself has. -/
theorem trim_padded {before after : List Char} (blankBefore : ∀ c ∈ before, isBlank c = true)
    (blankAfter : ∀ c ∈ after, isBlank c = true) (text : List Char) :
    trim (before ++ text ++ after) = trim text := by
  have blankBehind : ∀ c ∈ after.reverse, isBlank c = true :=
    fun c member => blankAfter c (List.mem_reverse.mp member)
  rw [trim, trim, List.append_assoc, List.dropWhile_append_of_pos blankBefore,
    List.dropWhile_append]
  by_cases allBlank : (text.dropWhile isBlank).isEmpty
  · have nothing : after.dropWhile isBlank = [] := List.dropWhile_eq_nil_iff.mpr blankAfter
    rw [if_pos allBlank, nothing, List.isEmpty_iff.mp allBlank]
  · rw [if_neg allBlank, List.reverse_append, List.dropWhile_append_of_pos blankBehind]

end Banana.Text

namespace Banana.Completion

open Schema

/-! ### Segments -/

/-- A segment as it is looked up, without the white space around it. -/
def plain (segment : String) : String :=
  String.ofList (Text.trim segment.toList)

/-- Whether a segment is written with white space added before or behind it. -/
def IsPadded (segment written : String) : Prop :=
  ∃ before after : List Char, (∀ c ∈ before, Text.isBlank c = true) ∧
    (∀ c ∈ after, Text.isBlank c = true) ∧ written.toList = before ++ segment.toList ++ after

theorem IsPadded.plain_eq {segment written : String} (padded : IsPadded segment written) :
    plain written = plain segment := by
  obtain ⟨before, after, blankBefore, blankAfter, isWritten⟩ := padded
  rw [plain, plain, isWritten, Text.trim_padded blankBefore blankAfter]

theorem IsPadded.map_plain_eq {names written : List String}
    (padded : List.Forall₂ IsPadded names written) : written.map plain = names.map plain := by
  induction padded with
  | nil => rfl
  | cons first _ inductionHypothesis =>
    rw [List.map_cons, List.map_cons, first.plain_eq, inductionHypothesis]

/-- White space brings no dot into a segment. -/
theorem IsPadded.uncut {segment written : String} (padded : IsPadded segment written)
    (uncut : '.' ∉ segment.toList) : '.' ∉ written.toList := by
  have notBlank : Text.isBlank '.' = false := rfl
  obtain ⟨before, after, blankBefore, blankAfter, isWritten⟩ := padded
  rw [isWritten, List.mem_append, List.mem_append]
  rintro ((inBefore | inSegment) | inAfter)
  · exact Bool.false_ne_true (notBlank.symm.trans (blankBefore '.' inBefore))
  · exact uncut inSegment
  · exact Bool.false_ne_true (notBlank.symm.trans (blankAfter '.' inAfter))

theorem IsPadded.forall_uncut {names written : List String}
    (padded : List.Forall₂ IsPadded names written) (uncut : ∀ name ∈ names, '.' ∉ name.toList) :
    ∀ part ∈ written, '.' ∉ part.toList := by
  induction padded with
  | nil => exact fun _ member => absurd member List.not_mem_nil
  | cons first _ inductionHypothesis =>
    obtain ⟨nameUncut, othersUncut⟩ := List.forall_mem_cons.mp uncut
    exact List.forall_mem_cons.mpr ⟨first.uncut nameUncut, inductionHypothesis othersUncut⟩

theorem segments_of_uncut {segment : String} (uncut : '.' ∉ segment.toList) :
    segments segment = [plain segment] := by
  rw [segments, Text.split_of_not_mem uncut]
  rfl

/-- Texts without a dot are the segments of the path that joins them. -/
theorem segments_intercalate {parts : List String} (nonempty : parts ≠ [])
    (uncut : ∀ part ∈ parts, '.' ∉ part.toList) :
    segments (".".intercalate parts) = parts.map plain := by
  induction parts with
  | nil => exact absurd rfl nonempty
  | cons first rest inductionHypothesis =>
    obtain ⟨firstUncut, restUncut⟩ := List.forall_mem_cons.mp uncut
    by_cases single : rest = []
    · rw [single, String.intercalate_singleton, segments_of_uncut firstUncut]
      rfl
    · rw [String.intercalate_cons_of_ne_nil single, segments_append, segments_of_uncut firstUncut,
        inductionHypothesis single restUncut]
      rfl

/-! ### Lookups -/

/-- What a variable has in the table, and from there one member after the other. Where one is
missing, there is nothing behind it. -/
def lookups (table : TypeTable) (root : String) (names : List String) : Option ValueType :=
  names.foldl (fun found name => found.bind (·.member? name)) (table.lookup root)

theorem foldl_member?_eq (names : List String) (found : Option ValueType) :
    names.foldl (fun found name => found.bind (·.member? name)) found =
      found.bind (·.memberPath? names) := by
  induction names generalizing found with
  | nil => exact (Option.bind_fun_some found).symm
  | cons name rest inductionHypothesis =>
    rw [List.foldl_cons, inductionHypothesis, Option.bind_assoc]
    rfl

theorem lookups_eq_walk? (table : TypeTable) (root : String) (names : List String) :
    lookups table root names = walk? table (root :: names) :=
  foldl_member?_eq names (table.lookup root)

/-- A path whose segments are given leads where all but the last one lead. -/
theorem resolvePath?_intercalate (table : TypeTable) {root last : String} {middle : List String}
    (uncut : ∀ part ∈ root :: middle ++ [last], '.' ∉ part.toList) :
    resolvePath? (".".intercalate (root :: middle ++ [last])) table =
      walk? table (plain root :: middle.map plain) := by
  rw [resolvePath?, segments_intercalate (by simp) uncut, List.map_append, List.map_cons,
    List.cons_append]
  show (table.lookup (plain root)).bind
    (·.memberPath? (middle.map plain ++ [plain last]).dropLast) = _
  rw [List.dropLast_concat]
  rfl

/-- A path of segments without dots, each written with any white space around it, leads to what its
first segment has in the table and from there to the members that its middle segments name, up to
that white space; what the last segment is makes no difference. A path without a dot leads to what
it has in the table itself. Hence a path leads where its first members lead and then the others,
wherever among its members it is broken off. -/
theorem resolvePath?_reads_front (table : TypeTable) {root writtenRoot last : String}
    {names written : List String} (uncut : ∀ segment ∈ root :: last :: names, '.' ∉ segment.toList)
    (rootPadded : IsPadded root writtenRoot) (padded : List.Forall₂ IsPadded names written) :
    resolvePath? (".".intercalate (writtenRoot :: written ++ [last])) table =
        lookups table (plain root) (names.map plain) ∧
      resolvePath? writtenRoot table = table.lookup (plain root) ∧
      ∀ count,
        resolvePath? (".".intercalate (writtenRoot :: written ++ [last])) table =
            (resolvePath? (".".intercalate (writtenRoot :: written.take count ++ [last]))
                table).bind
              (·.memberPath? ((names.drop count).map plain)) ∧
          ∀ type : ValueType, type.memberPath? (names.map plain) =
            (type.memberPath? ((names.take count).map plain)).bind
              (·.memberPath? ((names.drop count).map plain)) := by
  obtain ⟨rootUncut, lastUncut, namesUncut⟩ :
      '.' ∉ root.toList ∧ '.' ∉ last.toList ∧ ∀ name ∈ names, '.' ∉ name.toList := by
    simpa only [List.forall_mem_cons] using uncut
  have writtenUncut := IsPadded.forall_uncut padded namesUncut
  have partsUncut {middle : List String} (inWritten : ∀ part ∈ middle, part ∈ written) :
      ∀ part ∈ writtenRoot :: middle ++ [last], '.' ∉ part.toList := by
    intro part member
    rcases List.mem_append.mp member with inFront | isLast
    · rcases List.mem_cons.mp inFront with rfl | inMiddle
      · exact rootPadded.uncut rootUncut
      · exact writtenUncut part (inWritten part inMiddle)
    · rw [List.mem_singleton.mp isLast]
      exact lastUncut
  have whole := resolvePath?_intercalate table (partsUncut fun _ member => member)
  rw [rootPadded.plain_eq, IsPadded.map_plain_eq padded] at whole
  refine ⟨whole.trans (lookups_eq_walk? table _ _).symm, ?_, fun count => ⟨?_, fun type => ?_⟩⟩
  · rw [resolvePath?, segments_of_uncut (rootPadded.uncut rootUncut), rootPadded.plain_eq]
    exact Option.bind_fun_some (table.lookup (plain root))
  · have front := resolvePath?_intercalate table
      (partsUncut fun part (member : part ∈ written.take count) => List.mem_of_mem_take member)
    rw [whole, front, rootPadded.plain_eq, List.map_take, IsPadded.map_plain_eq padded,
      ← walk?_append table (List.cons_ne_nil _ _), List.cons_append, List.map_drop,
      List.take_append_drop]
  · rw [← type.memberPath?_append, ← List.map_append, List.take_append_drop]

/-- A table with a variable that has a member inside a member. -/
def nestedRecord : TypeTable :=
  .ofList [("x", .object [("a", .object [("b", .number)])])]

/-- White space of any kind around the segments, and a last one that is no member. -/
theorem padded_path_leads_to_number :
    resolvePath? (".".intercalate (" x\t" :: [" a ", "b\u00a0"] ++ ["zz"])) nestedRecord =
      some .number := by
  have blank : ∀ c ∈ [' ', '\t', '\u00a0'], Text.isBlank c = true :=
    List.all_eq_true.mp rfl
  have padded (before after : List Char) {segment written : String}
      (blankBefore : before ⊆ [' ', '\t', '\u00a0']) (blankAfter : after ⊆ [' ', '\t', '\u00a0'])
      (isWritten : written.toList = before ++ segment.toList ++ after) :
      IsPadded segment written :=
    ⟨before, after, fun c member => blank c (blankBefore member),
      fun c member => blank c (blankAfter member), isWritten⟩
  have uncut : ∀ segment ∈ ["x", "zz", "a", "b"], '.' ∉ segment.toList := by decide
  have root : IsPadded "x" " x\t" := padded [' '] ['\t'] (by decide) (by decide) (by decide)
  have names : List.Forall₂ IsPadded ["a", "b"] [" a ", "b\u00a0"] :=
    .cons (padded [' '] [' '] (by decide) (by decide) (by decide))
      (.cons (padded [] ['\u00a0'] (by decide) (by simp) (by decide)) .nil)
  rw [(resolvePath?_reads_front nestedRecord uncut root names).1]
  rfl

end Banana.Completion
