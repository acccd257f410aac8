/-
This file follows the call skeleton that is offered behind an assignment sign. When it has been
typed up to its parenthesis, the parameters of the component are what should be offered next. They
are, if the name has no digit; names of components may have digits, they are highlighted and offered
all the same, but the form of calls reads letters, underscores and dollar signs only, so that
nothing at all is offered in a call of such a component.
-/

import Banana.Proofs.Completion.Paths
import Banana.Proofs.Completion.Walks
import Banana.Proofs.Language.ComponentNames

namespace Banana.Completion

open Direct Pattern Schema

/-! ### Behind the assignment sign -/

/-- Whether a text can stand before the sign that assigns something to it. -/
structure IsTarget (target : List Char) : Prop where
  nonempty : target ≠ []
  noSign : '=' ∉ target
  oneLine : '\n' ∉ target

/-- A line assigns only one value, the one behind its first equals sign. -/
theorem Assigns.unique {line first second : List Char} (isFirst : Assigns line first)
    (isSecond : Assigns line second) : first = second :=
  Option.some.inj (((assigned?_eq_some_iff line first).mpr isFirst).symm.trans
    ((assigned?_eq_some_iff line second).mpr isSecond))

theorem not_endsInPath_of_getLast? {line : List Char} {c : Char} (last : line.getLast? = some c)
    (noDot : c ≠ '.') (path : List Char) : ¬ EndsInPath line path :=
  fun ends => noDot (Option.some.inj (last.symm.trans ends.getLast?))

/-! ### Names and parentheses -/

/-- A blank, a name and the parenthesis that opens a call. -/
def skeleton (name : List Char) : List Char := ' ' :: name ++ ['(']

theorem getLast?_skeleton (target name : List Char) :
    (target ++ '=' :: skeleton name).getLast? = some '(' := by
  rw [skeleton, List.getLast?_append_of_ne_nil _ (List.cons_ne_nil _ _), ← List.cons_append,
    List.getLast?_concat]

theorem not_isDigit_of_whiteSet {c : Char} (isWhite : whiteSet.contains c = true) :
    c.isDigit = false := by
  refine Bool.eq_false_iff.mpr fun isDigit => ?_
  simp [CharSet.contains, whiteSet, isDigit_eq_between, Char.le_def, UInt32.le_iff_toNat_le]
    at isWhite isDigit
  omega

theorem not_isDigit_of_nameSet {c : Char} (isName : nameSet.contains c = true) :
    c.isDigit = false := by
  refine Bool.eq_false_iff.mpr fun isDigit => ?_
  simp [CharSet.contains, nameSet, isDigit_eq_between, Char.le_def, UInt32.le_iff_toNat_le]
    at isName isDigit
  omega

/-- The form of calls does not read a name with a digit. -/
theorem not_opensCall_of_isDigit {name : List Char} {c : Char} (member : c ∈ name)
    (isDigit : c.isDigit = true) (unopened : '(' ∉ name) (called args : List Char) :
    ¬ OpensCall (skeleton name) called args := by
  rintro ⟨white, spaces, same, allWhite, -, allNames, allSpaces, -⟩
  -- Everything before the first parenthesis is white space, characters of names or spaces.
  have noDigit : ∀ d ∈ white ++ called ++ spaces, d ≠ '(' ∧ d.isDigit = false := by
    intro d isIn
    rcases List.mem_append.mp isIn with inFront | inSpaces
    · rcases List.mem_append.mp inFront with inWhite | inName
      · refine ⟨?_, not_isDigit_of_whiteSet (allWhite d inWhite)⟩
        rintro rfl
        exact absurd (allWhite _ inWhite) (by decide)
      · refine ⟨?_, not_isDigit_of_nameSet (allNames d inName)⟩
        rintro rfl
        exact absurd (allNames _ inName) (by decide)
    · rw [allSpaces d inSpaces]
      exact ⟨by decide, by decide⟩
  have front : (skeleton name).takeWhile (· != '(') = ' ' :: name := by
    refine takeWhile_append_cons (fun d isIn => bne_iff_ne.mpr ?_) (by decide) []
    rcases List.mem_cons.mp isIn with rfl | inName
    · decide
    · exact ne_of_mem_of_not_mem inName unopened
  rw [same, takeWhile_append_cons (fun d isIn => bne_iff_ne.mpr (noDigit d isIn).1) (by decide)]
    at front
  have digitless := (noDigit c (front ▸ List.mem_cons_of_mem ' ' member)).2
  rw [isDigit] at digitless
  cases digitless

/-! ### The contexts of an assignment -/

section Target

variable {target : List Char} (isTarget : IsTarget target)

include isTarget

theorem IsTarget.assigns (value : List Char) : Assigns (target ++ '=' :: value) value :=
  ⟨target, rfl, isTarget.nonempty, isTarget.noSign⟩

/-- The context of a text that is an assignment is the one that the line asks for. -/
theorem IsTarget.classify {text : String} {value : List Char}
    (typed : text.toList = target ++ '=' :: value) (oneLine : '\n' ∉ value) {context : Context}
    (asks : AsksFor (target ++ '=' :: value) context) : classify text = context := by
  have wholeOneLine : '\n' ∉ target ++ '=' :: value := by
    intro member
    rcases List.mem_append.mp member with inTarget | inValue
    · exact isTarget.oneLine inTarget
    · exact oneLine ((List.mem_cons.mp inValue).resolve_left (by decide))
  rw [classify_eq_iff, typed, Text.lastLine_of_not_mem wholeOneLine]
  exact asks

/-- A blank behind the sign asks for a component. -/
theorem IsTarget.asksFor_blank : AsksFor (target ++ ['=', ' ']) .postAssignment := by
  refine AsksFor.bare (not_endsInPath_of_getLast? (c := ' ') (by simp) (by decide))
    (isTarget.assigns [' ']) ?_ ⟨by decide, by decide, by decide⟩
  rintro name args ⟨white, spaces, same, -⟩
  have member : '(' ∈ [' '] := same ▸ List.mem_append_right _ List.mem_cons_self
  exact absurd member (by decide)

/-- A name and a parenthesis open a call with that name. -/
theorem IsTarget.asksFor_call {name : String} (isName : IsName name.toList) :
    AsksFor (target ++ '=' :: skeleton name.toList) (.callArgument name "") := by
  refine AsksFor.call (not_endsInPath_of_getLast? (getLast?_skeleton _ _) (by decide))
    (isTarget.assigns _)
    ⟨[' '], [], by simp [skeleton], ?_, isName.nonempty, isName.consists, ?_, ?_⟩
  · simpa using (by decide : whiteSet.contains ' ' = true)
  · exact fun c member => absurd member List.not_mem_nil
  · exact List.not_mem_nil

/-- A name with a digit opens no call, and with the parenthesis behind it there is nothing else that
could be completed. -/
theorem IsTarget.asksFor_nothing {name : List Char} {c : Char} (member : c ∈ name)
    (isDigit : c.isDigit = true) (unopened : '(' ∉ name) :
    AsksFor (target ++ '=' :: skeleton name) .nothing := by
  refine AsksFor.nothing (not_endsInPath_of_getLast? (getLast?_skeleton _ _) (by decide))
    fun value assigns => ?_
  obtain rfl := (isTarget.assigns _).unique assigns
  exact ⟨not_opensCall_of_isDigit member isDigit unopened,
    fun isBare => isBare.2.1 (by simp [skeleton])⟩

end Target

/-! ### What is offered in a skeleton -/

/-- A snippet as far as its first parenthesis. -/
def upToParenthesis (snippet : String) : String :=
  String.ofList (snippet.toList.takeWhile (· != '(') ++ ['('])

theorem upToParenthesis_component {component : Component}
    (unopened : '(' ∉ component.name.toList) :
    upToParenthesis (Candidate.component component).insertText = component.name ++ "(" := by
  have all : ∀ c ∈ component.name.toList, (c != '(') = true :=
    fun c member => bne_iff_ne.mpr (ne_of_mem_of_not_mem member unopened)
  rw [upToParenthesis, Candidate.component, String.toList_append]
  show String.ofList ((component.name.toList ++ '(' :: _).takeWhile (· != '(') ++ ['(']) = _
  rw [takeWhile_append_cons all (by decide), String.ofList_append, String.ofList_toList]

/-- A capitalised word is a name that the form of calls reads, if it has no digit. -/
theorem isName_of_isCapitalisedWord {word : List Char} (isWord : IsCapitalisedWord word)
    (digitless : ∀ c ∈ word, c.isDigit = false) : IsName word where
  nonempty := by
    rintro rfl
    exact absurd isWord.starts (by decide)
  consists := by
    intro c member
    have isPart := isWord.consists c member
    have noDigit := digitless c member
    rw [isDigit_eq_between] at noDigit
    rw [contains_nameSet, isNameChar, isAlpha_eq_between]
    simpa [isWordPart, isCapital, isSmall, Direct.isDigit, noDigit, or_assoc] using isPart

/-- Between a target and the arguments of a call stands its name, without a digit, and where there
is a digit there is no call. -/
theorem classify_skeleton {target name : String} (isTarget : IsTarget target.toList)
    (isWord : IsCapitalisedWord name.toList) :
    classify (target ++ "= " ++ name ++ "(") =
      if name.toList.any Char.isDigit then .nothing else .callArgument name "" := by
  have typed : (target ++ "= " ++ name ++ "(").toList =
      target.toList ++ '=' :: skeleton name.toList := by
    simp only [String.toList_append, List.append_assoc]
    rfl
  have notWordPart {c : Char} (isOther : isWordPart c = false) : c ∉ name.toList :=
    fun member => by simp [isWord.consists c member] at isOther
  have oneLine : '\n' ∉ skeleton name.toList := by
    simp [skeleton, notWordPart (show isWordPart '\n' = false by decide)]
  refine isTarget.classify typed oneLine ?_
  cases hasDigit : name.toList.any Char.isDigit with
  | true =>
    obtain ⟨c, member, isDigit⟩ := List.any_eq_true.mp hasDigit
    exact isTarget.asksFor_nothing member isDigit (notWordPart (by decide))
  | false =>
    refine isTarget.asksFor_call (isName_of_isCapitalisedWord isWord fun c member => ?_)
    simpa using List.any_eq_false.mp hasDigit c member

/-- For every component whose name is highlighted as such, its call skeleton is offered behind an
assignment sign. With the skeleton typed up to its parenthesis, exactly the parameters of the first
component of that name are offered, in order and without anything before them, if the name has no
digit, and nothing is offered if it has one. -/
theorem resolve_skeleton {catalog : Catalog} (table : TypeTable) {component : Component}
    (member : component ∈ catalog.components)
    (highlighted : IsHighlightedName catalog.components component.name) {target : String}
    (isTarget : IsTarget target.toList) :
    (∃ skeleton ∈ resolve (target ++ "= ") table catalog.components,
      upToParenthesis skeleton.insertText = component.name ++ "(") ∧
    ∃ first, catalog.find? component.name = some first ∧
      resolve (target ++ "= " ++ component.name ++ "(") table catalog.components =
        if component.name.toList.any Char.isDigit then []
        else first.params.map fun param =>
          ⟨param.name, param.name, param.documentation, .parameter⟩ := by
  obtain ⟨isWord, -⟩ := (isHighlightedName_iff _ _).mp highlighted
  constructor
  · have classified : classify (target ++ "= ") = .postAssignment :=
      isTarget.classify (by rw [String.toList_append]; rfl) (by decide) isTarget.asksFor_blank
    refine ⟨Candidate.component component, ?_, upToParenthesis_component fun isIn =>
      absurd (isWord.consists _ isIn) (by decide)⟩
    rw [resolve, classified, candidates]
    exact List.mem_map_of_mem member
  · have named : (catalog.find? component.name).isSome = true :=
      List.find?_isSome.mpr ⟨component, member, beq_self_eq_true _⟩
    obtain ⟨first, isFirst⟩ := Option.isSome_iff_exists.mp named
    refine ⟨first, isFirst, ?_⟩
    rw [resolve, classify_skeleton isTarget isWord]
    split
    · rfl
    · have isFirst : catalog.components.find? (·.name == component.name) = some first := isFirst
      rw [candidates, isFirst]
      refine List.map_congr_left fun param _ => ?_
      rw [Candidate.parameter, String.empty_append]

/-- Two components of one name, and one whose name has a digit. -/
def sinks : Catalog where
  components := [⟨"Sink", "", [⟨"port", .number, .null⟩, ⟨"path", .string, .null⟩]⟩,
    ⟨"Sink", "", []⟩, ⟨"S3", "", [⟨"bucket", .string, .null⟩]⟩]

/-- In the call of the second component of a name the parameters of the first one are offered. -/
theorem second_sink_offers_first :
    (⟨"Sink", "", []⟩ : Component) ∈ sinks.components ∧
      IsHighlightedName sinks.components "Sink" ∧ IsTarget "out.a b".toList ∧
      resolve "out.a b= Sink(" .empty sinks.components =
        [⟨"port", "port", "number default_value: null", .parameter⟩,
          ⟨"path", "path", "string default_value: null", .parameter⟩] := by
  have member : (⟨"Sink", "", []⟩ : Component) ∈ sinks.components := by simp [sinks]
  have highlighted : IsHighlightedName sinks.components "Sink" :=
    (isHighlightedName_iff _ _).mpr ⟨by decide, by decide⟩
  have isTarget : IsTarget "out.a b".toList := ⟨by decide, by decide, by decide⟩
  obtain ⟨-, first, isFirst, offered⟩ := resolve_skeleton .empty member highlighted isTarget
  obtain rfl := Option.some.inj isFirst
  exact ⟨member, highlighted, isTarget, offered.trans (by cbv)⟩

/-- In the call of a component with a digit in its name nothing is offered, though the name is
highlighted and there is a parameter. -/
theorem nothing_offered_behind_digit :
    IsHighlightedName sinks.components "S3" ∧ IsTarget "x".toList ∧
      sinks.find? "S3" = some ⟨"S3", "", [⟨"bucket", .string, .null⟩]⟩ ∧
      resolve "x= S3(" .empty sinks.components = [] :=
  ⟨(isHighlightedName_iff _ _).mpr ⟨by decide, by decide⟩, ⟨by decide, by decide, by decide⟩, rfl,
    by cbv⟩

end Banana.Completion
