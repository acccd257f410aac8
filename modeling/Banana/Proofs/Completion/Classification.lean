/-
This file proves that the context of a text is the one that its last line asks for by the first of
the three forms that it has, and that the patterns of the forms, read from their texts and searched
for in the line one after the other, give the same context.
-/

import Banana.Proofs.Completion.Patterns

namespace Banana.Completion

/-! ### The line of the cursor -/

/-- The last line holds no line feed, and what precedes it, if anything does, ends in one. -/
theorem lastLine_spec (text : List Char) :
    '\n' ∉ Text.lastLine text ∧
      (text = Text.lastLine text ∨ ∃ before, text = before ++ '\n' :: Text.lastLine text) := by
  have parts := List.takeWhile_append_dropWhile (p := (· != '\n')) (l := text.reverse)
  have whole : text = (text.reverse.dropWhile (· != '\n')).reverse ++ Text.lastLine text := by
    rw [Text.lastLine, ← List.reverse_append, parts, List.reverse_reverse]
  constructor
  · intro member
    have notFeed : ('\n' != '\n') = true :=
      List.mem_takeWhile_imp (p := (· != '\n')) (List.mem_reverse.mp member)
    exact absurd notFeed (by decide)
  · cases behind : text.reverse.dropWhile (· != '\n') with
    | nil =>
      rw [behind] at whole
      exact Or.inl whole
    | cons feed before =>
      have stops := List.head?_dropWhile_not (· != '\n') text.reverse
      rw [behind] at stops
      have isFeed : feed = '\n' := by simpa using stops
      rw [behind, isFeed, List.reverse_cons, List.append_assoc, List.singleton_append] at whole
      exact Or.inr ⟨before.reverse, whole⟩

/-! ### The context of a line -/

/-- Which context a line asks for: a path at its end comes first, then a call that it opens in what
it assigns, then a bare value. -/
inductive AsksFor (line : List Char) : Context → Prop
  | path {path : String} (longest : IsLongestPath line path.toList) :
      AsksFor line (.dottedPath path)
  | call {name args : String} {value : List Char} (noPath : ∀ path, ¬ EndsInPath line path)
      (assigns : Assigns line value) (opens : OpensCall value name.toList args.toList) :
      AsksFor line (.callArgument name args)
  | bare {value : List Char} (noPath : ∀ path, ¬ EndsInPath line path)
      (assigns : Assigns line value) (noCall : ∀ name args, ¬ OpensCall value name args)
      (isBare : IsBare value) : AsksFor line .postAssignment
  | nothing (noPath : ∀ path, ¬ EndsInPath line path)
      (noValue : ∀ value, Assigns line value →
        (∀ name args, ¬ OpensCall value name args) ∧ ¬ IsBare value) :
      AsksFor line .nothing

theorem openCall?_eq_none_iff (value : List Char) :
    openCall? value = none ↔ ∀ name args, ¬ OpensCall value name args := by
  simp only [← openCall?_eq_some_iff, Option.eq_none_iff_forall_ne_some, Prod.forall, ne_eq]

/-- What is assigned in a line without a line feed holds none either. -/
theorem Assigns.no_feed {line value : List Char} (assigns : Assigns line value)
    (oneLine : '\n' ∉ line) : '\n' ∉ value := by
  obtain ⟨target, rfl, -, -⟩ := assigns
  exact fun member => oneLine (List.mem_append_right _ (List.mem_cons_of_mem _ member))

theorem asksFor_ofLine {line : List Char} (oneLine : '\n' ∉ line) :
    AsksFor line (.ofLine line) := by
  rw [Context.ofLine]
  cases found : pathAtEnd? none line with
  | some path =>
    refine AsksFor.path ?_
    rw [String.toList_ofList]
    exact (pathAtEnd?_eq_some_iff line path).mp found
  | none =>
    have noPath := (pathAtEnd?_eq_none_iff line).mp found
    cases isAssigned : assigned? line with
    | none =>
      refine AsksFor.nothing noPath fun value assigns => ?_
      rw [(assigned?_eq_some_iff line value).mpr assigns] at isAssigned
      cases isAssigned
    | some value =>
      have assigns := (assigned?_eq_some_iff line value).mp isAssigned
      dsimp only
      cases opened : openCall? value with
      | some call =>
        refine AsksFor.call noPath assigns ?_
        rw [String.toList_ofList, String.toList_ofList]
        exact (openCall?_eq_some_iff value call.1 call.2).mp opened
      | none =>
        have noCall := (openCall?_eq_none_iff value).mp opened
        have isBare_iff := isBareValue_iff value
        cases isBare : isBareValue value with
        | true => exact AsksFor.bare noPath assigns noCall (isBare_iff.mp isBare).1
        | false =>
          refine AsksFor.nothing noPath fun other otherAssigns => ?_
          rw [(assigned?_eq_some_iff line other).mpr otherAssigns] at isAssigned
          cases isAssigned
          refine ⟨noCall, fun isBareValue => ?_⟩
          rw [isBare_iff.mpr ⟨isBareValue, assigns.no_feed oneLine⟩] at isBare
          cases isBare

theorem ofLine_of_asksFor {line : List Char} (oneLine : '\n' ∉ line) {context : Context}
    (asks : AsksFor line context) : Context.ofLine line = context := by
  rw [Context.ofLine]
  cases asks with
  | path longest =>
    rw [(pathAtEnd?_eq_some_iff line _).mpr longest]
    exact congrArg Context.dottedPath String.ofList_toList
  | call noPath assigns opens =>
    simp only [(pathAtEnd?_eq_none_iff line).mpr noPath, (assigned?_eq_some_iff line _).mpr assigns,
      (openCall?_eq_some_iff _ _ _).mpr opens, String.ofList_toList]
  | @bare value noPath assigns noCall isBare =>
    have isBare := (isBareValue_iff value).mpr ⟨isBare, assigns.no_feed oneLine⟩
    simp only [(pathAtEnd?_eq_none_iff line).mpr noPath, (assigned?_eq_some_iff line _).mpr assigns,
      (openCall?_eq_none_iff value).mpr noCall, isBare, if_true]
  | nothing noPath noValue =>
    simp only [(pathAtEnd?_eq_none_iff line).mpr noPath]
    cases isAssigned : assigned? line with
    | none => rfl
    | some value =>
      obtain ⟨noCall, notBare⟩ := noValue value ((assigned?_eq_some_iff line value).mp isAssigned)
      have isBare : isBareValue value = false :=
        Bool.eq_false_iff.mpr fun isBare => notBare ((isBareValue_iff value).mp isBare).1
      simp only [(openCall?_eq_none_iff value).mpr noCall, isBare, Bool.false_eq_true, if_false]

/-- The context that a line has by the texts of the three patterns. -/
def Context.byPatterns? (line : List Char) : Option Context := do
  let path ← Pattern.parse? pathText.toList
  let call ← Pattern.parse? callText.toList
  let bare ← Pattern.parse? bareText.toList
  Context.ofPatterns? path call bare line

/-! ### The context of a text -/

/-- The context of a text is what its last line asks for, and the patterns find the same. -/
theorem classify_eq_iff_asksFor (text : String) :
    let line := Text.lastLine text.toList
    ('\n' ∉ line ∧ (text.toList = line ∨ ∃ before, text.toList = before ++ '\n' :: line)) ∧
    (∀ context, classify text = context ↔ AsksFor line context) ∧
    ((∃ path, classify text = .dottedPath path) ↔ ∃ path, EndsInPath line path) ∧
    Context.byPatterns? line = some (classify text) := by
  intro line
  have isLine := lastLine_spec text.toList
  have asks_iff (context : Context) : classify text = context ↔ AsksFor line context := by
    constructor
    · rintro rfl
      exact asksFor_ofLine isLine.1
    · exact ofLine_of_asksFor isLine.1
  refine ⟨isLine, asks_iff, ⟨?_, ?_⟩, ?_⟩
  · rintro ⟨path, isPath⟩
    cases (asks_iff _).mp isPath with
    | path longest => exact ⟨path.toList, longest.ends⟩
  · rintro ⟨path, ends⟩
    cases found : pathAtEnd? none line with
    | none => exact absurd ends ((pathAtEnd?_eq_none_iff line).mp found path)
    | some longest =>
      refine ⟨String.ofList longest, (asks_iff _).mpr (AsksFor.path ?_)⟩
      rw [String.toList_ofList]
      exact (pathAtEnd?_eq_some_iff line longest).mp found
  · rw [Context.byPatterns?, parse?_pathText, parse?_callText, parse?_bareText]
    exact ofPatterns?_eq_ofLine line

example : classify "out = a.b .c." = .dottedPath "a.b .c." := by cbv

example : classify "sink = HttpSink (port=1," = .callArgument "HttpSink" "port=1," := by cbv

end Banana.Completion
