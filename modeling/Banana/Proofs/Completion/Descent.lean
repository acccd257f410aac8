/-
This file proves that completion goes down from member to member. A candidate that is accepted takes
the place of the path, and a dot behind it asks for the members of that member: the text is again
classified as a path, which starts where it did and leads one member further. By induction every
chain of members whose names can be typed in a path is reached in this way, and at its end the
members of its last member are offered.
-/

import Mathlib.Logic.Relation
import Banana.Proofs.Completion.Members
import Banana.Proofs.Completion.Paths
import Banana.Proofs.Completion.Walks

namespace Banana.Completion

open Pattern Schema

/-! ### One member further -/

/-- Whether a text results from another one by accepting a candidate for its path, which takes the
place of the path, and typing a dot. -/
def Completes (table : TypeTable) (components : List Component) (text next : String) : Prop :=
  ∃ before path candidate, text = before ++ path ∧ classify text = .dottedPath path ∧
    candidate ∈ resolve text table components ∧ next = before ++ candidate.insertText ++ "."

/-- Where a text asks for the members of a type: it ends in a path that leads to the type. -/
structure AsksBehind (table : TypeTable) (text path : String) (type : ValueType) : Prop where
  classified : classify text = .dottedPath path
  leads : resolvePath? path table = some type

/-- The path of a text ends in a dot. -/
theorem getLast?_of_classify {text path : String} (classified : classify text = .dottedPath path) :
    path.toList.getLast? = some '.' :=
  ((classify_eq_dottedPath_iff text path).mp classified).ends.1.ends

section Step

variable {table : TypeTable} {text path : String} {type : ValueType}
  (asks : AsksBehind table text path type) {name : String}

include asks

/-- A name and a dot, typed behind the path, lead to the member with that name. -/
theorem AsksBehind.typed (isName : IsName name.toList) :
    classify (text ++ name ++ ".") = .dottedPath (path ++ name ++ ".") ∧
      resolvePath? (path ++ name ++ ".") table = type.member? name := by
  constructor
  · refine classify_append asks.classified fun c member => ?_
    rw [contains_pathSet, isPathChar, isNameChar_of_isName isName member]
    rfl
  · rw [resolvePath?_append table (getLast?_of_classify asks.classified) isName, asks.leads,
      Option.bind_some]

/-- Each member of the type can be accepted. -/
theorem AsksBehind.completes (components : List Component)
    (isMember : (type.member? name).isSome = true) :
    Completes table components text (text ++ name ++ ".") := by
  obtain ⟨before, same⟩ := exists_before_of_classify asks.classified
  obtain ⟨candidate, offered, -, inserts⟩ :=
    (exists_candidate_iff table components asks.classified name).mpr ⟨type, asks.leads, isMember⟩
  refine ⟨before, path, candidate, same, asks.classified, offered, ?_⟩
  rw [inserts, ← String.append_assoc, ← same]

/-- What completes the path is its continuation by the members of the type, in order. -/
theorem AsksBehind.offers (components : List Component) :
    (resolve text table components).map (·.insertText) =
      (Entries.names type.members).map (path ++ ·) := by
  rw [resolve_of_dottedPath table components asks.classified, asks.leads]
  exact map_insertText_members path type

end Step

/-! ### Chains of members -/

/-- A chain of members as it stands in a text, a dot behind each name. -/
def chainText : List String → String
  | [] => ""
  | name :: rest => name ++ "." ++ chainText rest

theorem append_chainText_cons (text name : String) (rest : List String) :
    text ++ chainText (name :: rest) = text ++ name ++ "." ++ chainText rest := by
  rw [chainText, ← String.append_assoc, ← String.append_assoc]

/-- A chain of members is reached by accepting one after the other. -/
theorem AsksBehind.chain {table : TypeTable} {text path : String} {type member : ValueType}
    (asks : AsksBehind table text path type) (components : List Component) {names : List String}
    (areNames : ∀ name ∈ names, IsName name.toList)
    (leads : type.memberPath? names = some member) :
    Relation.ReflTransGen (Completes table components) text (text ++ chainText names) ∧
      AsksBehind table (text ++ chainText names) (path ++ chainText names) member := by
  induction names generalizing text path type with
  | nil =>
    cases leads
    rw [chainText, String.append_empty, String.append_empty]
    exact ⟨Relation.ReflTransGen.refl, asks⟩
  | cons name rest inductionHypothesis =>
    obtain ⟨isName, restAreNames⟩ := List.forall_mem_cons.mp areNames
    obtain ⟨next, isMember, restLeads⟩ := Option.bind_eq_some_iff.mp leads
    obtain ⟨classified, leadsOn⟩ := asks.typed isName
    have asksNext : AsksBehind table (text ++ name ++ ".") (path ++ name ++ ".") next :=
      ⟨classified, leadsOn.trans isMember⟩
    obtain ⟨reached, asksLast⟩ := inductionHypothesis asksNext restAreNames restLeads
    have step := asks.completes components (Option.isSome_of_eq_some isMember)
    rw [append_chainText_cons, append_chainText_cons]
    exact ⟨Relation.ReflTransGen.head step reached, asksLast⟩

/-- Behind a path that leads to a type, a name and a dot lead to the member with that name, and each
chain of members with such names is reached by accepting one candidate after the other. At its end
the members of its last member are offered, and only they. -/
theorem completion_descends {table : TypeTable} {text path : String} {type : ValueType}
    (components : List Component) (classified : classify text = .dottedPath path)
    (leads : resolvePath? path table = some type) :
    (∀ name : String, IsName name.toList →
      classify (text ++ name ++ ".") = .dottedPath (path ++ name ++ ".") ∧
        resolvePath? (path ++ name ++ ".") table = type.member? name) ∧
    ∀ names member, (∀ name ∈ names, IsName name.toList) →
      type.memberPath? names = some member →
        Relation.ReflTransGen (Completes table components) text (text ++ chainText names) ∧
        classify (text ++ chainText names) = .dottedPath (path ++ chainText names) ∧
        resolvePath? (path ++ chainText names) table = some member ∧
        (resolve (text ++ chainText names) table components).map (·.insertText) =
          (Entries.names member.members).map (path ++ chainText names ++ ·) := by
  have asks : AsksBehind table text path type := ⟨classified, leads⟩
  refine ⟨fun name isName => asks.typed isName, fun names member areNames leadsOn => ?_⟩
  obtain ⟨reached, asksLast⟩ := asks.chain components areNames leadsOn
  exact ⟨reached, asksLast.classified, asksLast.leads, asksLast.offers components⟩

/-- An object in which a component lies two members down. -/
def nestedSource : ValueType :=
  .object [("a", .object [("b_$", .component "Sink" [⟨"port", .number, .null⟩])])]

/-- The parameter at the bottom of nested members is reached and offered, in the middle of a line
and with blanks in the path. -/
theorem completion_descends_nested :
    let table := TypeTable.ofList [("src", nestedSource)]
    classify "out = src ." = .dottedPath "src ." ∧
      resolvePath? "src ." table = some nestedSource ∧ IsName "a".toList ∧ IsName "b_$".toList ∧
      nestedSource.memberPath? ["a", "b_$"] =
        some (.component "Sink" [⟨"port", .number, .null⟩]) ∧
      Relation.ReflTransGen (Completes table []) "out = src ." "out = src .a.b_$." ∧
      classify "out = src .a.b_$." = .dottedPath "src .a.b_$." ∧
      (resolve "out = src .a.b_$." table []).map (·.insertText) = ["src .a.b_$.port"] := by
  intro table
  have classified : classify "out = src ." = .dottedPath "src ." := by cbv
  have leads : resolvePath? "src ." table = some nestedSource := by cbv
  have first : IsName "a".toList := by decide
  have second : IsName "b_$".toList := by decide
  have chain : nestedSource.memberPath? ["a", "b_$"] =
      some (.component "Sink" [⟨"port", .number, .null⟩]) := by cbv
  obtain ⟨reached, again, -, offers⟩ := (completion_descends [] classified leads).2 ["a", "b_$"] _
    (List.forall_mem_cons.mpr ⟨first, List.forall_mem_singleton.mpr second⟩) chain
  exact ⟨classified, leads, first, second, chain, reached, again, offers⟩

end Banana.Completion
