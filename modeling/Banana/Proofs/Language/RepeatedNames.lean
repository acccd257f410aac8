/-
This file says that whatever reads a catalog names the same components: the grammar by its type
keywords, the lookup by what it finds, and the completion by what it offers behind an assignment
sign. A catalog may hold several components of one name. The completion then offers each of them,
the lookup finds the first one, and the grammar goes through the list once and keeps a name when it
has not been seen before. So the keywords are the names at their first places, and a component whose
name stands before it in the list can be taken out without any change of the grammar.
-/

import Mathlib.Data.List.Induction
import Mathlib.Logic.Relation
import Banana.Completion.Resolve
import Banana.Proofs.Language.Agreement

namespace Banana.Schema

/-! ### First places of words -/

/-- The words of a list at the places where they stand for the first time. -/
def firstTimes (words : List String) : List String :=
  (words.zipIdx.filter fun entry => entry.1 ∉ words.take entry.2).map Prod.fst

/-- One word more is a first time if it does not stand before. -/
theorem firstTimes_append_single (words : List String) (word : String) :
    firstTimes (words ++ [word]) = firstTimes words ++ if word ∈ words then [] else [word] := by
  have sameBefore : ∀ entry ∈ words.zipIdx,
      decide (entry.1 ∉ (words ++ [word]).take entry.2) =
        decide (entry.1 ∉ words.take entry.2) := by
    intro entry member
    rw [List.take_append_of_le_length (List.snd_lt_of_mem_zipIdx member).le]
  have last : (words ++ [word]).take (0 + words.length) = words := by
    rw [Nat.zero_add, List.take_left]
  rw [firstTimes, List.zipIdx_append, List.filter_append, List.map_append, List.zipIdx_singleton,
    List.filter_congr sameBefore, ← firstTimes, List.filter_singleton, last]
  by_cases present : word ∈ words <;> simp [present]

/-- Going through a list and keeping what has not been kept before keeps the first times. -/
theorem eraseDups_eq_firstTimes (words : List String) : words.eraseDups = firstTimes words := by
  induction words using List.reverseRecOn with
  | nil => rfl
  | append_singleton words word inductionHypothesis =>
    rw [List.eraseDups_append, firstTimes_append_single, inductionHypothesis, List.cons_removeAll]
    by_cases present : word ∈ words <;> simp [present, List.eraseDups_cons]

theorem mem_firstTimes {word : String} {words : List String} :
    word ∈ firstTimes words ↔ word ∈ words := by
  rw [← eraseDups_eq_firstTimes, List.mem_eraseDups]

/-- No word has two first times. -/
theorem nodup_firstTimes (words : List String) : (firstTimes words).Nodup := by
  induction words using List.reverseRecOn with
  | nil => exact List.nodup_nil
  | append_singleton words word inductionHypothesis =>
    rw [firstTimes_append_single]
    by_cases present : word ∈ words
    · rwa [if_pos present, List.append_nil]
    · rw [if_neg present, ← List.concat_eq_append]
      exact inductionHypothesis.concat fun member => present (mem_firstTimes.mp member)

/-! ### Repeated components -/

/-- Whether one list of components is another one without a component whose name stands before
it. -/
inductive TakesOutRepeated : List Component → List Component → Prop where
  | takeOut (before : List Component) (component : Component) (after : List Component)
      (repeated : component.name ∈ before.map (·.name)) :
      TakesOutRepeated (before ++ component :: after) (before ++ after)

/-- A repeated component adds nothing to the type keywords. -/
theorem TakesOutRepeated.typeKeywords_eq {components fewer : List Component}
    (takesOut : TakesOutRepeated components fewer) :
    (Grammar.ofComponents fewer).typeKeywords =
      (Grammar.ofComponents components).typeKeywords := by
  cases takesOut with
  | takeOut before component after repeated =>
    show (List.map _ _).eraseDups = (List.map _ _).eraseDups
    rw [List.map_append, List.map_append, List.map_cons, List.eraseDups_append,
      List.eraseDups_append, List.cons_removeAll, if_neg (by simpa using repeated)]

/-- A list of components is in the grammar by its type keywords only. -/
theorem ofComponents_eq_of_typeKeywords {components others : List Component}
    (same : (Grammar.ofComponents components).typeKeywords =
      (Grammar.ofComponents others).typeKeywords) :
    Grammar.ofComponents components = Grammar.ofComponents others :=
  congrArg (fun words => { Grammar.ofComponents [] with typeKeywords := words }) same

/-- Taking out repeated components, one after the other, does not change the grammar. -/
theorem ofComponents_eq_of_takesOut {components fewer : List Component}
    (takesOut : Relation.ReflTransGen TakesOutRepeated components fewer) :
    Grammar.ofComponents fewer = Grammar.ofComponents components := by
  induction takesOut with
  | refl => rfl
  | tail _ step inductionHypothesis =>
    exact (ofComponents_eq_of_typeKeywords step.typeKeywords_eq).trans inductionHypothesis

/-- The components whose name is new, neither among the names that have been seen nor that of a
component before. -/
def newlyNamed (seen : List String) : List Component → List Component
  | [] => []
  | component :: rest =>
    if component.name ∈ seen then newlyNamed seen rest
    else component :: newlyNamed (component.name :: seen) rest

/-- A pass that has kept some components and seen their names takes out only repeated ones. -/
theorem takesOut_newlyNamed (kept rest : List Component) :
    Relation.ReflTransGen TakesOutRepeated (kept ++ rest)
      (kept ++ newlyNamed (kept.map (·.name)).reverse rest) := by
  -- What is kept grows with the names that are seen; a component that is passed over stands
  -- behind it all, so it is taken out right there.
  induction rest generalizing kept with
  | nil => exact .refl
  | cons component rest inductionHypothesis =>
    rw [newlyNamed]
    by_cases repeated : component.name ∈ (kept.map (·.name)).reverse
    · rw [if_pos repeated]
      exact .head (.takeOut kept component rest (List.mem_reverse.mp repeated))
        (inductionHypothesis kept)
    · rw [if_neg repeated]
      have further := inductionHypothesis (kept ++ [component])
      rwa [List.map_append, List.reverse_append, List.append_assoc, List.append_assoc] at further

/-- The type keywords are collected in such a pass, latest first. -/
theorem loop_map_name (seen : List String) (components : List Component) :
    List.eraseDupsBy.loop (· == ·) (components.map (·.name)) seen =
      seen.reverse ++ (newlyNamed seen components).map (·.name) := by
  induction components generalizing seen with
  | nil => exact (List.append_nil _).symm
  | cons component rest inductionHypothesis =>
    rw [List.map_cons, List.eraseDupsBy.loop, newlyNamed]
    cases isSeen : seen.any (component.name == ·) with
    | true =>
      rw [List.any_beq, List.contains_iff_mem] at isSeen
      rw [if_pos isSeen]
      exact inductionHypothesis seen
    | false =>
      rw [List.any_beq, ← Bool.not_eq_true, List.contains_iff_mem] at isSeen
      rw [if_neg isSeen]
      refine (inductionHypothesis (component.name :: seen)).trans ?_
      rw [List.reverse_cons, List.append_assoc]
      rfl

/-- The components that are newly named have the type keywords as their names. -/
theorem map_name_newlyNamed (components : List Component) :
    (newlyNamed [] components).map (·.name) = (Grammar.ofComponents components).typeKeywords :=
  (loop_map_name [] components).symm

namespace Catalog

open Completion

/-! ### The readers of a catalog -/

theorem typeKeywords_eq_firstTimes (catalog : Catalog) :
    (Grammar.ofComponents catalog.components).typeKeywords = firstTimes catalog.names :=
  eraseDups_eq_firstTimes catalog.names

/-- A lookup finds something under the names of components. -/
theorem isSome_find?_iff (catalog : Catalog) (word : String) :
    (catalog.find? word).isSome = true ↔ word ∈ catalog.names := by
  rw [find?, List.find?_isSome, names, List.mem_map]
  exact exists_congr fun component => and_congr_right fun _ => beq_iff_eq

/-- Behind an assignment sign each component is offered by its name. -/
theorem map_label_resolve (catalog : Catalog) (table : TypeTable) {text : String}
    (classified : classify text = .postAssignment) :
    (resolve text table catalog.components).map (·.label) = catalog.names := by
  rw [resolve, classified, candidates, List.map_map]
  rfl

/-- Type keywords, lookup and completion name the same components. The type keywords are the names
of the components at their first places, each one once; a word is one of them exactly if the lookup
finds a component under it; and they are the first times of the labels that are offered behind an
assignment sign. So the grammar stays the same when repeated components are taken out, some or all
of them, down to one component for each keyword. -/
theorem keywords_lookup_and_completion_agree (catalog : Catalog) :
    ((Grammar.ofComponents catalog.components).typeKeywords.Nodup ∧
      (Grammar.ofComponents catalog.components).typeKeywords = firstTimes catalog.names) ∧
    (∀ word, (Grammar.ofComponents catalog.components).isTypeKeyword word = true ↔
      (catalog.find? word).isSome = true) ∧
    (∀ text table, classify text = .postAssignment →
      firstTimes ((resolve text table catalog.components).map (·.label)) =
        (Grammar.ofComponents catalog.components).typeKeywords) ∧
    (∀ fewer, Relation.ReflTransGen TakesOutRepeated catalog.components fewer →
      Grammar.ofComponents fewer = Grammar.ofComponents catalog.components) ∧
    ∃ fewest, Relation.ReflTransGen TakesOutRepeated catalog.components fewest ∧
      fewest.map (·.name) = (Grammar.ofComponents catalog.components).typeKeywords := by
  refine ⟨⟨?distinct, catalog.typeKeywords_eq_firstTimes⟩, fun word => ?lookup,
    fun text table classified => ?completion, fun _ => ofComponents_eq_of_takesOut, ?fewest⟩
  case distinct =>
    rw [typeKeywords_eq_firstTimes]
    exact nodup_firstTimes catalog.names
  case lookup =>
    rw [Direct.isTypeKeyword_ofComponents, decide_eq_true_iff, isSome_find?_iff]
    rfl
  case completion => rw [map_label_resolve catalog table classified, typeKeywords_eq_firstTimes]
  case fewest =>
    exact ⟨newlyNamed [] catalog.components, takesOut_newlyNamed [] catalog.components,
      map_name_newlyNamed catalog.components⟩

/-- A catalog with a name that occurs twice, not in a row. -/
def twoSinks : Catalog where
  components := [.new "Sink" "first", .new "Source" "", .new "Sink" "second"]

/-- The second sink is offered behind an assignment sign, but it is no keyword of its own, and the
grammar does without it. -/
theorem second_sink_changes_no_grammar :
    classify "out = " = .postAssignment ∧
      (resolve "out = " .empty twoSinks.components).map (·.label) = ["Sink", "Source", "Sink"] ∧
      firstTimes ((resolve "out = " .empty twoSinks.components).map (·.label)) =
        (Grammar.ofComponents twoSinks.components).typeKeywords ∧
      TakesOutRepeated twoSinks.components [.new "Sink" "first", .new "Source" ""] ∧
      Grammar.ofComponents [.new "Sink" "first", .new "Source" ""] =
        Grammar.ofComponents twoSinks.components := by
  have classified : classify "out = " = .postAssignment := by cbv
  have takesOut : TakesOutRepeated twoSinks.components
      [.new "Sink" "first", .new "Source" ""] :=
    .takeOut [.new "Sink" "first", .new "Source" ""] (.new "Sink" "second") [] (by decide)
  obtain ⟨-, -, completes, unchanged, -⟩ := keywords_lookup_and_completion_agree twoSinks
  exact ⟨classified, map_label_resolve twoSinks .empty classified,
    completes "out = " .empty classified, takesOut, unchanged _ (.single takesOut)⟩

end Catalog

end Banana.Schema
