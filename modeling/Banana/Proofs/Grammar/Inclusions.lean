/-
This file says what becomes of inclusions. One state leads to another when one of its rules includes
it; a list of rules can be flattened exactly when no chain of inclusions that starts in it meets a
state twice, a state that is open already, or a state without rules, and it then stands for the
lexemes of all states on these chains.

Flattening only knows which states are open. It comes to an end because a state is never opened
twice at a time, so each inclusion leaves fewer states that can still be opened; the relation below
follows it inclusion by inclusion, and there is a result for every list of rules, whatever states
are open.
-/

import Mathlib.Data.List.Chain
import Mathlib.Data.List.Nodup
import Mathlib.Logic.Relation
import Banana.Grammar.Ready

namespace Banana.Grammar

/-! ### Chains of inclusions -/

/-- Whether one of the rules of a state includes another state. -/
def Includes (grammar : Grammar) (state next : State) : Prop :=
  ∃ rules, grammar.rules state = some rules ∧ Rule.included next ∈ rules

/-- Whether a chain of inclusions leads from one state to another. -/
abbrev LeadsTo (grammar : Grammar) : State → State → Prop := Relation.ReflTransGen grammar.Includes

/-- Whether a lexeme is a rule of a state or of one that it leads to. -/
def StandsFor (grammar : Grammar) (state : State) (lexeme : Lexeme) : Prop :=
  ∃ other rules, grammar.LeadsTo state other ∧ grammar.rules other = some rules ∧
    Rule.lexeme lexeme ∈ rules

/-- Whether a chain of inclusions starts in a list of rules. -/
def StartsIn (grammar : Grammar) (rules : List Rule) (chain : List State) : Prop :=
  chain.IsChain grammar.Includes ∧ ∀ first ∈ chain.head?, Rule.included first ∈ rules

/-- Whether each chain of inclusions that starts in a list of rules goes through different states,
all of them defined and none of them open. -/
def Unfolds (grammar : Grammar) (closed : List State) (rules : List Rule) : Prop :=
  ∀ chain, grammar.StartsIn rules chain →
    chain.Nodup ∧ ∀ state ∈ chain, state ∈ closed ∧ (grammar.rules state).isSome

/-- A state stands for its own lexemes and for those that its inclusions stand for. -/
theorem standsFor_iff {grammar : Grammar} {state : State} {rules : List Rule}
    (defined : grammar.rules state = some rules) (lexeme : Lexeme) :
    grammar.StandsFor state lexeme ↔ Rule.lexeme lexeme ∈ rules ∨
      ∃ next, Rule.included next ∈ rules ∧ grammar.StandsFor next lexeme := by
  constructor
  · rintro ⟨other, otherRules, leads, otherDefined, member⟩
    rcases Relation.ReflTransGen.cases_head leads with rfl | ⟨next, ⟨_, same, includes⟩, further⟩
    · rw [defined] at otherDefined
      cases otherDefined
      exact Or.inl member
    · rw [defined] at same
      cases same
      exact Or.inr ⟨next, includes, other, otherRules, further, otherDefined, member⟩
  · rintro (member | ⟨next, includes, other, otherRules, leads, otherDefined, member⟩)
    · exact ⟨state, rules, .refl, defined, member⟩
    · exact ⟨other, otherRules, .head ⟨rules, defined, includes⟩ leads, otherDefined, member⟩

/-- A chain that starts with an inclusion goes on in the rules of the included state. -/
theorem startsIn_cons_iff {grammar : Grammar} {rules inside : List Rule} {state : State}
    {rest : List State} (defined : grammar.rules state = some inside) :
    grammar.StartsIn rules (state :: rest) ↔
      Rule.included state ∈ rules ∧ grammar.StartsIn inside rest := by
  cases rest with
  | nil => simp [StartsIn]
  | cons next others =>
    simp [StartsIn, Includes, defined, and_comm]

theorem unfolds_of_subset {grammar : Grammar} {closed : List State} {rules others : List Rule}
    (unfolds : grammar.Unfolds closed rules) (subset : others ⊆ rules) :
    grammar.Unfolds closed others :=
  fun chain starts => unfolds chain ⟨starts.1, fun first member => subset (starts.2 first member)⟩

/-- An included state is closed and defined, and its rules unfold when it is open. -/
theorem Unfolds.included {grammar : Grammar} {closed : List State} {rules : List Rule}
    {state : State} (unfolds : grammar.Unfolds closed rules)
    (member : Rule.included state ∈ rules) :
    state ∈ closed ∧ ∃ inside, grammar.rules state = some inside ∧
      grammar.Unfolds (closed.erase state) inside := by
  have single : grammar.StartsIn rules [state] := by
    simpa [StartsIn] using member
  obtain ⟨isClosed, isDefined⟩ := (unfolds [state] single).2 state List.mem_cons_self
  obtain ⟨inside, defined⟩ := Option.isSome_iff_exists.mp isDefined
  refine ⟨isClosed, inside, defined, fun chain starts => ?_⟩
  have longer : grammar.StartsIn rules (state :: chain) :=
    (startsIn_cons_iff defined).mpr ⟨member, starts⟩
  obtain ⟨different, eachClosed⟩ := unfolds _ longer
  obtain ⟨notAgain, others⟩ := List.nodup_cons.mp different
  refine ⟨others, fun other isIn => ?_⟩
  have isOther : other ≠ state := fun same => notAgain (same ▸ isIn)
  obtain ⟨otherClosed, otherDefined⟩ := eachClosed other (List.mem_cons_of_mem _ isIn)
  exact ⟨(List.mem_erase_of_ne isOther).mpr otherClosed, otherDefined⟩

theorem unfolds_nil (grammar : Grammar) (closed : List State) : grammar.Unfolds closed [] := by
  intro chain starts
  cases chain with
  | nil => exact ⟨List.nodup_nil, fun _ member => absurd member List.not_mem_nil⟩
  | cons first rest => exact absurd (starts.2 first rfl) List.not_mem_nil

/-- No chain starts in a rule of its own. -/
theorem unfolds_lexeme_iff {grammar : Grammar} {closed : List State} {lexeme : Lexeme}
    {rest : List Rule} :
    grammar.Unfolds closed (.lexeme lexeme :: rest) ↔ grammar.Unfolds closed rest := by
  refine ⟨fun unfolds => unfolds_of_subset unfolds (List.subset_cons_self _ _), fun unfolds => ?_⟩
  intro chain starts
  refine unfolds chain ⟨starts.1, fun first isFirst => ?_⟩
  simpa using starts.2 first isFirst

/-- A chain that starts in an inclusion goes on in the included state, any other one in the rest. -/
theorem unfolds_included_iff {grammar : Grammar} {closed : List State} (different : closed.Nodup)
    {state : State} {rest : List Rule} :
    grammar.Unfolds closed (.included state :: rest) ↔
      state ∈ closed ∧ ∃ inside, grammar.rules state = some inside ∧
        grammar.Unfolds (closed.erase state) inside ∧ grammar.Unfolds closed rest := by
  constructor
  · intro unfolds
    obtain ⟨isClosed, inside, defined, inner⟩ := unfolds.included List.mem_cons_self
    exact ⟨isClosed, inside, defined, inner,
      unfolds_of_subset unfolds (List.subset_cons_self _ _)⟩
  · rintro ⟨isClosed, inside, defined, inner, others⟩ chain starts
    cases chain with
    | nil => exact ⟨List.nodup_nil, fun _ member => absurd member List.not_mem_nil⟩
    | cons first behind =>
      by_cases same : first = state
      · subst same
        obtain ⟨behindDifferent, behindClosed⟩ :=
          inner behind ((startsIn_cons_iff defined).mp starts).2
        refine ⟨List.nodup_cons.mpr ⟨fun again => ?_, behindDifferent⟩, ?_⟩
        · exact absurd (behindClosed _ again).1 different.not_mem_erase
        · refine List.forall_mem_cons.mpr
            ⟨⟨isClosed, by rw [defined]; rfl⟩, fun other member => ?_⟩
          exact ⟨List.mem_of_mem_erase (behindClosed other member).1,
            (behindClosed other member).2⟩
      · refine others _ ⟨starts.1, fun head isHead => ?_⟩
        obtain rfl : head = first := by simpa using isHead.symm
        have inRules := starts.2 head rfl
        simpa [same] using inRules

/-! ### Flattening -/

/-- What flattening a list of rules comes to while some states are open, inclusion by inclusion: a
rule of its own is kept, a state that is open already is a cycle, one without rules is unknown, and
the rules of any other one are flattened in its place, with that state open. -/
inductive Flattens (grammar : Grammar) :
    List State → List Rule → Except Fault (List Lexeme) → Prop
  | done (visiting : List State) : Flattens grammar visiting [] (.ok [])
  | kept {visiting : List State} {lexeme : Lexeme} {rest : List Rule}
      {others : Except Fault (List Lexeme)} (behind : Flattens grammar visiting rest others) :
      Flattens grammar visiting (.lexeme lexeme :: rest) (do
        let others ← others
        pure (lexeme :: others))
  | cycle {visiting : List State} {state : State} (rest : List Rule)
      (isOpen : state ∈ visiting) :
      Flattens grammar visiting (.included state :: rest) (.error (.includeCycle state))
  | unknown {visiting : List State} {state : State} (rest : List Rule)
      (notOpen : state ∉ visiting) (undefined : grammar.rules state = none) :
      Flattens grammar visiting (.included state :: rest) (.error (.unknownState state))
  | replaced {visiting : List State} {state : State} {rest rules : List Rule}
      {inside others : Except Fault (List Lexeme)} (notOpen : state ∉ visiting)
      (defined : grammar.rules state = some rules)
      (within : Flattens grammar (state :: visiting) rules inside)
      (behind : Flattens grammar visiting rest others) :
      Flattens grammar visiting (.included state :: rest) (do
        let inside ← inside
        let others ← others
        pure (inside ++ others))

/-- Whether the closed states are those that are not open. -/
structure Complements (closed visiting : List State) : Prop where
  different : closed.Nodup
  mem_iff : ∀ state, state ∈ closed ↔ state ∉ visiting

theorem Complements.opened {closed visiting : List State}
    (complements : Complements closed visiting) (state : State) :
    Complements (closed.erase state) (state :: visiting) := by
  refine ⟨complements.different.erase state, fun other => ?_⟩
  rw [complements.different.mem_erase_iff, complements.mem_iff, List.mem_cons, not_or]

theorem complements_filter (visiting : List State) :
    Complements (State.all.filter (· ∉ visiting)) visiting := by
  refine ⟨List.Nodup.filter _ (by decide), fun state => ?_⟩
  simp [State.mem_all state]

/-- Flattening comes to what the relation says. -/
theorem flattens_flatten {grammar : Grammar} {closed visiting : List State}
    (complements : Complements closed visiting) (rules : List Rule) :
    grammar.Flattens visiting rules (grammar.flatten closed rules) := by
  fun_induction flatten grammar closed rules generalizing visiting with
  | case1 => exact .done visiting
  | case2 closed lexeme rest inductionHypothesis => exact .kept (inductionHypothesis complements)
  | case3 closed state rest isClosed undefined =>
    exact .unknown rest ((complements.mem_iff state).mp isClosed) undefined
  | case4 closed state rest isClosed rules defined insideHypothesis restHypothesis =>
    exact .replaced ((complements.mem_iff state).mp isClosed) defined
      (insideHypothesis (complements.opened state)) (restHypothesis complements)
  | case5 closed state rest notClosed =>
    exact .cycle rest
      (not_not.mp fun notOpen => notClosed ((complements.mem_iff state).mpr notOpen))

/-- The relation says one thing only. -/
theorem Flattens.eq_flatten {grammar : Grammar} {visiting : List State} {rules : List Rule}
    {result : Except Fault (List Lexeme)} (flattens : grammar.Flattens visiting rules result)
    {closed : List State} (complements : Complements closed visiting) :
    result = grammar.flatten closed rules := by
  induction flattens generalizing closed with
  | done => rw [flatten]
  | kept behind inductionHypothesis => rw [flatten, ← inductionHypothesis complements]
  | @cycle visiting state rest isOpen =>
    rw [flatten, dif_neg fun isClosed => (complements.mem_iff state).mp isClosed isOpen]
  | @unknown visiting state rest notOpen undefined =>
    rw [flatten, dif_pos ((complements.mem_iff state).mpr notOpen)]
    simp only [undefined]
  | @replaced visiting state rest rules inside others notOpen defined within behind
      insideHypothesis restHypothesis =>
    rw [flatten, dif_pos ((complements.mem_iff state).mpr notOpen)]
    simp only [defined]
    rw [← insideHypothesis (complements.opened state), ← restHypothesis complements]

/-- Flattening comes to an end with one result, whatever the rules and whatever states are open. -/
theorem flattens_total (grammar : Grammar) (visiting : List State) (rules : List Rule) :
    ∃! result, grammar.Flattens visiting rules result :=
  ⟨_, flattens_flatten (complements_filter visiting) rules,
    fun _ flattens => flattens.eq_flatten (complements_filter visiting)⟩

/-! ### What flattening accepts -/

/-- A sequence of two computations succeeds when both do. -/
theorem bind_eq_ok_iff {fault α β : Type} {first : Except fault α} {next : α → Except fault β}
    {result : β} :
    (first >>= next) = .ok result ↔ ∃ value, first = .ok value ∧ next value = .ok result := by
  cases first with
  | error reason => simp [bind, Except.bind]
  | ok value => simp [bind, Except.bind]

/-- A list of rules can be flattened exactly when it unfolds. -/
theorem flatten_isOk_iff {grammar : Grammar} {closed : List State} (rules : List Rule)
    (different : closed.Nodup) :
    (∃ lexemes, grammar.flatten closed rules = .ok lexemes) ↔ grammar.Unfolds closed rules := by
  fun_induction flatten grammar closed rules with
  | case1 closed => exact ⟨fun _ => unfolds_nil grammar closed, fun _ => ⟨[], rfl⟩⟩
  | case2 closed lexeme rest inductionHypothesis =>
    rw [unfolds_lexeme_iff, ← inductionHypothesis different]
    simp only [bind_eq_ok_iff]
    constructor
    · rintro ⟨_, others, found, -⟩
      exact ⟨others, found⟩
    · rintro ⟨others, found⟩
      exact ⟨_, others, found, rfl⟩
  | case3 closed state rest isClosed undefined =>
    rw [unfolds_included_iff different, undefined]
    simp
  | case4 closed state rest isClosed rules defined insideHypothesis restHypothesis =>
    rw [unfolds_included_iff different, defined]
    simp only [bind_eq_ok_iff]
    constructor
    · rintro ⟨_, inside, foundInside, others, foundOthers, -⟩
      exact ⟨isClosed, rules, rfl, (insideHypothesis (different.erase state)).mp ⟨_, foundInside⟩,
        (restHypothesis different).mp ⟨_, foundOthers⟩⟩
    · rintro ⟨-, _, ⟨⟩, inner, others⟩
      obtain ⟨inside, foundInside⟩ := (insideHypothesis (different.erase state)).mpr inner
      obtain ⟨others, foundOthers⟩ := (restHypothesis different).mpr others
      exact ⟨_, inside, foundInside, others, foundOthers, rfl⟩
  | case5 closed state rest notClosed =>
    rw [unfolds_included_iff different]
    simp [notClosed]

/-- What a list of rules is flattened to are its own lexemes and those that its inclusions stand
for. -/
theorem mem_flatten_iff {grammar : Grammar} {closed : List State} {rules : List Rule}
    {lexemes : List Lexeme} (flat : grammar.flatten closed rules = .ok lexemes) (lexeme : Lexeme) :
    lexeme ∈ lexemes ↔ Rule.lexeme lexeme ∈ rules ∨
      ∃ state, Rule.included state ∈ rules ∧ grammar.StandsFor state lexeme := by
  fun_induction flatten grammar closed rules generalizing lexemes with
  | case1 closed =>
    cases flat
    simp
  | case2 closed first rest inductionHypothesis =>
    obtain ⟨others, found, same⟩ := bind_eq_ok_iff.mp flat
    cases same
    rw [List.mem_cons, inductionHypothesis found]
    simp [or_assoc]
  | case3 closed state rest isClosed undefined => cases flat
  | case4 closed state rest isClosed rules defined insideHypothesis restHypothesis =>
    obtain ⟨inside, foundInside, more⟩ := bind_eq_ok_iff.mp flat
    obtain ⟨others, foundOthers, same⟩ := bind_eq_ok_iff.mp more
    cases same
    rw [List.mem_append, insideHypothesis foundInside, restHypothesis foundOthers,
      ← standsFor_iff defined]
    simp only [List.mem_cons, reduceCtorEq, Rule.included.injEq, false_or, or_and_right, exists_or,
      exists_eq_left]
    exact or_left_comm
  | case5 closed state rest notClosed => cases flat

end Banana.Grammar
