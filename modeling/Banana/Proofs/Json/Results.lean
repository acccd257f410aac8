/-
This file compares what is read in two places. Two results are alike when both readers fail, or
when what they return is related; a reader that is made of others then returns results that are
alike as soon as each of its parts does. The order in which fields are written and fields that
nobody asks for show neither in the values of named fields nor in whether a record is a value.
-/

import Banana.Proofs.Json.Decoded
import Banana.Proofs.Json.Tree
import Mathlib.Data.List.Forall2

namespace Banana.Json

/-! ### Results that are alike -/

section Alike

variable {α β : Type} {related : α → α → Prop} {relatedAfter : β → β → Prop}

theorem rel_of_eq (refl : ∀ value, related value value) {first second : Option α}
    (same : first = second) : Option.Rel related first second := by
  subst same
  cases first with
  | none => exact .none
  | some value => exact .some (refl value)

theorem rel_eq_iff {first second : Option α} :
    Option.Rel (· = ·) first second ↔ first = second := by
  constructor
  · intro alike
    cases alike with
    | none => rfl
    | some same => exact congrArg some same
  · exact rel_of_eq fun _ => rfl

theorem rel_cases {first second : Option α} (alike : Option.Rel related first second) :
    (first = none ∧ second = none) ∨
      ∃ one other, first = some one ∧ second = some other ∧ related one other := by
  cases alike with
  | none => exact .inl ⟨rfl, rfl⟩
  | some alike => exact .inr ⟨_, _, rfl, rfl, alike⟩

theorem rel_mono {weaker : α → α → Prop} {first second : Option α}
    (implies : ∀ one other, related one other → weaker one other)
    (alike : Option.Rel related first second) : Option.Rel weaker first second := by
  cases alike with
  | none => exact .none
  | some alike => exact .some (implies _ _ alike)

theorem rel_bind {first second : Option α} {next other : α → Option β}
    (alike : Option.Rel related first second)
    (continued : ∀ one two, related one two → Option.Rel relatedAfter (next one) (other two)) :
    Option.Rel relatedAfter (first.bind next) (second.bind other) := by
  cases alike with
  | none => exact .none
  | some alike => exact continued _ _ alike

theorem rel_map {first second : Option α} {make other : α → β}
    (alike : Option.Rel related first second)
    (made : ∀ one two, related one two → relatedAfter (make one) (other two)) :
    Option.Rel relatedAfter (first.map make) (second.map other) := by
  cases alike with
  | none => exact .none
  | some alike => exact .some (made _ _ alike)

theorem equivalence_rel (isEquivalence : Equivalence related) :
    Equivalence (Option.Rel related) where
  refl _ := rel_of_eq isEquivalence.refl rfl
  symm alike := by
    cases alike with
    | none => exact .none
    | some alike => exact .some (isEquivalence.symm alike)
  trans first second := by
    cases first with
    | none => exact second
    | some first =>
      cases second with
      | some second => exact .some (isEquivalence.trans first second)

theorem equivalence_forall₂ (isEquivalence : Equivalence related) :
    Equivalence (List.Forall₂ related) where
  refl _ := List.forall₂_same.mpr fun value _ => isEquivalence.refl value
  symm alike := List.Forall₂.flip (alike.imp fun _ _ => isEquivalence.symm)
  trans {_ _ last} first second := by
    induction first generalizing last with
    | nil => exact second
    | cons head _ inductionHypothesis =>
      cases second with
      | cons next rest => exact .cons (isEquivalence.trans head next) (inductionHypothesis rest)

theorem eq_of_forall₂ (implies : ∀ one other, related one other → one = other)
    {first second : List α} (alike : List.Forall₂ related first second) : first = second := by
  have same := alike.imp implies
  rwa [List.forall₂_eq_eq_eq] at same

/-- Lists that differ in one place are related if the members in that place are. -/
theorem forall₂_of_one (refl : ∀ value, related value value) (before after : List α)
    {first second : α} (alike : related first second) :
    List.Forall₂ related (before ++ first :: after) (before ++ second :: after) :=
  List.rel_append (List.forall₂_same.mpr fun value _ => refl value)
    (.cons alike (List.forall₂_same.mpr fun value _ => refl value))

/-- Lists are read alike if their members are. -/
theorem rel_mapM {read : β → Option α} {sources others : List β}
    (alike : List.Forall₂ (fun source other => Option.Rel related (read source) (read other))
      sources others) :
    Option.Rel (List.Forall₂ related) (sources.mapM read) (others.mapM read) := by
  induction alike with
  | nil => exact .some .nil
  | cons first _ inductionHypothesis =>
    rw [List.mapM_cons, List.mapM_cons]
    exact rel_bind first fun _ _ first => rel_bind inductionHypothesis fun _ _ rest =>
      .some (.cons first rest)

/-- Lists that differ in one place are read alike if what stands there is. -/
theorem rel_mapM_of_one {read : β → Option α} (refl : ∀ value, related value value)
    (before after : List β) {one other : β} (alike : Option.Rel related (read one) (read other)) :
    Option.Rel (List.Forall₂ related) ((before ++ one :: after).mapM read)
      ((before ++ other :: after).mapM read) := by
  refine rel_mapM (forall₂_of_one ?_ before after alike)
  exact fun _ => rel_of_eq refl rfl

/-- What is read of a list in another order comes in another order. -/
theorem rel_mapM_of_perm {read : β → Option α} {sources others : List β}
    (moved : sources.Perm others) :
    Option.Rel List.Perm (sources.mapM read) (others.mapM read) := by
  have isEquivalence : Equivalence (Option.Rel (List.Perm (α := α))) :=
    equivalence_rel ⟨.refl, .symm, .trans⟩
  induction moved with
  | nil => exact isEquivalence.refl _
  | cons source _ inductionHypothesis =>
    rw [List.mapM_cons, List.mapM_cons]
    refine rel_bind (rel_of_eq (fun _ => rfl) rfl) fun first _ same => ?_
    subst same
    exact rel_bind inductionHypothesis fun _ _ rest => .some (rest.cons first)
  | swap source other rest =>
    simp only [List.mapM_cons]
    cases read source with
    | none => cases read other <;> exact .none
    | some first =>
      cases read other with
      | none => exact .none
      | some second =>
        cases rest.mapM read with
        | none => exact .none
        | some others => exact .some (.swap first second others)
  | trans _ _ first second => exact isEquivalence.trans first second

end Alike

/-! ### Named entries -/

section Entry

variable {α : Type}

/-- The name and what is read of a field. -/
def pair? (read : Node → Option α) (field : List Unit16 × Node) : Option (String × α) := do
  pure (← stringOfUnits? field.1, ← read field.2)

/-- The names that fields have, where they spell one. -/
def namesOf (fields : List (List Unit16 × Node)) : List String :=
  fields.filterMap fun field => stringOfUnits? field.1

/-- Entries with one name and related values. -/
def SameName (related : α → α → Prop) (first second : String × α) : Prop :=
  first.1 = second.1 ∧ related first.2 second.2

theorem rel_pair? {related : α → α → Prop} {read : Node → Option α} (key : List Unit16)
    {first second : Node} (alike : Option.Rel related (read first) (read second)) :
    Option.Rel (SameName related) (pair? read (key, first)) (pair? read (key, second)) := by
  rw [pair?, pair?]
  cases stringOfUnits? key with
  | none => exact .none
  | some name =>
    show Option.Rel _ ((read first).bind _) ((read second).bind _)
    exact rel_bind alike fun _ _ alike => .some ⟨rfl, alike⟩

/-- Entries that are read have the names of the fields. -/
theorem names_of_mapM_pair? {read : Node → Option α} {fields : List (List Unit16 × Node)}
    {entries : List (String × α)} (areRead : fields.mapM (pair? read) = some entries) :
    Entries.names entries = namesOf fields := by
  induction fields generalizing entries with
  | nil =>
    cases areRead
    rfl
  | cons field rest inductionHypothesis =>
    obtain ⟨first, others, isFirst, areOthers, rfl⟩ := mapM_cons_eq_some_iff.mp areRead
    simp only [pair?, bind, Option.bind_eq_some_iff, pure, Option.some.injEq] at isFirst
    obtain ⟨name, isName, value, -, rfl⟩ := isFirst
    have names : namesOf (field :: rest) = name :: namesOf rest := by
      rw [namesOf, List.filterMap_cons, isName]
      rfl
    rw [names, ← inductionHypothesis areOthers]
    rfl

/-- Different entries that are written in another order are read in another order. -/
theorem rel_mapM_pair?_of_perm {read : Node → Option α} {fields others : List (List Unit16 × Node)}
    (moved : fields.Perm others) (distinct : (namesOf fields).Nodup) :
    Option.Rel
      (fun first second => first.Perm second ∧ (Entries.names first).Nodup ∧
        (Entries.names second).Nodup)
      (fields.mapM (pair? read)) (others.mapM (pair? read)) := by
  rcases rel_cases (@rel_mapM_of_perm _ _ (pair? read) _ _ moved) with
    ⟨one, other⟩ | ⟨first, second, one, other, movedEntries⟩
  · rw [one, other]
    exact .none
  · rw [one, other]
    have isFirst : (Entries.names first).Nodup := names_of_mapM_pair? one ▸ distinct
    exact .some ⟨movedEntries, isFirst, (movedEntries.map Prod.fst).nodup_iff.mp isFirst⟩

end Entry

/-! ### What is a value -/

/-- Whether all names of fields are strings. -/
def AreNamed (fields : List (List Unit16 × Node)) : Prop :=
  ∀ field ∈ fields, (stringOfUnits? field.1).isSome = true

theorem isSome_mapM_iff {α β : Type} {read : α → Option β} {sources : List α} :
    (sources.mapM read).isSome = true ↔ ∀ source ∈ sources, (read source).isSome = true := by
  constructor
  · intro areRead source member
    obtain ⟨results, areResults⟩ := Option.isSome_iff_exists.mp areRead
    exact isSome_of_mapM_eq_some areResults member
  · intro each
    induction sources with
    | nil => rfl
    | cons source rest inductionHypothesis =>
      obtain ⟨first, later⟩ := List.forall_mem_cons.mp each
      obtain ⟨result, isResult⟩ := Option.isSome_iff_exists.mp first
      obtain ⟨results, areResults⟩ := Option.isSome_iff_exists.mp (inductionHypothesis later)
      rw [mapM_cons_eq_some_iff.mpr ⟨result, results, isResult, areResults, rfl⟩]
      rfl

theorem isValue_array_iff {room : Nat} {items : List Node} :
    (Node.array items).IsValue room ↔ 0 < room ∧ ∀ item ∈ items, item.IsValue (room - 1) := by
  cases room with
  | zero => simp [Node.IsValue, Node.value?]
  | succ left =>
    rw [Node.IsValue, Node.value?, Option.isSome_map, valueItems?_eq_mapM, isSome_mapM_iff]
    exact (and_iff_right left.succ_pos).symm

theorem isValue_object_iff {room : Nat} {fields : List (List Unit16 × Node)} :
    (Node.object fields).IsValue room ↔
      0 < room ∧ AreNamed fields ∧ ∀ field ∈ fields, field.2.IsValue (room - 1) := by
  cases room with
  | zero => simp [Node.IsValue, Node.value?]
  | succ left =>
    rw [Node.IsValue, Node.value?, Option.isSome_map, valueFields?_eq_mapM, isSome_mapM_iff,
      and_iff_right left.succ_pos, AreNamed, ← forall₂_and]
    refine forall₂_congr fun field _ => ?_
    rw [valueField?]
    cases stringOfUnits? field.1 with
    | none => simp
    | some name => cases read : field.2.value? left <;> simp [Node.IsValue, read]

/-! ### The values of named fields -/

section Slots

variable {fields others : List (List Unit16 × Node)} {name : String}

theorem all_isSome_iff : (fields.all fun (key, _) => (stringOfUnits? key).isSome) = true ↔
    AreNamed fields :=
  List.all_eq_true

/-- Fields in another order hold the same under a name. -/
theorem slot?_of_perm (moved : fields.Perm others) :
    Node.slot? fields name = Node.slot? others name := by
  have named : (Node.fieldsNamed name fields).Perm (Node.fieldsNamed name others) :=
    moved.filterMap _
  rw [Node.slot?.eq_def, Node.slot?.eq_def]
  cases first : Node.fieldsNamed name fields with
  | nil =>
    rw [first] at named
    rw [named.symm.eq_nil]
  | cons value rest =>
    rw [first] at named
    cases rest with
    | nil => rw [List.perm_singleton.mp named.symm]
    | cons next rest =>
      obtain ⟨one, two, more, second⟩ : ∃ one two more,
          Node.fieldsNamed name others = one :: two :: more := by
        match Node.fieldsNamed name others, named.length_eq with
        | one :: two :: more, _ => exact ⟨one, two, more, rfl⟩
      rw [second]

/-- A field with another name holds nothing under a name. -/
theorem slot?_append_of_ne {key : List Unit16} {value : Node}
    (differs : stringOfUnits? key ≠ some name) :
    Node.slot? (fields ++ [(key, value)]) name = Node.slot? fields name := by
  have named : Node.fieldsNamed name (fields ++ [(key, value)]) = Node.fieldsNamed name fields := by
    rw [Node.fieldsNamed, Node.fieldsNamed, List.filterMap_append, List.filterMap_cons_none,
      List.filterMap_nil, List.append_nil]
    exact if_neg differs
  rw [Node.slot?, Node.slot?, named]

/-- What stands in one field does not show under another name. -/
theorem slot?_of_ne_field {before after : List (List Unit16 × Node)} {key : List Unit16}
    {first second : Node} (differs : stringOfUnits? key ≠ some name) :
    Node.slot? (before ++ (key, first) :: after) name =
      Node.slot? (before ++ (key, second) :: after) name := by
  have named (value : Node) : Node.fieldsNamed name (before ++ (key, value) :: after) =
      Node.fieldsNamed name before ++ Node.fieldsNamed name after := by
    rw [Node.fieldsNamed, List.filterMap_append, List.filterMap_cons_none]
    · rfl
    · exact if_neg differs
  rw [Node.slot?, Node.slot?, named, named]

/-- What stands in a field is what its name leads to, unless the name is given twice. -/
theorem slot?_field {before after : List (List Unit16 × Node)} {key : List Unit16}
    (isName : stringOfUnits? key = some name) :
    (∀ value, Node.slot? (before ++ (key, value) :: after) name = none) ∨
      ∀ value, Node.slot? (before ++ (key, value) :: after) name = some (some value) := by
  have named (value : Node) : Node.fieldsNamed name (before ++ (key, value) :: after) =
      Node.fieldsNamed name before ++ value :: Node.fieldsNamed name after := by
    rw [Node.fieldsNamed, List.filterMap_append, List.filterMap_cons_some]
    · rfl
    · exact if_pos isName
  cases first : Node.fieldsNamed name before with
  | nil =>
    cases last : Node.fieldsNamed name after with
    | nil =>
      right
      intro value
      rw [Node.slot?, named, first, last]
      rfl
    | cons next rest =>
      left
      intro value
      rw [Node.slot?, named, first, last]
      rfl
  | cons one rest =>
    left
    intro value
    rw [Node.slot?, named, first]
    cases rest <;> rfl

/-- The values of named fields are found where all names are strings. -/
theorem slots?_object (wanted : List String) (named : AreNamed fields) :
    (Node.object fields).slots? wanted = wanted.mapM (Node.slot? fields) := by
  rw [Node.slots?, if_pos (all_isSome_iff.mpr named)]

theorem slots?_of_not_areNamed (wanted : List String) (unnamed : ¬ AreNamed fields) :
    (Node.object fields).slots? wanted = none := by
  rw [Node.slots?, if_neg (fun named => unnamed (all_isSome_iff.mp named))]

end Slots

end Banana.Json
