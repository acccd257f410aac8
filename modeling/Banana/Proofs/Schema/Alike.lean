/-
This file compares types, and what is made of them, up to the order of named entries. Two types are
alike when one becomes the other by moving properties of the object types inside, and two tables
when each variable has types that are alike. Where moving is not allowed this is equality. What a
lookup finds does not depend on the order, so alike types have alike members.
-/

import Banana.Proofs.Json.Results
import Banana.Proofs.Schema.Members
import Banana.Schema.Catalog
import Banana.Schema.TypeTable

/-! ### Entries -/

namespace Banana.Entries

open Json

variable {α : Type} {related : α → α → Prop}

/-- In another order a name has the same value, if it has only one. -/
theorem get?_of_perm {entries others : List (String × α)} (moved : entries.Perm others)
    (distinct : (names entries).Nodup) (name : String) : get? name entries = get? name others := by
  induction moved with
  | nil => rfl
  | cons entry _ inductionHypothesis =>
    obtain ⟨key, value⟩ := entry
    rw [get?, get?, inductionHypothesis (List.nodup_cons.mp distinct).2]
  | swap first second rest =>
    obtain ⟨key, value⟩ := first
    obtain ⟨other, last⟩ := second
    have differs : other ≠ key := fun same =>
      (List.nodup_cons.mp distinct).1 (same ▸ List.mem_cons_self)
    simp only [get?]
    split <;> split
    · next isOther isKey => exact absurd (isOther.trans isKey.symm) differs
    all_goals rfl
  | trans first _ inductionHypothesis second =>
    have still : (names _).Nodup := (first.map Prod.fst).nodup_iff.mp distinct
    exact (inductionHypothesis distinct).trans (second still)

theorem names_of_sameName {entries others : List (String × α)}
    (alike : List.Forall₂ (SameName related) entries others) : names entries = names others := by
  induction alike with
  | nil => rfl
  | cons first _ inductionHypothesis =>
    rw [names, List.map_cons, first.1, ← names, inductionHypothesis]
    rfl

theorem rel_get?_of_sameName {entries others : List (String × α)}
    (alike : List.Forall₂ (SameName related) entries others) (name : String) :
    Option.Rel related (get? name entries) (get? name others) := by
  induction alike with
  | nil => exact .none
  | @cons first second _ _ head _ inductionHypothesis =>
    obtain ⟨key, value⟩ := first
    obtain ⟨_, other⟩ := second
    obtain ⟨rfl, alike⟩ := head
    rw [get?, get?]
    split
    · exact .some alike
    · exact inductionHypothesis

theorem sameName_put {entries others : List (String × α)}
    (alike : List.Forall₂ (SameName related) entries others) {name : String} {value other : α}
    (put : related value other) :
    List.Forall₂ (SameName related) (Entries.put name value entries)
      (Entries.put name other others) := by
  induction alike with
  | nil => exact .cons ⟨rfl, put⟩ .nil
  | @cons first second _ _ head rest inductionHypothesis =>
    obtain ⟨key, old⟩ := first
    obtain ⟨_, last⟩ := second
    obtain ⟨rfl, alike⟩ := head
    rw [Entries.put, Entries.put]
    split
    · exact .cons ⟨rfl, put⟩ rest
    · exact .cons ⟨rfl, alike⟩ inductionHypothesis

/-- Related values put under the same names, one after the other, make related entries. -/
theorem sameName_ofList {pairs others : List (String × α)}
    (alike : List.Forall₂ (SameName related) pairs others) :
    List.Forall₂ (SameName related) (ofList pairs) (ofList others) := by
  refine List.rel_foldl ?_ .nil alike
  rintro _ _ before ⟨name, value⟩ ⟨_, other⟩ ⟨rfl, put⟩
  exact sameName_put before put

/-- Entries with different names are settled by the order of the names and what is found there. -/
theorem eq_of_names_of_get? {entries others : List (String × α)}
    (distinct : (names entries).Nodup) (same : names entries = names others)
    (found : ∀ name, get? name entries = get? name others) : entries = others := by
  induction entries generalizing others with
  | nil => exact (List.map_eq_nil_iff.mp same.symm).symm
  | cons entry rest inductionHypothesis =>
    obtain ⟨key, value⟩ := entry
    obtain ⟨⟨_, other⟩, others, rfl⟩ : ∃ entry later, others = entry :: later :=
      List.exists_cons_of_ne_nil fun isNil => by simp [isNil, names] at same
    obtain ⟨isKey, sameRest⟩ := List.cons.inj same
    obtain rfl : key = _ := isKey
    change names rest = names others at sameRest
    have sameValue := found key
    rw [get?, get?, if_pos rfl, if_pos rfl] at sameValue
    obtain ⟨isNew, distinct⟩ : key ∉ names rest ∧ (names rest).Nodup :=
      List.nodup_cons.mp distinct
    obtain rfl : rest = others := inductionHypothesis distinct sameRest fun name => by
      have foundName := found name
      rw [get?, get?] at foundName
      by_cases isKey : key = name
      · subst isKey
        have isNewToo : key ∉ names others := sameRest ▸ isNew
        rw [← isSome_get?_iff, Option.not_isSome_iff_eq_none] at isNew isNewToo
        rw [isNew, isNewToo]
      · rwa [if_neg isKey, if_neg isKey] at foundName
    rw [Option.some.inj sameValue]

end Banana.Entries

/-! ### Types -/

namespace Banana.Schema

open Json

/-- Whether one type becomes the other by moving properties of object types, wherever they stand
inside; where moving is not allowed, nothing changes. -/
inductive ValueType.Alike (moving : Prop) : ValueType → ValueType → Prop where
  | refl (type : ValueType) : Alike moving type type
  | symm {first second : ValueType} (alike : Alike moving first second) :
    Alike moving second first
  | trans {first second third : ValueType} (before : Alike moving first second)
    (after : Alike moving second third) : Alike moving first third
  | prop (before : List (String × ValueType)) (name : String) {first second : ValueType}
    (after : List (String × ValueType)) (alike : Alike moving first second) :
    Alike moving (.object (before ++ (name, first) :: after))
      (.object (before ++ (name, second) :: after))
  | arg (component : String) (before : List Param) (name : String) {first second : ValueType}
    (defaultValue : Json) (after : List Param) (alike : Alike moving first second) :
    Alike moving (.component component (before ++ ⟨name, first, defaultValue⟩ :: after))
      (.component component (before ++ ⟨name, second, defaultValue⟩ :: after))
  | moved {props others : List (String × ValueType)} (allowed : moving)
    (moved : props.Perm others) (distinct : (Entries.names props).Nodup) :
    Alike moving (.object props) (.object others)

/-- Whether two parameters differ at most in the order of properties inside their types. -/
structure Param.Alike (moving : Prop) (first second : Param) : Prop where
  name : first.name = second.name
  type : first.type.Alike moving second.type
  defaultValue : first.defaultValue = second.defaultValue

/-- Whether two components differ at most in the order of properties inside types. -/
structure Component.Alike (moving : Prop) (first second : Component) : Prop where
  name : first.name = second.name
  description : first.description = second.description
  params : List.Forall₂ (Param.Alike moving) first.params second.params

/-- Whether two catalogs differ at most in the order of properties inside types. -/
def Catalog.Alike (moving : Prop) (first second : Catalog) : Prop :=
  List.Forall₂ (Component.Alike moving) first.components second.components

/-- Whether two tables have the same variables, in the same order unless variables may be moved,
with types that are alike. -/
structure TypeTable.Alike (movingVariables moving : Prop) (first second : TypeTable) : Prop where
  names : first.names.Perm second.names
  order : movingVariables ∨ first.names = second.names
  lookup : ∀ name, Option.Rel (ValueType.Alike moving) (first.lookup name) (second.lookup name)

section Alike

variable {moving movingVariables : Prop}

theorem ValueType.equivalence_alike : Equivalence (ValueType.Alike moving) :=
  ⟨.refl, .symm, .trans⟩

theorem Param.equivalence_alike : Equivalence (Param.Alike moving) where
  refl _ := ⟨rfl, .refl _, rfl⟩
  symm alike := ⟨alike.name.symm, alike.type.symm, alike.defaultValue.symm⟩
  trans before after := ⟨before.name.trans after.name, before.type.trans after.type,
    before.defaultValue.trans after.defaultValue⟩

theorem Component.equivalence_alike : Equivalence (Component.Alike moving) where
  refl _ := ⟨rfl, rfl, (equivalence_forall₂ Param.equivalence_alike).refl _⟩
  symm alike := ⟨alike.name.symm, alike.description.symm,
    (equivalence_forall₂ Param.equivalence_alike).symm alike.params⟩
  trans before after := ⟨before.name.trans after.name, before.description.trans after.description,
    (equivalence_forall₂ Param.equivalence_alike).trans before.params after.params⟩

theorem Catalog.equivalence_alike : Equivalence (Catalog.Alike moving) where
  refl _ := (equivalence_forall₂ Component.equivalence_alike).refl _
  symm alike := (equivalence_forall₂ Component.equivalence_alike).symm alike
  trans before after := (equivalence_forall₂ Component.equivalence_alike).trans before after

theorem TypeTable.equivalence_alike : Equivalence (TypeTable.Alike movingVariables moving) where
  refl _ := ⟨.refl _, .inr rfl, fun _ => rel_of_eq .refl rfl⟩
  symm alike := ⟨alike.names.symm, alike.order.imp_right .symm, fun name =>
    (equivalence_rel ValueType.equivalence_alike).symm (alike.lookup name)⟩
  trans before after := ⟨before.names.trans after.names,
    before.order.elim .inl fun same => after.order.imp_right same.trans, fun name =>
    (equivalence_rel ValueType.equivalence_alike).trans (before.lookup name) (after.lookup name)⟩

/-- Object types with alike types under the same names are alike. -/
theorem ValueType.alike_object {props others : List (String × ValueType)}
    (alike : List.Forall₂ (SameName (ValueType.Alike moving)) props others) :
    ValueType.Alike moving (.object props) (.object others) := by
  suffices ∀ before, ValueType.Alike moving (.object (before ++ props)) (.object (before ++ others))
    from this []
  induction alike with
  | nil => exact fun before => .refl _
  | @cons first second _ rest head _ inductionHypothesis =>
    intro before
    obtain ⟨name, type⟩ := first
    obtain ⟨_, other⟩ := second
    obtain ⟨rfl, alike⟩ := head
    have later := inductionHypothesis (before ++ [(name, type)])
    rw [← List.append_cons, ← List.append_cons] at later
    exact later.trans (.prop before name rest alike)

/-- Component types with alike parameters are alike. -/
theorem ValueType.alike_component (name : String) {args others : List Param}
    (alike : List.Forall₂ (Param.Alike moving) args others) :
    ValueType.Alike moving (.component name args) (.component name others) := by
  suffices ∀ before, ValueType.Alike moving (.component name (before ++ args))
      (.component name (before ++ others)) from this []
  induction alike with
  | nil => exact fun before => .refl _
  | @cons first second _ rest head _ inductionHypothesis =>
    intro before
    obtain ⟨argName, type, defaultValue⟩ := first
    obtain ⟨_, other, _⟩ := second
    obtain ⟨rfl, alike, rfl⟩ := head
    have later := inductionHypothesis (before ++ [⟨argName, type, defaultValue⟩])
    rw [← List.append_cons, ← List.append_cons] at later
    exact later.trans (.arg name before argName defaultValue rest alike)

/-! ### Tables -/

/-- Tables collected from alike types under the same names are alike. -/
theorem TypeTable.alike_ofList {pairs others : List (String × ValueType)}
    (alike : List.Forall₂ (SameName (ValueType.Alike moving)) pairs others) :
    TypeTable.Alike movingVariables moving (TypeTable.ofList pairs) (TypeTable.ofList others) := by
  have collected := Entries.sameName_ofList alike
  have same := Entries.names_of_sameName collected
  exact ⟨.of_eq same, .inr same, Entries.rel_get?_of_sameName collected⟩

/-- Tables with the same entries in another order are alike, if variables may be moved. -/
theorem TypeTable.alike_of_perm (allowed : movingVariables) {first second : TypeTable}
    (moved : first.entries.Perm second.entries) :
    TypeTable.Alike movingVariables moving first second where
  names := moved.map Prod.fst
  order := .inl allowed
  lookup name := rel_of_eq .refl (Entries.get?_of_perm moved first.distinct name)

/-! ### Nothing is moved -/

theorem ValueType.Alike.eq {first second : ValueType} (alike : first.Alike moving second)
    (fixed : ¬ moving) : first = second := by
  induction alike with
  | refl => rfl
  | symm _ inductionHypothesis => exact inductionHypothesis.symm
  | trans _ _ before after => exact before.trans after
  | prop _ _ _ _ inductionHypothesis => rw [inductionHypothesis]
  | arg _ _ _ _ _ _ inductionHypothesis => rw [inductionHypothesis]
  | moved allowed => exact absurd allowed fixed

theorem Param.Alike.eq {first second : Param} (alike : Param.Alike moving first second)
    (fixed : ¬ moving) : first = second := by
  obtain ⟨_, _, _⟩ := first
  obtain ⟨_, _, _⟩ := second
  obtain ⟨rfl, alike, rfl⟩ := alike
  exact congrArg (ParamOf.mk _ · _) (alike.eq fixed)

theorem Component.Alike.eq {first second : Component} (alike : first.Alike moving second)
    (fixed : ¬ moving) : first = second := by
  obtain ⟨_, _, _⟩ := first
  obtain ⟨_, _, _⟩ := second
  obtain ⟨rfl, rfl, alike⟩ := alike
  exact congrArg (Component.mk _ _) (eq_of_forall₂ (fun _ _ alike => Param.Alike.eq alike fixed)
    alike)

theorem Catalog.Alike.eq {first second : Catalog} (alike : first.Alike moving second)
    (fixed : ¬ moving) : first = second :=
  congrArg Catalog.mk (eq_of_forall₂ (fun _ _ alike => Component.Alike.eq alike fixed) alike)

/-- Where only variables are moved, each has the same type as before. -/
theorem TypeTable.Alike.lookup_eq {first second : TypeTable}
    (alike : first.Alike movingVariables moving second) (fixed : ¬ moving) (name : String) :
    first.lookup name = second.lookup name :=
  rel_eq_iff.mp (rel_mono (fun _ _ alike => alike.eq fixed) (alike.lookup name))

theorem TypeTable.Alike.eq {first second : TypeTable}
    (alike : first.Alike movingVariables moving second) (fixedVariables : ¬ movingVariables)
    (fixed : ¬ moving) : first = second :=
  TypeTable.ext (Entries.eq_of_names_of_get? first.distinct
    (alike.order.resolve_left fixedVariables) (alike.lookup_eq fixed))

/-! ### Members -/

/-- A path leads to alike members of alike types, whatever the order of the properties. -/
theorem ValueType.Alike.member? {first second : ValueType} (alike : first.Alike moving second)
    (name : String) :
    Option.Rel (ValueType.Alike moving) (first.member? name) (second.member? name) := by
  have isEquivalence := equivalence_rel (@ValueType.equivalence_alike moving)
  have isReflexive (entry : String × ValueType) : SameName (ValueType.Alike moving) entry entry :=
    ⟨rfl, .refl _⟩
  induction alike with
  | refl => exact isEquivalence.refl _
  | symm _ inductionHypothesis => exact isEquivalence.symm inductionHypothesis
  | trans _ _ before after => exact isEquivalence.trans before after
  | @prop before key first second after alike =>
    have here : SameName (ValueType.Alike moving) (key, first) (key, second) := ⟨rfl, alike⟩
    exact Entries.rel_get?_of_sameName (forall₂_of_one isReflexive before after here) name
  | @arg _ before key first second defaultValue after alike =>
    rw [member?_eq_get?, member?_eq_get?, members, members, List.map_append, List.map_append]
    have here : SameName (ValueType.Alike moving) (key, first) (key, second) := ⟨rfl, alike⟩
    exact Entries.rel_get?_of_sameName (forall₂_of_one isReflexive _ _ here) name
  | moved _ moved distinct => exact rel_of_eq .refl (Entries.get?_of_perm moved distinct name)

end Alike

end Banana.Schema
