/-
This file proves that whatever is read from a document can be written into one: the wire form of a
type, a component, a catalog or a type table that was read nests its containers no deeper than the
document could, and names no field twice. So of values that come from a document nothing has to be
assumed about either.
-/

import Banana.Proofs.Json.Decoded
import Banana.Proofs.Schema.ReadBack

namespace Banana.Schema

open Json

/-! ### Wire forms that are readable -/

theorem isReadable_paramToJson {param : Param} {room : Nat}
    (type : IsReadable room param.type.toJson) (defaultValue : IsReadable room param.defaultValue) :
    IsReadable (room + 1) (paramToJson param) := by
  refine (isReadable_object _).mpr ⟨?_, ?_⟩
  · show List.Nodup ["name", "type", "default_value"]
    decide
  · simpa using ⟨isReadable_string room param.name, type, defaultValue⟩

theorem isReadable_plainType {kind : String} (room : Nat) :
    IsReadable (room + 1) (.object [("id", .string kind)]) := by
  refine (isReadable_object _).mpr ⟨?_, ?_⟩
  · show List.Nodup ["id"]
    decide
  · simpa using isReadable_string room kind

theorem isReadable_enumeration (room : Nat) (variants : List String) :
    IsReadable (room + 2) (ValueType.enumeration variants).toJson := by
  have list : IsReadable (room + 1) (.array (variants.map .string)) :=
    isReadable_list fun text _ => isReadable_string room text
  rw [ValueType.toJson]
  refine (isReadable_object _).mpr ⟨?_, ?_⟩
  · show List.Nodup ["id", "variants"]
    decide
  · simpa using ⟨isReadable_string (room + 1) "enum", list⟩

theorem isReadable_objectType {room : Nat} {props : List (String × ValueType)}
    (distinct : (Entries.names props).Nodup)
    (each : ∀ prop ∈ props, IsReadable room prop.2.toJson) :
    IsReadable (room + 2) (ValueType.object props).toJson := by
  have fields : IsReadable (room + 1) (.object (propsToJson props)) := by
    rw [propsToJson_eq_map]
    refine (isReadable_object _).mpr ⟨(names_map ValueType.toJson props).symm ▸ distinct, ?_⟩
    intro field member
    obtain ⟨prop, isProp, rfl⟩ := List.mem_map.mp member
    exact each prop isProp
  rw [ValueType.toJson]
  refine (isReadable_object _).mpr ⟨?_, ?_⟩
  · show List.Nodup ["id", "props"]
    decide
  · simpa using ⟨isReadable_string (room + 1) "object", fields⟩

theorem isReadable_componentType {room : Nat} {name : String} {args : List Param}
    (each : ∀ arg ∈ args, IsReadable room (paramToJson arg)) :
    IsReadable (room + 2) (ValueType.component name args).toJson := by
  have list : IsReadable (room + 1) (.array (argsToJson args)) := by
    rw [argsToJson_eq_map]
    exact isReadable_list each
  rw [ValueType.toJson]
  refine (isReadable_object _).mpr ⟨?_, ?_⟩
  · show List.Nodup ["id", "name", "args"]
    decide
  · simpa using ⟨isReadable_string (room + 1) "component", isReadable_string (room + 1) name, list⟩

/-! ### Types -/

/-- The tag and the fields of a type stand inside the same tree. -/
theorem tagged?_inside {inside : Bool} {node fields : Node} {kind : String}
    (tagged : tagged? inside node = some (kind, fields)) :
    ∃ children fieldChildren, node.inside? = some children ∧
      fields.inside? = some fieldChildren ∧ ∀ child ∈ fieldChildren, child ∈ children := by
  rw [tagged?.eq_def] at tagged
  split at tagged
  · split at tagged
    · obtain ⟨_, -, ⟨⟩⟩ := Option.map_eq_some_iff.mp tagged
      exact ⟨_, _, rfl, rfl, fun _ member => member⟩
    · cases tagged
  · obtain ⟨_, -, ⟨⟩⟩ := Option.map_eq_some_iff.mp tagged
    exact ⟨_, _, rfl, rfl, fun _ member => List.mem_cons_of_mem _ member⟩
  · cases tagged

/-- The values of the fields of a type stand for values in the room that is left inside it. -/
theorem isValue_slots {inside : Bool} {room : Nat} {node fields : Node} {kind : String}
    (isValue : node.IsValue room) (tagged : tagged? inside node = some (kind, fields)) :
    ∃ left, room = left + 1 ∧ ∀ wanted slots, fields.slots? wanted = some slots →
      ∀ child, some child ∈ slots → child.IsValue left := by
  obtain ⟨children, fieldChildren, isInside, areInside, included⟩ := tagged?_inside tagged
  obtain ⟨left, rfl, each⟩ := isValue.inside isInside
  refine ⟨left, rfl, fun wanted slots found child member => each child (included child ?_)⟩
  obtain ⟨others, areOthers, isOther⟩ := slots?_inside found
  rw [areInside] at areOthers
  cases areOthers
  exact isOther child member

/-- A parameter that was read is readable, if its type is. -/
theorem isReadable_of_readParam {readType : Node → Option ValueType} {room : Nat} {node : Node}
    (isValue : node.IsValue room)
    (readable : ∀ child left type, child.IsValue left → readType child = some type →
      IsReadable left type.toJson)
    {param : Param} (read : readParam readType node = some param) :
    IsReadable room (paramToJson param) := by
  rw [readParam] at read
  split at read
  · next name type defaultValue slots =>
    obtain ⟨children, isInside, included⟩ := slots?_inside slots
    obtain ⟨left, rfl, each⟩ := isValue.inside isInside
    simp only [bind, Option.bind_eq_some_iff, pure, Option.some.injEq] at read
    obtain ⟨_, -, readType, isType, readDefault, isDefault, rfl⟩ := read
    refine isReadable_paramToJson ?_ ?_
    · obtain ⟨child, rfl, isType⟩ := Option.bind_eq_some_iff.mp isType
      exact readable child left _ (each child (included child (by simp))) isType
    · cases defaultValue with
      | none =>
        cases isDefault
        exact isReadable_null left
      | some child =>
        obtain ⟨json, isJson⟩ :=
          Option.isSome_iff_exists.mp (each child (included child (by simp)))
        have same : readDefault = json := Node.value?_unique isDefault isJson
        exact same ▸ isReadable_of_value? isJson
  · cases read

/-- A type that was read is readable. -/
theorem isReadable_of_readType (bound : Nat) {inside : Bool} {room : Nat} {node : Node}
    (isValue : node.IsValue room) {type : ValueType}
    (read : readType inside bound node = some type) :
    IsReadable room type.toJson := by
  induction bound generalizing inside room node type with
  | zero => cases read
  | succ bound inductionHypothesis =>
    rw [readType] at read
    split at read
    · next kind fields tagged =>
      obtain ⟨left, rfl, each⟩ := isValue_slots isValue tagged
      -- The kinds, in the order in which the reader tries them.
      rw [readKind] at read
      split at read
      · obtain ⟨_, -, rfl⟩ := Option.map_eq_some_iff.mp read
        exact isReadable_plainType left
      split at read
      · obtain ⟨_, -, rfl⟩ := Option.map_eq_some_iff.mp read
        exact isReadable_plainType left
      split at read
      · obtain ⟨_, -, rfl⟩ := Option.map_eq_some_iff.mp read
        exact isReadable_plainType left
      split at read
      · split at read
        · next variants slots =>
          obtain ⟨_, -, rfl⟩ := Option.map_eq_some_iff.mp read
          obtain ⟨room, rfl, -⟩ := (each _ _ slots _ List.mem_cons_self).inside rfl
          exact isReadable_enumeration room _
        · cases read
      split at read
      · split at read
        · next props slots =>
          obtain ⟨pairs, arePairs, ⟨⟩⟩ := Option.bind_eq_some_iff.mp read
          obtain ⟨room, rfl, areValues⟩ := (each _ _ slots _ List.mem_cons_self).inside rfl
          refine isReadable_objectType (Entries.nodup_names_ofList pairs) fun prop member => ?_
          obtain ⟨field, isField, isProp⟩ :=
            exists_of_mapM_eq_some arePairs (Entries.mem_of_mem_ofList member)
          simp only [bind, Option.bind_eq_some_iff, pure, Option.some.injEq] at isProp
          obtain ⟨_, -, type, isType, rfl⟩ := isProp
          exact inductionHypothesis (areValues _ (List.mem_map_of_mem isField)) isType
        · cases read
      split at read
      · split at read
        · next name args slots =>
          simp only [bind, Option.bind_eq_some_iff, pure, Option.some.injEq] at read
          obtain ⟨_, -, args, areArgs, rfl⟩ := read
          obtain ⟨room, rfl, areValues⟩ :=
            (each _ _ slots _ (List.mem_cons_of_mem _ List.mem_cons_self)).inside rfl
          refine isReadable_componentType fun arg member => ?_
          obtain ⟨node, isNode, isArg⟩ := exists_of_mapM_eq_some areArgs member
          exact isReadable_of_readParam (areValues node isNode)
            (fun _ _ _ isValue isType => inductionHypothesis isValue isType) isArg
        · cases read
      · cases read
    · cases read

/-- A type that was read on its own is readable. -/
theorem ValueType.isReadable_of_read? {room : Nat} {node : Node} {type : ValueType}
    (read : ValueType.read? room node = some type) : IsReadable room type.toJson := by
  rw [ValueType.read?] at read
  split at read
  · next isValue => exact isReadable_of_readType room isValue read
  · cases read

/-! ### Records -/

theorem Param.isReadable_of_read? {room : Nat} {node : Node} {param : Param}
    (read : Param.read? room node = some param) : IsReadable room (paramToJson param) := by
  rw [Param.read?] at read
  obtain ⟨left, slots, rfl, -, read⟩ := record?_eq_some_iff.mp read
  split at read
  · next name type defaultValue =>
    simp only [bind, Option.bind_eq_some_iff, pure, Option.some.injEq] at read
    obtain ⟨_, -, _, isType, _, isDefault, rfl⟩ := read
    refine isReadable_paramToJson ?_ ?_
    · obtain ⟨child, rfl, isType⟩ := Option.bind_eq_some_iff.mp isType
      exact ValueType.isReadable_of_read? isType
    · cases defaultValue with
      | none =>
        cases isDefault
        exact isReadable_null left
      | some child => exact isReadable_of_value? isDefault
  · cases read

/-- A component without its parameters is written with an empty list of them, so there has to be
room for that. -/
theorem Component.isReadable_of_read? {room : Nat} (enough : 2 ≤ room) {node : Node}
    {component : Component} (read : Component.read? room node = some component) :
    IsReadable room component.toJson := by
  rw [Component.read?] at read
  obtain ⟨left, slots, rfl, -, read⟩ := record?_eq_some_iff.mp read
  obtain ⟨inner, rfl⟩ :=
    Nat.exists_eq_add_one.mpr (Nat.lt_of_succ_le (Nat.le_of_succ_le_succ enough))
  split at read
  · next name description params =>
    simp only [bind, Option.bind_eq_some_iff, pure, Option.some.injEq] at read
    obtain ⟨name, -, description, -, params, areParams, rfl⟩ := read
    have list : IsReadable (inner + 1) (.array (params.map paramToJson)) := by
      refine isReadable_list fun param member => ?_
      obtain ⟨_, item, ⟨⟩, isParam⟩ := forall_of_defaulted_list? areParams param member
      exact Param.isReadable_of_read? isParam
    rw [Component.toJson]
    refine (isReadable_object _).mpr ⟨?_, ?_⟩
    · show List.Nodup ["name", "description", "params"]
      decide
    · simpa using ⟨isReadable_string _ name, isReadable_string _ description, list⟩
  · cases read

theorem Catalog.isReadable_of_read? {room : Nat} (enough : 4 ≤ room) {node : Node}
    {catalog : Catalog} (read : Catalog.read? room node = some catalog) :
    IsReadable room catalog.toJson := by
  rw [Catalog.read?] at read
  obtain ⟨left, slots, rfl, -, read⟩ := record?_eq_some_iff.mp read
  obtain ⟨inner, rfl⟩ : ∃ inner, left = inner + 1 := Nat.exists_eq_add_one.mpr (by omega)
  split at read
  · next components =>
    simp only [bind, Option.bind_eq_some_iff, pure, Option.some.injEq] at read
    obtain ⟨components, areComponents, rfl⟩ := read
    have list : IsReadable (inner + 1) (.array (components.map Component.toJson)) := by
      refine isReadable_list fun component member => ?_
      obtain ⟨_, item, ⟨⟩, isComponent⟩ := forall_of_defaulted_list? areComponents component member
      exact Component.isReadable_of_read? (by omega) isComponent
    rw [Catalog.toJson]
    refine (isReadable_object _).mpr ⟨?_, ?_⟩
    · show List.Nodup ["components"]
      decide
    · simpa using list
  · cases read

theorem TypeTable.isReadable_of_read? {room : Nat} {node : Node} {table : TypeTable}
    (read : TypeTable.read? room node = some table) : IsReadable room table.toJson := by
  rw [TypeTable.read?.eq_def] at read
  split at read
  · next left fields =>
    obtain ⟨pairs, arePairs, ⟨⟩⟩ := Option.bind_eq_some_iff.mp read
    rw [TypeTable.toJson]
    refine (isReadable_object _).mpr ⟨?_, fun field member => ?_⟩
    · rw [names_map]
      exact Entries.nodup_names_ofList pairs
    · obtain ⟨entry, isEntry, rfl⟩ := List.mem_map.mp member
      obtain ⟨source, -, isSource⟩ :=
        exists_of_mapM_eq_some arePairs (Entries.mem_of_mem_ofList isEntry)
      simp only [bind, Option.bind_eq_some_iff, pure, Option.some.injEq] at isSource
      obtain ⟨_, -, type, isType, rfl⟩ := isSource
      exact ValueType.isReadable_of_read? isType
  · cases read

end Banana.Schema
