/-
This file proves that types, parameters, components, catalogs and type tables are read again from
the trees they are written as. A type inside a type is read by the same reader in less room, so the
proof follows the nesting of types; everything else is a record of named fields around it.
-/

import Banana.Proofs.Json.Fields
import Banana.Schema.Wire

namespace Banana.Schema

open Json

/-! ### Induction over types -/

/-- What holds of a type as soon as it holds of the types directly inside holds of all types. -/
@[elab_as_elim, induction_eliminator]
theorem ValueType.inductionInside {motive : ValueType → Prop} (any : motive .any)
    (string : motive .string) (number : motive .number)
    (enumeration : ∀ variants, motive (.enumeration variants))
    (object : ∀ props, (∀ prop ∈ props, motive prop.2) → motive (.object props))
    (component : ∀ name args, (∀ arg ∈ args, motive arg.type) → motive (.component name args)) :
    ∀ type, motive type :=
  @ValueType.rec motive (fun props => ∀ prop ∈ props, motive prop.2)
    (fun args => ∀ arg ∈ args, motive arg.type) (fun prop => motive prop.2)
    (fun arg => motive arg.type) any string number enumeration object component
    (fun _ member => absurd member List.not_mem_nil)
    (fun _ _ first others => List.forall_mem_cons.mpr ⟨first, others⟩)
    (fun _ member => absurd member List.not_mem_nil)
    (fun _ _ first others => List.forall_mem_cons.mpr ⟨first, others⟩)
    (fun _ _ holds => holds) (fun _ _ _ holds => holds)

/-! ### The wire forms of lists -/

theorem propsToJson_eq_map (props : List (String × ValueType)) :
    propsToJson props = props.map fun (name, type) => (name, type.toJson) := by
  induction props with
  | nil => rfl
  | cons prop rest inductionHypothesis =>
    rw [propsToJson, inductionHypothesis, List.map_cons]

theorem argsToJson_eq_map (args : List Param) : argsToJson args = args.map paramToJson := by
  induction args with
  | nil => rfl
  | cons arg rest inductionHypothesis =>
    rw [argsToJson, inductionHypothesis, List.map_cons]
    rfl

/-- The names of entries are those of the values that are written. -/
theorem names_map {α β : Type} (write : α → β) (entries : List (String × α)) :
    Entries.names (entries.map fun (name, value) => (name, write value)) =
      Entries.names entries := by
  rw [Entries.names, Entries.names, List.map_map]
  rfl

/-! ### Types -/

/-- The tag of a written type names its kind. -/
theorem tagged?_toNode {fields : List (String × Json)} (distinct : (Entries.names fields).Nodup)
    {kind : String} (tag : Entries.get? "id" fields = some (.string kind)) (inside : Bool) :
    tagged? inside (toNode (.object fields)) = some (kind, toNode (.object fields)) := by
  have found := slot?_fieldNodes distinct "id"
  rw [tag] at found
  have named : kind? inside (toNode (.string kind)) = some kind := stringOfUnits?_unitsOf kind
  rw [toNode, tagged?, found, Option.map_some]
  dsimp only
  rw [named, Option.map_some]

/-- A parameter is read from where it was written, if its type is. -/
theorem readParam_toNode {param : Param} {room : Nat} (within : room ≤ maxDepth)
    (portable : IsPortable (room + 1) (paramToJson param)) {readType : Node → Option ValueType}
    (reads : readType param.type.toJson.toNode = some param.type) :
    readParam readType (paramToJson param).toNode = some param := by
  obtain ⟨distinct, inside⟩ := (isPortable_object _).mp portable
  have isDefault : param.defaultValue.toNode.value? maxDepth = some param.defaultValue := by
    have inRoom := inside ("default_value", param.defaultValue) (by simp)
    exact value?_toNode (inRoom.mono within)
  have slots : (paramToJson param).toNode.slots? paramFields =
      some [some (toNode (.string param.name)), some param.type.toJson.toNode,
        some param.defaultValue.toNode] := by
    rw [paramToJson, slots?_toNode distinct]
    simp [paramFields, Entries.get?]
  rw [readParam, slots]
  simp only [Node.required?, Node.defaulted?, Option.bind_some, string?_toNode, reads, isDefault]
  rfl

/-- A written type is read by its kind. -/
theorem readType_object {fields : List (String × Json)} (distinct : (Entries.names fields).Nodup)
    {kind : String} (tag : Entries.get? "id" fields = some (.string kind)) (inside : Bool)
    (room : Nat) :
    readType inside (room + 1) (toNode (.object fields)) =
      readKind (readType true room) (toNode (.object fields)) kind := by
  rw [readType, tagged?_toNode distinct tag]

/-- A type of a kind without fields is read by its tag alone. -/
theorem readType_plain {kind : String} {type : ValueType}
    (isPlain : ∀ readType node,
      readKind readType node kind = (node.slots? []).map fun _ => type)
    {room : Nat} (portable : IsPortable room (.object [("id", .string kind)])) (inside : Bool) :
    readType inside room (toNode (.object [("id", .string kind)])) = some type := by
  obtain ⟨room, rfl⟩ := portable.exists_room (Nat.succ_pos _)
  have distinct := ((isPortable_object _).mp portable).1
  rw [readType_object distinct rfl, isPlain, slots?_toNode distinct]
  rfl

/-- A type is read from where it was written. The induction is on the type: every type inside it
takes at least one container more, so what bounds the nesting also bounds the recursion. -/
theorem readType_toNode (type : ValueType) {room : Nat} (within : room ≤ maxDepth)
    (portable : IsPortable room type.toJson) (inside : Bool) :
    readType inside room type.toJson.toNode = some type := by
  induction type generalizing room inside with
  | any => exact readType_plain (fun _ _ => by simp [readKind]) portable inside
  | string => exact readType_plain (fun _ _ => by simp [readKind]) portable inside
  | number => exact readType_plain (fun _ _ => by simp [readKind]) portable inside
  | enumeration variants =>
    obtain ⟨room, rfl⟩ := portable.exists_room (Nat.succ_pos _)
    have distinct := ((isPortable_object _).mp portable).1
    have read : (itemNodes (variants.map .string)).mapM Node.string? = some variants :=
      mapM_itemNodes fun text _ => string?_toNode text
    rw [ValueType.toJson, readType_object distinct rfl]
    simp only [readKind, slots?_toNode distinct]
    simp [Entries.get?, toNode, read]
  | object props inductionHypothesis =>
    obtain ⟨room, rfl⟩ := portable.exists_room (Nat.succ_pos _)
    obtain ⟨distinct, fields⟩ := (isPortable_object _).mp portable
    have portableProps := fields ("props", .object (propsToJson props)) (by simp)
    rw [propsToJson_eq_map] at portableProps
    obtain ⟨room, rfl⟩ := portableProps.exists_room (Nat.succ_pos _)
    have each := ((isPortable_object _).mp portableProps).2
    have read := @mapM_fieldNodes _ ValueType.toJson (readType true (room + 1)) props
      fun prop member => inductionHypothesis prop member (Nat.le_of_succ_le within)
        ((each _ (List.mem_map_of_mem member)).mono (Nat.le_succ room)) true
    have different : (Entries.names props).Nodup :=
      names_map ValueType.toJson props ▸ ((isPortable_object _).mp portableProps).1
    have slots : (ValueType.object props).toJson.toNode.slots? ["props"] =
        some [some (.object (fieldNodes (props.map fun (name, type) => (name, type.toJson))))] := by
      rw [ValueType.toJson, slots?_toNode distinct, propsToJson_eq_map]
      rfl
    rw [ValueType.toJson] at slots ⊢
    rw [readType_object distinct rfl]
    simp only [readKind, String.reduceEq, if_false, if_true, slots]
    refine (congrArg (· >>= fun pairs => pure (ValueType.object (Entries.ofList pairs))) read).trans
      (congrArg (some <| ValueType.object ·) (Entries.ofList_eq_self different))
  | component name args inductionHypothesis =>
    obtain ⟨room, rfl⟩ := portable.exists_room (Nat.succ_pos _)
    obtain ⟨distinct, fields⟩ := (isPortable_object _).mp portable
    have portableArgs := fields ("args", .array (argsToJson args)) (by simp)
    rw [argsToJson_eq_map] at portableArgs
    obtain ⟨room, rfl⟩ := portableArgs.exists_room (Nat.succ_pos _)
    have each := (isPortable_array _).mp portableArgs
    -- Between the list and the type of an argument lies the record of the argument.
    have read := @mapM_itemNodes _ paramToJson (readParam (readType true (room + 1))) args
      fun arg member => by
        have portableArg := each _ (List.mem_map_of_mem member)
        obtain ⟨inner, rfl⟩ := portableArg.exists_room (Nat.succ_pos _)
        have portableType := ((isPortable_object _).mp portableArg).2 ("type", arg.type.toJson)
          (by simp)
        exact readParam_toNode (by omega) portableArg
          (inductionHypothesis arg member (by omega) (portableType.mono (by omega)) true)
    have slots : (ValueType.component name args).toJson.toNode.slots? ["name", "args"] =
        some [some (toNode (.string name)), some (.array (itemNodes (args.map paramToJson)))] := by
      rw [ValueType.toJson, slots?_toNode distinct, argsToJson_eq_map]
      rfl
    rw [ValueType.toJson] at slots ⊢
    rw [readType_object distinct rfl]
    simp only [readKind, String.reduceEq, if_false, if_true, slots, string?_toNode, read]
    rfl

/-- Everything inside a type is a value, so a type is read on its own as it is inside another. -/
theorem ValueType.read?_toNode {type : ValueType} {room : Nat} (within : room ≤ maxDepth)
    (portable : IsPortable room type.toJson) :
    ValueType.read? room type.toJson.toNode = some type := by
  rw [ValueType.read?, value?_toNode portable, Option.isSome_some, if_pos rfl,
    readType_toNode type within portable]

/-! ### Records of the schema -/

theorem Param.read?_toNode {param : Param} {room : Nat} (within : room ≤ maxDepth)
    (portable : IsPortable room (paramToJson param)) :
    Param.read? room (paramToJson param).toNode = some param := by
  obtain ⟨room, rfl⟩ := portable.exists_room (Nat.succ_pos _)
  obtain ⟨distinct, fields⟩ := (isPortable_object _).mp portable
  have type := ValueType.read?_toNode (Nat.le_of_succ_le within)
    (fields ("type", param.type.toJson) (by simp))
  have defaultValue := value?_toNode (fields ("default_value", param.defaultValue) (by simp))
  rw [Param.read?, paramToJson, record?_toNode distinct]
  simp [paramFields, Entries.get?, Node.required?, Node.defaulted?, string?_toNode, type,
    defaultValue]

theorem Component.read?_toNode {component : Component} {room : Nat} (within : room ≤ maxDepth)
    (portable : IsPortable room component.toJson) :
    Component.read? room component.toJson.toNode = some component := by
  obtain ⟨room, rfl⟩ := portable.exists_room (Nat.succ_pos _)
  obtain ⟨distinct, fields⟩ := (isPortable_object _).mp portable
  have portableParams := fields ("params", .array (component.params.map paramToJson)) (by simp)
  obtain ⟨room, rfl⟩ := portableParams.exists_room (Nat.succ_pos _)
  have params := list?_toNode fun param member => Param.read?_toNode (by omega)
    ((isPortable_array _).mp portableParams _ (List.mem_map_of_mem member))
  rw [Component.read?, Component.toJson, record?_toNode distinct]
  simp [Entries.get?, Node.required?, Node.defaulted?, string?_toNode, params]

theorem Catalog.read?_toNode {catalog : Catalog} {room : Nat} (within : room ≤ maxDepth)
    (portable : IsPortable room catalog.toJson) :
    Catalog.read? room catalog.toJson.toNode = some catalog := by
  obtain ⟨room, rfl⟩ := portable.exists_room (Nat.succ_pos _)
  obtain ⟨distinct, fields⟩ := (isPortable_object _).mp portable
  have portableComponents :=
    fields ("components", .array (catalog.components.map Component.toJson)) (by simp)
  obtain ⟨room, rfl⟩ := portableComponents.exists_room (Nat.succ_pos _)
  have components := list?_toNode fun component member => Component.read?_toNode (by omega)
    ((isPortable_array _).mp portableComponents _ (List.mem_map_of_mem member))
  rw [Catalog.read?, Catalog.toJson, record?_toNode distinct]
  simp [Entries.get?, Node.defaulted?, components]

theorem TypeTable.read?_toNode {table : TypeTable} {room : Nat} (within : room ≤ maxDepth)
    (portable : IsPortable room table.toJson) :
    TypeTable.read? room table.toJson.toNode = some table := by
  obtain ⟨room, rfl⟩ := portable.exists_room (Nat.succ_pos _)
  obtain ⟨-, each⟩ := (isPortable_object _).mp portable
  have read := @mapM_fieldNodes _ ValueType.toJson (ValueType.read? room) table.entries
    fun entry member => ValueType.read?_toNode (Nat.le_of_succ_le within)
      (each _ (List.mem_map_of_mem member))
  rw [TypeTable.toJson, toNode, TypeTable.read?]
  refine (congrArg (· >>= fun pairs => pure (TypeTable.ofList pairs)) read).trans ?_
  refine congrArg some (TypeTable.ext ?_)
  exact Entries.ofList_eq_self table.distinct

end Banana.Schema
