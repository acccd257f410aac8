/-
This file holds the wire format of the schema. A type is an object whose `id` names its kind, with
the fields of that kind beside it, or an array of the kind and its fields. A parameter, a
component and a catalog are records; a type table is an object from variables to types.
-/

import Banana.Json.Decode
import Banana.Schema.Catalog
import Banana.Schema.TypeTable

namespace Banana.Schema

open Json

/-! ### Writing -/

mutual

/-- The wire form of a type. -/
def ValueType.toJson : ValueType → Json
  | .any => .object [("id", .string "any")]
  | .string => .object [("id", .string "string")]
  | .number => .object [("id", .string "number")]
  | .enumeration variants =>
    .object [("id", .string "enum"), ("variants", .array (variants.map .string))]
  | .object props => .object [("id", .string "object"), ("props", .object (propsToJson props))]
  | .component name args =>
    .object
      [("id", .string "component"), ("name", .string name), ("args", .array (argsToJson args))]

/-- The wire form of the properties of an object type. -/
def propsToJson : List (String × ValueType) → List (String × Json)
  | [] => []
  | (name, type) :: rest => (name, type.toJson) :: propsToJson rest

/-- The wire form of the parameters of a component type. -/
def argsToJson : List (ParamOf ValueType) → List Json
  | [] => []
  | ⟨name, type, defaultValue⟩ :: rest =>
    .object [("name", .string name), ("type", type.toJson), ("default_value", defaultValue)] ::
      argsToJson rest

end

/-- The wire form of a parameter. -/
def paramToJson (param : Param) : Json :=
  .object [("name", .string param.name), ("type", param.type.toJson),
    ("default_value", param.defaultValue)]

/-- The wire form of a component. -/
def Component.toJson (component : Component) : Json :=
  .object [("name", .string component.name), ("description", .string component.description),
    ("params", .array (component.params.map paramToJson))]

/-- The wire form of a catalog. -/
def Catalog.toJson (catalog : Catalog) : Json :=
  .object [("components", .array (catalog.components.map Component.toJson))]

/-- The wire form of a type table. -/
def TypeTable.toJson (table : TypeTable) : Json :=
  .object (table.entries.map fun (name, type) => (name, type.toJson))

/-! ### Reading -/

/-- The fields of a parameter. -/
def paramFields : List String := ["name", "type", "default_value"]

/-- The kinds of types, in the order in which a type inside another type may number them. -/
def kinds : List String := ["any", "string", "number", "enum", "object", "component"]

/-- The kind that the tag of a type names. Inside another type the tag may also be the place of
the kind among the kinds. -/
def kind? (inside : Bool) : Node → Option String
  | .string units => stringOfUnits? units
  | node => if inside then (node.natural? kinds.length).bind (kinds[·]?) else none

/-- The tag of a type, and the node that holds the fields of its kind. -/
def tagged? (inside : Bool) : Node → Option (String × Node)
  | .object fields =>
    match Node.slot? fields "id" with
    | some (some tag) => (kind? inside tag).map (·, .object fields)
    | _ => none
  | .array (tag :: rest) => (kind? inside tag).map (·, .array rest)
  | _ => none

/-- The parameter of a component type, given how its own type is read. -/
def readParam (readType : Node → Option ValueType) (node : Node) : Option Param :=
  match node.slots? paramFields with
  | some [name, type, defaultValue] => do
    pure {
      name := ← Node.required? Node.string? name
      type := ← Node.required? readType type
      defaultValue := ← Node.defaulted? .null (Node.value? maxDepth) defaultValue }
  | _ => none

/-- The type of a kind, given the node with its fields and how the types inside it are read. -/
def readKind (readType : Node → Option ValueType) (node : Node) (kind : String) :
    Option ValueType :=
  if kind = "any" then
    (node.slots? []).map fun _ => .any
  else if kind = "string" then
    (node.slots? []).map fun _ => .string
  else if kind = "number" then
    (node.slots? []).map fun _ => .number
  else if kind = "enum" then
    match node.slots? ["variants"] with
    | some [some (.array variants)] => (variants.mapM Node.string?).map .enumeration
    | _ => none
  else if kind = "object" then
    match node.slots? ["props"] with
    | some [some (.object props)] => do
      let pairs ← props.mapM fun (key, value) => do
        pure (← stringOfUnits? key, ← readType value)
      pure (.object (Entries.ofList pairs))
    | _ => none
  else if kind = "component" then
    match node.slots? ["name", "args"] with
    | some [some name, some (.array args)] => do
      pure (.component (← name.string?) (← args.mapM (readParam readType)))
    | _ => none
  else
    none

/-- The type that a node spells. Types are nested at most as deep as containers, which bounds the
recursion; `inside` says whether this type stands inside another one. -/
def readType (inside : Bool) : Nat → Node → Option ValueType
  | 0, _ => none
  | room + 1, node =>
    match tagged? inside node with
    | some (kind, fields) => readKind (readType true room) fields kind
    | none => none

/-- The type that a node spells. Unlike the fields of a record, everything inside a type has to be
a value, the parts that the type has no use for included. -/
def ValueType.read? (room : Nat) (node : Node) : Option ValueType :=
  if (node.value? room).isSome then readType false room node else none

/-- The parameter that a node spells. -/
def Param.read? : Nat → Node → Option Param :=
  Node.record? paramFields fun room fields =>
    match fields with
    | [name, type, defaultValue] => do
      pure {
        name := ← Node.required? Node.string? name
        type := ← Node.required? (ValueType.read? room) type
        defaultValue := ← Node.defaulted? .null (Node.value? room) defaultValue }
    | _ => none

/-- The component that a node spells. -/
def Component.read? : Nat → Node → Option Component :=
  Node.record? ["name", "description", "params"] fun room fields =>
    match fields with
    | [name, description, params] => do
      pure {
        name := ← Node.required? Node.string? name
        description := ← Node.defaulted? "" Node.string? description
        params := ← Node.defaulted? [] (Node.list? Param.read? room) params }
    | _ => none

/-- The catalog that a node spells. -/
def Catalog.read? : Nat → Node → Option Catalog :=
  Node.record? ["components"] fun room fields =>
    match fields with
    | [components] => do
      pure { components := ← Node.defaulted? [] (Node.list? Component.read? room) components }
    | _ => none

/-- The type table that a node spells: an object, and nothing else. -/
def TypeTable.read? : Nat → Node → Option TypeTable
  | room + 1, .object fields => do
    let pairs ← fields.mapM fun (key, value) => do
      pure (← stringOfUnits? key, ← ValueType.read? room value)
    pure (TypeTable.ofList pairs)
  | _, _ => none

end Banana.Schema
