/-
This file holds the catalog: the components that a pipeline can be built from, each with the
parameters it takes. A catalog may name a component twice; a lookup then finds the first one.
-/

import Banana.Schema.ValueType
import Banana.Json.Write

namespace Banana.Schema

/-- What is shown beside a parameter: the kind of its type and its default as JSON. -/
def ParamOf.documentation (param : Param) : String :=
  param.type.kind ++ " default_value: " ++ param.defaultValue.toText

/-- A building block of pipelines. -/
structure Component where
  name : String
  description : String
  params : List Param

/-- A component that takes no parameters yet. -/
def Component.new (name description : String) : Component where
  name := name
  description := description
  params := []

/-- The component with one more parameter, after those it has. -/
def Component.withParam (component : Component) (param : Param) : Component :=
  { component with params := component.params ++ [param] }

/-- The first parameter with a name. -/
def Component.param? (component : Component) (name : String) : Option Param :=
  component.params.find? (·.name == name)

/-- The components on offer. -/
structure Catalog where
  components : List Component := []

namespace Catalog

/-- The catalog without components. -/
def empty : Catalog := {}

/-- The first component with a name. -/
def find? (catalog : Catalog) (name : String) : Option Component :=
  catalog.components.find? (·.name == name)

/-- The names of the components, repetitions included. -/
def names (catalog : Catalog) : List String :=
  catalog.components.map (·.name)

/-- How many components there are. -/
def size (catalog : Catalog) : Nat :=
  catalog.components.length

/-- Whether there is no component. -/
def isEmpty (catalog : Catalog) : Bool :=
  catalog.components.isEmpty

end Catalog

end Banana.Schema
