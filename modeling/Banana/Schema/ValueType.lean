/-
This file holds the types that variables of the pipeline language have. The type checker declares
them; nothing here infers one. An object has named properties and an instance of a component has
named parameters: these are the members that a dotted path walks through.
-/

import Banana.Json.Value

namespace Banana.Schema

/-- A named parameter with a type out of `τ` and a default, which is `null` where there is none. -/
structure ParamOf (τ : Type) where
  name : String
  type : τ
  defaultValue : Json

/-- A type of the pipeline language. -/
inductive ValueType where
  | any
  | string
  | number
  | enumeration (variants : List String)
  | object (props : List (String × ValueType))
  | component (name : String) (args : List (ParamOf ValueType))
  deriving Inhabited

/-- A parameter of a component, or of an instance of one. -/
abbrev Param := ParamOf ValueType

namespace ValueType

/-- The word for the kind of a type. -/
def kind : ValueType → String
  | any => "any"
  | string => "string"
  | number => "number"
  | enumeration _ => "enum"
  | object _ => "object"
  | component _ _ => "component"

/-- Whether a dotted path can go on behind a value of the type. -/
def hasMembers : ValueType → Bool
  | object _ | component _ _ => true
  | _ => false

/-- The type of a member; of two parameters with one name the first counts. -/
def member? (name : String) : ValueType → Option ValueType
  | object props => Entries.get? name props
  | component _ args => (args.find? (·.name == name)).map (·.type)
  | _ => none

/-- The type at the end of a path of members. -/
def memberPath? (type : ValueType) : List String → Option ValueType
  | [] => some type
  | name :: rest => (type.member? name).bind (memberPath? · rest)

theorem memberPath?_append (type : ValueType) (first second : List String) :
    type.memberPath? (first ++ second) = (type.memberPath? first).bind (·.memberPath? second) := by
  induction first generalizing type with
  | nil => rfl
  | cons name rest inductionHypothesis =>
    cases found : type.member? name with
    | none => simp [memberPath?, found]
    | some next => simp [memberPath?, found, inductionHypothesis next]

/-- Texts separated by a comma and a blank. -/
def commaSeparated (texts : List String) : String :=
  ", ".intercalate texts

mutual

/-- The type as it is shown to a reader. -/
def display : ValueType → String
  | any => "any"
  | string => "string"
  | number => "number"
  | enumeration variants => "enum(" ++ " | ".intercalate variants ++ ")"
  | object props => "\x7b" ++ commaSeparated (displayProps props) ++ "\x7d"
  | component name args => name ++ "(" ++ commaSeparated (displayArgs args) ++ ")"

/-- The properties of an object, each shown with its type. -/
def displayProps : List (String × ValueType) → List String
  | [] => []
  | (name, type) :: rest => (name ++ ": " ++ type.display) :: displayProps rest

/-- The parameters of a component, each shown with its type. -/
def displayArgs : List (ParamOf ValueType) → List String
  | [] => []
  | ⟨name, type, _⟩ :: rest => (name ++ ": " ++ type.display) :: displayArgs rest

end

end ValueType

end Banana.Schema
