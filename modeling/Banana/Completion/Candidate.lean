/-
This file holds what a completion offers. A member is offered behind the path typed so far, so that
accepting it gives the whole path, and a component as a call whose arguments are still to come.
-/

import Banana.Schema.Catalog

namespace Banana.Completion

open Schema

/-- The icon beside a candidate. -/
inductive CandidateKind where
  | field
  | parameter
  | component
  deriving DecidableEq

/-- The word for an icon. -/
def CandidateKind.name : CandidateKind → String
  | field => "field"
  | parameter => "property"
  | component => "class"

/-- Something that may be inserted at the cursor. -/
structure Candidate where
  label : String
  insertText : String
  documentation : String
  kind : CandidateKind
  deriving DecidableEq

namespace Candidate

/-- A property of an object, behind the path that leads to the object. -/
def field (path name : String) (type : ValueType) : Candidate where
  label := path ++ name
  insertText := path ++ name
  documentation := type.kind
  kind := .field

/-- A parameter of a component, behind the path that leads to the component. -/
def parameter (path : String) (param : Param) : Candidate where
  label := path ++ param.name
  insertText := path ++ param.name
  documentation := param.documentation
  kind := .parameter

/-- A call of a component. In the snippets of the editor a brace is written twice. -/
def component (component : Component) : Candidate where
  label := component.name
  insertText := component.name ++ "(\x7b\x7b\x7d\x7d)"
  documentation := component.description
  kind := .component

/-- The wire form of a candidate. -/
def toJson (candidate : Candidate) : Json :=
  .object [("label", .string candidate.label), ("insertText", .string candidate.insertText),
    ("documentation", .string candidate.documentation), ("kind", .string candidate.kind.name)]

end Candidate

end Banana.Completion
