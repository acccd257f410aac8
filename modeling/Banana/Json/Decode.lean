/-
This file reads structured data out of a JSON tree. A record is written as an object, whose fields
may stand in any order and among unknown ones, or as an array of the fields in their fixed order.
Unknown fields are skipped without looking into them. Every reader is told how many containers may
still be opened.
-/

import Banana.Json.Node

namespace Banana.Json.Node

/-- The string of a node that is one. -/
def string? : Node → Option String
  | .string units => stringOfUnits? units
  | _ => none

/-- The unsigned integer below a bound of a node that is one. -/
def natural? (bound : Nat) : Node → Option Nat
  | .number literal => literal.natural? bound
  | _ => none

/-- The items of an array, each read in the room that is left inside it. -/
def list? {α : Type} (read : Nat → Node → Option α) : Nat → Node → Option (List α)
  | room + 1, .array items => items.mapM (read room)
  | _, _ => none

/-- The values under a name, in order. -/
def fieldsNamed (name : String) (fields : List (List Unit16 × Node)) : List Node :=
  fields.filterMap fun (key, value) =>
    if stringOfUnits? key = some name then some value else none

/-- The one value under a name, if there is one; a name that is given twice is refused. -/
def slot? (fields : List (List Unit16 × Node)) (name : String) : Option (Option Node) :=
  match fieldsNamed name fields with
  | [] => some none
  | [value] => some (some value)
  | _ => none

/-- The values of named fields, in the order of the names. In an array the fields stand in that
order, the last ones may be missing, and there is nothing else. -/
def slots? (names : List String) : Node → Option (List (Option Node))
  | .object fields =>
    if fields.all fun (key, _) => (stringOfUnits? key).isSome then
      names.mapM (slot? fields)
    else
      none
  | .array items =>
    if items.length ≤ names.length then
      some (items.map some ++ List.replicate (names.length - items.length) none)
    else
      none
  | _ => none

/-- The record that a node spells, read from the values of its named fields in the room that is
left inside it. -/
def record? {α : Type} (names : List String) (read : Nat → List (Option Node) → Option α) :
    Nat → Node → Option α
  | room + 1, node => (slots? names node).bind (read room)
  | 0, _ => none

/-- A field that has to be there. -/
def required? {α : Type} (read : Node → Option α) (field : Option Node) : Option α :=
  field.bind read

/-- A field that has a value of its own where it is missing. A `null` is not a missing field. -/
def defaulted? {α : Type} (default : α) (read : Node → Option α) : Option Node → Option α
  | none => some default
  | some node => read node

end Banana.Json.Node
