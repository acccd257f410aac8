/-
This file lists the members of a type, each with its own type, in the order in which they were
declared. Whether a path can go on behind a type, and what a lookup of a member finds, are answered
in three places that each look at the kind of the type; all of them agree with the list.
-/

import Banana.Schema.ValueType

namespace Banana.Entries

variable {α : Type}

/-- There is a value under a name exactly where the name is one of those that are given a value. -/
theorem isSome_get?_iff (name : String) (entries : List (String × α)) :
    (get? name entries).isSome = true ↔ name ∈ names entries := by
  induction entries with
  | nil => simp [get?, names]
  | cons entry rest inductionHypothesis =>
    obtain ⟨key, value⟩ := entry
    show (if key = name then some value else get? name rest).isSome = true ↔
      name ∈ key :: names rest
    rw [List.mem_cons]
    by_cases same : key = name
    · rw [if_pos same]
      exact iff_of_true rfl (Or.inl same.symm)
    · rw [if_neg same, inductionHypothesis]
      exact (or_iff_right (Ne.symm same)).symm

end Banana.Entries

namespace Banana.Schema.ValueType

/-- The members of a type, each with its own type, in the order in which they were declared. -/
def members : ValueType → List (String × ValueType)
  | object props => props
  | component _ args => args.map fun arg => (arg.name, arg.type)
  | _ => []

theorem find?_arg_eq_get? (name : String) (args : List (ParamOf ValueType)) :
    (args.find? (·.name == name)).map (·.type) =
      Entries.get? name (args.map fun arg => (arg.name, arg.type)) := by
  induction args with
  | nil => rfl
  | cons arg rest inductionHypothesis =>
    rw [List.map_cons, Entries.get?, ← inductionHypothesis]
    by_cases same : arg.name = name
    · rw [if_pos same, List.find?_cons_of_pos (by simpa using same)]
      rfl
    · rw [if_neg same, List.find?_cons_of_neg (by simpa using same)]

/-- A lookup finds the first member with a name. -/
theorem member?_eq_get? (name : String) (type : ValueType) :
    type.member? name = Entries.get? name type.members := by
  cases type with
  | component _ args => exact find?_arg_eq_get? name args
  | _ => rfl

theorem isSome_member?_iff (name : String) (type : ValueType) :
    (type.member? name).isSome = true ↔ name ∈ Entries.names type.members := by
  rw [member?_eq_get?, Entries.isSome_get?_iff]

/-- Only a type that a path can go on behind has members. -/
theorem members_of_not_hasMembers {type : ValueType} (leaf : type.hasMembers = false) :
    type.members = [] := by
  cases type with
  | object _ => cases leaf
  | component _ _ => cases leaf
  | _ => rfl

end Banana.Schema.ValueType
