/-
This file proves that a dotted path is completed by exactly the members that a lookup finds. What is
offered behind a path is the list of members of the type that the path leads to, in order and each
one once; a member can be looked up exactly when it is in that list; and nothing of it depends on
the catalog.
-/

import Mathlib
import Banana.Completion.Resolve
import Banana.Proofs.Schema.Members

namespace Banana.Completion

open Schema

/-! ### The candidates for a type -/

/-- There is one candidate for each member, in order, and it completes the path by the name. -/
theorem map_insertText_members (path : String) (type : ValueType) :
    (members path type).map (·.insertText) =
      (Entries.names type.members).map (path ++ ·) := by
  cases type with
  | object props =>
    rw [members, ValueType.members, Entries.names, List.map_map, List.map_map]
    rfl
  | component _ args =>
    rw [members, ValueType.members, Entries.names, List.map_map, List.map_map, List.map_map]
    rfl
  | _ => rfl

/-- What a candidate for a member is shown as is what it inserts. -/
theorem label_eq_insertText_of_mem_members {path : String} {type : ValueType}
    {candidate : Candidate} (member : candidate ∈ members path type) :
    candidate.label = candidate.insertText := by
  cases type with
  | object props =>
    obtain ⟨prop, -, rfl⟩ := List.mem_map.mp member
    rfl
  | component _ args =>
    obtain ⟨arg, -, rfl⟩ := List.mem_map.mp member
    rfl
  | _ => cases member

/-- A type is asked whether it has members before they are listed; the list alone would do. -/
theorem ite_hasMembers_eq_members (path : String) (type : ValueType) :
    (if type.hasMembers then members path type else []) = members path type := by
  cases leaf : type.hasMembers with
  | true => rfl
  | false =>
    have noNames : (members path type).map (·.insertText) = [] := by
      rw [map_insertText_members, ValueType.members_of_not_hasMembers leaf]
      rfl
    exact (List.map_eq_nil_iff.mp noNames).symm

/-! ### The candidates for a path -/

section Path

variable {text path : String} (table : TypeTable) (components : List Component)
  (classified : classify text = .dottedPath path)

include classified

/-- Behind a path the members of the type that it leads to are offered. -/
theorem resolve_of_dottedPath :
    resolve text table components = ((resolvePath? path table).map (members path)).getD [] := by
  rw [resolve, classified, candidates]
  cases resolvePath? path table with
  | none => rfl
  | some type => exact ite_hasMembers_eq_members path type

/-- A member of the type that a path leads to is offered as the path with its name. -/
theorem exists_candidate_iff (name : String) :
    (∃ candidate ∈ resolve text table components,
        candidate.label = path ++ name ∧ candidate.insertText = path ++ name) ↔
      ∃ type, resolvePath? path table = some type ∧ (type.member? name).isSome = true := by
  rw [resolve_of_dottedPath table components classified]
  cases resolvePath? path table with
  | none => simp
  | some type =>
    have offered : (∃ candidate ∈ members path type, candidate.insertText = path ++ name) ↔
        name ∈ Entries.names type.members := by
      have injective : Function.Injective (path ++ · : String → String) :=
        fun _ _ => (String.append_right_inj path).mp
      rw [← List.mem_map_of_injective injective, ← map_insertText_members, List.mem_map]
    simp only [Option.map_some, Option.getD_some, Option.some.injEq, exists_eq_left',
      ValueType.isSome_member?_iff, ← offered]
    constructor
    · rintro ⟨candidate, member, -, inserts⟩
      exact ⟨candidate, member, inserts⟩
    · rintro ⟨candidate, member, inserts⟩
      exact ⟨candidate, member, (label_eq_insertText_of_mem_members member).trans inserts, inserts⟩

/-- A dotted path is completed by exactly the members that a lookup finds in the type that it leads
to, in the order of the declaration, whatever the catalog. -/
theorem resolve_offers_members :
    (∀ name, (∃ candidate ∈ resolve text table components,
        candidate.label = path ++ name ∧ candidate.insertText = path ++ name) ↔
      ∃ type, resolvePath? path table = some type ∧ (type.member? name).isSome = true) ∧
    (match resolvePath? path table with
      | some (.object props) => resolve text table components =
          props.map fun (name, type) => ⟨path ++ name, path ++ name, type.kind, .field⟩
      | some (.component _ args) => resolve text table components =
          args.map fun arg => ⟨path ++ arg.name, path ++ arg.name, arg.documentation, .parameter⟩
      | some .any | some .string | some .number | some (.enumeration _) | none =>
        resolve text table components = []) ∧
    ∀ others, resolve text table others = resolve text table components := by
  refine ⟨exists_candidate_iff table components classified, ?_, fun others => ?_⟩
  · rw [resolve_of_dottedPath table components classified]
    cases resolvePath? path table with
    | none => rfl
    | some type => cases type <;> rfl
  · rw [resolve_of_dottedPath table others classified,
      resolve_of_dottedPath table components classified]

end Path

/-- A component with two parameters of one name, and one whose name is no name in a path. -/
def oddSource : ValueType :=
  .component "Source" [⟨"p", .number, .null⟩, ⟨"a b.c", .object [], .null⟩, ⟨"p", .string, .null⟩]

/-- Both parameters of one name are offered, each in its place, and so is one that no path could go
on behind. -/
theorem resolve_offers_odd_members :
    let table := TypeTable.ofList [("src", oddSource)]
    classify "y = src ." = .dottedPath "src ." ∧
      (∃ candidate ∈ resolve "y = src ." table [],
        candidate.label = "src ." ++ "a b.c" ∧ candidate.insertText = "src ." ++ "a b.c") ∧
      resolve "y = src ." table [] =
        [⟨"src .p", "src .p", "number default_value: null", .parameter⟩,
          ⟨"src .a b.c", "src .a b.c", "object default_value: null", .parameter⟩,
          ⟨"src .p", "src .p", "string default_value: null", .parameter⟩] := by
  intro table
  have classified : classify "y = src ." = .dottedPath "src ." := by cbv
  have leads : resolvePath? "src ." table = some oddSource := by cbv
  obtain ⟨offers, ordered, -⟩ := resolve_offers_members table [] classified
  rw [leads] at ordered
  exact ⟨classified, (offers "a b.c").mpr ⟨_, leads, by cbv⟩, ordered.trans (by cbv)⟩

end Banana.Completion
