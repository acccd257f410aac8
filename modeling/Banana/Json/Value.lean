/-
This file holds the values of JSON. The fields of an object keep the order in which they were
written: an object is a list of named values, and giving a name again changes the value in place.
-/

import Banana.Json.Number

namespace Banana

/-- A value of JSON. -/
inductive Json where
  | null
  | bool (value : Bool)
  | number (value : Json.Number)
  | string (text : String)
  | array (items : List Json)
  | object (fields : List (String × Json))
  deriving Inhabited

/-! ### Ordered maps

Objects, the properties of an object type and the type table are all lists of named entries in
which a name occurs once. -/

namespace Entries

variable {α : Type}

/-- The value under a name. -/
def get? (name : String) : List (String × α) → Option α
  | [] => none
  | (key, value) :: rest => if key = name then some value else get? name rest

/-- Gives a name a value: in place where the name is present, at the end where it is new. -/
def put (name : String) (value : α) : List (String × α) → List (String × α)
  | [] => [(name, value)]
  | (key, old) :: rest =>
    if key = name then (key, value) :: rest else (key, old) :: put name value rest

/-- The entries that result from giving names values one after the other. -/
def ofList (pairs : List (String × α)) : List (String × α) :=
  pairs.foldl (fun entries (name, value) => put name value entries) []

/-- The names, in order. -/
def names (entries : List (String × α)) : List String :=
  entries.map Prod.fst

theorem get?_put_self (name : String) (value : α) (entries : List (String × α)) :
    get? name (put name value entries) = some value := by
  induction entries with
  | nil => simp [put, get?]
  | cons entry rest inductionHypothesis =>
    obtain ⟨key, old⟩ := entry
    by_cases same : key = name <;> simp [put, get?, same, inductionHypothesis]

theorem get?_put_of_ne {name other : String} (different : other ≠ name) (value : α)
    (entries : List (String × α)) : get? other (put name value entries) = get? other entries := by
  induction entries with
  | nil => simp [put, get?, different.symm]
  | cons entry rest inductionHypothesis =>
    obtain ⟨key, old⟩ := entry
    by_cases same : key = name
    · simp [put, get?, same, different.symm]
    · by_cases found : key = other
      · subst found
        simp [put, get?, same]
      · simp [put, get?, same, found, inductionHypothesis]

/-- A new name joins the others at the end; a name that is present stays where it is. -/
theorem names_put (name : String) (value : α) (entries : List (String × α)) :
    names (put name value entries) =
      if name ∈ names entries then names entries else names entries ++ [name] := by
  induction entries with
  | nil => simp [put, names]
  | cons entry rest inductionHypothesis =>
    obtain ⟨key, old⟩ := entry
    by_cases same : key = name
    · simp [put, names, same]
    · have different : ¬ name = key := fun equal => same equal.symm
      simp only [names] at inductionHypothesis
      by_cases present : name ∈ rest.map Prod.fst <;>
        simp_all [put, names]

/-- Names that occur once still do after another value is put under one of them. -/
theorem nodup_names_put (name : String) (value : α) (entries : List (String × α))
    (distinct : (names entries).Nodup) : (names (put name value entries)).Nodup := by
  rw [names_put]
  split
  · exact distinct
  next absent =>
    exact List.nodup_append.2 ⟨distinct, by simp, by
      intro first member second isName equal
      simp only [List.mem_singleton] at isName
      exact absent (isName ▸ equal ▸ member)⟩

theorem nodup_names_ofList (pairs : List (String × α)) : (names (ofList pairs)).Nodup := by
  have step : ∀ (entries : List (String × α)), (names entries).Nodup →
      (names (pairs.foldl (fun entries (name, value) => put name value entries) entries)).Nodup :=
    by
    induction pairs with
    | nil => exact fun _ distinct => distinct
    | cons pair rest inductionHypothesis =>
      exact fun entries distinct =>
        inductionHypothesis _ (nodup_names_put pair.1 pair.2 entries distinct)
  exact step [] List.nodup_nil

end Entries

end Banana
