/-
This file says in which ways one and the same thing may be spelled on the wire. A record may be
written with its fields in any order, with further fields that nobody asks for, or as the array of
its fields, and so may every record inside it. The properties of an object type and the variables of
a type table are no records: moving them is a change of its own. How a record is spelled never
decides whether it is a value.
-/

import Banana.Proofs.Json.Results
import Banana.Schema.Wire
import Banana.Report.Wire

namespace Banana.Wire

open Json Schema

/-! ### Records and their fields -/

/-- What stands on the wire. An `arg` is a parameter inside a type, a `param` one of a component of
the catalog. -/
inductive Part where
  | type
  | props
  | arg
  | param
  | component
  | catalog
  | remark
  | report
  | table
  | list (item : Part)

/-- A field of a record: its name, what it is where it is missing, and what stands in it, if that
has several spellings. -/
structure FieldForm where
  name : String
  default : Option Node := none
  part : Option Part := none

/-- The node that names the kind of a type. -/
def typeTag? : Node → Option Node
  | .object fields => (Node.slot? fields "id").join
  | .array (tag :: _) => some tag
  | _ => none

/-- The fields that stand beside the tag of a type. -/
def kindForms (kind : String) : List FieldForm :=
  if kind = "enum" then
    [{ name := "variants" }]
  else if kind = "object" then
    [{ name := "props", part := some .props }]
  else if kind = "component" then
    [{ name := "name" }, { name := "args", part := some (.list .arg) }]
  else
    []

/-- The fields of a type whose tag is known. -/
def typeForms (tag : Option Node) : List FieldForm :=
  { name := "id" } :: kindForms ((tag.bind (kind? true)).getD "")

def paramForms : List FieldForm :=
  [{ name := "name" }, { name := "type", part := some .type },
    { name := "default_value", default := some .null }]

def componentForms : List FieldForm :=
  [{ name := "name" }, { name := "description", default := some (.string []) },
    { name := "params", default := some (.array []), part := some (.list .param) }]

def catalogForms : List FieldForm :=
  [{ name := "components", default := some (.array []), part := some (.list .component) }]

def remarkForms : List FieldForm :=
  [{ name := "startLineNumber" }, { name := "startColumn" }, { name := "endLineNumber" },
    { name := "endColumn" }, { name := "byteRange" }, { name := "message" }]

def reportForms : List FieldForm :=
  [{ name := "errors", default := some (.array []), part := some (.list .remark) },
    { name := "warnings", default := some (.array []), part := some (.list .remark) }]

namespace Part

/-- The fields of a record, in the order in which they are declared. -/
def forms? (node : Node) : Part → Option (List FieldForm)
  | type => some (typeForms (typeTag? node))
  | arg | param => some paramForms
  | component => some componentForms
  | catalog => some catalogForms
  | remark => some remarkForms
  | report => some reportForms
  | props | table | list _ => none

/-- Whether something belongs to a type. Inside a type everything has to be a value, what nobody
asks for included. -/
def InType : Part → Prop
  | type | props | arg => True
  | list item => item.InType
  | _ => False

/-- Whether something is an object with names of its own instead of declared ones. -/
def IsOpen : Part → Prop
  | props | table => True
  | _ => False

end Part

/-- The array of the fields of an object in the order in which they are declared. A field that is
missing may be spelled out as its default, and missing fields at the end may be left out. -/
inductive InOrder (room : Nat) (fields : List (List Unit16 × Node)) :
    List FieldForm → List Node → Prop where
  | missing {forms : List FieldForm}
    (absent : ∀ form ∈ forms, Node.slot? fields form.name = some none) :
      InOrder room fields forms []
  | given {form : FieldForm} {forms : List FieldForm} {value : Node} {items : List Node}
    (present : Node.slot? fields form.name = some (some value))
    (rest : InOrder room fields forms items) : InOrder room fields (form :: forms) (value :: items)
  | filled {form : FieldForm} {forms : List FieldForm} {value : Node} {items : List Node}
    (absent : Node.slot? fields form.name = some none) (isDefault : form.default = some value)
    (isValue : value.IsValue room) (rest : InOrder room fields forms items) :
    InOrder room fields (form :: forms) (value :: items)

/-- One change of the spelling of something in which so many containers may be nested. What is free
to move are the names of open objects. -/
inductive Respelling (free : Part → Prop) : Part → Nat → Node → Node → Prop where
  /-- The fields of a record are written in another order. -/
  | permuted {part : Part} {room : Nat} {fields others : List (List Unit16 × Node)}
    {forms : List FieldForm} (isRecord : part.forms? (.object fields) = some forms)
    (moved : fields.Perm others) : Respelling free part room (.object fields) (.object others)
  /-- A field is added that the record does not have. -/
  | extended {part : Part} {room : Nat} {fields : List (List Unit16 × Node)}
    {forms : List FieldForm} (isRecord : part.forms? (.object fields) = some forms)
    {key : List Unit16} {name : String} {value : Node} (isName : stringOfUnits? key = some name)
    (isUnknown : ∀ form ∈ forms, form.name ≠ name)
    (isValue : part.InType → value.IsValue (room - 1)) :
    Respelling free part room (.object fields) (.object (fields ++ [(key, value)]))
  /-- A record is written as the array of its fields. -/
  | positional {part : Part} {room : Nat} {fields : List (List Unit16 × Node)}
    {forms : List FieldForm} (isRecord : part.forms? (.object fields) = some forms)
    (named : AreNamed fields) (isValue : part.InType → (Node.object fields).IsValue room)
    {items : List Node} (inOrder : InOrder (room - 1) fields forms items) :
    Respelling free part room (.object fields) (.array items)
  /-- The spelling changes inside a field of an object. -/
  | inField {part : Part} {room : Nat} {before : List (List Unit16 × Node)} {key : List Unit16}
    {first second : Node} {after : List (List Unit16 × Node)} {forms : List FieldForm}
    (isRecord : part.forms? (.object (before ++ (key, first) :: after)) = some forms)
    {form : FieldForm} (isForm : form ∈ forms) (isName : stringOfUnits? key = some form.name)
    {inner : Part} (isInner : form.part = some inner)
    (respelling : Respelling free inner (room - 1) first second) :
    Respelling free part room (.object (before ++ (key, first) :: after))
      (.object (before ++ (key, second) :: after))
  /-- The spelling changes inside a field of an array. -/
  | inPlace {part : Part} {room : Nat} {before : List Node} {first second : Node}
    {after : List Node} {forms : List FieldForm}
    (isRecord : part.forms? (.array (before ++ first :: after)) = some forms)
    {form : FieldForm} (isForm : forms[before.length]? = some form)
    {inner : Part} (isInner : form.part = some inner)
    (respelling : Respelling free inner (room - 1) first second) :
    Respelling free part room (.array (before ++ first :: after))
      (.array (before ++ second :: after))
  /-- The spelling changes inside an item of a list. -/
  | inItem {item : Part} {room : Nat} (before : List Node) {first second : Node}
    (after : List Node) (respelling : Respelling free item (room - 1) first second) :
    Respelling free (.list item) room (.array (before ++ first :: after))
      (.array (before ++ second :: after))
  /-- The spelling changes inside the type that has a name. -/
  | inEntry {part : Part} (isOpen : part.IsOpen) {room : Nat}
    (before : List (List Unit16 × Node)) (key : List Unit16) {first second : Node}
    (after : List (List Unit16 × Node))
    (respelling : Respelling free .type (room - 1) first second) :
    Respelling free part room (.object (before ++ (key, first) :: after))
      (.object (before ++ (key, second) :: after))
  /-- Different names are written in another order, where that is not taken for a respelling. -/
  | moved {part : Part} (isOpen : part.IsOpen) (isFree : free part) {room : Nat}
    {fields others : List (List Unit16 × Node)} (moved : fields.Perm others)
    (distinct : (namesOf fields).Nodup) :
      Respelling free part room (.object fields) (.object others)

/-! ### The fields of a kind -/

/-- What stands inside something that belongs to a type belongs to the type. -/
theorem Part.InType.inner {part : Part} (inType : part.InType) {node : Node}
    {forms : List FieldForm} (isRecord : part.forms? node = some forms) {form : FieldForm}
    (isForm : form ∈ forms) {inner : Part} (isInner : form.part = some inner) : inner.InType := by
  cases part with
  | type =>
    cases isRecord
    rw [typeForms, kindForms] at isForm
    rcases List.mem_cons.mp isForm with rfl | isForm
    · cases isInner
    split at isForm
    · obtain rfl := List.mem_singleton.mp isForm
      cases isInner
    split at isForm
    · obtain rfl := List.mem_singleton.mp isForm
      cases isInner
      trivial
    split at isForm
    · rcases List.mem_cons.mp isForm with rfl | isForm
      · cases isInner
      · obtain rfl := List.mem_singleton.mp isForm
        cases isInner
        trivial
    · cases isForm
  | arg =>
    cases isRecord
    simp only [paramForms, List.mem_cons, List.not_mem_nil, or_false] at isForm
    rcases isForm with rfl | rfl | rfl
    · cases isInner
    · cases isInner
      trivial
    · cases isInner
  | props | list => cases isRecord
  | _ => cases inType

/-! ### Values -/

theorem InOrder.isValue {room : Nat} {fields : List (List Unit16 × Node)}
    {forms : List FieldForm} {items : List Node} (inOrder : InOrder room fields forms items)
    (each : ∀ field ∈ fields, field.2.IsValue room) : ∀ item ∈ items, item.IsValue room := by
  induction inOrder with
  | missing => exact fun _ member => absurd member List.not_mem_nil
  | given present _ inductionHypothesis =>
    obtain ⟨field, isField, rfl⟩ := List.mem_map.mp (mem_of_slot? present)
    exact List.forall_mem_cons.mpr ⟨each field isField, inductionHypothesis⟩
  | filled _ _ isValue _ inductionHypothesis =>
    exact List.forall_mem_cons.mpr ⟨isValue, inductionHypothesis⟩

theorem isValue_object_of_perm {room : Nat} {fields others : List (List Unit16 × Node)}
    (moved : fields.Perm others) :
    (Node.object fields).IsValue room ↔ (Node.object others).IsValue room := by
  rw [isValue_object_iff, isValue_object_iff, AreNamed, AreNamed]
  simp only [moved.mem_iff]

theorem isValue_object_of_one {room : Nat} (before : List (List Unit16 × Node))
    (key : List Unit16) {first second : Node} (after : List (List Unit16 × Node))
    (same : first.IsValue (room - 1) ↔ second.IsValue (room - 1)) :
    (Node.object (before ++ (key, first) :: after)).IsValue room ↔
      (Node.object (before ++ (key, second) :: after)).IsValue room := by
  rw [isValue_object_iff, isValue_object_iff, AreNamed, AreNamed]
  simp only [List.forall_mem_append, List.forall_mem_cons, same]

theorem isValue_array_of_one {room : Nat} (before : List Node) {first second : Node}
    (after : List Node) (same : first.IsValue (room - 1) ↔ second.IsValue (room - 1)) :
    (Node.array (before ++ first :: after)).IsValue room ↔
      (Node.array (before ++ second :: after)).IsValue room := by
  rw [isValue_array_iff, isValue_array_iff]
  simp only [List.forall_mem_append, List.forall_mem_cons, same]

/-- How something that belongs to a type is spelled does not decide whether it is a value. -/
theorem Respelling.isValue_iff {free : Part → Prop} {part : Part} {room : Nat}
    {first second : Node} (respelling : Respelling free part room first second)
    (inType : part.InType) : first.IsValue room ↔ second.IsValue room := by
  induction respelling with
  | permuted _ moved => exact isValue_object_of_perm moved
  | extended _ isName _ isValue =>
    have named : (stringOfUnits? _).isSome = true := Option.isSome_iff_exists.mpr ⟨_, isName⟩
    rw [isValue_object_iff, isValue_object_iff, AreNamed, AreNamed]
    simp only [List.forall_mem_append, List.forall_mem_singleton, named, isValue inType, and_true]
  | positional _ _ isValue inOrder =>
    have isObject := isValue inType
    obtain ⟨positive, -, each⟩ := isValue_object_iff.mp isObject
    exact iff_of_true isObject (isValue_array_iff.mpr ⟨positive, inOrder.isValue each⟩)
  | inField isRecord isForm _ isInner _ inductionHypothesis =>
    exact isValue_object_of_one _ _ _
      (inductionHypothesis (inType.inner isRecord isForm isInner))
  | inPlace isRecord isForm isInner _ inductionHypothesis =>
    exact isValue_array_of_one _ _
      (inductionHypothesis (inType.inner isRecord (List.mem_of_getElem? isForm) isInner))
  | inItem before after _ inductionHypothesis =>
    exact isValue_array_of_one before after (inductionHypothesis inType)
  | inEntry _ before key after _ inductionHypothesis =>
    exact isValue_object_of_one before key after (inductionHypothesis trivial)
  | moved _ _ moved _ => exact isValue_object_of_perm moved

end Banana.Wire
