/-
This file proves that a record is read alike where its fields are: the parameters, components and
catalogs of the schema, the remarks and reports of the type checker, and types, whose fields depend
on the kind that their tag names. There is one lemma for each reader, and none of them looks at how
the fields came to be alike.
-/

import Banana.Proofs.Schema.Alike
import Banana.Proofs.Wire.Slots

namespace Banana.Wire

open Json Schema Report

variable {free : Part → Prop}

/-! ### Lists and records -/

section Records

variable {α : Type} {related : α → α → Prop} {room : Nat} {first second : Node}

/-- A list is read alike if its items are. -/
theorem rel_list? {item : Part} {read : Nat → Node → Option α}
    (refl : ∀ value, related value value)
    (each : ∀ left one other, room = left + 1 → item.ReadsAlike free left one other →
      Option.Rel related (read left one) (read left other))
    (alike : (Part.list item).ReadsAlike free room first second) :
    Option.Rel (List.Forall₂ related) (Node.list? read room first)
      (Node.list? read room second) := by
  obtain ⟨before, one, other, after, rfl, rfl, alike⟩ := alike
  cases room with
  | zero => exact .none
  | succ left =>
    exact rel_mapM_of_one refl before after (each left one other rfl alike)

/-- A missing list is as good as an empty one. -/
theorem list?_of_isValue {read : Nat → Node → Option α}
    (isValue : (Node.array []).IsValue room) : Node.list? read room (.array []) = some [] := by
  obtain ⟨positive, -⟩ := isValue_array_iff.mp isValue
  obtain ⟨left, rfl⟩ := Nat.exists_eq_add_one.mpr positive
  rfl

/-- A field that holds a list is read alike. -/
theorem SlotAlike.rel_list? {item : Part} {name : String} {read : Nat → Node → Option α}
    {first second : Option Node}
    (alike : SlotAlike free room ⟨name, some (.array []), some (.list item)⟩ first second)
    (refl : ∀ value, related value value)
    (each : ∀ left one other, room = left + 1 → item.ReadsAlike free left one other →
      Option.Rel related (read left one) (read left other)) :
    Option.Rel (List.Forall₂ related) (Node.defaulted? [] (Node.list? read room) first)
      (Node.defaulted? [] (Node.list? read room) second) := by
  refine alike.rel_defaulted? ?_ (fun _ => List.forall₂_same.mpr fun value _ => refl value) ?_
  · rintro _ ⟨⟩ isValue
    exact list?_of_isValue isValue
  · rintro _ _ _ ⟨⟩ alike
    exact Wire.rel_list? refl each alike

/-- A record is read alike if its fields are. -/
theorem rel_record? {forms : List FieldForm} {read : Nat → List (Option Node) → Option α}
    (slots : Option.Rel (SlotsAlike free (room - 1) forms)
      (first.slots? (forms.map FieldForm.name)) (second.slots? (forms.map FieldForm.name)))
    (each : ∀ left one other, room = left + 1 → SlotsAlike free left forms one other →
      Option.Rel related (read left one) (read left other)) :
    Option.Rel related (Node.record? (forms.map FieldForm.name) read room first)
      (Node.record? (forms.map FieldForm.name) read room second) := by
  cases room with
  | zero => exact .none
  | succ left => exact rel_bind slots fun one other => each left one other rfl

end Records

section Readers

variable {room : Nat} {first second : Node}

theorem rel_read?_type (alike : Part.type.ReadsAlike free room first second) :
    Option.Rel (ValueType.Alike (free .props)) (ValueType.read? room first)
      (ValueType.read? room second) := by
  obtain ⟨same, alike⟩ := alike
  rw [Node.IsValue, Node.IsValue] at same
  rw [ValueType.read?, ValueType.read?]
  by_cases isValue : (first.value? room).isSome = true
  · rw [if_pos isValue, if_pos (same.mp isValue)]
    exact alike false room
  · rw [if_neg isValue, if_neg (fun other => isValue (same.mpr other))]
    exact .none

/-- Fields of a parameter make parameters that are alike if the types that are read are. -/
theorem rel_param {readType : Node → Option ValueType} {readDefault : Node → Option Json}
    (isNull : readDefault .null = some .null)
    (type : ∀ one other, Part.type.ReadsAlike free room one other →
      Option.Rel (ValueType.Alike (free .props)) (readType one) (readType other))
    {name otherName : Option Node} {typeNode otherType : Option Node}
    {value otherValue : Option Node}
    (slots : SlotsAlike free room paramForms [name, typeNode, value]
      [otherName, otherType, otherValue]) :
    Option.Rel (Param.Alike (free .props))
      (do pure {
        name := ← Node.required? Node.string? name
        type := ← Node.required? readType typeNode
        defaultValue := ← Node.defaulted? .null readDefault value } : Option Param)
      (do pure {
        name := ← Node.required? Node.string? otherName
        type := ← Node.required? readType otherType
        defaultValue := ← Node.defaulted? .null readDefault otherValue } : Option Param) := by
  obtain _ | ⟨nameAlike, _ | ⟨typeAlike, _ | ⟨valueAlike, _⟩⟩⟩ := slots
  obtain rfl := nameAlike.eq rfl rfl
  refine rel_bind (rel_of_eq (fun _ => rfl) rfl) fun readName _ sameName => ?_
  subst sameName
  have typeRead : Option.Rel (ValueType.Alike (free .props)) (Node.required? readType typeNode)
      (Node.required? readType otherType) := by
    refine typeAlike.rel_required? rfl .refl fun _ one other isType alike => ?_
    cases isType
    exact type one other alike
  refine rel_bind typeRead fun _ _ typeAlike => ?_
  refine rel_bind (rel_of_eq (fun _ => rfl) (valueAlike.defaulted?_eq rfl ?_)) fun _ _ sameValue =>
    .some ⟨rfl, typeAlike, sameValue⟩
  rintro _ ⟨⟩
  exact isNull

theorem rel_read?_param
    (slots : Option.Rel (SlotsAlike free (room - 1) paramForms)
      (first.slots? (paramForms.map FieldForm.name))
      (second.slots? (paramForms.map FieldForm.name))) :
    Option.Rel (Param.Alike (free .props)) (Param.read? room first) (Param.read? room second) := by
  refine rel_record? slots fun left one other _ slots => ?_
  obtain _ | ⟨name, _ | ⟨type, _ | ⟨value, ⟨⟩⟩⟩⟩ := slots
  exact rel_param rfl (fun _ _ => rel_read?_type)
    (.cons name (.cons type (.cons value .nil)))

theorem rel_readParam {readType : Node → Option ValueType}
    (type : ∀ one other, Part.type.ReadsAlike free room one other →
      Option.Rel (ValueType.Alike (free .props)) (readType one) (readType other))
    (slots : Option.Rel (SlotsAlike free room paramForms)
      (first.slots? (paramForms.map FieldForm.name))
      (second.slots? (paramForms.map FieldForm.name))) :
    Option.Rel (Param.Alike (free .props)) (readParam readType first)
      (readParam readType second) := by
  have names : paramForms.map FieldForm.name = paramFields := rfl
  rw [names] at slots
  rw [readParam, readParam]
  rcases rel_cases slots with ⟨one, other⟩ | ⟨_, _, one, other, slots⟩
  · rw [one, other]
    exact .none
  · rw [one, other]
    obtain _ | ⟨name, _ | ⟨typeAlike, _ | ⟨value, ⟨⟩⟩⟩⟩ := slots
    exact rel_param rfl type (.cons name (.cons typeAlike (.cons value .nil)))

theorem rel_read?_component
    (slots : Option.Rel (SlotsAlike free (room - 1) componentForms)
      (first.slots? (componentForms.map FieldForm.name))
      (second.slots? (componentForms.map FieldForm.name))) :
    Option.Rel (Component.Alike (free .props)) (Component.read? room first)
      (Component.read? room second) := by
  refine rel_record? slots fun left one other _ slots => ?_
  obtain _ | ⟨name, _ | ⟨description, _ | ⟨params, ⟨⟩⟩⟩⟩ := slots
  obtain rfl := name.eq rfl rfl
  refine rel_bind (rel_of_eq (fun _ => rfl) rfl) fun _ _ name => ?_
  refine rel_bind (rel_of_eq (fun _ => rfl) (description.defaulted?_eq rfl ?_))
    fun _ _ description => ?_
  · rintro _ ⟨⟩
    rfl
  exact rel_bind (params.rel_list? Param.equivalence_alike.refl fun _ _ _ _ alike => alike)
    fun _ _ params => .some ⟨name, description, params⟩

theorem rel_read?_catalog
    (slots : Option.Rel (SlotsAlike free (room - 1) catalogForms)
      (first.slots? (catalogForms.map FieldForm.name))
      (second.slots? (catalogForms.map FieldForm.name))) :
    Option.Rel (Catalog.Alike (free .props)) (Catalog.read? room first)
      (Catalog.read? room second) := by
  refine rel_record? slots fun left one other _ slots => ?_
  obtain _ | ⟨components, ⟨⟩⟩ := slots
  exact rel_bind
    (components.rel_list? Component.equivalence_alike.refl fun _ _ _ _ alike => alike)
    fun _ _ components => .some components

theorem rel_read?_remark
    (slots : Option.Rel (SlotsAlike free (room - 1) remarkForms)
      (first.slots? (remarkForms.map FieldForm.name))
      (second.slots? (remarkForms.map FieldForm.name))) :
    Option.Rel (· = ·) (Remark.read? room first) (Remark.read? room second) := by
  refine rel_record? slots fun left one other _ slots => ?_
  obtain _ | ⟨startLine, _ | ⟨startColumn, _ | ⟨endLine, _ | ⟨endColumn,
    _ | ⟨byteRange, _ | ⟨message, ⟨⟩⟩⟩⟩⟩⟩⟩ := slots
  rw [startLine.eq rfl rfl, startColumn.eq rfl rfl, endLine.eq rfl rfl, endColumn.eq rfl rfl,
    byteRange.eq rfl rfl, message.eq rfl rfl]
  exact rel_of_eq (fun _ => rfl) rfl

theorem rel_read?_report
    (slots : Option.Rel (SlotsAlike free (room - 1) reportForms)
      (first.slots? (reportForms.map FieldForm.name))
      (second.slots? (reportForms.map FieldForm.name))) :
    Option.Rel (· = ·) (Report.read? room first) (Report.read? room second) := by
  refine rel_record? slots fun left one other _ slots => ?_
  obtain _ | ⟨errors, _ | ⟨warnings, ⟨⟩⟩⟩ := slots
  have list {one other : List Remark} (alike : List.Forall₂ (· = ·) one other) : one = other :=
    eq_of_forall₂ (fun _ _ same => same) alike
  refine rel_bind (errors.rel_list? (fun _ => rfl) fun _ _ _ _ alike => alike)
    fun _ _ errors => ?_
  refine rel_bind (warnings.rel_list? (fun _ => rfl) fun _ _ _ _ alike => alike)
    fun _ _ warnings => ?_
  rw [list errors, list warnings]
  exact .some rfl

end Readers

/-! ### Types -/

section Types

variable {room bound : Nat} {first second : Node}

/-- The node that holds the fields of a type without its tag. -/
def untagged : Node → Node
  | .array (_ :: rest) => .array rest
  | node => node

theorem tagged?_eq (inside : Bool) (node : Node) :
    tagged? inside node = ((typeTag? node).bind (kind? inside)).map (·, untagged node) := by
  cases node with
  | object fields =>
    rw [tagged?, typeTag?]
    rcases Node.slot? fields "id" with _ | _ | tag <;> rfl
  | array items => cases items <;> rfl
  | _ => rfl

/-- The kinds that a tag names outside are named inside too. -/
theorem kind?_true_of_kind? {inside : Bool} {tag : Node} {kind : String}
    (isKind : kind? inside tag = some kind) : kind? true tag = some kind := by
  cases inside with
  | true => exact isKind
  | false =>
    cases tag with
    | string units => exact isKind
    | _ => cases isKind

/-- The tag is the first of the fields of a type. -/
theorem slots?_untagged {node tag : Node} (isTag : typeTag? node = some tag)
    (wanted : List String) :
    node.slots? ("id" :: wanted) = ((untagged node).slots? wanted).map (some tag :: ·) := by
  cases node with
  | object fields =>
    have isSlot : Node.slot? fields "id" = some (some tag) := Option.join_eq_some_iff.mp isTag
    show Node.slots? _ _ = Option.map _ (Node.slots? wanted (.object fields))
    by_cases named : AreNamed fields
    · rw [slots?_object _ named, slots?_object _ named, List.mapM_cons, isSlot]
      cases wanted.mapM (Node.slot? fields) <;> rfl
    · rw [slots?_of_not_areNamed _ named, slots?_of_not_areNamed _ named]
      rfl
  | array items =>
    cases items with
    | nil => cases isTag
    | cons head rest =>
      cases isTag
      rw [untagged, Node.slots?, Node.slots?]
      simp only [List.length_cons, Nat.add_le_add_iff_right, Nat.add_sub_add_right]
      split <;> rfl
  | _ => cases isTag

theorem readKind_enum (readType : Node → Option ValueType) (node : Node) :
    readKind readType node "enum" =
      match node.slots? ["variants"] with
      | some [some (.array variants)] => (variants.mapM Node.string?).map .enumeration
      | _ => none := rfl

theorem readKind_object (readType : Node → Option ValueType) (node : Node) :
    readKind readType node "object" =
      match node.slots? ["props"] with
      | some [some (.object props)] =>
        (props.mapM (pair? readType)).bind fun pairs => some (.object (Entries.ofList pairs))
      | _ => none := rfl

theorem readKind_component (readType : Node → Option ValueType) (node : Node) :
    readKind readType node "component" =
      match node.slots? ["name", "args"] with
      | some [some name, some (.array args)] => name.string?.bind fun name =>
        (args.mapM (readParam readType)).bind fun args => some (.component name args)
      | _ => none := rfl

theorem rel_enumeration {readType : Node → Option ValueType}
    (slots : Option.Rel (SlotsAlike free room [{ name := "variants" }])
      (first.slots? ["variants"]) (second.slots? ["variants"])) :
    Option.Rel (ValueType.Alike (free .props)) (readKind readType first "enum")
      (readKind readType second "enum") := by
  rw [readKind_enum, readKind_enum]
  rcases rel_cases slots with ⟨one, other⟩ | ⟨_, _, one, other, slots⟩
  · rw [one, other]
    exact .none
  · obtain _ | ⟨variants, ⟨⟩⟩ := slots
    rw [one, other, variants.eq rfl rfl]
    exact rel_of_eq .refl rfl

/-- An object type is read alike if its properties are. -/
theorem rel_objectType
    (slots : Option.Rel (SlotsAlike free room [{ name := "props", part := some .props }])
      (first.slots? ["props"]) (second.slots? ["props"])) :
    Option.Rel (ValueType.Alike (free .props)) (readKind (readType true bound) first "object")
      (readKind (readType true bound) second "object") := by
  rw [readKind_object, readKind_object]
  rcases rel_cases slots with ⟨one, other⟩ | ⟨_, _, one, other, slots⟩
  · rw [one, other]
    exact .none
  · rw [one, other]
    obtain _ | ⟨props, ⟨⟩⟩ := slots
    cases props with
    | same => exact rel_of_eq .refl rfl
    | filled isDefault => cases isDefault
    | inner isInner alike =>
      cases isInner
      obtain ⟨fields, others, rfl, rfl, alike⟩ := alike
      exact rel_bind (alike bound) fun _ _ alike => .some alike

/-- A component type is read alike if its parameters are. -/
theorem rel_componentType
    (slots : Option.Rel
      (SlotsAlike free room [{ name := "name" }, { name := "args", part := some (.list .arg) }])
      (first.slots? ["name", "args"]) (second.slots? ["name", "args"])) :
    Option.Rel (ValueType.Alike (free .props)) (readKind (readType true bound) first "component")
      (readKind (readType true bound) second "component") := by
  rw [readKind_component, readKind_component]
  rcases rel_cases slots with ⟨one, other⟩ | ⟨_, _, one, other, slots⟩
  · rw [one, other]
    exact .none
  · rw [one, other]
    obtain _ | @⟨_, _, nameSlot, _, _, _, name, _ | ⟨args, ⟨⟩⟩⟩ := slots
    obtain rfl := name.eq rfl rfl
    cases args with
    | same => exact rel_of_eq .refl rfl
    | filled isDefault => cases isDefault
    | inner isInner alike =>
      cases isInner
      obtain ⟨before, _, _, after, rfl, rfl, alike⟩ := alike
      cases nameSlot with
      | none => exact .none
      | some nameNode =>
        refine rel_bind (rel_of_eq (fun _ => rfl) rfl) fun readName _ sameName => ?_
        subst sameName
        exact rel_bind
          (rel_mapM_of_one Param.equivalence_alike.refl before after (alike bound))
          fun _ _ args => .some (ValueType.alike_component readName args)

/-- A type of a kind is read alike if its fields are. -/
theorem rel_readKind {kind : String}
    (slots : Option.Rel (SlotsAlike free room (kindForms kind))
      (first.slots? ((kindForms kind).map FieldForm.name))
      (second.slots? ((kindForms kind).map FieldForm.name))) :
    Option.Rel (ValueType.Alike (free .props)) (readKind (readType true bound) first kind)
      (readKind (readType true bound) second kind) := by
  have plain (type : ValueType) (isPlain : kindForms kind = []) :
      Option.Rel (ValueType.Alike (free .props)) ((first.slots? []).map fun _ => type)
        ((second.slots? []).map fun _ => type) := by
    rw [isPlain] at slots
    exact rel_map slots fun _ _ _ => .refl type
  -- The kinds, in the order in which the reader tries them.
  by_cases isAny : kind = "any"
  · subst isAny
    exact plain .any rfl
  by_cases isString : kind = "string"
  · subst isString
    exact plain .string rfl
  by_cases isNumber : kind = "number"
  · subst isNumber
    exact plain .number rfl
  by_cases isEnum : kind = "enum"
  · subst isEnum
    exact rel_enumeration slots
  by_cases isObject : kind = "object"
  · subst isObject
    exact rel_objectType slots
  by_cases isComponent : kind = "component"
  · subst isComponent
    exact rel_componentType slots
  rw [readKind, readKind, if_neg isAny, if_neg isAny, if_neg isString, if_neg isString,
    if_neg isNumber, if_neg isNumber, if_neg isEnum, if_neg isEnum, if_neg isObject,
    if_neg isObject, if_neg isComponent, if_neg isComponent]
  exact .none

/-- A type is read alike if its tag is the same and its fields are alike. -/
theorem rel_readType {inside : Bool} (sameTag : typeTag? first = typeTag? second)
    (slots : Option.Rel (SlotsAlike free room (typeForms (typeTag? first)))
      (first.slots? ((typeForms (typeTag? first)).map FieldForm.name))
      (second.slots? ((typeForms (typeTag? first)).map FieldForm.name))) :
    Option.Rel (ValueType.Alike (free .props)) (readType inside bound first)
      (readType inside bound second) := by
  cases bound with
  | zero => exact .none
  | succ bound =>
    rw [readType, readType, tagged?_eq, tagged?_eq, ← sameTag]
    cases isTag : typeTag? first with
    | none => exact .none
    | some tag =>
      rw [Option.bind_some]
      cases isKind : kind? inside tag with
      | none => exact .none
      | some kind =>
        have forms : typeForms (typeTag? first) = { name := "id" } :: kindForms kind := by
          rw [isTag, typeForms, Option.bind_some, kind?_true_of_kind? isKind]
          rfl
        rw [forms, List.map_cons, slots?_untagged isTag,
          slots?_untagged (sameTag.symm.trans isTag)] at slots
        refine @rel_readKind _ room _ _ _ _ ?_
        rcases rel_cases slots with ⟨one, other⟩ | ⟨_, _, one, other, slots⟩
        · rw [Option.map_eq_none_iff.mp one, Option.map_eq_none_iff.mp other]
          exact .none
        · obtain ⟨_, isOne, rfl⟩ := Option.map_eq_some_iff.mp one
          obtain ⟨_, isOther, rfl⟩ := Option.map_eq_some_iff.mp other
          obtain _ | ⟨_, slots⟩ := slots
          rw [isOne, isOther]
          exact .some slots

end Types

end Banana.Wire
