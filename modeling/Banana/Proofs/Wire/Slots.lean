/-
This file compares the fields of records that are spelled differently. A change of spelling shows in
at most one field, and there it either writes out a default or changes the spelling of what stands
in the field. What it is for something inside a record to be read alike is said here for all kinds
of things at once.
-/

import Banana.Proofs.Schema.Alike
import Banana.Proofs.Wire.Spelling

namespace Banana.Wire

open Json Schema Report

variable {free : Part → Prop}

/-! ### What is read alike -/

/-- Whether the same is read of two nodes, whatever is read, up to the order of what is free to
move. The types inside a type are read in room of their own, so this has to hold for any. -/
def Part.ReadsAlike (free : Part → Prop) : Part → Nat → Node → Node → Prop
  | type, room, first, second =>
    (first.IsValue room ↔ second.IsValue room) ∧ ∀ inside bound,
      Option.Rel (ValueType.Alike (free .props)) (readType inside bound first)
        (readType inside bound second)
  | props, _, first, second =>
    ∃ fields others, first = .object fields ∧ second = .object others ∧ ∀ bound,
      Option.Rel (fun pairs rest => ValueType.Alike (free .props) (.object (Entries.ofList pairs))
          (.object (Entries.ofList rest)))
        (fields.mapM (pair? (readType true bound))) (others.mapM (pair? (readType true bound)))
  | arg, _, first, second => ∀ bound,
    Option.Rel (Param.Alike (free .props)) (readParam (readType true bound) first)
      (readParam (readType true bound) second)
  | param, room, first, second =>
    Option.Rel (Param.Alike (free .props)) (Param.read? room first) (Param.read? room second)
  | component, room, first, second =>
    Option.Rel (Component.Alike (free .props)) (Component.read? room first)
      (Component.read? room second)
  | catalog, room, first, second =>
    Option.Rel (Catalog.Alike (free .props)) (Catalog.read? room first) (Catalog.read? room second)
  | remark, room, first, second =>
    Option.Rel (· = ·) (Remark.read? room first) (Remark.read? room second)
  | report, room, first, second =>
    Option.Rel (· = ·) (Report.read? room first) (Report.read? room second)
  | table, room, first, second =>
    Option.Rel (TypeTable.Alike (free .table) (free .props)) (TypeTable.read? room first)
      (TypeTable.read? room second)
  | list item, room, first, second =>
    ∃ before one other after, first = .array (before ++ one :: after) ∧
      second = .array (before ++ other :: after) ∧ item.ReadsAlike free (room - 1) one other

/-- Whether what stands in a field of one record is read like what stands there in another one,
where a default may be written out. -/
inductive SlotAlike (free : Part → Prop) (room : Nat) (form : FieldForm) :
    Option Node → Option Node → Prop where
  | same (slot : Option Node) : SlotAlike free room form slot slot
  | filled {value : Node} (isDefault : form.default = some value) (isValue : value.IsValue room) :
    SlotAlike free room form none (some value)
  | inner {part : Part} (isInner : form.part = some part) {first second : Node}
    (alike : part.ReadsAlike free room first second) :
    SlotAlike free room form (some first) (some second)

/-- Whether the fields of two records are read alike. -/
inductive SlotsAlike (free : Part → Prop) (room : Nat) :
    List FieldForm → List (Option Node) → List (Option Node) → Prop where
  | nil : SlotsAlike free room [] [] []
  | cons {form : FieldForm} {forms : List FieldForm} {first second : Option Node}
    {rest others : List (Option Node)} (head : SlotAlike free room form first second)
    (tail : SlotsAlike free room forms rest others) :
    SlotsAlike free room (form :: forms) (first :: rest) (second :: others)

/-! ### Fields that are read alike -/

section Slot

variable {room : Nat} {form : FieldForm} {first second : Option Node} {α : Type}
  {related : α → α → Prop} {read : Node → Option α}

theorem SlotAlike.eq (alike : SlotAlike free room form first second) (plain : form.default = none)
    (flat : form.part = none) : first = second := by
  cases alike with
  | same => rfl
  | filled isDefault => rw [plain] at isDefault; cases isDefault
  | inner isInner => rw [flat] at isInner; cases isInner

theorem SlotAlike.rel_required? (alike : SlotAlike free room form first second)
    (plain : form.default = none) (refl : ∀ value, related value value)
    (inner : ∀ part one other, form.part = some part → part.ReadsAlike free room one other →
      Option.Rel related (read one) (read other)) :
    Option.Rel related (Node.required? read first) (Node.required? read second) := by
  cases alike with
  | same => exact rel_of_eq refl rfl
  | filled isDefault => rw [plain] at isDefault; cases isDefault
  | inner isInner alike => exact inner _ _ _ isInner alike

theorem SlotAlike.rel_defaulted? (alike : SlotAlike free room form first second) {default : α}
    (isDefault : ∀ node, form.default = some node → node.IsValue room → read node = some default)
    (refl : ∀ value, related value value)
    (inner : ∀ part one other, form.part = some part → part.ReadsAlike free room one other →
      Option.Rel related (read one) (read other)) :
    Option.Rel related (Node.defaulted? default read first)
      (Node.defaulted? default read second) := by
  cases alike with
  | same => exact rel_of_eq refl rfl
  | filled isFilled isValue =>
    rw [Node.defaulted?, Node.defaulted?, isDefault _ isFilled isValue]
    exact .some (refl default)
  | inner isInner alike => exact inner _ _ _ isInner alike

theorem SlotAlike.defaulted?_eq (alike : SlotAlike free room form first second)
    (flat : form.part = none) {default : α}
    (isDefault : ∀ node, form.default = some node → read node = some default) :
    Node.defaulted? default read first = Node.defaulted? default read second := by
  cases alike with
  | same => rfl
  | filled isFilled => exact (isDefault _ isFilled).symm
  | inner isInner => rw [flat] at isInner; cases isInner

theorem SlotsAlike.refl {forms : List FieldForm} {slots : List (Option Node)}
    (enough : forms.length = slots.length) : SlotsAlike free room forms slots slots := by
  induction forms generalizing slots with
  | nil =>
    rw [List.eq_nil_of_length_eq_zero enough.symm]
    exact .nil
  | cons form rest inductionHypothesis =>
    match slots, enough with
    | slot :: slots, enough =>
      exact .cons (.same slot) (inductionHypothesis (Nat.succ.inj enough))

/-- Fields are read alike if each of them is. -/
theorem SlotsAlike.of_forall {forms : List FieldForm} {one other : String → Option (Option Node)}
    (each : ∀ form ∈ forms, Option.Rel (SlotAlike free room form) (one form.name)
      (other form.name)) :
    Option.Rel (SlotsAlike free room forms) ((forms.map FieldForm.name).mapM one)
      ((forms.map FieldForm.name).mapM other) := by
  induction forms with
  | nil => exact .some .nil
  | cons form rest inductionHypothesis =>
    obtain ⟨head, tail⟩ := List.forall_mem_cons.mp each
    rw [List.map_cons, List.mapM_cons, List.mapM_cons]
    exact rel_bind head fun _ _ head => rel_bind (inductionHypothesis tail) fun _ _ tail =>
      .some (.cons head tail)

end Slot

/-! ### How a change of spelling shows in the fields -/

/-- The fields that an array gives values to. -/
def slotsOf (count : Nat) (items : List Node) : List (Option Node) :=
  items.map some ++ List.replicate (count - items.length) none

theorem slots?_array {wanted : List String} {items : List Node}
    (fits : items.length ≤ wanted.length) :
    (Node.array items).slots? wanted = some (slotsOf wanted.length items) :=
  if_pos fits

theorem slotsOf_cons (count : Nat) (item : Node) (items : List Node) :
    slotsOf (count + 1) (item :: items) = some item :: slotsOf count items := by
  rw [slotsOf, List.length_cons, Nat.add_sub_add_right]
  rfl

theorem length_slotsOf {count : Nat} {items : List Node} (fits : items.length ≤ count) :
    (slotsOf count items).length = count := by
  rw [slotsOf, List.length_append, List.length_map, List.length_replicate]
  omega

section Fields

variable {room : Nat} {forms : List FieldForm}

/-- What stands in the places of an array is what stands under the names. -/
theorem InOrder.slotsAlike {fields : List (List Unit16 × Node)} {items : List Node}
    (inOrder : InOrder room fields forms items) :
    items.length ≤ forms.length ∧ ∃ slots,
      (forms.map FieldForm.name).mapM (Node.slot? fields) = some slots ∧
        SlotsAlike free room forms slots (slotsOf forms.length items) := by
  induction inOrder with
  | @missing forms absent =>
    refine ⟨Nat.zero_le _, List.replicate forms.length none, ?_, .refl (by simp)⟩
    induction forms with
    | nil => rfl
    | cons form rest inductionHypothesis =>
      obtain ⟨head, tail⟩ := List.forall_mem_cons.mp absent
      rw [List.map_cons]
      exact mapM_cons_eq_some_iff.mpr ⟨none, _, head, inductionHypothesis tail, rfl⟩
  | @given form forms value items present _ inductionHypothesis =>
    obtain ⟨fits, slots, areSlots, alike⟩ := inductionHypothesis
    refine ⟨Nat.succ_le_succ fits, some value :: slots, ?_, ?_⟩
    · rw [List.map_cons]
      exact mapM_cons_eq_some_iff.mpr ⟨_, _, present, areSlots, rfl⟩
    · rw [List.length_cons, slotsOf_cons]
      exact .cons (.same _) alike
  | @filled form forms value items absent isDefault isValue _ inductionHypothesis =>
    obtain ⟨fits, slots, areSlots, alike⟩ := inductionHypothesis
    refine ⟨Nat.succ_le_succ fits, none :: slots, ?_, ?_⟩
    · rw [List.map_cons]
      exact mapM_cons_eq_some_iff.mpr ⟨_, _, absent, areSlots, rfl⟩
    · rw [List.length_cons, slotsOf_cons]
      exact .cons (.filled isDefault isValue) alike

/-- One place of an array is one of the fields. -/
theorem SlotsAlike.of_place {before after : List Node} {first second : Node} {form : FieldForm}
    (isForm : forms[before.length]? = some form)
    (alike : SlotAlike free room form (some first) (some second))
    (fits : (before ++ first :: after).length ≤ forms.length) :
    SlotsAlike free room forms (slotsOf forms.length (before ++ first :: after))
      (slotsOf forms.length (before ++ second :: after)) := by
  induction before generalizing forms with
  | nil =>
    match forms, isForm with
    | form :: rest, rfl =>
      rw [List.length_cons, List.nil_append, List.nil_append, slotsOf_cons, slotsOf_cons]
      exact .cons alike (.refl (length_slotsOf (Nat.le_of_succ_le_succ fits)).symm)
  | cons item before inductionHypothesis =>
    match forms, isForm with
    | other :: rest, isForm =>
      rw [List.length_cons, List.cons_append, List.cons_append, slotsOf_cons, slotsOf_cons]
      exact .cons (.same _) (inductionHypothesis isForm (Nat.le_of_succ_le_succ fits))

/-- The fields of a kind have different names. -/
theorem forms_distinct {part : Part} {node : Node} (isRecord : part.forms? node = some forms) :
    (forms.map FieldForm.name).Nodup := by
  cases part with
  | type =>
    cases isRecord
    rw [typeForms, kindForms]
    split
    · decide
    split
    · decide
    split
    · decide
    · decide
  | props | table | list => cases isRecord
  | _ =>
    cases isRecord
    decide

theorem form_eq_of_name {part : Part} {node : Node} (isRecord : part.forms? node = some forms)
    {form other : FieldForm} (isForm : form ∈ forms) (isOther : other ∈ forms)
    (same : form.name = other.name) : form = other :=
  List.inj_on_of_nodup_map (forms_distinct isRecord) isForm isOther same

/-- Objects whose names are strings alike have their fields read alike if each name leads to things
that are. -/
theorem rel_slots?_object {fields others : List (List Unit16 × Node)}
    (named : AreNamed fields ↔ AreNamed others)
    (each : ∀ form ∈ forms, Option.Rel (SlotAlike free room form) (Node.slot? fields form.name)
      (Node.slot? others form.name)) :
    Option.Rel (SlotsAlike free room forms)
      ((Node.object fields).slots? (forms.map FieldForm.name))
      ((Node.object others).slots? (forms.map FieldForm.name)) := by
  by_cases areNamed : AreNamed fields
  · rw [slots?_object _ areNamed, slots?_object _ (named.mp areNamed)]
    exact SlotsAlike.of_forall each
  · rw [slots?_of_not_areNamed _ areNamed,
      slots?_of_not_areNamed _ fun others => areNamed (named.mpr others)]
    exact .none

end Fields

end Banana.Wire
