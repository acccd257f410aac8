/-
This file proves that the spelling of a thing on the wire does not matter for what is decoded. A
change of spelling leaves the fields of a record alike, and a record whose fields are alike is read
alike, so the induction is on where the change happens. What may be moved without being a
respelling, the properties of object types and the variables of tables, changes the order of the
entries that are read and nothing else.
-/

import Banana.Proofs.Schema.TableHistory
import Banana.Proofs.Wire.Readers
import Banana.Proofs.Wire.RoundTrip
import Mathlib.Logic.Relation

namespace Banana.Wire

open Json Schema Report

variable {free : Part → Prop}

/-! ### What a change of spelling leaves alike -/

section Fields

variable {part : Part} {room : Nat} {forms : List FieldForm}

/-- The array of the fields of an object gives them the values that they have there. -/
theorem rel_slots?_of_inOrder {fields : List (List Unit16 × Node)} {items : List Node}
    (named : AreNamed fields) (inOrder : InOrder room fields forms items) :
    Option.Rel (SlotsAlike free room forms)
      ((Node.object fields).slots? (forms.map FieldForm.name))
      ((Node.array items).slots? (forms.map FieldForm.name)) := by
  obtain ⟨fits, slots, areSlots, alike⟩ := inOrder.slotsAlike
  rw [slots?_object _ named, areSlots,
    slots?_array (fits.trans (Nat.le_of_eq (List.length_map FieldForm.name).symm)),
    List.length_map]
  exact .some alike

/-- Of the fields of a record only the one in which a change happens may differ. -/
theorem rel_slots?_of_field {node : Node} (isRecord : part.forms? node = some forms)
    {form : FieldForm} (isForm : form ∈ forms) {key : List Unit16}
    (isName : stringOfUnits? key = some form.name) {first second : Node}
    (alike : SlotAlike free room form (some first) (some second))
    (before after : List (List Unit16 × Node)) :
    Option.Rel (SlotsAlike free room forms)
      ((Node.object (before ++ (key, first) :: after)).slots? (forms.map FieldForm.name))
      ((Node.object (before ++ (key, second) :: after)).slots? (forms.map FieldForm.name)) := by
  refine rel_slots?_object ?_ fun other isOther => ?_
  · rw [AreNamed, AreNamed]
    simp only [List.forall_mem_append, List.forall_mem_cons]
  · by_cases same : form.name = other.name
    · obtain rfl := form_eq_of_name isRecord isForm isOther same
      rcases slot?_field isName with twice | once
      · rw [twice, twice]
        exact .none
      · rw [once, once]
        exact .some alike
    · refine rel_of_eq .same (slot?_of_ne_field ?_)
      rw [isName]
      exact fun equal => same (Option.some.inj equal)

/-- Of the places of an array only the one in which a change happens may differ. -/
theorem rel_slots?_of_place {before after : List Node} {first second : Node} {form : FieldForm}
    (isForm : forms[before.length]? = some form)
    (alike : SlotAlike free room form (some first) (some second)) :
    Option.Rel (SlotsAlike free room forms)
      ((Node.array (before ++ first :: after)).slots? (forms.map FieldForm.name))
      ((Node.array (before ++ second :: after)).slots? (forms.map FieldForm.name)) := by
  have sameLength : (before ++ second :: after).length = (before ++ first :: after).length := by
    simp
  rw [Node.slots?, Node.slots?, sameLength, List.length_map]
  split
  · next fits =>
    refine .some ?_
    have placed := SlotsAlike.of_place isForm alike fits
    rwa [slotsOf, slotsOf, sameLength] at placed
  · exact .none

end Fields

/-- A change of spelling leaves the tag of a type as it is. -/
theorem Respelling.typeTag?_eq {room : Nat} {first second : Node}
    (respelling : Respelling free .type room first second) : typeTag? first = typeTag? second := by
  cases respelling with
  | permuted _ moved => rw [typeTag?, typeTag?, slot?_of_perm moved]
  | extended isRecord isName isUnknown =>
    cases isRecord
    rw [typeTag?, typeTag?, slot?_append_of_ne]
    rw [isName]
    exact fun equal => isUnknown _ List.mem_cons_self (Option.some.inj equal).symm
  | positional isRecord _ _ inOrder =>
    cases isRecord
    cases inOrder with
    | missing absent =>
      have noTag := absent _ List.mem_cons_self
      rw [typeTag?, noTag]
      rfl
    | given present =>
      rw [typeTag?, present]
      rfl
    | filled _ isDefault => cases isDefault
  | inField isRecord isForm isName isInner =>
    cases isRecord
    rw [typeTag?, typeTag?, slot?_of_ne_field]
    rw [isName]
    intro equal
    have isRecord (node : Node) : Part.type.forms? node = some (typeForms (typeTag? node)) := rfl
    have isTag := form_eq_of_name (isRecord _) isForm List.mem_cons_self (Option.some.inj equal)
    rw [isTag] at isInner
    cases isInner
  | @inPlace _ _ before _ _ _ _ isRecord _ isForm _ isInner =>
    cases isRecord
    cases before with
    | nil =>
      cases isForm
      cases isInner
    | cons tag rest => rfl
  | inEntry isOpen => cases isOpen
  | moved isOpen => cases isOpen

/-! ### Records -/

/-- A record is read alike if its fields are, its tag is the same and it is as much of a value. -/
theorem Part.readsAlike_of_slots {part : Part} {room : Nat} {first second : Node}
    {forms : List FieldForm} (isRecord : part.forms? first = some forms)
    (sameTag : part = .type → typeTag? first = typeTag? second)
    (sameValue : part.InType → (first.IsValue room ↔ second.IsValue room))
    (slots : Option.Rel (SlotsAlike free (room - 1) forms)
      (first.slots? (forms.map FieldForm.name)) (second.slots? (forms.map FieldForm.name))) :
    part.ReadsAlike free room first second := by
  cases part with
  | type =>
    cases isRecord
    exact ⟨sameValue trivial, fun _ _ => rel_readType (sameTag rfl) slots⟩
  | arg =>
    cases isRecord
    exact fun bound => rel_readParam (fun _ _ alike => alike.2 true bound) slots
  | param =>
    cases isRecord
    exact rel_read?_param slots
  | component =>
    cases isRecord
    exact rel_read?_component slots
  | catalog =>
    cases isRecord
    exact rel_read?_catalog slots
  | remark =>
    cases isRecord
    exact rel_read?_remark slots
  | report =>
    cases isRecord
    exact rel_read?_report slots
  | props | table | list => cases isRecord

/-! ### Open objects -/

section Entry

variable {room : Nat} {fields others : List (List Unit16 × Node)}

/-- Properties are read alike if the type of one of them is. -/
theorem Part.readsAlike_props_of_one (before : List (List Unit16 × Node)) (key : List Unit16)
    {first second : Node} (after : List (List Unit16 × Node))
    (alike : Part.type.ReadsAlike free (room - 1) first second) :
    Part.props.ReadsAlike free room (.object (before ++ (key, first) :: after))
      (.object (before ++ (key, second) :: after)) := by
  refine ⟨_, _, rfl, rfl, fun bound => ?_⟩
  refine rel_mono (fun _ _ alike => ValueType.alike_object (Entries.sameName_ofList alike)) ?_
  exact rel_mapM_of_one (fun _ => ⟨rfl, .refl _⟩) before after
    (rel_pair? key (alike.2 true bound))

/-- Different properties are read in the order in which they are written. -/
theorem Part.readsAlike_props_of_perm (isFree : free .props) (moved : fields.Perm others)
    (distinct : (namesOf fields).Nodup) :
    Part.props.ReadsAlike free room (.object fields) (.object others) := by
  refine ⟨_, _, rfl, rfl, fun bound => rel_mono ?_ (rel_mapM_pair?_of_perm moved distinct)⟩
  rintro pairs rest ⟨movedPairs, pairsDistinct, restDistinct⟩
  rw [Entries.ofList_eq_self pairsDistinct, Entries.ofList_eq_self restDistinct]
  exact .moved isFree movedPairs pairsDistinct

/-- A table is read alike if the type of one of its variables is. -/
theorem Part.readsAlike_table_of_one (before : List (List Unit16 × Node)) (key : List Unit16)
    {first second : Node} (after : List (List Unit16 × Node))
    (alike : Part.type.ReadsAlike free (room - 1) first second) :
    Part.table.ReadsAlike free room (.object (before ++ (key, first) :: after))
      (.object (before ++ (key, second) :: after)) := by
  cases room with
  | zero => exact .none
  | succ left =>
    show Option.Rel _ _ _
    rw [TypeTable.read?_object, TypeTable.read?_object]
    refine rel_map ?_ fun _ _ => TypeTable.alike_ofList
    exact rel_mapM_of_one (fun _ => ⟨rfl, .refl _⟩) before after
      (rel_pair? key (rel_read?_type alike))

/-- Different variables are read in the order in which they are written. -/
theorem Part.readsAlike_table_of_perm (isFree : free .table) (moved : fields.Perm others)
    (distinct : (namesOf fields).Nodup) :
    Part.table.ReadsAlike free room (.object fields) (.object others) := by
  cases room with
  | zero => exact .none
  | succ left =>
    show Option.Rel _ _ _
    rw [TypeTable.read?_object, TypeTable.read?_object]
    refine rel_map (rel_mapM_pair?_of_perm moved distinct) ?_
    rintro pairs rest ⟨movedPairs, pairsDistinct, restDistinct⟩
    refine TypeTable.alike_of_perm isFree ?_
    show (Entries.ofList pairs).Perm (Entries.ofList rest)
    rwa [Entries.ofList_eq_self pairsDistinct, Entries.ofList_eq_self restDistinct]

end Entry

/-! ### One change of spelling -/

/-- After one change of spelling the same is read. -/
theorem Respelling.readsAlike {part : Part} {room : Nat} {first second : Node}
    (respelling : Respelling free part room first second) :
    part.ReadsAlike free room first second := by
  have sameValue := respelling.isValue_iff
  have sameTag (isType : part = .type) : typeTag? first = typeTag? second := by
    subst isType
    exact respelling.typeTag?_eq
  induction respelling with
  | permuted isRecord moved =>
    refine Part.readsAlike_of_slots isRecord sameTag sameValue (rel_slots?_object ?_ ?_)
    · simp only [AreNamed, moved.mem_iff]
    · exact fun form _ => rel_of_eq .same (slot?_of_perm moved)
  | extended isRecord isName isUnknown =>
    refine Part.readsAlike_of_slots isRecord sameTag sameValue (rel_slots?_object ?_ ?_)
    · have named : (stringOfUnits? _).isSome = true := Option.isSome_iff_exists.mpr ⟨_, isName⟩
      simp only [AreNamed, List.forall_mem_append, List.forall_mem_singleton, named, and_true]
    · refine fun form isForm => rel_of_eq .same (slot?_append_of_ne ?_).symm
      rw [isName]
      exact fun equal => isUnknown form isForm (Option.some.inj equal).symm
  | positional isRecord named _ inOrder =>
    exact Part.readsAlike_of_slots isRecord sameTag sameValue (rel_slots?_of_inOrder named inOrder)
  | inField isRecord isForm isName isInner inside inductionHypothesis =>
    have alike := inductionHypothesis inside.isValue_iff (by rintro rfl; exact inside.typeTag?_eq)
    exact Part.readsAlike_of_slots isRecord sameTag sameValue
      (rel_slots?_of_field isRecord isForm isName (.inner isInner alike) _ _)
  | inPlace isRecord isForm isInner inside inductionHypothesis =>
    have alike := inductionHypothesis inside.isValue_iff (by rintro rfl; exact inside.typeTag?_eq)
    exact Part.readsAlike_of_slots isRecord sameTag sameValue
      (rel_slots?_of_place isForm (.inner isInner alike))
  | inItem before after inside inductionHypothesis =>
    have alike := inductionHypothesis inside.isValue_iff (by rintro rfl; exact inside.typeTag?_eq)
    exact ⟨before, _, _, after, rfl, rfl, alike⟩
  | @inEntry part isOpen _ before key _ _ after inside inductionHypothesis =>
    have alike := inductionHypothesis inside.isValue_iff fun _ => inside.typeTag?_eq
    cases part with
    | props => exact Part.readsAlike_props_of_one before key after alike
    | table => exact Part.readsAlike_table_of_one before key after alike
    | _ => cases isOpen
  | @moved part isOpen isFree _ _ _ moved distinct =>
    cases part with
    | props => exact Part.readsAlike_props_of_perm isFree moved distinct
    | table => exact Part.readsAlike_table_of_perm isFree moved distinct
    | _ => cases isOpen

/-! ### Texts -/

/-- Whether the trees of two texts become one another by any number of changes of spelling. -/
def AreRespelled (free : Part → Prop) (part : Part) (text other : String) : Prop :=
  ∃ node otherNode, Node.parse? text.toList = some node ∧
    Node.parse? other.toList = some otherNode ∧
    Relation.EqvGen (Respelling free part maxDepth) node otherNode

/-- Whether decoding does not depend on how something is spelled: not at all as long as nothing is
moved, and otherwise at most in the order of what is moved. What decodes may also be written as the
array of its fields. -/
structure Format.IgnoresSpelling {α : Type} (format : Format α) (part : Part)
    (alike : (Part → Prop) → α → α → Prop) : Prop where
  respelled : ∀ text other, AreRespelled (fun _ => False) part text other →
    format.decode? text = format.decode? other
  moved : ∀ free text other, AreRespelled free part text other →
    Option.Rel (alike free) (format.decode? text) (format.decode? other)
  positional : ∀ text other fields forms items value,
    Node.parse? text.toList = some (.object fields) →
    part.forms? (.object fields) = some forms → format.decode? text = some value →
    Node.parse? other.toList = some (.array items) →
    InOrder (maxDepth - 1) fields forms items → format.decode? other = some value

section Formats

variable {α : Type} {format : Format α} {part : Part} {alike : (Part → Prop) → α → α → Prop}

/-- Any number of changes of spelling is as good as one. -/
theorem ignoresSpelling_of_reads (isEquivalence : ∀ free, Equivalence (alike free))
    (same : ∀ first second, alike (fun _ => False) first second → first = second)
    (reads : ∀ free first second, part.ReadsAlike free maxDepth first second →
      Option.Rel (alike free) (format.read? maxDepth first) (format.read? maxDepth second))
    (opens : ∀ fields forms value, part.forms? (.object fields) = some forms →
      format.read? maxDepth (.object fields) = some value →
      AreNamed fields ∧ (part.InType → (Node.object fields).IsValue maxDepth)) :
    format.IgnoresSpelling part alike := by
  have moved (free : Part → Prop) (text other : String)
      (respelled : AreRespelled free part text other) :
      Option.Rel (alike free) (format.decode? text) (format.decode? other) := by
    obtain ⟨node, otherNode, isNode, isOther, changes⟩ := respelled
    rw [Format.decode?, Format.decode?, isNode, isOther]
    have readsEquivalence := (equivalence_rel (isEquivalence free)).comap (format.read? maxDepth)
    exact readsEquivalence.eqvGen_iff.mp
      (changes.mono fun first second change => reads free first second change.readsAlike)
  have respelled (text other : String)
      (areRespelled : AreRespelled (fun _ => False) part text other) :
      format.decode? text = format.decode? other :=
    rel_eq_iff.mp (rel_mono same (moved _ text other areRespelled))
  refine ⟨respelled, moved, ?_⟩
  intro text other fields forms items value isObject isRecord isDecoded isArray inOrder
  have isRead := isDecoded
  rw [Format.decode?, isObject, Option.bind_some] at isRead
  obtain ⟨named, isValue⟩ := opens fields forms value isRecord isRead
  rw [← isDecoded]
  exact (respelled text other ⟨_, _, isObject, isArray,
    .rel _ _ (.positional isRecord named isValue inOrder)⟩).symm

/-- The names in a record that is read are strings. -/
theorem areNamed_of_record? {wanted : List String} {read : Nat → List (Option Node) → Option α}
    {room : Nat} {fields : List (List Unit16 × Node)} {value : α}
    (isRead : Node.record? wanted read room (.object fields) = some value) : AreNamed fields := by
  obtain ⟨_, slots, rfl, found, -⟩ := record?_eq_some_iff.mp isRead
  by_contra unnamed
  rw [slots?_of_not_areNamed wanted unnamed] at found
  cases found

/-- A record that does not belong to a type need not be a value. -/
theorem ignoresSpelling_of_record {wanted : List String}
    {read : Nat → List (Option Node) → Option α}
    (isRecord : format.read? = Node.record? wanted read)
    (outside : ¬ part.InType) (isEquivalence : ∀ free, Equivalence (alike free))
    (same : ∀ first second, alike (fun _ => False) first second → first = second)
    (reads : ∀ free first second, part.ReadsAlike free maxDepth first second →
      Option.Rel (alike free) (format.read? maxDepth first) (format.read? maxDepth second)) :
    format.IgnoresSpelling part alike := by
  refine ignoresSpelling_of_reads isEquivalence same reads fun fields _ value _ isRead => ?_
  rw [isRecord] at isRead
  exact ⟨areNamed_of_record? isRead, fun inType => absurd inType outside⟩

theorem isValue_of_read? {room : Nat} {node : Node} {type : ValueType}
    (isRead : ValueType.read? room node = some type) : node.IsValue room := by
  rw [ValueType.read?] at isRead
  split at isRead
  · assumption
  · cases isRead

end Formats

/-- How something is spelled on the wire does not matter for what is decoded, and moving properties
of object types or variables of a table moves the entries and changes nothing else. -/
theorem formats_ignore_spelling :
    typeFormat.IgnoresSpelling .type (fun free => ValueType.Alike (free .props)) ∧
    paramFormat.IgnoresSpelling .param (fun free => Param.Alike (free .props)) ∧
    componentFormat.IgnoresSpelling .component (fun free => Component.Alike (free .props)) ∧
    catalogFormat.IgnoresSpelling .catalog (fun free => Catalog.Alike (free .props)) ∧
    tableFormat.IgnoresSpelling .table
      (fun free => TypeTable.Alike (free .table) (free .props)) ∧
    remarkFormat.IgnoresSpelling .remark (fun _ => (· = ·)) ∧
    reportFormat.IgnoresSpelling .report (fun _ => (· = ·)) := by
  refine ⟨?type, ?param, ?component, ?catalog, ?table, ?remark, ?report⟩
  case type =>
    refine ignoresSpelling_of_reads (fun _ => ValueType.equivalence_alike)
      (fun _ _ alike => alike.eq not_false) (fun _ _ _ => rel_read?_type) ?_
    intro fields _ _ _ isRead
    have isValue := isValue_of_read? isRead
    exact ⟨(isValue_object_iff.mp isValue).2.1, fun _ => isValue⟩
  case param =>
    exact ignoresSpelling_of_record rfl not_false (fun _ => Param.equivalence_alike)
      (fun _ _ alike => Param.Alike.eq alike not_false) fun _ _ _ alike => alike
  case component =>
    exact ignoresSpelling_of_record rfl not_false (fun _ => Component.equivalence_alike)
      (fun _ _ alike => alike.eq not_false) fun _ _ _ alike => alike
  case catalog =>
    exact ignoresSpelling_of_record rfl not_false (fun _ => Catalog.equivalence_alike)
      (fun _ _ alike => Catalog.Alike.eq alike not_false) fun _ _ _ alike => alike
  case table =>
    exact ignoresSpelling_of_reads (fun _ => TypeTable.equivalence_alike)
      (fun _ _ alike => alike.eq not_false not_false) (fun _ _ _ alike => alike)
      fun _ _ _ isRecord => by cases isRecord
  case remark =>
    exact ignoresSpelling_of_record rfl not_false (fun _ => eq_equivalence) (fun _ _ same => same)
      fun _ _ _ alike => alike
  case report =>
    exact ignoresSpelling_of_record rfl not_false (fun _ => eq_equivalence) (fun _ _ same => same)
      fun _ _ _ alike => alike

/-- The text of an object type that is written as an object, with its tag last and a field that no
type has; its property is written as an array. -/
def looseText : String :=
  "\x7b\"x\":[1],\"props\":\x7b\"a\":[\"any\"]\x7d,\"id\":\"object\"\x7d"

/-- The text of the same type as an array; its property is written as an object. -/
def tightText : String :=
  "[\"object\",\x7b\"a\":\x7b\"id\":\"any\"\x7d\x7d]"

/-- The texts become one another by changes at both levels. -/
theorem looseText_respelled : AreRespelled (fun _ => False) .type looseText tightText := by
  let any : Node := .string (unitsOf "any")
  let tag : Node := .string (unitsOf "object")
  let one : Literal := ⟨false, ['1'], none, none⟩
  let loose : List (List Unit16 × Node) := [(unitsOf "x", .array [.number one]),
    (unitsOf "props", .object [(unitsOf "a", .array [any])]), (unitsOf "id", tag)]
  have isLoose : Node.parse? looseText.toList = some (.object loose) := by cbv
  have isTight : Node.parse? tightText.toList =
      some (.array [tag, .object [(unitsOf "a", .object [(unitsOf "id", any)])]]) := by cbv
  refine ⟨_, _, isLoose, isTight, .trans _ (.array [tag, .object [(unitsOf "a", .array [any])]]) _
    (.rel _ _ ?outer) (.symm _ _ (.rel _ _ ?inner))⟩
  case outer =>
    have isValue : (Node.object loose).IsValue maxDepth := by
      show (Node.value? _ _).isSome = true
      cbv
    exact .positional rfl (isValue_object_iff.mp isValue).2.1 (fun _ => isValue)
      (.given rfl (.given rfl (.missing fun _ member => absurd member List.not_mem_nil)))
  case inner =>
    have isValue : (Node.object [(unitsOf "id", any)]).IsValue (maxDepth - 2) := by
      show (Node.value? _ _).isSome = true
      cbv
    have isProps : Part.props.IsOpen := trivial
    refine @Respelling.inPlace _ _ _ [tag] _ _ _ _ rfl _ rfl _ rfl
      (.inEntry isProps [] (unitsOf "a") [] ?_)
    exact .positional rfl (isValue_object_iff.mp isValue).2.1 (fun _ => isValue)
      (.given rfl (.missing fun _ member => absurd member List.not_mem_nil))

/-- So what the one text decodes to is what the other does. -/
theorem looseText_decodes :
    AreRespelled (fun _ => False) .type looseText tightText ∧
      typeFormat.decode? tightText = some (.object [("a", .any)]) ∧
      typeFormat.decode? looseText = some (.object [("a", .any)]) := by
  have decoded : typeFormat.decode? tightText = some (.object [("a", .any)]) := by cbv
  exact ⟨looseText_respelled, decoded,
    (formats_ignore_spelling.1.respelled _ _ looseText_respelled).trans decoded⟩

/-- Inside a type also what nobody asks for has to be a value: a field that no type has, with a
number that is out of range, makes a type unreadable. -/
theorem unread_number_decides :
    ∃ fields literal,
      Node.parse? "\x7b\"id\":\"any\"\x7d".toList = some (.object fields) ∧
      Node.parse? "\x7b\"id\":\"any\",\"x\":1e400\x7d".toList =
        some (.object (fields ++ [(unitsOf "x", .number literal)])) ∧
      typeFormat.decode? "\x7b\"id\":\"any\"\x7d" = some .any ∧
      typeFormat.decode? "\x7b\"id\":\"any\",\"x\":1e400\x7d" = none := by
  refine ⟨[(unitsOf "id", .string (unitsOf "any"))],
    ⟨false, ['1'], none, some (false, ['4', '0', '0'])⟩, ?plain, ?extended, ?decoded, ?refused⟩
  case plain => cbv
  case extended => cbv
  case decoded => cbv
  case refused => cbv

end Banana.Wire
