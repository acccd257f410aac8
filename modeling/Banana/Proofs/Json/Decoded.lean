/-
This file proves what is known of a value because a document spelled it: its containers fit into
the room there was, and its objects name each field once. It also says where the values of named
fields come from: they stand directly inside the record that is read.
-/

import Banana.Json.Decode
import Banana.Proofs.Json.Written

namespace Banana.Json

/-! ### Lists of results -/

section Results

variable {α β : Type} {read : α → Option β} {sources : List α} {results : List β}

theorem mapM_cons_eq_some_iff {source : α} :
    (source :: sources).mapM read = some results ↔
      ∃ first others, read source = some first ∧ sources.mapM read = some others ∧
        results = first :: others := by
  rw [List.mapM_cons, Option.bind_eq_bind, Option.bind_eq_some_iff]
  refine exists_congr fun first => ?_
  rw [Option.bind_eq_bind, Option.bind_eq_some_iff]
  constructor
  · rintro ⟨isFirst, others, areOthers, ⟨⟩⟩
    exact ⟨others, isFirst, areOthers, rfl⟩
  · rintro ⟨others, isFirst, areOthers, rfl⟩
    exact ⟨isFirst, others, areOthers, rfl⟩

/-- Everything that is read comes from one of the sources. -/
theorem exists_of_mapM_eq_some (isRead : sources.mapM read = some results) {result : β}
    (member : result ∈ results) : ∃ source ∈ sources, read source = some result := by
  induction sources generalizing results with
  | nil =>
    cases isRead
    exact absurd member List.not_mem_nil
  | cons source rest inductionHypothesis =>
    obtain ⟨first, others, isFirst, areOthers, rfl⟩ := mapM_cons_eq_some_iff.mp isRead
    rcases List.mem_cons.mp member with rfl | later
    · exact ⟨source, List.mem_cons_self, isFirst⟩
    · obtain ⟨found, isFound, reads⟩ := inductionHypothesis areOthers later
      exact ⟨found, List.mem_cons_of_mem _ isFound, reads⟩

/-- Where all sources are read, each of them is. -/
theorem isSome_of_mapM_eq_some (isRead : sources.mapM read = some results) {source : α}
    (member : source ∈ sources) : (read source).isSome = true := by
  induction sources generalizing results with
  | nil => exact absurd member List.not_mem_nil
  | cons first rest inductionHypothesis =>
    obtain ⟨result, others, isFirst, areOthers, rfl⟩ := mapM_cons_eq_some_iff.mp isRead
    rcases List.mem_cons.mp member with rfl | later
    · rw [isFirst]
      rfl
    · exact inductionHypothesis areOthers later

/-- A reader that reads whatever another one does, in the same way, reads the same of a list. -/
theorem mapM_mono {readMore : α → Option β}
    (each : ∀ source ∈ sources, ∀ result, read source = some result →
      readMore source = some result)
    (isRead : sources.mapM read = some results) : sources.mapM readMore = some results := by
  induction sources generalizing results with
  | nil => exact isRead
  | cons source rest inductionHypothesis =>
    obtain ⟨first, later⟩ := List.forall_mem_cons.mp each
    obtain ⟨result, others, isFirst, areOthers, rfl⟩ := mapM_cons_eq_some_iff.mp isRead
    exact mapM_cons_eq_some_iff.mpr
      ⟨result, others, first result isFirst, inductionHypothesis later areOthers, rfl⟩

end Results

/-! ### Induction over trees -/

/-- What holds of a container as soon as it holds of everything directly inside holds of all
trees. -/
@[elab_as_elim, induction_eliminator]
theorem Node.inductionInside {motive : Node → Prop} (null : motive .null)
    (bool : ∀ value, motive (.bool value)) (number : ∀ literal, motive (.number literal))
    (string : ∀ units, motive (.string units))
    (array : ∀ items, (∀ item ∈ items, motive item) → motive (.array items))
    (object : ∀ fields, (∀ field ∈ fields, motive field.2) → motive (.object fields)) :
    ∀ node, motive node :=
  @Node.rec motive (fun items => ∀ item ∈ items, motive item)
    (fun fields => ∀ field ∈ fields, motive field.2) (fun field => motive field.2)
    null bool number string array object
    (fun _ member => absurd member List.not_mem_nil)
    (fun _ _ first others => List.forall_mem_cons.mpr ⟨first, others⟩)
    (fun _ member => absurd member List.not_mem_nil)
    (fun _ _ first others => List.forall_mem_cons.mpr ⟨first, others⟩)
    (fun _ _ holds => holds)

/-! ### The values of lists -/

theorem valueItems?_eq_mapM (room : Nat) (items : List Node) :
    valueItems? room items = items.mapM (Node.value? room) := by
  induction items with
  | nil => rfl
  | cons node rest inductionHypothesis =>
    rw [valueItems?, List.mapM_cons, inductionHypothesis]
    cases node.value? room with
    | none => rfl
    | some value => cases rest.mapM (Node.value? room) <;> rfl

/-- The name and the value of a field. -/
def valueField? (room : Nat) (field : List Unit16 × Node) : Option (String × Json) := do
  pure (← stringOfUnits? field.1, ← field.2.value? room)

theorem valueFields?_eq_mapM (room : Nat) (fields : List (List Unit16 × Node)) :
    valueFields? room fields = fields.mapM (valueField? room) := by
  induction fields with
  | nil => rfl
  | cons field rest inductionHypothesis =>
    obtain ⟨key, node⟩ := field
    rw [valueFields?, List.mapM_cons, inductionHypothesis, valueField?]
    cases stringOfUnits? key with
    | none => rfl
    | some name =>
      cases node.value? room with
      | none => rfl
      | some value => cases rest.mapM (valueField? room) <;> rfl

theorem valueField?_eq_some_iff {room : Nat} {field : List Unit16 × Node} {value : String × Json} :
    valueField? room field = some value ↔
      stringOfUnits? field.1 = some value.1 ∧ field.2.value? room = some value.2 := by
  rw [valueField?]
  cases stringOfUnits? field.1 with
  | none => simp
  | some name => cases field.2.value? room <;> simp [Prod.ext_iff]

/-! ### The value of a tree -/

theorem value?_array_eq_some_iff {room : Nat} {items : List Node} {json : Json} :
    (Node.array items).value? room = some json ↔
      ∃ inside values, room = inside + 1 ∧ items.mapM (Node.value? inside) = some values ∧
        json = .array values := by
  cases room with
  | zero => simp [Node.value?]
  | succ room =>
    rw [Node.value?, valueItems?_eq_mapM, Option.map_eq_some_iff]
    constructor
    · rintro ⟨values, areValues, rfl⟩
      exact ⟨room, values, rfl, areValues, rfl⟩
    · rintro ⟨_, values, ⟨⟩, areValues, rfl⟩
      exact ⟨values, areValues, rfl⟩

theorem value?_object_eq_some_iff {room : Nat} {fields : List (List Unit16 × Node)} {json : Json} :
    (Node.object fields).value? room = some json ↔
      ∃ inside pairs, room = inside + 1 ∧ fields.mapM (valueField? inside) = some pairs ∧
        json = .object (Entries.ofList pairs) := by
  cases room with
  | zero => simp [Node.value?]
  | succ room =>
    rw [Node.value?, valueFields?_eq_mapM, Option.map_eq_some_iff]
    constructor
    · rintro ⟨pairs, arePairs, rfl⟩
      exact ⟨room, pairs, rfl, arePairs, rfl⟩
    · rintro ⟨_, pairs, ⟨⟩, arePairs, rfl⟩
      exact ⟨pairs, arePairs, rfl⟩

/-- A tree stands for the same value where there is more room. -/
theorem Node.value?_mono {node : Node} {room more : Nat} (enough : room ≤ more) {json : Json}
    (read : node.value? room = some json) : node.value? more = some json := by
  induction node generalizing room more json with
  | null => exact read
  | bool value => exact read
  | number literal => exact read
  | string units => exact read
  | array items inductionHypothesis =>
    obtain ⟨inside, values, rfl, areValues, rfl⟩ := value?_array_eq_some_iff.mp read
    obtain ⟨further, rfl⟩ := Nat.exists_eq_add_one.mpr (Nat.lt_of_lt_of_le (Nat.succ_pos _) enough)
    exact value?_array_eq_some_iff.mpr ⟨further, values, rfl, mapM_mono (fun item member value =>
      inductionHypothesis item member (Nat.le_of_succ_le_succ enough)) areValues, rfl⟩
  | object fields inductionHypothesis =>
    obtain ⟨inside, pairs, rfl, arePairs, rfl⟩ := value?_object_eq_some_iff.mp read
    obtain ⟨further, rfl⟩ := Nat.exists_eq_add_one.mpr (Nat.lt_of_lt_of_le (Nat.succ_pos _) enough)
    refine value?_object_eq_some_iff.mpr ⟨further, pairs, rfl, mapM_mono ?_ arePairs, rfl⟩
    intro field member value isValue
    obtain ⟨isName, isValue⟩ := valueField?_eq_some_iff.mp isValue
    exact valueField?_eq_some_iff.mpr
      ⟨isName, inductionHypothesis field member (Nat.le_of_succ_le_succ enough) isValue⟩

/-- A tree stands for no two values. -/
theorem Node.value?_unique {node : Node} {room other : Nat} {first second : Json}
    (isFirst : node.value? room = some first) (isSecond : node.value? other = some second) :
    first = second :=
  Option.some.inj ((Node.value?_mono (Nat.le_max_left room other) isFirst).symm.trans
    (Node.value?_mono (Nat.le_max_right room other) isSecond))

/-- What a tree stands for is readable in the room there was. -/
theorem isReadable_of_value? {node : Node} {room : Nat} {json : Json}
    (read : node.value? room = some json) : IsReadable room json := by
  induction node generalizing room json with
  | null =>
    cases read
    exact isReadable_null room
  | bool value =>
    cases read
    exact isReadable_bool room value
  | number literal =>
    obtain ⟨value, -, rfl⟩ := Option.map_eq_some_iff.mp read
    exact isReadable_number room value
  | string units =>
    obtain ⟨text, -, rfl⟩ := Option.map_eq_some_iff.mp read
    exact isReadable_string room text
  | array items inductionHypothesis =>
    obtain ⟨inside, values, rfl, areValues, rfl⟩ := value?_array_eq_some_iff.mp read
    refine (isReadable_array values).mpr fun value member => ?_
    obtain ⟨item, isItem, isValue⟩ := exists_of_mapM_eq_some areValues member
    exact inductionHypothesis item isItem isValue
  | object fields inductionHypothesis =>
    obtain ⟨inside, pairs, rfl, arePairs, rfl⟩ := value?_object_eq_some_iff.mp read
    refine (isReadable_object _).mpr ⟨Entries.nodup_names_ofList pairs, fun pair member => ?_⟩
    obtain ⟨field, isField, isPair⟩ :=
      exists_of_mapM_eq_some arePairs (Entries.mem_of_mem_ofList member)
    exact inductionHypothesis field isField (valueField?_eq_some_iff.mp isPair).2

/-! ### What stands inside a tree -/

/-- Whether a tree stands for a value where there is so much room. -/
def Node.IsValue (room : Nat) (node : Node) : Prop :=
  (node.value? room).isSome = true

/-- What stands directly inside a container. -/
def Node.inside? : Node → Option (List Node)
  | .array items => some items
  | .object fields => some (fields.map Prod.snd)
  | _ => none

/-- What stands inside a container stands for values in the room that is left. -/
theorem Node.IsValue.inside {room : Nat} {node : Node} (isValue : node.IsValue room)
    {children : List Node} (isContainer : node.inside? = some children) :
    ∃ left, room = left + 1 ∧ ∀ child ∈ children, child.IsValue left := by
  obtain ⟨json, read⟩ := Option.isSome_iff_exists.mp isValue
  cases node with
  | array items =>
    cases isContainer
    obtain ⟨left, values, rfl, areValues, -⟩ := value?_array_eq_some_iff.mp read
    exact ⟨left, rfl, fun child member => isSome_of_mapM_eq_some areValues member⟩
  | object fields =>
    cases isContainer
    obtain ⟨left, pairs, rfl, arePairs, -⟩ := value?_object_eq_some_iff.mp read
    refine ⟨left, rfl, fun child member => ?_⟩
    obtain ⟨field, isField, rfl⟩ := List.mem_map.mp member
    obtain ⟨pair, isPair⟩ :=
      Option.isSome_iff_exists.mp (isSome_of_mapM_eq_some arePairs isField)
    exact Option.isSome_iff_exists.mpr ⟨pair.2, (valueField?_eq_some_iff.mp isPair).2⟩
  | _ => cases isContainer

theorem mem_of_slot? {fields : List (List Unit16 × Node)} {name : String} {child : Node}
    (found : Node.slot? fields name = some (some child)) : child ∈ fields.map Prod.snd := by
  have isNamed : child ∈ Node.fieldsNamed name fields := by
    rw [Node.slot?] at found
    split at found
    · cases found
    · next value named =>
      cases found
      rw [named]
      exact List.mem_cons_self
    · cases found
  obtain ⟨⟨key, value⟩, isField, isChild⟩ := List.mem_filterMap.mp isNamed
  dsimp only at isChild
  split at isChild
  · cases isChild
    exact List.mem_map_of_mem isField
  · cases isChild

/-- The values of named fields stand inside the record. -/
theorem slots?_inside {wanted : List String} {node : Node} {slots : List (Option Node)}
    (found : node.slots? wanted = some slots) :
    ∃ children, node.inside? = some children ∧ ∀ child, some child ∈ slots → child ∈ children := by
  cases node with
  | object fields =>
    refine ⟨_, rfl, fun child member => ?_⟩
    rw [Node.slots?] at found
    split at found
    · obtain ⟨name, -, isSlot⟩ := exists_of_mapM_eq_some found member
      exact mem_of_slot? isSlot
    · cases found
  | array items =>
    refine ⟨_, rfl, fun child member => ?_⟩
    rw [Node.slots?] at found
    split at found
    · cases found
      rcases List.mem_append.mp member with isItem | isMissing
      · obtain ⟨item, isItem, ⟨⟩⟩ := List.mem_map.mp isItem
        exact isItem
      · cases List.eq_of_mem_replicate isMissing
    · cases found
  | _ => cases found

/-! ### Records and lists that were read -/

section Read

variable {α : Type} {read : Nat → Node → Option α} {room : Nat} {node : Node}

theorem record?_eq_some_iff {wanted : List String} {read : Nat → List (Option Node) → Option α}
    {value : α} :
    Node.record? wanted read room node = some value ↔
      ∃ left slots, room = left + 1 ∧ node.slots? wanted = some slots ∧
        read left slots = some value := by
  cases room with
  | zero => simp [Node.record?]
  | succ left =>
    rw [Node.record?, Option.bind_eq_some_iff]
    constructor
    · rintro ⟨slots, areSlots, isRead⟩
      exact ⟨left, slots, rfl, areSlots, isRead⟩
    · rintro ⟨_, slots, ⟨⟩, areSlots, isRead⟩
      exact ⟨slots, areSlots, isRead⟩

theorem list?_eq_some_iff {values : List α} :
    Node.list? read room node = some values ↔
      ∃ left items, room = left + 1 ∧ node = .array items ∧
        items.mapM (read left) = some values := by
  constructor
  · intro isRead
    rw [Node.list?.eq_def] at isRead
    split at isRead
    · exact ⟨_, _, rfl, rfl, isRead⟩
    · cases isRead
  · rintro ⟨left, items, rfl, rfl, isRead⟩
    exact isRead

/-- What is read of a list is read of its items; where the list is missing, there is nothing. -/
theorem forall_of_defaulted_list? {slot : Option Node} {values : List α}
    (isRead : Node.defaulted? [] (Node.list? read room) slot = some values) :
    ∀ value ∈ values, ∃ left item, room = left + 1 ∧ read left item = some value := by
  intro value member
  cases slot with
  | none =>
    cases isRead
    exact absurd member List.not_mem_nil
  | some node =>
    obtain ⟨left, items, rfl, -, areValues⟩ := list?_eq_some_iff.mp isRead
    obtain ⟨item, -, isValue⟩ := exists_of_mapM_eq_some areValues member
    exact ⟨left, item, rfl, isValue⟩

end Read

end Banana.Json
