/-
This file proves that the tokens of a value are read into the tree that one would draw for it, and
that the tree stands for the value again wherever there is room for its containers.
-/

import Banana.Proofs.Json.Tokens

namespace Banana.Json

/-! ### The tree of a value -/

mutual

/-- What the text of a value spells. -/
def toNode : Json → Node
  | .null => .null
  | .bool value => .bool value
  | .number value => .number value.literal
  | .string text => .string (unitsOf text)
  | .array items => .array (itemNodes items)
  | .object fields => .object (fieldNodes fields)

/-- What the items of an array spell. -/
def itemNodes : List Json → List Node
  | [] => []
  | item :: rest => item.toNode :: itemNodes rest

/-- What fields spell. -/
def fieldNodes : List (String × Json) → List (List Unit16 × Node)
  | [] => []
  | (name, value) :: rest => (unitsOf name, value.toNode) :: fieldNodes rest

end

theorem itemNodes_eq_map (items : List Json) : itemNodes items = items.map toNode := by
  induction items with
  | nil => rfl
  | cons item rest inductionHypothesis =>
    rw [itemNodes, inductionHypothesis, List.map_cons]

theorem fieldNodes_eq_map (fields : List (String × Json)) :
    fieldNodes fields = fields.map fun (name, value) => (unitsOf name, value.toNode) := by
  induction fields with
  | nil => rfl
  | cons field rest inductionHypothesis =>
    rw [fieldNodes, inductionHypothesis, List.map_cons]

/-! ### From the tokens to the tree -/

/-- A value does not start with the end of an array. -/
theorem tokensOf_eq_cons (json : Json) :
    ∃ first rest, tokensOf json = first :: rest ∧ first ≠ .closeArray := by
  cases json with
  | null => exact ⟨_, _, rfl, by decide⟩
  | bool value => exact ⟨_, _, rfl, nofun⟩
  | number value => exact ⟨_, _, rfl, nofun⟩
  | string text => exact ⟨_, _, rfl, nofun⟩
  | array items => exact ⟨_, _, rfl, by decide⟩
  | object fields => exact ⟨_, _, rfl, by decide⟩

/-- At the start of an array a value is read as its first item. -/
theorem step_firstItem {token : Token} (notEnd : token ≠ .closeArray) (frames : List Frame) :
    step (.firstItem, frames) token = step (.value, .array [] :: frames) token := by
  cases token with
  | closeArray => exact absurd rfl notEnd
  | _ => rfl

/-- Whether the tokens of a value are read as its tree, whatever follows. -/
def IsRead (json : Json) : Prop :=
  ∀ (frames : List Frame) (others : List Token),
    (tokensOf json ++ others).foldlM step (.value, frames) =
      others.foldlM step (.afterValue json.toNode, frames)

/-- The items of an array are read one after the other behind those that were read before. -/
theorem foldlM_tokensOfItems {item : Json} {items : List Json}
    (each : ∀ other ∈ item :: items, IsRead other) (before : List Node) (frames : List Frame)
    (others : List Token) :
    (tokensOfItems (item :: items) ++ .closeArray :: others).foldlM step
        (.value, .array before :: frames) =
      others.foldlM step
        (.afterValue (.array (before.reverse ++ itemNodes (item :: items))), frames) := by
  induction items generalizing item before with
  | nil =>
    obtain ⟨first, -⟩ := List.forall_mem_cons.mp each
    rw [tokensOfItems, first]
    show others.foldlM step (.afterValue (.array (item.toNode :: before).reverse), frames) = _
    rw [List.reverse_cons]
    rfl
  | cons next items inductionHypothesis =>
    obtain ⟨first, later⟩ := List.forall_mem_cons.mp each
    show ((tokensOf item ++ .comma :: tokensOfItems (next :: items)) ++
      .closeArray :: others).foldlM step _ = _
    rw [List.append_assoc, first]
    show (tokensOfItems (next :: items) ++ .closeArray :: others).foldlM step
      (.value, .array (item.toNode :: before) :: frames) = _
    rw [inductionHypothesis later, List.reverse_cons, List.append_assoc]
    rfl

/-- The fields of an object are read one after the other behind those that were read before. -/
theorem foldlM_tokensOfFields {field : String × Json} {fields : List (String × Json)}
    (each : ∀ other ∈ field :: fields, IsRead other.2) (before : List (List Unit16 × Node))
    (frames : List Frame) (others : List Token) :
    (tokensOfFields (field :: fields) ++ .closeObject :: others).foldlM step
        (.key before, frames) =
      others.foldlM step
        (.afterValue (.object (before.reverse ++ fieldNodes (field :: fields))), frames) := by
  -- The name and the colon lead from the key to the value.
  have named (name : String) (rest : List Token) :
      (.string (unitsOf name) :: .colon :: rest).foldlM step (.key before, frames) =
        rest.foldlM step (.value, .object before (unitsOf name) :: frames) := by
    cases before <;> rfl
  induction fields generalizing field before with
  | nil =>
    obtain ⟨name, value⟩ := field
    obtain ⟨first, -⟩ := List.forall_mem_cons.mp each
    show (.string (unitsOf name) :: .colon :: (tokensOf value ++ .closeObject :: others)).foldlM
      step _ = _
    rw [named, first]
    show others.foldlM step
      (.afterValue (.object ((unitsOf name, value.toNode) :: before).reverse), frames) = _
    rw [List.reverse_cons]
    rfl
  | cons next fields inductionHypothesis =>
    obtain ⟨name, value⟩ := field
    obtain ⟨first, later⟩ := List.forall_mem_cons.mp each
    show ((.string (unitsOf name) :: .colon :: tokensOf value ++
      .comma :: tokensOfFields (next :: fields)) ++ .closeObject :: others).foldlM step _ = _
    rw [List.append_assoc, List.cons_append, List.cons_append, named, first]
    show (tokensOfFields (next :: fields) ++ .closeObject :: others).foldlM step
      (.key ((unitsOf name, value.toNode) :: before), frames) = _
    rw [inductionHypothesis later, List.reverse_cons, List.append_assoc]
    · rfl
    · intro name rest
      rfl

/-- The tokens of every value are read as its tree. -/
theorem isRead (json : Json) : IsRead json := by
  induction json with
  | null => exact fun _ _ => rfl
  | bool value => exact fun _ _ => rfl
  | number value => exact fun _ _ => rfl
  | string text => exact fun _ _ => rfl
  | array items inductionHypothesis =>
    intro frames others
    cases items with
    | nil => rfl
    | cons item items =>
      show ((tokensOfItems (item :: items) ++ [Token.closeArray]) ++ others).foldlM step
        (.firstItem, frames) = _
      have starts : ∃ first rest, tokensOfItems (item :: items) = first :: rest ∧
          first ≠ .closeArray := by
        obtain ⟨first, rest, same, notEnd⟩ := tokensOf_eq_cons item
        cases items with
        | nil => exact ⟨first, rest, same, notEnd⟩
        | cons next items =>
          refine ⟨first, rest ++ .comma :: tokensOfItems (next :: items), ?_, notEnd⟩
          show tokensOf item ++ .comma :: tokensOfItems (next :: items) = _
          rw [same, List.cons_append]
      obtain ⟨first, rest, same, notEnd⟩ := starts
      have read := foldlM_tokensOfItems inductionHypothesis [] frames others
      rw [same, List.cons_append, List.foldlM_cons, ← step_firstItem notEnd frames] at read
      rw [same, List.append_assoc, List.cons_append, List.foldlM_cons]
      exact read
  | object fields inductionHypothesis =>
    intro frames others
    cases fields with
    | nil => rfl
    | cons field fields =>
      show ((tokensOfFields (field :: fields) ++ [Token.closeObject]) ++ others).foldlM step
        (.key [], frames) = _
      rw [List.append_assoc]
      exact foldlM_tokensOfFields inductionHypothesis [] frames others

/-- The text of a value spells its tree. -/
theorem parse?_compact (json : Json) : Node.parse? (compact json) = some json.toNode := by
  have read := isRead json [] []
  rw [List.append_nil] at read
  rw [Node.parse?, tokens_compact json]
  show nodeOfTokens? (tokensOf json) = _
  rw [nodeOfTokens?, read]
  rfl

/-! ### From the tree to the value -/

theorem stringOfUnits?_unitsOf (text : String) : stringOfUnits? (unitsOf text) = some text := by
  have spelled (chars : List Char) : textOfUnits? (chars.map .char) = some chars := by
    induction chars with
    | nil => rfl
    | cons c rest inductionHypothesis =>
      rw [List.map_cons, textOfUnits?, inductionHypothesis]
      rfl
  rw [stringOfUnits?, unitsOf, spelled, Option.map_some, String.ofList_toList]

theorem number?_literal {value : Number} (isWord : value.IsWord) :
    value.literal.number? = some value := by
  match value with
  | .integer (.ofNat value) =>
    have below : (value : Int) < 2 ^ 64 := isWord.2
    have inRange : value ≤ maxWord := by
      show value ≤ 2 ^ 64 - 1
      omega
    simp only [Literal.number?, Number.literal, integerLiteral, digitsValue_toDigits,
      Bool.false_eq_true, if_false, if_pos inRange]
    rfl
  | .integer (.negSucc value) =>
    have above : -2 ^ 63 ≤ Int.negSucc value := isWord.1
    have inRange : value + 1 ≤ signBit := by
      show value + 1 ≤ 2 ^ 63
      omega
    simp only [Literal.number?, Number.literal, integerLiteral, digitsValue_toDigits, if_true,
      Nat.succ_pos, inRange, decide_true, Bool.and_self]
    rfl
  | .real _ => exact absurd isWord id

/-- Whether a value is no number but one that is read again from how it is written. An integer of 64
bits is; the digits of a floating-point value are rounded when they are read, and may be read as a
neighbour of it. -/
def NumberReadsBack : Json → Prop
  | .number value => value.literal.number? = some value
  | _ => True

/-- Whether the numbers in a value are read again from how they are written. -/
def ReadsBack (json : Json) : Prop := Everywhere NumberReadsBack json

theorem HasWords.readsBack {json : Json} (words : json.HasWords) : json.ReadsBack := by
  intro part isPart
  cases part with
  | number value => exact number?_literal (words _ isPart)
  | _ => trivial

/-- A list of values that are read from their trees is read from the list of the trees. -/
theorem valueItems?_itemNodes {room : Nat} {items : List Json}
    (each : ∀ item ∈ items, item.toNode.value? room = some item) :
    valueItems? room (itemNodes items) = some items := by
  induction items with
  | nil => rfl
  | cons item rest inductionHypothesis =>
    obtain ⟨first, later⟩ := List.forall_mem_cons.mp each
    rw [itemNodes, valueItems?, first, inductionHypothesis later]

theorem valueFields?_fieldNodes {room : Nat} {fields : List (String × Json)}
    (each : ∀ field ∈ fields, field.2.toNode.value? room = some field.2) :
    valueFields? room (fieldNodes fields) = some fields := by
  induction fields with
  | nil => rfl
  | cons field rest inductionHypothesis =>
    obtain ⟨first, later⟩ := List.forall_mem_cons.mp each
    rw [fieldNodes, valueFields?, stringOfUnits?_unitsOf, first, inductionHypothesis later]

/-- The tree of a value stands for the value, if its numbers are read again. -/
theorem value?_toNode_of_readsBack {json : Json} {room : Nat} (readable : IsReadable room json)
    (readsBack : json.ReadsBack) : json.toNode.value? room = some json := by
  induction json generalizing room with
  | null => rfl
  | bool value => rfl
  | number value =>
    have isRead : value.literal.number? = some value := (everywhere_number value).mp readsBack
    rw [toNode, Node.value?, isRead]
    rfl
  | string text =>
    rw [toNode, Node.value?, stringOfUnits?_unitsOf]
    rfl
  | array items inductionHypothesis =>
    obtain ⟨room, rfl⟩ := readable.exists_room (Nat.succ_pos _)
    have inside := (isReadable_array items).mp readable
    have numbers := ((everywhere_array items).mp readsBack).2
    rw [toNode, Node.value?, valueItems?_itemNodes fun item member =>
      inductionHypothesis item member (inside item member) (numbers item member)]
    rfl
  | object fields inductionHypothesis =>
    obtain ⟨room, rfl⟩ := readable.exists_room (Nat.succ_pos _)
    obtain ⟨distinct, inside⟩ := (isReadable_object fields).mp readable
    have numbers := ((everywhere_object fields).mp readsBack).2
    rw [toNode, Node.value?, valueFields?_fieldNodes fun field member =>
      inductionHypothesis field member (inside field member) (numbers field member),
      Option.map_some, Entries.ofList_eq_self distinct]

theorem value?_toNode {json : Json} {room : Nat} (portable : IsPortable room json) :
    json.toNode.value? room = some json :=
  value?_toNode_of_readsBack portable.toIsReadable portable.words.readsBack

end Banana.Json
