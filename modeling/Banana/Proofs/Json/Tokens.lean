/-
This file proves that the text that a value is written as is cut into the tokens that one would
write for it: a string spells its characters one by one, whether they are escaped or not, and every
number is one token, since what follows it in a value is a comma or the end of a container.
-/

import Banana.Json.Write
import Banana.Proofs.Json.Literals
import Banana.Proofs.Json.Written

namespace Banana.Json

/-! ### Strings -/

/-- How the characters of a string are spelled. -/
def unitsOf (text : String) : List Unit16 :=
  text.toList.map .char

/-- The escape of a control character that has no letter of its own names the character. -/
theorem unitOfHex?_control {value : Nat} (isControl : value < 0x20) :
    unitOfHex? '0' '0' (hexDigit (value / 16)) (hexDigit (value % 16)) =
      some (.char (Char.ofNat value)) := by
  have all : ∀ value : Fin 0x20,
      unitOfHex? '0' '0' (hexDigit (value / 16)) (hexDigit (value % 16)) =
        some (.char (Char.ofNat value)) := by
    decide
  exact all ⟨value, isControl⟩

/-- A character is read back from how it is written inside a string. -/
theorem readString_escape (c : Char) (tail : List Char) :
    readString (escape c ++ tail) =
      (readString tail).map fun (units, after) => (.char c :: units, after) := by
  have letter (name meant : Char) (noHex : name ≠ 'u') (named : escaped? name = some meant) :
      readString ('\\' :: name :: tail) =
        (readString tail).map fun (units, after) => (.char meant :: units, after) := by
    rw [readString.eq_4 _ _ (by rintro _ _ _ _ _ rfl; exact absurd rfl noHex), named]
  unfold escape
  split
  · exact letter '"' '"' (by decide) rfl
  · exact letter '\\' '\\' (by decide) rfl
  · exact letter 'b' '\x08' (by decide) rfl
  · exact letter 'f' '\x0c' (by decide) rfl
  · exact letter 'n' '\n' (by decide) rfl
  · exact letter 'r' '\r' (by decide) rfl
  · exact letter 't' '\t' (by decide) rfl
  · next notQuote notBackslash _ _ _ _ _ =>
    split
    · next isControl =>
      have named := unitOfHex?_control isControl
      rw [Char.ofNat_toNat] at named
      show readString ('\\' :: 'u' :: '0' :: '0' :: _ :: _ :: tail) = _
      rw [readString, named]
    · next notControl =>
      have plain : ¬ (decide (c.toNat < 0x20) || c == '\\') = true := by
        simpa [notControl] using fun isBackslash : c = '\\' => notBackslash isBackslash
      show readString (c :: tail) = _
      rw [readString.eq_5 _ _ notQuote (fun _ _ _ _ _ isEscape => absurd isEscape notBackslash)
        (fun _ _ isEscape => absurd isEscape notBackslash), if_neg plain]

/-- A string is read back from its escaped characters and the quote behind them. -/
theorem readString_flatMap_escape (text rest : List Char) :
    readString (text.flatMap escape ++ '"' :: rest) = some (text.map .char, rest) := by
  induction text with
  | nil => rw [List.flatMap_nil, List.nil_append, readString]; rfl
  | cons c text inductionHypothesis =>
    rw [List.flatMap_cons, List.append_assoc, readString_escape, inductionHypothesis]
    rfl

/-- A quoted string is one token. -/
theorem readToken_quote (text : String) (rest : List Char) :
    readToken (quote text ++ rest) = some (.string (unitsOf text), rest) := by
  have parts : quote text ++ rest = '"' :: (text.toList.flatMap escape ++ '"' :: rest) := by
    simp [quote]
  rw [parts, readToken, readString_flatMap_escape]
  rfl

/-! ### From one token to the next -/

theorem readToken_of_isSpace {c : Char} (isBlank : isSpace c = true) (rest : List Char) :
    readToken (c :: rest) = none := by
  simp only [isSpace, Bool.or_eq_true, beq_iff_eq] at isBlank
  rcases isBlank with ((rfl | rfl) | rfl) | rfl <;> rfl

/-- The tokens of a text are its first one and those of what follows. -/
theorem tokens_cons {text after : List Char} {token : Token} {others : List Token}
    (read : readToken text = some (token, after)) (cut : tokens after = some others) :
    tokens text = some (token :: others) := by
  cases text with
  | nil => cases read
  | cons c rest =>
    have notBlank : isSpace c = false := by
      cases isBlank : isSpace c with
      | false => rfl
      | true =>
        rw [readToken_of_isSpace isBlank] at read
        cases read
    rw [tokens, notBlank]
    simp only [Bool.false_eq_true, if_false]
    split
    · next readAgain =>
      rw [read] at readAgain
      cases readAgain
      rw [cut]
      rfl
    · next unread =>
      rw [read] at unread
      cases unread

/-! ### The tokens of a value -/

mutual

/-- The tokens that a value is written as. -/
def tokensOf : Json → List Token
  | .null => [.null]
  | .bool value => [.bool value]
  | .number value => [.number value.literal]
  | .string text => [.string (unitsOf text)]
  | .array items => .openArray :: tokensOfItems items ++ [.closeArray]
  | .object fields => .openObject :: tokensOfFields fields ++ [.closeObject]

/-- The tokens of the items of an array, with commas between them. -/
def tokensOfItems : List Json → List Token
  | [] => []
  | [item] => tokensOf item
  | item :: rest => tokensOf item ++ .comma :: tokensOfItems rest

/-- The tokens of fields, with commas between them. -/
def tokensOfFields : List (String × Json) → List Token
  | [] => []
  | [(name, value)] => .string (unitsOf name) :: .colon :: tokensOf value
  | (name, value) :: rest =>
    .string (unitsOf name) :: .colon :: tokensOf value ++ .comma :: tokensOfFields rest

end

/-- Whether the text of a value is cut into its tokens, whatever follows. -/
def IsCut (json : Json) : Prop :=
  ∀ {rest : List Char} {others : List Token}, EndsNumber rest → tokens rest = some others →
    tokens (compact json ++ rest) = some (tokensOf json ++ others)

theorem tokens_compactItems {items : List Json} (each : ∀ item ∈ items, IsCut item)
    {rest : List Char} {others : List Token} (ends : EndsNumber rest)
    (cut : tokens rest = some others) :
    tokens (compactItems items ++ rest) = some (tokensOfItems items ++ others) := by
  induction items with
  | nil => exact cut
  | cons item items inductionHypothesis =>
    obtain ⟨first, later⟩ := List.forall_mem_cons.mp each
    cases items with
    | nil => exact first ends cut
    | cons next items =>
      show tokens ((compact item ++ ',' :: compactItems (next :: items)) ++ rest) =
        some ((tokensOf item ++ .comma :: tokensOfItems (next :: items)) ++ others)
      rw [List.append_assoc, List.append_assoc]
      exact first (endsNumber_cons (by decide) _) (tokens_cons rfl (inductionHypothesis later))

theorem tokens_compactField (name : String) {value : Json} (isCut : IsCut value)
    {rest : List Char} {others : List Token} (ends : EndsNumber rest)
    (cut : tokens rest = some others) :
    tokens (quote name ++ ':' :: (compact value ++ rest)) =
      some (.string (unitsOf name) :: .colon :: (tokensOf value ++ others)) :=
  tokens_cons (readToken_quote name _) (tokens_cons rfl (isCut ends cut))

theorem tokens_compactFields {fields : List (String × Json)}
    (each : ∀ field ∈ fields, IsCut field.2) {rest : List Char} {others : List Token}
    (ends : EndsNumber rest) (cut : tokens rest = some others) :
    tokens (compactFields fields ++ rest) = some (tokensOfFields fields ++ others) := by
  induction fields with
  | nil => exact cut
  | cons field fields inductionHypothesis =>
    obtain ⟨name, value⟩ := field
    obtain ⟨first, later⟩ := List.forall_mem_cons.mp each
    cases fields with
    | nil =>
      show tokens ((quote name ++ ':' :: compact value) ++ rest) = _
      rw [List.append_assoc]
      exact tokens_compactField name first ends cut
    | cons next fields =>
      show tokens ((quote name ++ ':' :: compact value ++ ',' :: compactFields (next :: fields)) ++
          rest) =
        some ((.string (unitsOf name) :: .colon :: tokensOf value ++
          .comma :: tokensOfFields (next :: fields)) ++ others)
      rw [List.append_assoc, List.append_assoc, List.cons_append, List.append_assoc]
      exact tokens_compactField name first (endsNumber_cons (by decide) _)
        (tokens_cons rfl (inductionHypothesis later))

/-- The text of a value is cut into its tokens. -/
theorem isCut (json : Json) : IsCut json := by
  induction json with
  | null => exact fun _ cut => tokens_cons rfl cut
  | bool value =>
    cases value with
    | true => exact fun _ cut => tokens_cons rfl cut
    | false => exact fun _ cut => tokens_cons rfl cut
  | number value =>
    exact fun ends cut => tokens_cons (readToken_text value ends) cut
  | string text => exact fun _ cut => tokens_cons (readToken_quote text _) cut
  | array items inductionHypothesis =>
    intro rest others ends cut
    have closed := tokens_cons (by rfl : readToken (']' :: rest) = some (.closeArray, rest)) cut
    have inside := tokens_compactItems inductionHypothesis (endsNumber_cons (by decide) rest) closed
    show tokens ('[' :: (compactItems items ++ [']']) ++ rest) =
      some (.openArray :: (tokensOfItems items ++ [.closeArray]) ++ others)
    simp only [List.cons_append, List.append_assoc, List.nil_append]
    exact tokens_cons rfl inside
  | object fields inductionHypothesis =>
    intro rest others ends cut
    have closed := tokens_cons (by rfl : readToken ('\x7d' :: rest) = some (.closeObject, rest)) cut
    have inside :=
      tokens_compactFields inductionHypothesis (endsNumber_cons (by decide) rest) closed
    show tokens ('\x7b' :: (compactFields fields ++ ['\x7d']) ++ rest) =
      some (.openObject :: (tokensOfFields fields ++ [.closeObject]) ++ others)
    simp only [List.cons_append, List.append_assoc, List.nil_append]
    exact tokens_cons rfl inside

/-- The text of a value with nothing behind it. -/
theorem tokens_compact (json : Json) : tokens (compact json) = some (tokensOf json) := by
  have nothing : tokens [] = some [] := by rw [tokens]
  have cut := @isCut json [] [] endsNumber_nil nothing
  rwa [List.append_nil, List.append_nil] at cut

end Banana.Json
