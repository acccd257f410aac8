/-
This file says that the UTF-8 bytes of a text are read as that text. Each character is written as
one to four bytes, and the range of its second byte depends on the first one: it shuts out
characters written with too many bytes, surrogates, and what lies beyond the last code point. The
content is that no character of a text is shut out. The bytes of a document that is text are read as
that text, too.
-/

import Banana.Json.Bytes

namespace Banana.Text

/-! ### One byte -/

theorem toNat_ofNat_of_lt {code : Nat} (isByte : code < 256) : (UInt8.ofNat code).toNat = code := by
  rw [UInt8.toNat_ofNat']
  exact Nat.mod_eq_of_lt isByte

/-- A byte in the range of the next one, where it is not the last of its character. -/
theorem decodeFrom_continue {bits missing low high next : Nat} (rest : List UInt8)
    (isNext : next < 0x40) (atLeast : low ≤ next + 0x80) (atMost : next + 0x80 ≤ high) :
    decodeFrom (some ⟨bits, missing + 2, low, high⟩) (UInt8.ofNat (next + 0x80) :: rest) =
      decodeFrom (some ⟨0x40 * bits + next, missing + 1, 0x80, 0xBF⟩) rest := by
  have notLast : ¬ missing + 2 ≤ 1 := by omega
  rw [decodeFrom, continueChar, toNat_ofNat_of_lt (by omega), if_pos ⟨atLeast, atMost⟩,
    if_neg notLast, Nat.add_sub_cancel]
  rfl

/-- A byte in the range of the next one, where it is the last of its character. -/
theorem decodeFrom_last {bits low high next : Nat} (rest : List UInt8)
    (isNext : next < 0x40) (atLeast : low ≤ next + 0x80) (atMost : next + 0x80 ≤ high) :
    decodeFrom (some ⟨bits, 1, low, high⟩) (UInt8.ofNat (next + 0x80) :: rest) =
      some (Char.ofNat (0x40 * bits + next)) :: decodeFrom none rest := by
  rw [decodeFrom, continueChar, toNat_ofNat_of_lt (by omega), if_pos ⟨atLeast, atMost⟩,
    if_pos (Nat.le_refl 1), Nat.add_sub_cancel]
  rfl

theorem decodeFrom_unfinished {code : Nat} {read : Unfinished} (rest : List UInt8)
    (first : readFirst (UInt8.ofNat code) = .unfinished read) :
    decodeFrom none (UInt8.ofNat code :: rest) = decodeFrom (some read) rest := by
  rw [decodeFrom, startChar, first]
  rfl

/-! ### One character -/

/-- What the first byte of a character of two bytes says. -/
theorem readFirst_of_two {bits : Nat} (atLeast : 2 ≤ bits) (below : bits < 0x20) :
    readFirst (UInt8.ofNat (bits + 0xC0)) = .unfinished ⟨bits, 1, 0x80, 0xBF⟩ := by
  rw [readFirst, toNat_ofNat_of_lt (by omega), if_neg (by omega), if_neg (by omega),
    if_pos (by omega), Nat.add_sub_cancel]

/-- What the first byte of a character of three bytes says about its second byte, if that is the
one of a character. -/
theorem readFirst_of_three (bits next : Nat) (below : bits < 0x10) (isNext : next < 0x40)
    (notShorter : bits = 0 → 0x20 ≤ next) (noSurrogate : bits = 0xD → next < 0x20) :
    ∃ low high, readFirst (UInt8.ofNat (bits + 0xE0)) = .unfinished ⟨bits, 2, low, high⟩ ∧
      low ≤ next + 0x80 ∧ next + 0x80 ≤ high := by
  rw [readFirst, toNat_ofNat_of_lt (by omega), if_neg (by omega), if_neg (by omega),
    if_neg (by omega)]
  by_cases isZero : bits = 0
  · subst isZero
    exact ⟨0xA0, 0xBF, rfl, by omega, by omega⟩
  · rw [if_neg (by omega)]
    by_cases isThirteen : bits = 0xD
    · subst isThirteen
      exact ⟨0x80, 0x9F, rfl, by omega, by omega⟩
    · rw [if_neg (by omega), if_pos (by omega), Nat.add_sub_cancel]
      exact ⟨0x80, 0xBF, rfl, by omega, by omega⟩

/-- What the first byte of a character of four bytes says about its second byte, if that is the one
of a character. -/
theorem readFirst_of_four (bits next : Nat) (atMost : bits ≤ 4) (isNext : next < 0x40)
    (notShorter : bits = 0 → 0x10 ≤ next) (notBeyond : bits = 4 → next < 0x10) :
    ∃ low high, readFirst (UInt8.ofNat (bits + 0xF0)) = .unfinished ⟨bits, 3, low, high⟩ ∧
      low ≤ next + 0x80 ∧ next + 0x80 ≤ high := by
  rw [readFirst, toNat_ofNat_of_lt (by omega), if_neg (by omega), if_neg (by omega),
    if_neg (by omega), if_neg (by omega), if_neg (by omega), if_neg (by omega)]
  by_cases isZero : bits = 0
  · subst isZero
    exact ⟨0x90, 0xBF, rfl, by omega, by omega⟩
  · rw [if_neg (by omega)]
    by_cases isFour : bits = 4
    · subst isFour
      exact ⟨0x80, 0x8F, rfl, by omega, by omega⟩
    · rw [if_pos (by omega), Nat.add_sub_cancel]
      exact ⟨0x80, 0xBF, rfl, by omega, by omega⟩

/-- The bytes of a character are read as that character, whatever follows. -/
theorem decodeFrom_utf8EncodeChar (c : Char) (rest : List UInt8) :
    decodeFrom none (String.utf8EncodeChar c ++ rest) = some c :: decodeFrom none rest := by
  have isValue : Char.ofNat c.val.toNat = c := Char.ofNat_toNat c
  have valid : c.val.toNat < 0xD800 ∨ 0xDFFF < c.val.toNat ∧ c.val.toNat < 0x110000 := c.valid
  unfold String.utf8EncodeChar
  generalize c.val.toNat = code at isValue valid ⊢
  dsimp only
  by_cases one : code ≤ 0x7F
  · rw [if_pos one, List.singleton_append, decodeFrom, startChar, readFirst,
      toNat_ofNat_of_lt (by omega)]
    dsimp only
    rw [if_pos (by omega), isValue]
    rfl
  rw [if_neg one]
  by_cases two : code ≤ 0x7FF
  · rw [if_pos two]
    show decodeFrom none (UInt8.ofNat _ :: UInt8.ofNat _ :: rest) = _
    rw [decodeFrom_unfinished _ (readFirst_of_two (by omega) (by omega)),
      decodeFrom_last rest (by omega) (by omega) (by omega),
      show 0x40 * (code / 64 % 32) + code % 64 = code by omega, isValue]
  rw [if_neg two]
  by_cases three : code ≤ 0xFFFF
  · rw [if_pos three]
    show decodeFrom none (UInt8.ofNat _ :: UInt8.ofNat _ :: UInt8.ofNat _ :: rest) = _
    obtain ⟨low, high, first, atLeast, atMost⟩ := readFirst_of_three (code / 4096 % 16)
      (code / 64 % 64) (by omega) (by omega) (by omega) (by omega)
    rw [decodeFrom_unfinished _ first, decodeFrom_continue _ (by omega) atLeast atMost,
      decodeFrom_last rest (by omega) (by omega) (by omega),
      show 0x40 * (0x40 * (code / 4096 % 16) + code / 64 % 64) + code % 64 = code by omega, isValue]
  · rw [if_neg three]
    show decodeFrom none
      (UInt8.ofNat _ :: UInt8.ofNat _ :: UInt8.ofNat _ :: UInt8.ofNat _ :: rest) = _
    obtain ⟨low, high, first, atLeast, atMost⟩ := readFirst_of_four (code / 262144 % 8)
      (code / 4096 % 64) (by omega) (by omega) (by omega) (by omega)
    rw [decodeFrom_unfinished _ first, decodeFrom_continue _ (by omega) atLeast atMost,
      decodeFrom_continue _ (by omega) (by omega) (by omega),
      decodeFrom_last rest (by omega) (by omega) (by omega),
      show 0x40 * (0x40 * (0x40 * (code / 262144 % 8) + code / 4096 % 64) + code / 64 % 64) +
        code % 64 = code by omega, isValue]

/-! ### A text -/

theorem decodeFrom_encodeUtf8 (text : List Char) :
    decodeFrom none (encodeUtf8 text) = text.map some := by
  induction text with
  | nil => rfl
  | cons c rest inductionHypothesis =>
    rw [encodeUtf8, List.flatMap_cons, decodeFrom_utf8EncodeChar, List.map_cons]
    exact congrArg (some c :: ·) inductionHypothesis

/-- The bytes of a text are read as that text. -/
theorem decodeUtf8?_encodeUtf8 (text : List Char) : decodeUtf8? (encodeUtf8 text) = some text := by
  rw [decodeUtf8?, decodeFrom_encodeUtf8, List.mapM_map]
  exact (List.mapM_pure (f := id)).trans (congrArg some (List.map_id text))

/-- Nothing in the bytes of a text is replaced. -/
theorem decodeUtf8Leniently_encodeUtf8 (text : List Char) :
    decodeUtf8Leniently (encodeUtf8 text) = text := by
  rw [decodeUtf8Leniently, decodeFrom_encodeUtf8, List.map_map]
  exact List.map_id text

end Banana.Text

namespace Banana.Json

/-- The bytes of a document that is text are read as that text. -/
theorem textOfBytes_encodeUtf8 (text : List Char) : textOfBytes (Text.encodeUtf8 text) = text := by
  have whole (place : Place) : textFrom place (text.map some) = text := by
    induction text generalizing place with
    | nil => rfl
    | cons c rest inductionHypothesis =>
      rw [List.map_cons, textFrom, inductionHypothesis]
  rw [textOfBytes, Text.decodeFrom_encodeUtf8, whole]

end Banana.Json
