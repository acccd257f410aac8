/-
This file proves that the text of every number is one token. The literal that a number is written as
has no needless zero in front, and behind its point and behind the sign of its exponent there is a
digit; a literal like that is read again from its text, provided that nothing follows that could
belong to it. What there is to show is that the digits chosen for a floating-point value are those
of a positive number, so that some are left when the zeros at their end are dropped.
-/

import Mathlib.Data.List.DropRight
import Banana.Json.Token

namespace Banana.Decimal.Interval

/-! ### The digits of a positive value -/

theorem pos_of_admits {interval : Interval} (positive : 0 < interval.low) {units : Nat}
    (admitted : interval.admits units = true) : 0 < units := by
  refine Nat.pos_of_ne_zero ?_
  rintro rfl
  rw [admits, Nat.zero_mul] at admitted
  split at admitted
  · have atMost : interval.low ≤ 0 := of_decide_eq_true (Bool.and_eq_true_iff.mp admitted).1
    exact absurd positive (Nat.not_lt_of_le atMost)
  · exact Nat.not_lt_zero _ (of_decide_eq_true (Bool.and_eq_true_iff.mp admitted).1)

theorem nearestUnits?_pos {interval : Interval} (positive : 0 < interval.low) {units : Nat}
    (nearest : interval.nearestUnits? = some units) : 0 < units := by
  rw [nearestUnits?] at nearest
  split at nearest
  · cases nearest
  · next admitted _ =>
    cases nearest
    exact pos_of_admits positive admitted
  · cases nearest
    exact Nat.succ_pos _
  · next admitted _ =>
    dsimp only at nearest
    split at nearest
    · cases nearest
      exact pos_of_admits positive admitted
    · cases nearest
      exact Nat.succ_pos _

theorem low_inUnits_pos {interval : Interval} (positive : 0 < interval.low) (exponent : Int) :
    0 < (interval.inUnits exponent).low :=
  Nat.mul_pos positive (Nat.pow_pos (by decide))

/-- The digits that stand for a positive value are those of a positive number. -/
theorem coefficient_shortest_pos {interval : Interval} (positive : 0 < interval.low) :
    0 < interval.shortest.coefficient := by
  rw [shortest]
  split
  · next found =>
    obtain ⟨places, -, isGrid⟩ := List.exists_of_findSome?_eq_some found
    obtain ⟨units, nearest, rfl⟩ := Option.map_eq_some_iff.mp isGrid
    exact nearestUnits?_pos (low_inUnits_pos positive _) nearest
  · exact Nat.succ_pos _

theorem low_around_pos {mantissa : Nat} (positive : 0 < mantissa) (exponent : Int)
    (narrowBelow : Bool) : 0 < (around mantissa exponent narrowBelow).low := by
  refine Nat.mul_pos ?_ (Nat.pow_pos (by decide))
  cases narrowBelow <;> grind

end Banana.Decimal.Interval

namespace Banana.Json

/-! ### Digits -/

/-- Whether a text consists of digits, and of at least one. -/
structure IsDigits (digits : List Char) : Prop where
  notEmpty : digits ≠ []
  each : ∀ c ∈ digits, c.isDigit = true

theorem isDigits_toDigits (value : Nat) : IsDigits (Nat.toDigits 10 value) where
  notEmpty := Nat.toDigits_ne_nil
  each _ member := Nat.isDigit_of_mem_toDigits (by decide) (by decide) member

/-- Some of the digits, and zeros. -/
theorem IsDigits.of_mem {digits others : List Char} (areDigits : IsDigits digits)
    (notEmpty : others ≠ []) (inside : ∀ c ∈ others, c ∈ digits ∨ c = '0') : IsDigits others where
  notEmpty := notEmpty
  each c member := by
    rcases inside c member with isDigit | rfl
    · exact areDigits.each c isDigit
    · rfl

/-- A character of digits with zeros around them. -/
theorem mem_withZeros {digits : List Char} (before after : Nat) {c : Char}
    (member : c ∈ List.replicate before '0' ++ digits ++ List.replicate after '0') :
    c ∈ digits ∨ c = '0' := by
  rcases List.mem_append.mp member with earlier | isZero
  · rcases List.mem_append.mp earlier with isZero | isDigit
    · exact Or.inr (List.eq_of_mem_replicate isZero)
    · exact Or.inl isDigit
  · exact Or.inr (List.eq_of_mem_replicate isZero)

/-- Digits spell the number that they were written for. -/
theorem digitsValue_toDigits (value : Nat) : digitsValue (Nat.toDigits 10 value) = value :=
  Nat.ofDigitChars_toDigits (by decide) (by decide)

/-- The digits of a positive number do not start with a zero. -/
theorem head?_toDigits_ne_zero {value : Nat} (positive : 0 < value) :
    (Nat.toDigits 10 value).head? ≠ some '0' := by
  induction value using Nat.strongRecOn with
  | ind value inductionHypothesis =>
    by_cases small : value < 10
    · have all : ∀ digit : Fin 10, 0 < digit.val → Nat.digitChar digit ≠ '0' := by decide
      rw [Nat.toDigits_of_lt_base small]
      exact fun isZero => all ⟨value, small⟩ positive (Option.some.inj isZero)
    · rw [Nat.toDigits_of_base_le (by decide) (Nat.le_of_not_lt small),
        List.head?_append_of_ne_nil _ Nat.toDigits_ne_nil]
      exact inductionHypothesis (value / 10) (by omega) (by omega)

/-- Digits are read up to the first character that is none. -/
theorem readDigits_append {digits rest : List Char} (areDigits : IsDigits digits)
    (ends : ∀ c, rest.head? = some c → c.isDigit = false) :
    readDigits (digits ++ rest) = some (digits, rest) := by
  have restTaken : rest.takeWhile Char.isDigit = [] ∧ rest.dropWhile Char.isDigit = rest := by
    cases rest with
    | nil => exact ⟨rfl, rfl⟩
    | cons c others =>
      have noDigit := ends c rfl
      exact ⟨List.takeWhile_cons_of_neg (by simp [noDigit]),
        List.dropWhile_cons_of_neg (by simp [noDigit])⟩
  have spanned : spanDigits (digits ++ rest) = (digits, rest) := by
    rw [spanDigits, List.takeWhile_append_of_pos areDigits.each,
      List.dropWhile_append_of_pos areDigits.each, restTaken.1, restTaken.2, List.append_nil]
  rw [readDigits, spanned]
  split
  · next isEmpty => exact absurd (Prod.mk.inj isEmpty).1 areDigits.notEmpty
  · rfl

/-! ### Literals that are read again -/

/-- Whether a literal is spelled as the grammar asks for. -/
structure Literal.IsSpelled (literal : Literal) : Prop where
  whole : IsDigits literal.whole
  loneZero : literal.whole.head? = some '0' → literal.whole = ['0']
  fraction : ∀ digits, literal.fraction = some digits → IsDigits digits
  exponent : ∀ down digits, literal.exponent = some (down, digits) → IsDigits digits

/-- Whether nothing that could belong to a number is at the front of a text. -/
def EndsNumber (rest : List Char) : Prop :=
  ∀ c, rest.head? = some c → c.isDigit = false ∧ c ≠ '.' ∧ c ≠ 'e' ∧ c ≠ 'E'

theorem endsNumber_nil : EndsNumber [] := by
  rintro _ ⟨⟩

theorem endsNumber_cons {c : Char}
    (ends : c.isDigit = false ∧ c ≠ '.' ∧ c ≠ 'e' ∧ c ≠ 'E') (rest : List Char) :
    EndsNumber (c :: rest) := by
  rintro _ ⟨⟩
  exact ends

section Read

variable {literal : Literal} (spelled : literal.IsSpelled) {rest : List Char}

include spelled

theorem readWhole_append (ends : ∀ c, rest.head? = some c → c.isDigit = false) :
    readWhole (literal.whole ++ rest) = some (literal.whole, rest) := by
  by_cases isZero : literal.whole.head? = some '0'
  · rw [spelled.loneZero isZero]
    rfl
  · rw [← readDigits_append spelled.whole ends, readWhole]
    intro others startsWithZero
    obtain ⟨first, digits, written⟩ := List.exists_cons_of_ne_nil spelled.whole.notEmpty
    rw [written, List.cons_append] at startsWithZero
    exact isZero (by rw [written, (List.cons.inj startsWithZero).1]; rfl)

theorem readFraction_append
    (ends : ∀ c, rest.head? = some c → c.isDigit = false ∧ c ≠ '.') :
    readFraction (fractionText literal.fraction ++ rest) = some (literal.fraction, rest) := by
  cases isFraction : literal.fraction with
  | none =>
    show readFraction rest = _
    rw [readFraction]
    rintro others rfl
    exact (ends '.' rfl).2 rfl
  | some digits =>
    show (readDigits (digits ++ rest)).map _ = _
    rw [readDigits_append (spelled.fraction digits isFraction) fun c isFirst =>
      (ends c isFirst).1]
    rfl

theorem readExponent_append (ends : EndsNumber rest) :
    readExponent (exponentText literal.exponent ++ rest) = some (literal.exponent, rest) := by
  cases isExponent : literal.exponent with
  | none =>
    show readExponent rest = _
    rw [readExponent]
    · rintro others rfl
      exact (ends 'e' rfl).2.2.1 rfl
    · rintro others rfl
      exact (ends 'E' rfl).2.2.2 rfl
  | some power =>
    obtain ⟨down, digits⟩ := power
    have read := readDigits_append (spelled.exponent down digits isExponent) fun c isFirst =>
      (ends c isFirst).1
    cases down with
    | true =>
      show readPower true (digits ++ rest) = _
      rw [readPower, read]
      rfl
    | false =>
      show readPower false (digits ++ rest) = _
      rw [readPower, read]
      rfl

theorem readLiteral_append (ends : EndsNumber rest) :
    readLiteral literal.negative (literal.unsignedText ++ rest) = some (literal, rest) := by
  have exponentEnds : ∀ c, (exponentText literal.exponent ++ rest).head? = some c →
      c.isDigit = false ∧ c ≠ '.' := by
    cases literal.exponent with
    | none => exact fun c isFirst => ⟨(ends c isFirst).1, (ends c isFirst).2.1⟩
    | some power =>
      rintro _ ⟨⟩
      exact ⟨by decide, by decide⟩
  have fractionEnds : ∀ c,
      (fractionText literal.fraction ++ (exponentText literal.exponent ++ rest)).head? = some c →
        c.isDigit = false := by
    cases literal.fraction with
    | none => exact fun c isFirst => (exponentEnds c isFirst).1
    | some digits =>
      rintro _ ⟨⟩
      decide
  rw [readLiteral, Literal.unsignedText, List.append_assoc, List.append_assoc,
    readWhole_append spelled fractionEnds, Option.bind_eq_bind, Option.bind_some]
  dsimp only
  rw [readFraction_append spelled exponentEnds, Option.bind_eq_bind, Option.bind_some]
  dsimp only
  rw [readExponent_append spelled ends]
  rfl

/-- A literal is read again from its text, if nothing follows that could belong to it. -/
theorem readToken_append (ends : EndsNumber rest) :
    readToken (literal.text ++ rest) = some (.number literal, rest) := by
  have read := readLiteral_append spelled ends
  cases isNegative : literal.negative with
  | true =>
    rw [isNegative] at read
    rw [Literal.text, isNegative, if_pos rfl, List.cons_append, readToken, read]
    rfl
  | false =>
    obtain ⟨first, digits, written⟩ := List.exists_cons_of_ne_nil spelled.whole.notEmpty
    have isDigit : first.isDigit = true :=
      spelled.whole.each first (written ▸ List.mem_cons_self)
    have different {other : Char} (noDigit : other.isDigit = false) : first ≠ other := by
      rintro rfl
      rw [isDigit] at noDigit
      cases noDigit
    have text : literal.unsignedText ++ rest =
        first :: (digits ++ (fractionText literal.fraction ++ exponentText literal.exponent) ++
          rest) := by
      rw [Literal.unsignedText, written]
      rfl
    rw [isNegative, text] at read
    rw [Literal.text, isNegative, if_neg Bool.false_ne_true, text, readToken, read]
    · rfl
    all_goals
      intro others same
      exact different (by decide) (List.cons.inj same).1

end Read

/-! ### The literals of numbers -/

theorem isSpelled_integerLiteral (negative : Bool) (value : Nat) :
    (integerLiteral negative value).IsSpelled where
  whole := isDigits_toDigits value
  loneZero isZero := by
    rcases Nat.eq_zero_or_pos value with rfl | positive
    · rfl
    · exact absurd isZero (head?_toDigits_ne_zero positive)
  fraction := nofun
  exponent := nofun

/-- The digits that are left of a positive decimal, without the zeros at their end. -/
theorem isDigits_scientific {digits : Decimal.Digits} (positive : 0 < digits.coefficient) :
    IsDigits (scientific digits).1 ∧ (scientific digits).1.head? ≠ some '0' := by
  have all := isDigits_toDigits digits.coefficient
  have starts := head?_toDigits_ne_zero positive
  have trimmed : (scientific digits).1 =
      (Nat.toDigits 10 digits.coefficient).rdropWhile (· == '0') := rfl
  rw [trimmed]
  generalize Nat.toDigits 10 digits.coefficient = written at all starts
  obtain ⟨zeros, parts⟩ := List.rdropWhile_prefix (· == '0') (l := written)
  have notEmpty : written.rdropWhile (· == '0') ≠ [] := by
    intro isEmpty
    obtain ⟨first, others, rfl⟩ := List.exists_cons_of_ne_nil all.notEmpty
    have isZero := List.rdropWhile_eq_nil_iff.mp isEmpty first List.mem_cons_self
    exact starts (congrArg some (eq_of_beq isZero))
  refine ⟨⟨notEmpty, fun c member => all.each c ?_⟩, ?_⟩
  · rw [← parts]
    exact List.mem_append_left _ member
  · rwa [← List.head?_append_of_ne_nil _ notEmpty, parts]

theorem isSpelled_decimalLiteral (negative : Bool) {digits : Decimal.Digits}
    (positive : 0 < digits.coefficient) : (decimalLiteral negative digits).IsSpelled := by
  obtain ⟨areDigits, noZero⟩ := isDigits_scientific positive
  rw [decimalLiteral]
  generalize scientific digits = spelled at areDigits noZero
  obtain ⟨written, power⟩ := spelled
  obtain ⟨first, others, rfl⟩ := List.exists_cons_of_ne_nil areDigits.notEmpty
  have notZero (more : List Char) : (first :: more).head? ≠ some '0' := noZero
  dsimp only
  split
  · refine ⟨areDigits.of_mem (List.cons_ne_nil _ _) (by simp),
      fun isZero => absurd isZero (notZero _), ?_, ?_⟩
    · rintro fraction isFraction
      cases others with
      | nil => cases isFraction
      | cons second others =>
        cases isFraction
        exact areDigits.of_mem (List.cons_ne_nil _ _) fun _ member =>
          Or.inl (List.mem_cons_of_mem _ member)
    · rintro down power ⟨⟩
      exact isDigits_toDigits _
  split
  · refine ⟨(isDigits_toDigits 0).of_mem (List.cons_ne_nil _ _) (by simp), fun _ => rfl, ?_, nofun⟩
    rintro fraction ⟨⟩
    refine areDigits.of_mem (List.append_ne_nil_of_right_ne_nil _ (List.cons_ne_nil _ _))
      fun c member => mem_withZeros (power.natAbs - 1) 0 ?_
    rwa [List.replicate_zero, List.append_nil]
  · generalize power.toNat + 1 - (first :: others).length = zeros
    refine ⟨areDigits.of_mem (List.cons_ne_nil _ _) fun c member =>
        mem_withZeros 0 zeros (List.mem_of_mem_take member),
      fun isZero => absurd isZero (notZero _), ?_, nofun⟩
    rintro fraction ⟨⟩
    split
    · exact isDigits_toDigits 0
    · next _ notEmpty =>
      exact areDigits.of_mem notEmpty fun c member =>
        mem_withZeros 0 zeros (List.mem_of_mem_drop member)

theorem isSpelled_realLiteral (negative : Bool) (bits : Nat) :
    (realLiteral negative bits).IsSpelled := by
  rw [realLiteral]
  split
  · split
    · have zero := isDigits_toDigits 0
      exact ⟨zero, fun _ => rfl, by rintro _ ⟨⟩; exact zero, nofun⟩
    · next notZero =>
      exact isSpelled_decimalLiteral negative
        (Decimal.Interval.coefficient_shortest_pos
          (Decimal.Interval.low_around_pos (Nat.pos_of_ne_zero notZero) _ _))
  · exact isSpelled_decimalLiteral negative
      (Decimal.Interval.coefficient_shortest_pos
        (Decimal.Interval.low_around_pos (Nat.add_pos_right _ (by decide)) _ _))

theorem isSpelled_literal (number : Number) : number.literal.IsSpelled := by
  match number with
  | .integer (.ofNat value) => exact isSpelled_integerLiteral false value
  | .integer (.negSucc value) => exact isSpelled_integerLiteral true (value + 1)
  | .real bits => exact isSpelled_realLiteral _ _

/-- The text of a number is one token, if nothing follows that could belong to it. -/
theorem readToken_text (number : Number) {rest : List Char} (ends : EndsNumber rest) :
    readToken (number.text ++ rest) = some (.number number.literal, rest) :=
  readToken_append (isSpelled_literal number) ends

end Banana.Json
