/-
This file says which attempt of an operation is the last one, for every number of retries and every
sequence of outcomes. It should be the first one that succeeds, or the one that uses up the retries,
whichever comes first. The attempts are counted in a word of 32 bits, so this is how it is as long
as the count fits into the word. With as many retries as a word can hold, and no success in as many
attempts, the count wraps around to zero; no count is greater than these retries, and the operation
is tried until it succeeds.
-/

import Mathlib
import Banana.Backend.Retry

namespace Banana.Backend

variable {α : Type}

/-! ### Sequences of outcomes -/

/-- The outcomes of the first attempts. -/
def firstOutcomes (outcomes : Nat → Except Failure α) (count : Nat) : List (Except Failure α) :=
  (List.range count).map outcomes

/-- The number in the counter during an attempt, if the attempt is made. Attempts are listed from
zero on. -/
def counter? (retries : UInt32) (outcomes : Nat → Except Failure α) : Nat → Option UInt32
  | 0 => some 1
  | index + 1 =>
    (counter? retries outcomes index).bind fun attempt =>
      match afterAttempt retries attempt (outcomes index) with
      | .again next => some next
      | .over _ => none

/-- The attempt that should be the last one: the first that succeeds, if there is one among the
first and as many more as there are retries, and otherwise the last of these. -/
structure IsLastAllowed (retries : Nat) (outcomes : Nat → Except Failure α) (last : Nat) :
    Prop where
  within : last ≤ retries
  earlier : ∀ index < last, (outcomes index).isOk = false
  ends : (outcomes last).isOk = true ∨ last = retries

/-- Whether an attempt is the last one: in each attempt up to this one the counter says how many
have been made, the operation waits for each of their outcomes, and it ends with that of the last
one. -/
structure EndsWith (retries : UInt32) (outcomes : Nat → Except Failure α) (last : Nat) :
    Prop where
  counted : ∀ index ≤ last, (counter? retries outcomes index).map UInt32.toNat = some (index + 1)
  waits : ∀ count ≤ last, attempts retries (firstOutcomes outcomes count) = (none, count + 1)
  ends : ∀ count > last,
    attempts retries (firstOutcomes outcomes count) = (some (outcomes last), last + 1)

theorem exists_isLastAllowed (retries : Nat) (outcomes : Nat → Except Failure α) :
    ∃ last, IsLastAllowed retries outcomes last := by
  have some : ∃ index, (outcomes index).isOk = true ∨ index = retries := ⟨retries, Or.inr rfl⟩
  refine ⟨Nat.find some, Nat.find_min' some (Or.inr rfl), fun index before => ?_,
    Nat.find_spec some⟩
  exact Bool.eq_false_iff.mpr fun succeeds => Nat.find_min some before (Or.inl succeeds)

theorem IsLastAllowed.le {retries first second : Nat} {outcomes : Nat → Except Failure α}
    (isFirst : IsLastAllowed retries outcomes first)
    (isSecond : IsLastAllowed retries outcomes second) : second ≤ first := by
  by_contra before
  have fails := isSecond.earlier first (Nat.lt_of_not_le before)
  rcases isFirst.ends with succeeds | rfl
  · rw [fails] at succeeds
    cases succeeds
  · exact before isSecond.within

theorem firstOutcomes_of_lt (outcomes : Nat → Except Failure α) {last count : Nat}
    (further : last < count) :
    ∃ rest, firstOutcomes outcomes count =
      firstOutcomes outcomes last ++ outcomes last :: rest := by
  obtain ⟨more, rfl⟩ := Nat.exists_eq_add_of_lt further
  rw [firstOutcomes, Nat.add_assoc, List.range_add, List.range_succ_eq_map, List.map_append]
  exact ⟨_, rfl⟩

/-! ### Going on -/

/-- Whether the operation goes on behind some attempts: each of them fails, and its number, as the
counter has it, is not greater than the retries. -/
def GoesOn (retries : UInt32) (outcomes : Nat → Except Failure α) (count : Nat) : Prop :=
  ∀ index < count, (outcomes index).isOk = false ∧ UInt32.ofNat (index + 1) ≤ retries

theorem GoesOn.mono {retries : UInt32} {outcomes : Nat → Except Failure α} {fewer count : Nat}
    (goesOn : GoesOn retries outcomes count) (isFewer : fewer ≤ count) :
    GoesOn retries outcomes fewer :=
  fun index before => goesOn index (Nat.lt_of_lt_of_le before isFewer)

/-- One attempt that fails and is not the last one. -/
theorem afterAttempt_error {retries attempt : UInt32} {outcome : Except Failure α}
    (fails : outcome.isOk = false) (more : attempt ≤ retries) :
    afterAttempt retries attempt outcome = .again (attempt + 1) := by
  cases outcome with
  | ok value => cases fails
  | error failure => exact if_pos more

/-- The counter behind attempts that the operation goes on from. -/
theorem counter?_of_goesOn {retries : UInt32} {outcomes : Nat → Except Failure α} {count : Nat}
    (goesOn : GoesOn retries outcomes count) :
    counter? retries outcomes count = some (UInt32.ofNat (count + 1)) := by
  induction count with
  | zero => rfl
  | succ count inductionHypothesis =>
    obtain ⟨fails, more⟩ := goesOn count (Nat.lt_succ_self count)
    rw [counter?, inductionHypothesis (goesOn.mono (Nat.le_succ count)), Option.bind_some,
      afterAttempt_error fails more, UInt32.ofNat_add (count + 1) 1]
    rfl

/-- Attempts that the operation goes on from are made before all others. -/
theorem attempts_append {retries : UInt32} {outcomes : Nat → Except Failure α} {count : Nat}
    (goesOn : GoesOn retries outcomes count) (rest : List (Except Failure α)) :
    attempts retries (firstOutcomes outcomes count ++ rest) =
      ((attemptsFrom retries (UInt32.ofNat (count + 1)) rest).1,
        (attemptsFrom retries (UInt32.ofNat (count + 1)) rest).2 + count) := by
  induction count generalizing rest with
  | zero => rfl
  | succ count inductionHypothesis =>
    obtain ⟨fails, more⟩ := goesOn count (Nat.lt_succ_self count)
    rw [firstOutcomes, List.range_succ, List.map_append, List.append_assoc]
    change attempts retries (firstOutcomes outcomes count ++ outcomes count :: rest) = _
    rw [inductionHypothesis (goesOn.mono (Nat.le_succ count)), attemptsFrom,
      afterAttempt_error fails more, UInt32.ofNat_add (count + 1) 1, Nat.add_assoc, Nat.add_comm 1]
    rfl

theorem attempts_of_goesOn {retries : UInt32} {outcomes : Nat → Except Failure α} {count : Nat}
    (goesOn : GoesOn retries outcomes count) :
    attempts retries (firstOutcomes outcomes count) = (none, count + 1) := by
  have waits := attempts_append goesOn []
  rwa [List.append_nil, attemptsFrom, Nat.add_comm] at waits

/-- The operation goes on up to the attempt that should be the last one, whatever the retries: the
counter has not wrapped around before. -/
theorem IsLastAllowed.goesOn {retries : UInt32} {outcomes : Nat → Except Failure α} {last : Nat}
    (isLast : IsLastAllowed retries.toNat outcomes last) : GoesOn retries outcomes last := by
  intro index before
  have within := isLast.within
  have bound := retries.toNat_lt
  refine ⟨isLast.earlier index before, ?_⟩
  rw [UInt32.le_iff_toNat_le, UInt32.toNat_ofNat_of_lt' (by simp only [UInt32.size]; omega)]
  omega

/-- With as many retries as a word can hold, the operation goes on behind every failure. -/
theorem goesOn_of_greatest {retries : UInt32} (greatest : retries.toNat = 2 ^ 32 - 1)
    {outcomes : Nat → Except Failure α} {count : Nat}
    (fails : ∀ index < count, (outcomes index).isOk = false) : GoesOn retries outcomes count := by
  intro index before
  have bound := (UInt32.ofNat (index + 1)).toNat_lt
  refine ⟨fails index before, ?_⟩
  rw [UInt32.le_iff_toNat_le]
  omega

/-! ### The last attempt -/

/-- The operation ends with the attempt that should be the last one if the count of attempts fits
into the counter. -/
theorem IsLastAllowed.endsWith {retries : UInt32} {outcomes : Nat → Except Failure α} {last : Nat}
    (isLast : IsLastAllowed retries.toNat outcomes last) (fits : last < 2 ^ 32 - 1) :
    EndsWith retries outcomes last where
  counted index upToLast := by
    rw [counter?_of_goesOn (isLast.goesOn.mono upToLast), Option.map_some,
      UInt32.toNat_ofNat_of_lt' (by simp only [UInt32.size]; omega)]
  waits count upToLast := attempts_of_goesOn (isLast.goesOn.mono upToLast)
  ends count further := by
    obtain ⟨rest, parts⟩ := firstOutcomes_of_lt outcomes further
    have isOver : afterAttempt retries (UInt32.ofNat (last + 1)) (outcomes last) =
        .over (outcomes last) := by
      cases outcome : outcomes last with
      | ok value => rfl
      | error failure =>
        have isRetries : last = retries.toNat := by
          have ends := isLast.ends
          rw [outcome] at ends
          exact ends.resolve_left Bool.false_ne_true
        refine if_neg ?_
        rw [UInt32.le_iff_toNat_le, UInt32.toNat_ofNat_of_lt' (by simp only [UInt32.size]; omega)]
        omega
    rw [parts, attempts_append isLast.goesOn, attemptsFrom, isOver, Nat.add_comm last 1]

/-- Every operation has one attempt that should be the last one. It ends with this attempt, having
counted it and all before it, exactly if fewer attempts than there are words are made. Otherwise the
retries are as many as a word can hold: in the attempt that should be the last one the counter has
wrapped around, and the operation goes on for as long as it does not succeed. -/
theorem ends_with_last_allowed_iff (retries : UInt32) (outcomes : Nat → Except Failure α) :
    ∃ last, (∀ other, IsLastAllowed retries.toNat outcomes other ↔ other = last) ∧
      (EndsWith retries outcomes last ↔ last < 2 ^ 32 - 1) ∧
      (last = 2 ^ 32 - 1 → counter? retries outcomes last = some 0 ∧
        ∀ count, (∀ index < count, (outcomes index).isOk = false) →
          attempts retries (firstOutcomes outcomes count) = (none, count + 1)) := by
  obtain ⟨last, isLast⟩ := exists_isLastAllowed retries.toNat outcomes
  have within := isLast.within
  have bound := retries.toNat_lt
  have wraps (greatest : last = 2 ^ 32 - 1) : counter? retries outcomes last = some 0 := by
    rw [counter?_of_goesOn isLast.goesOn, greatest]
    rfl
  refine ⟨last, fun other => ⟨fun isOther => ?_, fun same => same ▸ isLast⟩, ⟨fun ends => ?_,
    isLast.endsWith⟩, fun greatest => ⟨wraps greatest, fun count fails => ?_⟩⟩
  · exact Nat.le_antisymm (isLast.le isOther) (isOther.le isLast)
  · by_contra beyond
    have counted := ends.counted last (Nat.le_refl last)
    rw [wraps (by omega)] at counted
    cases counted
  · exact attempts_of_goesOn (goesOn_of_greatest (by omega) fails)

/-- With as many retries as a word can hold and without any success, the attempt that uses up the
retries is not the last one. -/
theorem never_gives_up :
    IsLastAllowed (4294967295 : UInt32).toNat (fun _ => Except.error (α := Unit) (.timeout 1))
        4294967295 ∧
      attempts 4294967295
          (firstOutcomes (fun _ => Except.error (α := Unit) (.timeout 1)) 4294967296) =
        (none, 4294967297) :=
  ⟨⟨Nat.le_refl _, fun _ _ => rfl, Or.inr rfl⟩,
    attempts_of_goesOn (goesOn_of_greatest rfl fun _ _ => rfl)⟩

end Banana.Backend
