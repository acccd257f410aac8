/-
This file reads the text of a pattern inside a group that is tied to the start. A closing
parenthesis behind a text changes nothing in how the text is cut into tokens, and an open group
around it changes nothing in the tree that is built from these; so a text that is a pattern by
itself becomes the same pattern in the group, and the tie in front of the group holds for all of it.
A text that closes the group itself is no pattern by itself, and nothing of this holds for it.
-/

import Banana.Grammar.Ready
import Banana.Proofs.Pattern.Travel

namespace Banana.Pattern

/-! ### Classes -/

/-- Whether a reader that finds something at the front of a text stays inside the text, and finds
the same when a closing parenthesis follows. -/
def ReadsAlike {α : Type} (read : List Char → Option (α × Nat)) : Prop :=
  ∀ text result used, read text = some (result, used) →
    used ≤ text.length ∧ read (text ++ [')']) = some (result, used)

theorem readsAlike_classChar : ReadsAlike classChar? := by
  intro text result used isRead
  rcases text with _ | ⟨c, rest⟩
  · cases isRead
  · by_cases isEscape : c = '\\'
    · subst isEscape
      rcases rest with _ | ⟨next, rest⟩
      · cases isRead
      · obtain ⟨meant, escaped, same⟩ := Option.map_eq_some_iff.mp isRead
        cases same
        refine ⟨by simp, isRead⟩
    · by_cases isOpening : c = '['
      · subst isOpening
        cases isRead
      · have same (behind : List Char) : classChar? (c :: behind) = some (c, 1) := by
          simp [classChar?, isEscape]
        rw [same] at isRead
        cases isRead
        exact ⟨by simp, same _⟩

theorem readsAlike_classRange : ReadsAlike classRange? := by
  intro text result used isRead
  unfold classRange? at isRead
  split at isRead
  · cases isRead
  · next low length char =>
    obtain ⟨within, alike⟩ := readsAlike_classChar _ _ _ char
    have left : length + (text.drop length).length = text.length := by
      rw [List.length_drop]
      omega
    rw [classRange?, alike]
    dsimp only
    rw [List.drop_append_of_le_length within]
    generalize text.drop length = rest at isRead left ⊢
    rw [← left]
    split at isRead
    · cases isRead
    · cases isRead
      exact ⟨Nat.le_add_right _ _, rfl⟩
    · next rest notHyphen notClosing =>
      split at isRead
      · next high more char =>
        obtain ⟨further, alike⟩ := readsAlike_classChar _ _ _ char
        split at isRead
        · next ordered =>
          cases isRead
          refine ⟨by rw [List.length_cons]; omega, ?_⟩
          cases rest with
          | nil => cases char
          | cons c others => 
            split
            all_goals simp_all
        · cases isRead
      · cases isRead
    · next notHyphens notClosing notHyphen =>
      cases isRead
      refine ⟨Nat.le_add_right _ _, ?_⟩
      cases rest with
      | nil => rfl
      | cons c others =>
        split <;> simp_all

/-- A parenthesis behind a text is no part of an operation on classes. -/
theorem startsOperation_append (text : List Char) :
    startsOperation (text ++ [')']) = startsOperation text := by
  rcases text with _ | ⟨first, _ | ⟨second, rest⟩⟩
  · rfl
  · simp [startsOperation]
  · rw [List.cons_append, List.cons_append]
    unfold startsOperation
    split <;> simp_all

theorem readsAlike_itemRange : ReadsAlike itemRange? := by
  intro text range used isRead
  unfold itemRange? at isRead ⊢
  rw [startsOperation_append]
  split at isRead
  · cases isRead
  · next noOperation =>
    rw [if_neg noOperation]
    exact readsAlike_classRange _ _ _ isRead

theorem readsAlike_classBody (skip : Nat) : ReadsAlike (classBody? skip) := by
  intro text
  induction text generalizing skip with
  | nil =>
    intro ranges used isRead
    cases skip <;> cases isRead
  | cons c rest inductionHypothesis =>
    intro ranges used isRead
    cases skip with
    | succ skip =>
      obtain ⟨⟨ranges, behind⟩, inside, same⟩ := Option.map_eq_some_iff.mp isRead
      cases same
      obtain ⟨within, alike⟩ := inductionHypothesis skip _ _ inside
      refine ⟨Nat.succ_le_succ within, ?_⟩
      rw [List.cons_append, classBody?, alike]
      rfl
    | zero =>
      by_cases isClosing : c = ']'
      · subst isClosing
        cases isRead
        exact ⟨Nat.succ_le_succ (Nat.zero_le _), rfl⟩
      · rw [classBody?.eq_4 c rest isClosing] at isRead
        split at isRead
        · next range length isRange =>
          obtain ⟨⟨ranges, behind⟩, inside, same⟩ := Option.map_eq_some_iff.mp isRead
          cases same
          obtain ⟨within, alike⟩ := inductionHypothesis _ _ _ inside
          obtain ⟨-, rangeAlike⟩ := readsAlike_itemRange _ _ _ isRange
          refine ⟨Nat.succ_le_succ within, ?_⟩
          rw [List.cons_append, classBody?.eq_4 c _ isClosing, ← List.cons_append, rangeAlike]
          dsimp only
          rw [alike]
          rfl
        · cases isRead

theorem readsAlike_classInside : ReadsAlike classInside? := by
  intro text
  induction text with
  | nil =>
    intro ranges used isRead
    cases isRead
  | cons c rest inductionHypothesis =>
    intro ranges used isRead
    by_cases isHyphen : c = '-'
    · subst isHyphen
      obtain ⟨⟨ranges, behind⟩, inside, same⟩ := Option.map_eq_some_iff.mp isRead
      cases same
      obtain ⟨within, alike⟩ := inductionHypothesis _ _ inside
      refine ⟨Nat.succ_le_succ within, ?_⟩
      rw [List.cons_append, classInside?, alike]
      rfl
    · have unfolded (behind : List Char) :
          classInside? (c :: behind) = classBody? 0 (c :: behind) := by
        unfold classInside?
        split <;> simp_all
      rw [unfolded] at isRead
      obtain ⟨within, alike⟩ := readsAlike_classBody 0 _ _ _ isRead
      exact ⟨within, (unfolded _).trans alike⟩

/-- The set that the inside of a class spells, behind a sign of negation if there is one. -/
def classSet? (negated : Bool) (skipped : Nat) (inside : List Char) : Option (CharSet × Nat) :=
  match inside with
  | ']' :: rest =>
    (classBody? 0 rest).map fun (ranges, used) =>
      (⟨negated, (']', ']') :: ranges⟩, used + skipped + 1)
  | _ => (classInside? inside).map fun (ranges, used) => (⟨negated, ranges⟩, used + skipped)

theorem classSet?_alike {negated : Bool} {skipped : Nat} {inside : List Char} {set : CharSet}
    {used : Nat} (isRead : classSet? negated skipped inside = some (set, used)) :
    used ≤ inside.length + skipped ∧
      classSet? negated skipped (inside ++ [')']) = some (set, used) := by
  unfold classSet? at isRead
  split at isRead
  · next rest =>
    obtain ⟨⟨ranges, behind⟩, body, same⟩ := Option.map_eq_some_iff.mp isRead
    cases same
    obtain ⟨within, alike⟩ := readsAlike_classBody 0 _ _ _ body
    refine ⟨by rw [List.length_cons]; omega, ?_⟩
    rw [List.cons_append, classSet?, alike]
    rfl
  · next notClosing =>
    obtain ⟨⟨ranges, behind⟩, body, same⟩ := Option.map_eq_some_iff.mp isRead
    cases same
    obtain ⟨within, alike⟩ := readsAlike_classInside _ _ _ body
    refine ⟨Nat.add_le_add_right within skipped, ?_⟩
    cases inside with
    | nil => cases body
    | cons c rest =>
      rw [List.cons_append, classSet?, ← List.cons_append, alike]
      · rfl
      · simpa using notClosing

theorem readsAlike_class : ReadsAlike class? := by
  intro text set used isRead
  cases text with
  | nil => cases isRead
  | cons c rest =>
    by_cases isNegation : c = '^'
    · subst isNegation
      have isRead : classSet? true 1 rest = some (set, used) := isRead
      exact classSet?_alike isRead
    · have unfolded (behind : List Char) :
          class? (c :: behind) = classSet? false 0 (c :: behind) := by
        unfold class?
        split
        next negated inside isSplit =>
          have notNegated : (negated, inside) = (false, c :: behind) := by
            rw [← isSplit]
            split <;> simp_all
          cases notNegated
          rfl
      rw [unfolded] at isRead
      obtain ⟨within, alike⟩ := classSet?_alike isRead
      exact ⟨within, (unfolded _).trans alike⟩

theorem digits_append (text : List Char) :
    (text ++ [')']).takeWhile Char.isDigit = text.takeWhile Char.isDigit ∧
      (text ++ [')']).dropWhile Char.isDigit = text.dropWhile Char.isDigit ++ [')'] := by
  induction text with
  | nil => exact ⟨rfl, rfl⟩
  | cons c rest inductionHypothesis =>
    by_cases isDigit : c.isDigit
    · simp [isDigit, inductionHypothesis]
    · simp [isDigit]

/-- Bounds are complete before anything behind them is looked at. -/
theorem bounds?_append (text : List Char) : bounds? (text ++ [')']) = bounds? text := by
  unfold bounds?
  rw [(digits_append text).1, (digits_append text).2]
  rcases text.dropWhile Char.isDigit with _ | ⟨c, rest⟩
  · rfl
  · by_cases isComma : c = ','
    · subst isComma
      simp only [List.cons_append, (digits_append rest).1, (digits_append rest).2]
      rcases rest.dropWhile Char.isDigit with _ | ⟨last, others⟩
      · rfl
      · rw [List.cons_append]
        split <;> simp_all
    · rw [List.cons_append]
      split <;> simp_all

theorem bounds?_within {text : List Char} {bounds : Nat × Option Nat} {used : Nat}
    (isRead : bounds? text = some (bounds, used)) : used ≤ text.length := by
  have total (text : List Char) : (text.takeWhile Char.isDigit).length +
      (text.dropWhile Char.isDigit).length = text.length := by
    rw [← List.length_append, List.takeWhile_append_dropWhile]
  have all := total text
  unfold bounds? at isRead
  split at isRead
  · next rest behind =>
    obtain ⟨least, -, same⟩ := Option.map_eq_some_iff.mp isRead
    cases same
    rw [behind, List.length_cons] at all
    omega
  · next rest behind =>
    have others := total rest
    rw [behind, List.length_cons] at all
    dsimp only at isRead
    split at isRead
    · next last finish =>
      cases isRead
      rw [finish, List.length_cons] at others
      omega
    · cases isRead
  · cases isRead

theorem quantifier?_append (c : Char) (text : List Char) :
    quantifier? (c :: (text ++ [')'])) = quantifier? (c :: text) := by
  by_cases isBrace : c = '\x7b'
  · subst isBrace
    exact congrArg (Option.map _) (bounds?_append text)
  · unfold quantifier?
    split <;> simp_all

theorem quantifier?_within {text : List Char} {bounds : Nat × Option Nat} {used : Nat}
    (isRead : quantifier? text = some (bounds, used)) : 0 < used ∧ used ≤ text.length := by
  unfold quantifier? at isRead
  split at isRead
  · cases isRead
    simp
  · cases isRead
    simp
  · cases isRead
    simp
  · next rest =>
    obtain ⟨⟨bounds, behind⟩, body, same⟩ := Option.map_eq_some_iff.mp isRead
    cases same
    exact ⟨Nat.succ_pos _, Nat.succ_le_succ (bounds?_within body)⟩
  · cases isRead

theorem manner_append (text : List Char) :
    manner (text ++ [')']) = manner text ∧ (manner text).2 ≤ text.length := by
  rcases text with _ | ⟨c, rest⟩
  · exact ⟨rfl, Nat.le_refl 0⟩
  · unfold manner
    rw [List.cons_append]
    split <;> simp_all

/-! ### Tokens -/

theorem readsAlike_groupKind : ReadsAlike groupKind? := by
  intro text kind used isRead
  unfold groupKind? at isRead
  split at isRead
  case h_5 => cases isRead
  case h_6 notMark =>
    cases isRead
    refine ⟨Nat.zero_le _, ?_⟩
    cases text with
    | nil => rfl
    | cons c rest =>
      unfold groupKind?
      split <;> simp_all
  all_goals
    cases isRead
    exact ⟨by simp, rfl⟩

theorem readsAlike_plainToken (c : Char) : ReadsAlike (plainToken? c) := by
  intro text token used isRead
  unfold plainToken? at isRead ⊢
  split at isRead
  case h_1 =>
    obtain ⟨⟨kind, length⟩, isKind, same⟩ := Option.map_eq_some_iff.mp isRead
    cases same
    obtain ⟨within, alike⟩ := readsAlike_groupKind _ _ _ isKind
    refine ⟨within, ?_⟩
    dsimp only
    rw [alike]
    rfl
  case h_7 =>
    obtain ⟨⟨set, length⟩, isSet, same⟩ := Option.map_eq_some_iff.mp isRead
    cases same
    obtain ⟨within, alike⟩ := readsAlike_class _ _ _ isSet
    refine ⟨within, ?_⟩
    dsimp only
    rw [alike]
    rfl
  case h_11 =>
    cases text with
    | nil => cases isRead
    | cons next rest =>
      obtain ⟨meant, escaped, same⟩ := Option.map_eq_some_iff.mp isRead
      cases same
      exact ⟨Nat.succ_le_succ (Nat.zero_le _), isRead⟩
  all_goals
    cases isRead
  all_goals
    exact ⟨Nat.zero_le _, rfl⟩

theorem readsAlike_token (afterAtom : Bool) (c : Char) : ReadsAlike (token? afterAtom c) := by
  intro text token used isRead
  rw [token?] at isRead ⊢
  rw [quantifier?_append]
  split at isRead
  · next least most length isQuantifier =>
    have bounds : 0 < length ∧ length ≤ (c :: text).length := by
      split at isQuantifier
      · exact quantifier?_within isQuantifier
      · cases isQuantifier
    have inside : length - 1 ≤ text.length := by
      rw [List.length_cons] at bounds
      omega
    obtain ⟨sameManner, further⟩ := manner_append (text.drop (length - 1))
    rw [List.drop_append_of_le_length inside, sameManner]
    generalize manner (text.drop (length - 1)) = said at isRead further ⊢
    obtain ⟨how, more⟩ := said
    rw [List.length_drop] at further
    cases isRead
    refine ⟨?_, rfl⟩
    dsimp only at further
    omega
  · exact readsAlike_plainToken c _ _ _ isRead

/-- The tokens of a text and a closing parenthesis behind it. -/
theorem tokensFrom_append_close {skip : Nat} {afterAtom : Bool} {text : List Char}
    {tokens : List Token} (within : skip ≤ text.length)
    (isRead : tokensFrom skip afterAtom text = some tokens) :
    tokensFrom skip afterAtom (text ++ [')']) = some (tokens ++ [.closeGroup]) := by
  fun_induction tokensFrom skip afterAtom text generalizing tokens with
  | case1 skip afterAtom =>
    cases Nat.le_zero.mp within
    cases isRead
    cases afterAtom <;> rfl
  | case2 afterAtom c rest skip inductionHypothesis =>
    exact inductionHypothesis (Nat.le_of_succ_le_succ within) isRead
  | case3 afterAtom c rest token used isToken inductionHypothesis =>
    obtain ⟨others, readOthers, rfl⟩ := Option.map_eq_some_iff.mp isRead
    obtain ⟨fits, alike⟩ := readsAlike_token _ _ _ _ _ isToken
    rw [List.cons_append, tokensFrom, alike]
    dsimp only
    rw [inductionHypothesis fits readOthers]
    rfl
  | case4 afterAtom c rest notToken => cases isRead

/-! ### Groups -/

/-- A text spells a pattern when its tokens leave no group open. -/
theorem parse?_eq_some_iff {text : List Char} {pattern : Pattern} :
    parse? text = some pattern ↔ ∃ tokens last, tokens? text = some tokens ∧
      tokens.foldlM Reader.step {} = some last ∧ last.outer = [] ∧ last.inner.finish = pattern := by
  unfold parse?
  cases tokens? text with
  | none => simp
  | some tokens =>
    rw [Option.bind_some]
    cases folded : tokens.foldlM Reader.step {} with
    | none => simp [folded]
    | some last =>
      obtain ⟨inner, outer, captures⟩ := last
      cases outer <;> simp [folded]

/-- The state of the reader with a group around all that it has read. -/
def Reader.within (reader : Reader) (group : GroupKind × Nat × Growing) : Reader :=
  { reader with outer := reader.outer ++ [group] }

/-- A token that can be read without the group and with it does the same to what is inside. -/
theorem step_within {reader next after : Reader} {token : Token}
    {group : GroupKind × Nat × Growing} (step : reader.step token = some next)
    (stepWithin : (reader.within group).step token = some after) : after = next.within group := by
  obtain ⟨inner, outer, captures⟩ := reader
  cases token with
  | openGroup kind =>
    rw [Reader.step] at step stepWithin
    split at step
    · split at stepWithin
      · cases step
        cases stepWithin
        rfl
      · cases stepWithin
    · cases step
  | closeGroup =>
    cases outer with
    | nil => cases step
    | cons first others =>
      cases step
      cases stepWithin
      rfl
  | quantifier least most manner =>
    obtain ⟨repeated, isRepeated, rfl⟩ := Option.map_eq_some_iff.mp step
    obtain ⟨again, isRepeatedToo, rfl⟩ := Option.map_eq_some_iff.mp stepWithin
    cases isRepeated.symm.trans isRepeatedToo
    rfl
  | _ =>
    cases step
    cases stepWithin
    rfl

theorem steps_within {reader last after : Reader} {tokens : List Token}
    {group : GroupKind × Nat × Growing} (steps : tokens.foldlM Reader.step reader = some last)
    (stepsWithin : tokens.foldlM Reader.step (reader.within group) = some after) :
    after = last.within group := by
  induction tokens generalizing reader with
  | nil =>
    cases steps
    cases stepsWithin
    rfl
  | cons token rest inductionHypothesis =>
    rw [List.foldlM_cons] at steps stepsWithin
    obtain ⟨next, step, further⟩ := Option.bind_eq_some_iff.mp steps
    obtain ⟨nextWithin, stepWithin, furtherWithin⟩ := Option.bind_eq_some_iff.mp stepsWithin
    cases step_within step stepWithin
    exact inductionHypothesis further furtherWithin

/-- A text that is a pattern by itself is tied to the start as a whole, unless it is a pattern that
matches nothing but the empty text. -/
theorem parse?_tied {text : String} {inner pattern : Pattern}
    (isPattern : parse? text.toList = some inner)
    (parsed : parse? ('^' :: Grammar.enclosed text) = some pattern) :
    pattern = .sequence (.anchor .start) inner ∨ inner = .empty ∧ pattern = .anchor .start := by
  obtain ⟨tokens, last, isRead, folded, closed, rfl⟩ := parse?_eq_some_iff.mp isPattern
  obtain ⟨allTokens, allLast, allRead, allFolded, -, rfl⟩ := parse?_eq_some_iff.mp parsed
  have spelled : tokens? ('^' :: Grammar.enclosed text) =
      some (.anchor .start :: .openGroup .plain :: (tokens ++ [.closeGroup])) := by
    have behind := tokensFrom_append_close (Nat.zero_le _) isRead
    show ((tokensFrom 0 false (text.toList ++ [')'])).map (.openGroup .plain :: ·)).map
      (.anchor .start :: ·) = _
    rw [behind]
    rfl
  cases spelled.symm.trans allRead
  let tie : Growing := { last := .anchor .start }
  have fromInside : (tokens ++ [Token.closeGroup]).foldlM Reader.step
      (Reader.within {} (.plain, 0, tie)) = some allLast := allFolded
  rw [List.foldlM_append] at fromInside
  obtain ⟨before, inside, closing⟩ := Option.bind_eq_some_iff.mp fromInside
  cases steps_within folded inside
  obtain ⟨growing, outer, captures⟩ := last
  subst closed
  cases closing
  show (tie.add growing.finish).finish = _ ∨ _ ∧ (tie.add growing.finish).finish = _
  cases growing.finish with
  | empty => exact Or.inr ⟨rfl, rfl⟩
  | _ => exact Or.inl rfl

end Banana.Pattern
