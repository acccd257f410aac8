/-
This file proves that the rules outside of strings and the rules inside of them agree on where a
string ends. Outside of strings one pattern looks ahead up to the end of the line, and only a string
that it finds closed is opened. Inside of a string the rules take longer steps: whole runs of plain
characters, and escape sequences with all their digits. A digit is neither a backslash nor a quote,
so these steps never part a backslash from the character behind it, and they come to the same quote.
-/

import Banana.Proofs.Highlight.Passages
import Banana.Proofs.Language.Agreement

namespace Banana.Direct

open Grammar Highlight Highlighter Schema Source

/-! ### The inside of a string -/

/-- What may stand between the quotes of a string: characters other than backslashes and quotes, and
pairs of a backslash and any character. -/
inductive IsInside : List Char → Prop
  | nil : IsInside []
  | plain {c : Char} {rest : List Char} (notBackslash : c ≠ '\\') (notQuote : c ≠ '"')
      (further : IsInside rest) : IsInside (c :: rest)
  | pair (c : Char) {rest : List Char} (further : IsInside rest) : IsInside ('\\' :: c :: rest)

theorem isPlain_of_ne {c : Char} (notBackslash : c ≠ '\\') (notQuote : c ≠ '"') :
    isPlain c = true := by
  simp [isPlain, notBackslash, notQuote]

theorem isPlain_of_isHexDigit {c : Char} (isDigit : isHexDigit c = true) : isPlain c = true := by
  refine isPlain_of_ne ?_ ?_ <;> rintro rfl <;> exact absurd isDigit (by decide)

/-- Whether the end of the line is reached is settled behind the inside of a string. -/
theorem IsInside.isUnclosed_append {inside : List Char} (isInside : IsInside inside)
    (behind : List Char) : isUnclosed (inside ++ behind) = isUnclosed behind := by
  induction isInside with
  | nil => rfl
  | plain notBackslash notQuote _ inductionHypothesis =>
    rw [List.cons_append, isUnclosed_cons notQuote notBackslash, inductionHypothesis]
  | pair c _ inductionHypothesis => exact inductionHypothesis

/-- Plain characters in front of the closing quote belong to the inside, and what is left of it is
an inside again. -/
theorem IsInside.split {inside behind word : List Char} (isInside : IsInside inside)
    (plain : ∀ c ∈ word, isPlain c = true) (front : word <+: inside ++ '"' :: behind) :
    ∃ inner, inside = word ++ inner ∧ IsInside inner := by
  induction word generalizing inside with
  | nil => exact ⟨inside, rfl, isInside⟩
  | cons first word inductionHypothesis =>
    obtain ⟨plainFirst, plainRest⟩ := List.forall_mem_cons.mp plain
    cases isInside with
    | nil =>
      obtain rfl := (List.cons_prefix_cons.mp front).1
      exact absurd plainFirst (by decide)
    | plain notBackslash notQuote further =>
      obtain ⟨rfl, frontRest⟩ := List.cons_prefix_cons.mp front
      obtain ⟨inner, rfl, isInner⟩ := inductionHypothesis further plainRest frontRest
      exact ⟨inner, rfl, isInner⟩
    | pair c further =>
      obtain rfl := (List.cons_prefix_cons.mp front).1
      exact absurd plainFirst (by decide)

/-! ### Reading the inside -/

/-- The classes of what is shown between the quotes of a string. -/
def insideKinds : List TokenClass := [.string, .escape, .unknownEscape]

/-- A backslash and the character behind it start an escape sequence, or they are a pair that is
none. -/
theorem readInString_backslash (c : Char) (rest : List Char) :
    readInString ('\\' :: c :: rest) =
      match escapeSequence? ('\\' :: c :: rest) with
      | some sequence => ⟨[(.escape, sequence)], .inString⟩
      | none => ⟨[(.unknownEscape, ['\\', c])], .inString⟩ := by
  have isPair : ('\\' : Char) = '\\' ∧ c :: rest ≠ [] := ⟨rfl, List.cons_ne_nil c rest⟩
  rw [readInString, if_neg (by decide)]
  cases escapeSequence? ('\\' :: c :: rest) with
  | some sequence => rfl
  | none => exact if_pos isPair

/-- In front of the closing quote a part of the inside is read, and what is left is an inside
again. -/
theorem read_of_isInside (names : List String) {inside : List Char} (isInside : IsInside inside)
    (some : inside ≠ []) (behind : List Char) :
    ∃ kind word inner, kind ∈ insideKinds ∧ word ≠ [] ∧ inside = word ++ inner ∧
      IsInside inner ∧
      read names .inString (inside ++ '"' :: behind) = ⟨[(kind, word)], .inString⟩ := by
  cases isInside with
  | nil => exact absurd rfl some
  | @plain c rest notBackslash notQuote further =>
    let word := (c :: (rest ++ '"' :: behind)).takeWhile isPlain
    have isFirst := isPlain_of_ne notBackslash notQuote
    obtain ⟨inner, parts, isInner⟩ := (IsInside.plain notBackslash notQuote further).split
      (fun _ member => of_mem_takeWhile member) (List.takeWhile_prefix isPlain)
    refine ⟨.string, word, inner, by decide, ?_, parts, isInner, ?_⟩
    · exact List.length_pos_iff.mp (takeWhile_front isFirst).1
    · exact if_pos isFirst
  | @pair c rest further =>
    have isRead := readInString_backslash c (rest ++ '"' :: behind)
    cases isEscape : escapeSequence? ('\\' :: c :: (rest ++ '"' :: behind)) with
    | none =>
      rw [isEscape] at isRead
      exact ⟨.unknownEscape, ['\\', c], rest, by decide, List.cons_ne_nil _ _, rfl, further, isRead⟩
    | some sequence =>
      rw [isEscape] at isRead
      -- The digits of the sequence are plain, so they end in front of the closing quote.
      obtain ⟨digits, front, areDigits, rfl⟩ := escapeOf?_split isEscape
      obtain ⟨inner, rfl, isInner⟩ :=
        further.split (fun c member => isPlain_of_isHexDigit (areDigits c member)) front
      exact ⟨.escape, '\\' :: c :: digits, inner, by decide, List.cons_ne_nil _ _, rfl, isInner,
        isRead⟩

/-- A quote whose string is closed on its line opens a string. -/
theorem read_of_closed (names : List String) {rest : List Char} (closed : isUnclosed rest = false) :
    read names .outside ('"' :: rest) = ⟨[(.quote, ['"'])], .inString⟩ := by
  show (if isUnclosed rest then _ else _) = _
  rw [closed, if_neg Bool.false_ne_true]

/-- A quote whose string is not closed takes the rest of the line. -/
theorem read_of_unclosed (names : List String) {rest : List Char}
    (isOpen : isUnclosed rest = true) :
    read names .outside ('"' :: rest) = ⟨[(.invalidString, '"' :: rest)], .outside⟩ := by
  show (if isUnclosed rest then _ else _) = _
  rw [isOpen, if_pos rfl]

/-- The next quote ends the string. -/
theorem read_closing (names : List String) (behind : List Char) :
    read names .inString ('"' :: behind) = ⟨[(.quote, ['"'])], .outside⟩ := rfl

/-! ### Going through a string -/

section Components

variable (components : List Component) (place : Position)

/-- A piece that the direct reader finds is a passage. -/
theorem goes_of_read {mode next : Mode} {kind : TokenClass} {text word behind : List Char}
    (isRead : read (components.map (·.name)) mode text = ⟨[(kind, word)], next⟩)
    (some : word ≠ []) (parts : word ++ behind = text) (oneLine : '\n' ∉ text) :
    Goes (Language.highlighter components) ⟨mode.stack, place, text⟩
      (layOut place [(kind, word)]) ⟨next.stack, advance place word, behind⟩ := by
  subst parts
  have step : (Language.highlighter components).step mode.stack place (word ++ behind) =
      Reading.step ⟨[(kind, word)], next⟩ place := by
    rw [← isRead]
    cases word with
    | nil => exact absurd rfl some
    | cons c rest => exact step_eq_read components mode place oneLine
  have goes : Goes (Language.highlighter components) ⟨mode.stack, place, word ++ behind⟩ _ _ :=
    .single (List.append_ne_nil_of_left_ne_nil some behind)
  have wordLength : (textOf [(kind, word)]).length = word.length := by
    rw [textOf, List.flatMap_singleton]
  rw [Moment.next, Moment.step, step, Reading.step] at goes
  dsimp only at goes
  rwa [wordLength, List.take_left, List.drop_left] at goes

/-- The inside of a string is gone through from quote to quote. -/
theorem goes_inside {inside : List Char} (isInside : IsInside inside) {behind : List Char}
    (oneLine : '\n' ∉ inside ++ '"' :: behind) :
    ∃ pieces, textOf pieces = inside ∧ NoneEmpty pieces ∧
      (∀ piece ∈ pieces, piece.1 ∈ insideKinds) ∧
      Goes (Language.highlighter components)
        ⟨Mode.inString.stack, place, inside ++ '"' :: behind⟩ (layOut place pieces)
        ⟨Mode.inString.stack, advance place inside, '"' :: behind⟩ := by
  -- One reading may take several characters or pairs at once, so the length of the inside
  -- decreases, and the cases of the induction are not those of the inside.
  induction length : inside.length using Nat.strongRecOn generalizing inside place with
  | ind bound inductionHypothesis =>
    by_cases some : inside = []
    · subst some
      exact ⟨[], rfl, fun _ member => absurd member List.not_mem_nil,
        fun _ member => absurd member List.not_mem_nil, .stay _⟩
    · obtain ⟨kind, word, inner, isKind, filled, rfl, isInner, isRead⟩ :=
        read_of_isInside _ isInside some behind
      rw [List.append_assoc] at oneLine isRead
      have shorter : inner.length < bound := by
        have wordLength := List.length_pos_iff.mpr filled
        rw [List.length_append] at length
        omega
      obtain ⟨pieces, total, piecesFilled, areKinds, goes⟩ := inductionHypothesis _ shorter
        (advance place word) isInner
        (fun member => oneLine (List.mem_append_right word member)) rfl
      refine ⟨(kind, word) :: pieces, congrArg (word ++ ·) total,
        List.forall_mem_cons.mpr ⟨filled, piecesFilled⟩,
        List.forall_mem_cons.mpr ⟨isKind, areKinds⟩, ?_⟩
      rw [List.append_assoc, ← advance_advance]
      exact (goes_of_read components place isRead filled rfl oneLine).trans goes

/-- A string that is closed on its line is opened, gone through and left. -/
theorem goes_closed {inside : List Char} (isInside : IsInside inside) {behind : List Char}
    (oneLine : '\n' ∉ '"' :: (inside ++ '"' :: behind)) :
    ∃ pieces, textOf pieces = inside ∧ NoneEmpty pieces ∧
      (∀ piece ∈ pieces, piece.1 ∈ insideKinds) ∧
      Goes (Language.highlighter components)
        ⟨Mode.outside.stack, place, '"' :: (inside ++ '"' :: behind)⟩
        (layOut place ((.quote, ['"']) :: (pieces ++ [(.quote, ['"'])])))
        ⟨Mode.outside.stack, advance place ('"' :: (inside ++ ['"'])), behind⟩ := by
  have fromInside : '\n' ∉ inside ++ '"' :: behind := fun member =>
    oneLine (List.mem_cons_of_mem _ member)
  have fromClosing : '\n' ∉ '"' :: behind := fun member =>
    fromInside (List.mem_append_right inside member)
  have closed : isUnclosed (inside ++ '"' :: behind) = false := isInside.isUnclosed_append _
  obtain ⟨pieces, total, filled, areKinds, through⟩ :=
    goes_inside components (advance place ['"']) isInside fromInside
  refine ⟨pieces, total, filled, areKinds, ?_⟩
  have opening := goes_of_read components place (read_of_closed _ closed) (List.cons_ne_nil _ _)
    rfl oneLine
  have closing := goes_of_read components (advance (advance place ['"']) inside)
    (read_closing _ behind) (List.cons_ne_nil _ _) rfl fromClosing
  have last : advance (advance (advance place ['"']) inside) ['"'] =
      advance place ('"' :: (inside ++ ['"'])) := by
    rw [advance_advance, advance_advance]
    rfl
  rw [layOut, layOut_append, total, ← last]
  exact opening.trans (through.trans closing)

/-- A string without an end is one piece up to the end of its line. -/
theorem goes_unclosed {inside : List Char} (isInside : IsInside inside)
    (oneLine : '\n' ∉ '"' :: inside) :
    Goes (Language.highlighter components) ⟨Mode.outside.stack, place, '"' :: inside⟩
      (layOut place [(.invalidString, '"' :: inside)])
      ⟨Mode.outside.stack, advance place ('"' :: inside), []⟩ := by
  have isOpen : isUnclosed inside = true := by
    have settled := isInside.isUnclosed_append []
    rwa [List.append_nil] at settled
  exact goes_of_read components place (read_of_unclosed _ isOpen) (List.cons_ne_nil _ _)
    (List.append_nil _) oneLine

/-! ### Moments outside of strings -/

/-- Every rule of a state leads to the states of a mode. -/
theorem exists_mode_of_action (mode : Mode) :
    ∀ rule ∈ Language.rules mode.stack.current,
      ∃ next : Mode, actionStack mode.stack rule.action = next.stack := by
  have settled : ∀ rule ∈ Language.rules mode.stack.current,
      actionStack mode.stack rule.action = Mode.outside.stack ∨
        actionStack mode.stack rule.action = Mode.inString.stack := by
    cases mode <;> decide
  intro rule member
  rcases settled rule member with same | same
  · exact ⟨.outside, same⟩
  · exact ⟨.inString, same⟩

/-- At every moment of a source the states are those of a mode. -/
theorem exists_mode_of_mem_moments {source : String} {moment : Moment}
    (member : moment ∈ (Language.highlighter components).moments source) :
    ∃ mode : Mode, moment.stack = mode.stack := by
  refine forall_moments (motive := fun stack => ∃ mode : Mode, stack = mode.stack)
    ⟨.outside, rfl⟩ ?_ source moment member
  rintro stack place text ⟨mode, rfl⟩
  rcases (Language.highlighter components).step_cases mode.stack place text with
    ⟨rules, rule, found, defined, isRule, -, -, same⟩ | same
  · obtain rfl := Option.some.inj defined
    obtain ⟨next, leads⟩ := exists_mode_of_action mode rule isRule
    exact ⟨next, by rw [same, leads]⟩
  · exact ⟨mode, by rw [same]⟩

end Components

/-- Where the rules outside of strings see a quote, the string ends where its inside is read to: if
that is a quote, the string is shown as a quote, pieces of the inside and a quote, and is left
again; if it is the end of the line, the rest of the line is shown as a string without an end. -/
theorem string_ends_where_read (catalog : Catalog) :
    ∃ highlighter, Highlighter.ofGrammar (.ofComponents catalog.components) = .ok highlighter ∧
      ∀ source, ∀ moment ∈ highlighter.moments source, moment.stack.current = .root →
        (∀ inside behind, IsInside inside → moment.text = '"' :: (inside ++ '"' :: behind) →
          ∃ pieces, textOf pieces = inside ∧ (∀ piece ∈ pieces, piece.1 ∈ insideKinds) ∧
            ShowsPieces highlighter source moment
              ((.quote, ['"']) :: (pieces ++ [(.quote, ['"'])])) behind) ∧
        (∀ inside, IsInside inside → moment.text = '"' :: inside →
          ShowsPieces highlighter source moment [(.invalidString, '"' :: inside)] []) := by
  refine ⟨_, Language.ofGrammar_ofComponents catalog.components,
    fun source moment member isRoot => ?_⟩
  have oneLine := no_feed_of_mem_moments member
  obtain ⟨mode, isMode⟩ := exists_mode_of_mem_moments catalog.components member
  obtain ⟨stack, place, text⟩ := moment
  dsimp only at isMode isRoot oneLine ⊢
  subst isMode
  cases mode with
  | inString => cases isRoot
  | outside =>
    constructor
    · rintro inside behind isInside rfl
      obtain ⟨pieces, total, filled, areKinds, goes⟩ :=
        goes_closed catalog.components place isInside oneLine
      have whole : textOf ((.quote, ['"']) :: (pieces ++ [(.quote, ['"'])])) =
          '"' :: (inside ++ ['"']) := by
        show '"' :: textOf (pieces ++ [(.quote, ['"'])]) = _
        rw [textOf_append, total]
        rfl
      refine ⟨pieces, total, areKinds, ?_, ?_, by rwa [whole], goes.isInfix member⟩
      · rw [whole, List.cons_append, List.append_assoc]
        rfl
      · exact (noneEmpty_single (List.cons_ne_nil _ _)).append
          (filled.append (noneEmpty_single (List.cons_ne_nil _ _)))
    · rintro inside isInside rfl
      have goes := goes_unclosed catalog.components place isInside oneLine
      have whole : textOf [(TokenClass.invalidString, '"' :: inside)] = '"' :: inside :=
        List.append_nil _
      exact ⟨by rw [whole, List.append_nil], noneEmpty_single (List.cons_ne_nil _ _),
        by rwa [whole], goes.isInfix member⟩

/-- Two strings side by side, the first with a quote that does not end it and with an escape
sequence that is none, the second without an end. -/
theorem two_strings_end_where_read :
    ∃ highlighter pieces,
      Highlighter.ofGrammar (.ofComponents Catalog.empty.components) = .ok highlighter ∧
        textOf pieces = ['\\', '"', '\\', 'x', '4', '1', '\\', 'q'] ∧
        (∀ piece ∈ pieces, piece.1 ∈ insideKinds) ∧
        ShowsPieces highlighter "\"\\\"\\x41\\q\"\"b"
          ⟨.initial, ⟨1, 1, 0⟩, "\"\\\"\\x41\\q\"\"b".toList⟩
          ((.quote, ['"']) :: (pieces ++ [(.quote, ['"'])])) ['"', 'b'] ∧
        ShowsPieces highlighter "\"\\\"\\x41\\q\"\"b" ⟨.initial, ⟨1, 11, 10⟩, ['"', 'b']⟩
          [(.invalidString, ['"', 'b'])] [] := by
  obtain ⟨highlighter, accepted, ends⟩ := string_ends_where_read Catalog.empty
  have first : ⟨.initial, ⟨1, 1, 0⟩, "\"\\\"\\x41\\q\"\"b".toList⟩ ∈
      highlighter.moments "\"\\\"\\x41\\q\"\"b" :=
    start_mem_moments (by decide) (by decide)
  have isInside : IsInside ['\\', '"', '\\', 'x', '4', '1', '\\', 'q'] :=
    .pair '"' (.pair 'x' (.plain (by decide) (by decide) (.plain (by decide) (by decide)
      (.pair 'q' .nil))))
  obtain ⟨pieces, total, areKinds, shows⟩ :=
    (ends _ _ first rfl).1 _ ['"', 'b'] isInside (by decide)
  have second := shows.goes.mem_moments first (List.cons_ne_nil _ _)
  have behind : advance ⟨1, 1, 0⟩ (textOf ((.quote, ['"']) :: (pieces ++ [(.quote, ['"'])]))) =
      ⟨1, 11, 10⟩ := by
    show advance ⟨1, 1, 0⟩ ('"' :: textOf (pieces ++ [(.quote, ['"'])])) = _
    rw [textOf_append, total]
    decide
  rw [behind] at second
  exact ⟨highlighter, pieces, accepted, total, areKinds, shows,
    (ends _ _ second rfl).2 _ (.plain (by decide) (by decide) .nil) rfl⟩

end Banana.Direct
