/-
This file proves that the highlighter of the pipeline language reads every source as the direct
reader does. The rules of a state are gone through in their order, and each one finds something
exactly where the direct reader comes to the same decision; so one step is one reading. The states
that have been entered are never more than what the direct reader keeps, and lines and sources
follow by going on from step to step.
-/

import Banana.Proofs.Language.Numbers
import Banana.Proofs.Language.Strings

namespace Banana.Direct

open Grammar Highlight Schema Source

/-! ### Readings as steps -/

/-- The states that have been entered. -/
def Mode.stack : Mode → Stack
  | .outside => .initial
  | .inString => Stack.initial.push .string

/-- The step that a reading is. -/
def Reading.step (reading : Reading) (place : Position) : Highlighter.Step where
  tokens := layOut place reading.pieces
  length := (textOf reading.pieces).length
  stack := reading.mode.stack

/-- A step with a given list of rules. -/
def stepBy (components : List Component) (mode : Mode) (place : Position) (text : List Char)
    (rules : List (ReadyRule Pattern.engine)) : Highlighter.Step :=
  match @firstRule? Pattern.engine Pattern.find? text rules with
  | some (action, found) =>
    ⟨actionTokens (.ofComponents components) place text found action, found.stop,
      actionStack mode.stack action⟩
  | none => ⟨tokenBetween place text .invalid 0 1, 1, mode.stack⟩

theorem step_eq_stepBy (components : List Component) (mode : Mode) (place : Position)
    (text : List Char) :
    (Language.highlighter components).step mode.stack place text =
      stepBy components mode place text (Language.rules mode.stack.current) := rfl

/-- Whether the step that some rules make at a place is a reading of what stands there. -/
structure Reads (components : List Component) (mode : Mode) (place : Position) (text : List Char)
    (rules : List (ReadyRule Pattern.engine)) (reading : Reading) : Prop where
  step : stepBy components mode place text rules = reading.step place
  front : textOf reading.pieces <+: text

namespace Reads

variable {components : List Component} {mode next : Mode} {place : Position} {text word : List Char}
  {length : Nat} {pattern : Pattern} {action : Action} {rules : List (ReadyRule Pattern.engine)}
  {kind : TokenClass} {reading : Reading}

/-- A rule that finds nothing is passed over. -/
theorem of_none (missing : pattern.find? text = none)
    (others : Reads components mode place text rules reading) :
    Reads components mode place text (⟨pattern, action⟩ :: rules) reading := by
  refine ⟨?_, others.front⟩
  rw [← others.step]
  unfold stepBy
  rw [firstRule?, missing]

/-- A rule that finds some text ends the search. -/
theorem of_some {found : Pattern.Match} (matched : pattern.find? text = some found)
    (nonempty : found.stop ≠ 0) (front : textOf reading.pieces <+: text)
    (step : ⟨actionTokens (.ofComponents components) place text found action, found.stop,
      actionStack mode.stack action⟩ = reading.step place) :
    Reads components mode place text (⟨pattern, action⟩ :: rules) reading := by
  refine ⟨?_, front⟩
  rw [← step]
  unfold stepBy
  simp only [firstRule?, matched, if_neg nonempty]

/-- A rule that finds some text and makes it one token reads one piece. -/
theorem of_piece (matched : pattern.find? text = some ⟨0, length, []⟩)
    (nonempty : 0 < length) (front : text.take length = word)
    (tokens : actionTokens (.ofComponents components) place text ⟨0, length, []⟩ action =
      tokenBetween place text kind 0 length)
    (states : actionStack mode.stack action = next.stack) :
    Reads components mode place text (⟨pattern, action⟩ :: rules) ⟨[(kind, word)], next⟩ := by
  have within : length ≤ text.length := (Pattern.find?_bounds matched).2
  have total : textOf [(kind, word)] = text.take length := by
    rw [textOf, List.flatMap_singleton, front]
  refine of_some matched (Nat.ne_of_gt nonempty) ?_ ?_
  · rw [total]
    exact List.take_prefix _ _
  · rw [Reading.step, total, List.length_take_of_le within, tokens, states,
      tokenBetween_zero place text kind nonempty, front]

/-- A rule and a decision that is made where the rule finds something. -/
theorem cons {condition : Prop} [Decidable condition]
    (finds : pattern.find? text = if condition then some ⟨0, length, []⟩ else none)
    (front : condition → 0 < length ∧ text.take length = word)
    (tokens : condition →
      actionTokens (.ofComponents components) place text ⟨0, length, []⟩ action =
        tokenBetween place text kind 0 length)
    (states : actionStack mode.stack action = next.stack)
    (others : ¬ condition → Reads components mode place text rules reading) :
    Reads components mode place text (⟨pattern, action⟩ :: rules)
      (if condition then ⟨[(kind, word)], next⟩ else reading) := by
  by_cases holds : condition
  · rw [if_pos holds] at finds ⊢
    exact of_piece finds (front holds).1 (front holds).2 (tokens holds) states
  · rw [if_neg holds] at finds ⊢
    exact of_none finds (others holds)

/-- Where no rule finds anything, one character is read. -/
theorem nil (c : Char) (rest : List Char) :
    Reads components mode place (c :: rest) [] ⟨[(.invalid, [c])], mode⟩ :=
  ⟨rfl, [c].prefix_append rest⟩

end Reads

theorem take_length_of_isPrefix {word text : List Char} (front : word <+: text) :
    text.take word.length = word :=
  (List.prefix_iff_eq_take.mp front).symm

/-- A run that starts at the front of a text. -/
theorem takeWhile_front {test : Char → Bool} {c : Char} {rest : List Char} (isIn : test c = true) :
    0 < ((c :: rest).takeWhile test).length ∧
      (c :: rest).take ((c :: rest).takeWhile test).length = (c :: rest).takeWhile test := by
  refine ⟨?_, take_length_of_isPrefix (List.takeWhile_prefix _)⟩
  rw [List.takeWhile_cons_of_pos isIn]
  exact Nat.succ_pos _

/-- A run and a run of something else behind it. -/
theorem takeWhile_takeWhile_isPrefix (first second : Char → Bool) (text : List Char) :
    text.takeWhile first ++ (text.drop (text.takeWhile first).length).takeWhile second <+:
      text := by
  obtain ⟨behind, split⟩ :=
    List.takeWhile_prefix second (l := text.drop (text.takeWhile first).length)
  have front := take_length_of_isPrefix (List.takeWhile_prefix first (l := text))
  refine ⟨behind, ?_⟩
  calc text.takeWhile first ++ (text.drop (text.takeWhile first).length).takeWhile second ++ behind
      = text.takeWhile first ++ text.drop (text.takeWhile first).length := by
        rw [List.append_assoc, split]
    _ = text.take (text.takeWhile first).length ++ text.drop (text.takeWhile first).length := by
        rw [front]
    _ = text := List.take_append_drop _ _

/-! ### Inside a string -/

theorem reads_inString (components : List Component) (place : Position) {c : Char}
    {rest : List Char} (oneLine : '\n' ∉ c :: rest) :
    Reads components .inString place (c :: rest) Language.stringRules
      (readInString (c :: rest)) := by
  refine .cons (Language.find?_someOf_cons Language.contains_plainInString c rest)
    takeWhile_front (fun _ => rfl) rfl fun notPlain => ?_
  have finds := Language.find?_escape (c :: rest)
  cases isEscape : escapeSequence? (c :: rest) with
  | some sequence =>
    rw [isEscape] at finds
    exact .of_piece finds (List.length_pos_iff.mpr (escapeSequence?_ne_nil isEscape))
      (take_length_of_isPrefix (escapeSequence?_isPrefix isEscape)) rfl rfl
  | none =>
    rw [isEscape] at finds
    refine .of_none finds ?_
    refine .cons (Language.find?_unknownEscape oneLine) (fun _ => ⟨by decide, rfl⟩)
      (fun _ => rfl) rfl fun _ => ?_
    refine .cons (Language.find?_char '"' c rest) (fun _ => ⟨by decide, rfl⟩)
      (fun _ => rfl) rfl fun _ => ?_
    exact .nil c rest

/-! ### Outside of strings -/

section Outside

variable (components : List Component) (place : Position)

/-- The groups of a literal are its apostrophes and what stands between them. -/
theorem literalStep {rest sequence : List Char} (isQuoted : quotedEscape? rest = some sequence) :
    (⟨actionTokens (.ofComponents components) place ('\'' :: rest)
        (Language.literalMatch sequence.length) (.groups [.string, .escape, .string]),
      sequence.length + 2, .initial⟩ : Highlighter.Step) =
    Reading.step ⟨[(.string, ['\'']), (.escape, sequence), (.string, ['\''])], .outside⟩ place := by
  obtain ⟨behind, rfl⟩ := quotedEscape?_split isQuoted
  obtain ⟨isEscape, -⟩ := Option.filter_eq_some_iff.mp isQuoted
  have nonempty : 0 < sequence.length := List.length_pos_iff.mpr (escapeSequence?_ne_nil isEscape)
  let text := '\'' :: (sequence ++ '\'' :: behind)
  have opening : text.take 1 = ['\''] := rfl
  have middle : text.take (sequence.length + 1) = '\'' :: sequence := by
    rw [List.take_succ_cons, List.take_left]
  have whole : text.take (sequence.length + 2) = '\'' :: (sequence ++ ['\'']) := by
    rw [List.take_succ_cons, List.take_length_add_append]
    rfl
  show (⟨tokenBetween place text .string 0 1 ++
      (tokenBetween place text .escape 1 (sequence.length + 1) ++
        (tokenBetween place text .string (sequence.length + 1) (sequence.length + 2) ++ [])),
    sequence.length + 2, .initial⟩ : Highlighter.Step) = _
  simp only [tokenBetween, if_pos (Nat.lt_add_one _), if_pos (Nat.lt_add_of_pos_left nonempty),
    opening, middle, whole]
  rw [Reading.step]
  simp [layOut, textOf, Mode.stack]

theorem reads_apostrophe (c : Char) (rest : List Char) :
    Reads components .outside place (c :: rest)
      [⟨Language.tied Language.plainLiteral, .token .string⟩,
        ⟨Language.tied Language.escapedLiteral, .groups [.string, .escape, .string]⟩,
        ⟨Language.tied (.char '\''), .token .invalidString⟩]
      (if c = '\'' then ⟨readApostrophe rest, .outside⟩ else ⟨[(.invalid, [c])], .outside⟩) := by
  have plain := Language.find?_plainLiteral c rest
  have escaped := Language.find?_escapedLiteral c rest
  by_cases isApostrophe : c = '\''
  · subst isApostrophe
    rw [if_pos rfl] at escaped ⊢
    rw [readApostrophe]
    cases isLiteral : isPlainLiteral rest with
    | true =>
      rw [isLiteral] at plain
      exact .of_piece plain (by decide) rfl rfl rfl
    | false =>
      rw [isLiteral] at plain
      refine .of_none plain ?_
      cases isQuoted : quotedEscape? rest with
      | none =>
        rw [isQuoted] at escaped
        refine .of_none escaped ?_
        exact .of_piece (Language.find?_char '\'' '\'' rest) (by decide) rfl rfl rfl
      | some sequence =>
        rw [isQuoted] at escaped
        refine .of_some escaped (Nat.succ_ne_zero _) ?_ (literalStep components place isQuoted)
        obtain ⟨behind, rfl⟩ := quotedEscape?_split isQuoted
        exact ⟨behind, by simp [textOf]⟩
  · rw [if_neg isApostrophe] at escaped ⊢
    rw [if_neg fun both => isApostrophe both.1] at plain
    refine .of_none plain (.of_none escaped (.of_none ?_ (.nil c rest)))
    rw [Language.find?_char, if_neg isApostrophe]

theorem reads_quote {c : Char} {rest : List Char} (oneLine : '\n' ∉ c :: rest)
    {rules : List (ReadyRule Pattern.engine)} {other : Reading}
    (others : Reads components .outside place (c :: rest) rules other) :
    Reads components .outside place (c :: rest)
      (⟨Language.tied Language.unclosedString, .token .invalidString⟩ ::
        ⟨Language.tied (.char '"'), .push .quote .string⟩ :: rules)
      (if c = '"' then
        if isUnclosed rest then ⟨[(.invalidString, c :: rest)], .outside⟩
        else ⟨[(.quote, [c])], .inString⟩
      else other) := by
  have unclosed := Language.find?_unclosedString oneLine
  have opening := Language.find?_char '"' c rest
  by_cases isQuote : c = '"'
  · rw [if_pos isQuote] at opening ⊢
    cases isOpen : isUnclosed rest with
    | true =>
      rw [if_pos ⟨isQuote, isOpen⟩] at unclosed
      exact .of_piece unclosed (Nat.succ_pos _) List.take_length rfl rfl
    | false =>
      rw [if_neg (by simp [isOpen])] at unclosed
      exact .of_none unclosed (.of_piece opening (by decide) rfl rfl rfl)
  · rw [if_neg isQuote] at opening ⊢
    rw [if_neg fun both => isQuote both.1] at unclosed
    exact .of_none unclosed (.of_none opening others)

/-- A symbol run that is no angle bracket alone is an operator or nothing in particular. -/
theorem isOperator_ofComponents {run : List Char} (notAngle : run ≠ ['<'] ∧ run ≠ ['>']) :
    (if (Grammar.ofComponents components).isOperator (String.ofList run) then TokenClass.operator
      else .unclassified) = symbolKind run := by
  have words : operatorWords =
      [['='], ['>'], ['<'], ['+'], ['-'], ['*'], ['/'], ['-', '>'], [',']].map String.ofList := rfl
  have isWord : (Grammar.ofComponents components).isOperator (String.ofList run) = true ↔
      run ∈ [['='], ['+'], ['-'], ['*'], ['/'], ['-', '>'], [',']] := by
    show operatorWords.contains (String.ofList run) = true ↔ _
    rw [words, List.contains_iff_mem, List.mem_map]
    simp [String.ofList_inj, notAngle.1, notAngle.2]
  rw [symbolKind, if_neg (not_or.mpr notAngle)]
  simp only [isWord]

theorem takeWhile_isSymbol_eq_single {c other : Char} {rest : List Char}
    (isIn : isSymbol c = true) :
    (c :: rest).takeWhile isSymbol = [other] ↔ c = other ∧ rest.takeWhile isSymbol = [] := by
  rw [List.takeWhile_cons_of_pos isIn, List.cons.injEq]

theorem reads_symbol (c : Char) (rest : List Char) (notBracket : bracketKind? c = none)
    {rules : List (ReadyRule Pattern.engine)} {other : Reading}
    (others : Reads components .outside place (c :: rest) rules other) :
    Reads components .outside place (c :: rest)
      (⟨Language.tied Language.loneAngle, .brackets⟩ ::
        ⟨Language.tied (Language.someOf Language.symbol),
          .cases .operators .operator .unclassified⟩ :: rules)
      (if isSymbol c then
        ⟨[(symbolKind ((c :: rest).takeWhile isSymbol), (c :: rest).takeWhile isSymbol)], .outside⟩
      else other) := by
  have angle := Language.find?_loneAngle c rest
  have symbols := Language.find?_someOf_cons Language.contains_symbol c rest
  by_cases isIn : isSymbol c = true
  · rw [if_pos isIn] at symbols ⊢
    by_cases lone : (c = '<' ∨ c = '>') ∧ rest.takeWhile isSymbol = []
    · rw [if_pos lone] at angle
      have run : (c :: rest).takeWhile isSymbol = [c] :=
        (takeWhile_isSymbol_eq_single isIn).mpr ⟨rfl, lone.2⟩
      rw [run]
      refine .of_piece angle (by decide) rfl ?_ rfl
      show tokenBetween place _ (((Grammar.ofComponents components).bracketClass c).getD .angle)
        0 1 = _
      rw [Language.bracketClass_ofComponents, notBracket, symbolKind,
        if_pos (by simpa using lone.1)]
      rfl
    · rw [if_neg lone] at angle
      refine .of_none angle ?_
      refine .of_piece symbols (takeWhile_front isIn).1 (takeWhile_front isIn).2 ?_ rfl
      simp only [actionTokens, actionKind, keywordSetContains, List.drop_zero,
        (takeWhile_front isIn).2]
      rw [isOperator_ofComponents]
      rw [Ne, Ne, takeWhile_isSymbol_eq_single isIn, takeWhile_isSymbol_eq_single isIn]
      exact ⟨fun both => lone ⟨Or.inl both.1, both.2⟩, fun both => lone ⟨Or.inr both.1, both.2⟩⟩
  · have notAngle : ¬ (c = '<' ∨ c = '>') := by
      rintro (rfl | rfl) <;> exact isIn (by decide)
    rw [if_neg isIn] at symbols ⊢
    rw [if_neg fun both => notAngle both.1] at angle
    exact .of_none angle (.of_none symbols others)

/-- The names of the components are the type keywords. -/
theorem isTypeKeyword_ofComponents (word : String) :
    (Grammar.ofComponents components).isTypeKeyword word =
      decide (word ∈ components.map (·.name)) := by
  show (components.map (·.name)).eraseDups.contains word = _
  rw [Bool.eq_iff_iff, List.contains_iff_mem, List.mem_eraseDups, decide_eq_true_iff]

theorem reads_outside {c : Char} {rest : List Char} (oneLine : '\n' ∉ c :: rest) :
    Reads components .outside place (c :: rest) Language.rootRules
      (readOutside (components.map (·.name)) (c :: rest)) := by
  refine .cons (Language.find?_capitalisedWord c rest)
    (fun isCapital => takeWhile_front (isWordPart_of_isCapital isCapital)) (fun isCapital => ?_) rfl
    fun _ => ?_
  · have front : (c :: rest).take ((c :: rest).takeWhile isWordPart).length =
        (c :: rest).takeWhile isWordPart :=
      (takeWhile_front (isWordPart_of_isCapital isCapital)).2
    simp only [actionTokens, actionKind, keywordSetContains, isTypeKeyword_ofComponents,
      List.drop_zero, front, decide_eq_true_iff]
  refine .cons (Language.find?_path oneLine)
    (fun isStart => ⟨?_, take_length_of_isPrefix (takeWhile_takeWhile_isPrefix _ _ _)⟩)
    (fun _ => rfl) rfl fun _ => ?_
  · rw [List.length_append]
    exact Nat.add_pos_left (takeWhile_front (isPathPart_of_isPathStart isStart)).1 _
  have finds := Language.find?_fraction (c :: rest)
  cases isNumber : fraction? (c :: rest) with
  | some number =>
    rw [isNumber] at finds
    exact .of_piece finds (List.length_pos_iff.mpr (fraction?_ne_nil isNumber))
      (take_length_of_isPrefix (fraction?_isPrefix isNumber)) rfl rfl
  | none =>
    rw [isNumber] at finds
    refine .of_none finds ?_
    refine .cons (Language.find?_someOf_cons Language.contains_digit c rest)
      takeWhile_front (fun _ => rfl) rfl fun _ => ?_
    refine .cons (Language.find?_blanks oneLine) takeWhile_front (fun _ => rfl) rfl fun _ => ?_
    refine .cons (Language.find?_comment oneLine)
      (fun _ => ⟨Nat.succ_pos _, List.take_length⟩) (fun _ => rfl) rfl fun _ => ?_
    have bracketFound := Language.find?_one Language.bracket c rest
    rw [Language.contains_bracket] at bracketFound
    cases isBracket : bracketKind? c with
    | some kind =>
      rw [isBracket] at bracketFound
      refine .of_piece bracketFound (by decide) rfl ?_ rfl
      show tokenBetween place _ (((Grammar.ofComponents components).bracketClass c).getD .angle)
        0 1 = _
      rw [Language.bracketClass_ofComponents, isBracket]
      rfl
    | none =>
      rw [isBracket] at bracketFound
      exact .of_none bracketFound (reads_symbol components place c rest isBracket
        (reads_quote components place oneLine (reads_apostrophe components place c rest)))

end Outside

/-! ### Lines and sources -/

section Lines

variable (components : List Component)

/-- In the states of every mode the rules read what the direct reader reads. -/
theorem reads (mode : Mode) (place : Position) {c : Char} {rest : List Char}
    (oneLine : '\n' ∉ c :: rest) :
    Reads components mode place (c :: rest) (Language.rules mode.stack.current)
      (read (components.map (·.name)) mode (c :: rest)) := by
  cases mode with
  | outside => exact reads_outside components place oneLine
  | inString => exact reads_inString components place oneLine

theorem step_eq_read (mode : Mode) (place : Position) {c : Char} {rest : List Char}
    (oneLine : '\n' ∉ c :: rest) :
    (Language.highlighter components).step mode.stack place (c :: rest) =
      (read (components.map (·.name)) mode (c :: rest)).step place := by
  rw [step_eq_stepBy]
  exact (reads components mode place oneLine).step

/-- What is behind a reading is the rest of the text. -/
theorem read_total (mode : Mode) {c : Char} {rest : List Char} (oneLine : '\n' ∉ c :: rest) :
    let text := textOf (read (components.map (·.name)) mode (c :: rest)).pieces
    text ++ rest.drop (text.length - 1) = c :: rest := by
  intro text
  have place : Position := default
  have goesOn : 0 < text.length := by
    have advances := ((Language.highlighter components).step_advances mode.stack place
      (List.cons_ne_nil c rest)).1
    rw [step_eq_read components mode place oneLine] at advances
    exact advances
  obtain ⟨behind, total⟩ := (reads components mode place oneLine).front
  obtain ⟨count, isCount⟩ := Nat.exists_eq_succ_of_ne_zero (Nat.ne_of_gt goesOn)
  have same : rest.drop (text.length - 1) = behind := by
    calc rest.drop (text.length - 1) = (c :: rest).drop text.length := by rw [isCount]; rfl
      _ = (text ++ behind).drop text.length := congrArg (List.drop text.length) total.symm
      _ = behind := List.drop_left
  rw [same]
  exact total

theorem readLine_cons (names : List String) (mode : Mode) (c : Char) (rest : List Char) :
    readLine names mode (c :: rest) =
      let reading := read names mode (c :: rest)
      let others :=
        readLine names reading.mode (rest.drop ((textOf reading.pieces).length - 1))
      (reading.pieces ++ others.1, others.2) := by
  rw [readLine]

/-- One line is read as the direct reader reads it, and the pieces make up the line. -/
theorem scanLine_eq_readLine (mode : Mode) (place : Position) (text : List Char)
    (oneLine : '\n' ∉ text) :
    (Language.highlighter components).scanLine mode.stack place text =
        (layOut place (readLine (components.map (·.name)) mode text).1,
          (readLine (components.map (·.name)) mode text).2.stack) ∧
      textOf (readLine (components.map (·.name)) mode text).1 = text := by
  induction mode, text using readLine.induct (components.map (·.name)) generalizing place with
  | case1 mode =>
    rw [Highlighter.scanLine_nil, readLine]
    exact ⟨rfl, rfl⟩
  | case2 mode c rest reading _ _ _ inductionHypothesis =>
    have total : textOf reading.pieces ++ rest.drop ((textOf reading.pieces).length - 1) =
      c :: rest := read_total components mode oneLine
    have front : (c :: rest).take (textOf reading.pieces).length = textOf reading.pieces :=
      (congrArg (List.take _) total).symm.trans List.take_left
    have behind : (c :: rest).drop (textOf reading.pieces).length =
        rest.drop ((textOf reading.pieces).length - 1) :=
      (congrArg (List.drop _) total).symm.trans List.drop_left
    obtain ⟨others, othersText⟩ :=
      inductionHypothesis (advance place (textOf reading.pieces)) fun member =>
        oneLine (List.mem_cons_of_mem c (List.mem_of_mem_drop member))
    rw [readLine_cons]
    constructor
    · rw [Highlighter.scanLine_of_ne_nil _ _ _ (List.cons_ne_nil c rest),
        step_eq_read components mode place oneLine]
      show (layOut place reading.pieces ++
          ((Language.highlighter components).scanLine reading.mode.stack
            (advance place ((c :: rest).take (textOf reading.pieces).length))
            ((c :: rest).drop (textOf reading.pieces).length)).1,
        ((Language.highlighter components).scanLine reading.mode.stack
            (advance place ((c :: rest).take (textOf reading.pieces).length))
            ((c :: rest).drop (textOf reading.pieces).length)).2) = _
      rw [front, behind, others, layOut_append]
    · show textOf (reading.pieces ++ _) = c :: rest
      rw [textOf_append, othersText, total]

/-- Lines are read as the direct reader reads them. -/
theorem scanLines_eq_readLines (mode : Mode) (number offset : Nat) (lines : List (List Char))
    (eachOneLine : ∀ line ∈ lines, '\n' ∉ line) :
    (Language.highlighter components).scanLines mode.stack number offset lines =
      (layOutLines number offset (readLines (components.map (·.name)) mode lines).1,
        (readLines (components.map (·.name)) mode lines).2.stack) := by
  induction lines generalizing mode number offset with
  | nil => rfl
  | cons line rest inductionHypothesis =>
    obtain ⟨oneLine, restOneLine⟩ := List.forall_mem_cons.mp eachOneLine
    obtain ⟨here, text⟩ := scanLine_eq_readLine components mode ⟨number, 1, offset⟩ line oneLine
    rw [Highlighter.scanLines, here, readLines, layOutLines, text]
    simp only [inductionHypothesis _ _ _ restOneLine]

/-- The grammar of a catalog is accepted, and every source is read with it as the direct reader
reads it. -/
theorem highlight_eq_tokens (catalog : Catalog) (source : String) :
    (Grammar.ofComponents catalog.components).highlight source =
      .ok (tokens catalog.names source) := by
  have oneLine (line : List Char) (member : line ∈ Text.lines source.toList) : '\n' ∉ line :=
    Text.not_mem_of_mem_split member
  rw [Grammar.highlight, Language.ofGrammar_ofComponents, Except.map, Highlighter.highlight]
  show Except.ok ((Language.highlighter catalog.components).scanLines Mode.outside.stack 1 0
    (Text.lines source.toList)).1 = _
  rw [scanLines_eq_readLines _ _ _ _ _ oneLine]
  rfl

end Lines

end Banana.Direct
