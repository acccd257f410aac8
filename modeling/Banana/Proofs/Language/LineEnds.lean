/-
This file says when a string is still open at the end of a line, and what follows for a text that is
read in two parts. A string without an end is one token up to the end of its line, so no string
should ever go on in the next line; but a backslash in front of the line feed is half of a pair, the
rule for strings without an end does not match, and the quote opens a string that stays open. Two
texts can be highlighted separately exactly when the first one does not end in this way.
-/

import Banana.Proofs.Language.Agreement

namespace Banana.Direct

open Grammar Highlight Schema Source

/-! ### The end of a line -/

/-- Whether a character starts neither a comment nor a string nor a character literal. -/
def isQuiet (c : Char) : Bool := c != '#' && c != '"' && c != '\''

/-- How far a character literal goes behind its first apostrophe. -/
def literalLength (rest : List Char) : Nat :=
  if isPlainLiteral rest then 2
  else match quotedEscape? rest with
    | some sequence => sequence.length + 1
    | none => 0

/-- What the end of a line is in, given what its start is in. Only comments, strings and character
literals have to be told apart from the rest for this. -/
def lineEnd : Mode → List Char → Mode
  | mode, [] => mode
  | .outside, c :: rest =>
    if c = '#' then .outside
    else if c = '"' then
      if isUnclosed rest then .outside else lineEnd .inString rest
    else if c = '\'' then lineEnd .outside (rest.drop (literalLength rest))
    else lineEnd .outside rest
  | .inString, c :: rest =>
    if c = '"' then lineEnd .outside rest
    else if c = '\\' then lineEnd .inString (rest.drop 1)
    else lineEnd .inString rest
termination_by _ text => text.length
decreasing_by
  all_goals
    simp only [List.length_cons, List.length_drop]
    omega

theorem lineEnd_nil (mode : Mode) : lineEnd mode [] = mode := by
  cases mode <;> rw [lineEnd]

theorem isQuiet_iff {c : Char} : isQuiet c = true ↔ c ≠ '#' ∧ c ≠ '"' ∧ c ≠ '\'' := by
  simp [isQuiet, and_assoc]

/-- A kind of characters without the three that start something. -/
theorem isQuiet_of (test : Char → Bool) (noMark : test '#' = false) (noQuote : test '"' = false)
    (noApostrophe : test '\'' = false) {c : Char} (isIn : test c = true) : isQuiet c = true := by
  refine isQuiet_iff.mpr ⟨?_, ?_, ?_⟩
  · rintro rfl
    exact absurd (noMark.symm.trans isIn) (by decide)
  · rintro rfl
    exact absurd (noQuote.symm.trans isIn) (by decide)
  · rintro rfl
    exact absurd (noApostrophe.symm.trans isIn) (by decide)

theorem lineEnd_outside_append {word : List Char} (quiet : ∀ c ∈ word, isQuiet c = true)
    (behind : List Char) : lineEnd .outside (word ++ behind) = lineEnd .outside behind := by
  induction word with
  | nil => rfl
  | cons c rest inductionHypothesis =>
    obtain ⟨quietHere, quietBehind⟩ := List.forall_mem_cons.mp quiet
    obtain ⟨notMark, notQuote, notApostrophe⟩ := isQuiet_iff.mp quietHere
    rw [List.cons_append, lineEnd, if_neg notMark, if_neg notQuote, if_neg notApostrophe,
      inductionHypothesis quietBehind]

theorem lineEnd_inString_append {word : List Char} (plain : ∀ c ∈ word, isPlain c = true)
    (behind : List Char) : lineEnd .inString (word ++ behind) = lineEnd .inString behind := by
  induction word with
  | nil => rfl
  | cons c rest inductionHypothesis =>
    obtain ⟨plainHere, plainBehind⟩ := List.forall_mem_cons.mp plain
    have notSpecial : c ≠ '\\' ∧ c ≠ '"' := by simpa [isPlain] using plainHere
    rw [List.cons_append, lineEnd, if_neg notSpecial.2, if_neg notSpecial.1,
      inductionHypothesis plainBehind]

/-- What a text ends with is what a longer one ends with. -/
theorem getLast?_of_suffix {short long : List Char} {c : Char} (isSuffix : short <:+ long)
    (last : short.getLast? = some c) : long.getLast? = some c := by
  obtain ⟨before, rfl⟩ := isSuffix
  rw [List.getLast?_append, last, Option.some_or]

/-- Only a backslash at its end lets a line leave a string open that it has opened itself. -/
theorem backslash_of_lineEnd {mode : Mode} {text : List Char}
    (closed : mode = .inString → isUnclosed text = false) (ends : lineEnd mode text = .inString) :
    text.getLast? = some '\\' := by
  induction mode, text using lineEnd.induct with
  | case1 mode =>
    rw [lineEnd_nil] at ends
    exact absurd (closed ends) (by decide)
  | case2 rest =>
    rw [lineEnd, if_pos rfl] at ends
    cases ends
  | case3 rest isOpen notMark =>
    rw [lineEnd, if_neg notMark, if_pos rfl, if_pos isOpen] at ends
    cases ends
  | case4 rest isClosed notMark inductionHypothesis =>
    rw [lineEnd, if_neg notMark, if_pos rfl, if_neg isClosed] at ends
    exact getLast?_of_suffix (List.suffix_cons _ rest)
      (inductionHypothesis (fun _ => Bool.eq_false_iff.mpr isClosed) ends)
  | case5 rest notMark notQuote inductionHypothesis =>
    rw [lineEnd, if_neg notMark, if_neg notQuote, if_pos rfl] at ends
    exact getLast?_of_suffix ((List.drop_suffix _ rest).trans (List.suffix_cons _ rest))
      (inductionHypothesis (fun same => absurd same (by decide)) ends)
  | case6 c rest notMark notQuote notApostrophe inductionHypothesis =>
    rw [lineEnd, if_neg notMark, if_neg notQuote, if_neg notApostrophe] at ends
    exact getLast?_of_suffix (List.suffix_cons c rest)
      (inductionHypothesis (fun same => absurd same (by decide)) ends)
  | case7 rest inductionHypothesis =>
    rw [lineEnd, if_pos rfl] at ends
    exact getLast?_of_suffix (List.suffix_cons _ rest)
      (inductionHypothesis (fun same => absurd same (by decide)) ends)
  | case8 rest notQuote inductionHypothesis =>
    rw [lineEnd, if_neg notQuote, if_pos rfl] at ends
    cases rest with
    | nil => rfl
    | cons next others =>
      exact getLast?_of_suffix ((List.suffix_cons next others).trans (List.suffix_cons _ _))
        (inductionHypothesis (fun _ => closed rfl) ends)
  | case9 c rest notQuote notBackslash inductionHypothesis =>
    rw [lineEnd, if_neg notQuote, if_neg notBackslash] at ends
    have stillClosed : isUnclosed rest = false := by
      rw [← isUnclosed_cons notQuote notBackslash]
      exact closed rfl
    exact getLast?_of_suffix (List.suffix_cons c rest)
      (inductionHypothesis (fun _ => stillClosed) ends)

/-! ### Readings lead to the end of the line -/

/-- Whether the end of a line can be told from what is behind a reading. -/
def Leads (mode : Mode) (text : List Char) (reading : Reading) : Prop :=
  ∀ behind, textOf reading.pieces ++ behind = text →
    lineEnd mode text = lineEnd reading.mode behind

section Leads

variable {c : Char} {rest word text : List Char} {kind : TokenClass}

theorem leads_quiet (quiet : ∀ c ∈ word, isQuiet c = true) :
    Leads .outside text ⟨[(kind, word)], .outside⟩ := by
  intro behind total
  rw [← total, textOf, List.flatMap_singleton]
  exact lineEnd_outside_append quiet behind

/-- A run of characters of a kind. -/
theorem leads_takeWhile (test : Char → Bool) (noMark : test '#' = false)
    (noQuote : test '"' = false) (noApostrophe : test '\'' = false) :
    Leads .outside text ⟨[(kind, text.takeWhile test)], .outside⟩ :=
  leads_quiet fun _ member => isQuiet_of test noMark noQuote noApostrophe (of_mem_takeWhile member)

/-- What goes on to the end of the line. -/
theorem leads_whole {mode next : Mode} (ends : lineEnd mode text = next) :
    Leads mode text ⟨[(kind, text)], next⟩ := by
  intro behind total
  have none : behind = [] := by
    rw [textOf, List.flatMap_singleton] at total
    exact List.append_right_eq_self.mp total
  rw [ends, none, lineEnd_nil]

/-- One character. -/
theorem leads_single {mode next : Mode} (ends : lineEnd mode (c :: rest) = lineEnd next rest) :
    Leads mode (c :: rest) ⟨[(kind, [c])], next⟩ := by
  intro behind total
  have same : behind = rest := (List.cons.inj total).2
  rw [ends, same]

theorem lineEnd_outside_cons (quiet : isQuiet c = true) (rest : List Char) :
    lineEnd .outside (c :: rest) = lineEnd .outside rest := by
  have quietWord : ∀ other ∈ [c], isQuiet other = true := by simpa using quiet
  exact lineEnd_outside_append quietWord rest

theorem isQuiet_of_isDigit {c : Char} (digit : isDigit c = true) : isQuiet c = true :=
  isQuiet_of isDigit (by decide) (by decide) (by decide) digit

theorem quiet_of_mem_exponent (text : List Char) :
    ∀ c ∈ Direct.exponent text, isQuiet c = true := by
  intro c member
  cases text with
  | nil => exact absurd member List.not_mem_nil
  | cons mark rest =>
    dsimp only [Direct.exponent] at member
    split at member
    · next complete =>
      rcases List.mem_cons.mp member with rfl | behindMark
      · rcases complete.1 with rfl | rfl <;> decide
      · rcases List.mem_append.mp behindMark with inSign | inDigits
        · exact isQuiet_of (fun c => c == '+' || c == '-') (by decide) (by decide)
            (by decide) (List.mem_filter.mp inSign).2
        · exact isQuiet_of_isDigit (of_mem_takeWhile inDigits)
    · exact absurd member List.not_mem_nil

theorem quiet_of_mem_fraction? {number : List Char} (isNumber : fraction? text = some number) :
    ∀ c ∈ number, isQuiet c = true := by
  dsimp only [fraction?] at isNumber
  split at isNumber
  · next rest behindWhole =>
    split at isNumber
    · cases isNumber
    · cases isNumber
      intro c member
      simp only [List.append_assoc, List.cons_append, List.mem_append, List.mem_cons] at member
      rcases member with inWhole | rfl | inDigits | inPower
      · exact isQuiet_of_isDigit (of_mem_takeWhile inWhole)
      · decide
      · exact isQuiet_of_isDigit (of_mem_takeWhile inDigits)
      · exact quiet_of_mem_exponent _ c inPower
  · cases isNumber

end Leads

theorem leads_escape {c : Char} {rest sequence : List Char}
    (isEscape : escapeSequence? (c :: rest) = some sequence) :
    Leads .inString (c :: rest) ⟨[(.escape, sequence)], .inString⟩ := by
  intro behind total
  rw [textOf, List.flatMap_singleton] at total
  unfold escapeSequence? at isEscape
  split at isEscape
  · obtain ⟨digits, -, areDigits, rfl⟩ := escapeOf?_split isEscape
    have plain (c : Char) (member : c ∈ digits) : isPlain c = true := by
      have isDigit := areDigits c member
      unfold isPlain
      rw [Bool.and_eq_true, bne_iff_ne, bne_iff_ne]
      constructor <;> rintro rfl <;> exact absurd isDigit (by decide)
    rw [← total, List.cons_append, List.cons_append, lineEnd, if_neg (by decide), if_pos rfl]
    exact lineEnd_inString_append plain behind
  · cases isEscape

theorem leads_inString (c : Char) (rest : List Char) :
    Leads .inString (c :: rest) (readInString (c :: rest)) := by
  dsimp only [readInString]
  split
  · intro behind total
    rw [← total, textOf, List.flatMap_singleton]
    exact lineEnd_inString_append (fun _ => of_mem_takeWhile) behind
  next special =>
  split
  · next sequence isEscape => exact leads_escape isEscape
  split
  · next pair =>
    obtain ⟨rfl, followed⟩ := pair
    obtain ⟨next, others, rfl⟩ := List.exists_cons_of_ne_nil followed
    intro behind total
    have same : behind = others := (List.cons.inj (List.cons.inj total).2).2
    rw [same, lineEnd, if_neg (by decide), if_pos rfl]
    rfl
  next noPair =>
  split
  · next isQuote =>
    refine leads_single ?_
    rw [lineEnd, if_pos isQuote]
  · next notQuote =>
    have isBackslash : c = '\\' := by simpa [isPlain, notQuote] using special
    have atEnd : rest = [] := by simpa [isBackslash] using noPair
    refine leads_single ?_
    rw [atEnd, lineEnd_nil, lineEnd, if_neg notQuote, if_pos isBackslash, List.drop_nil,
      lineEnd_nil]

theorem length_readApostrophe (rest : List Char) :
    (textOf (readApostrophe rest)).length = literalLength rest + 1 := by
  unfold readApostrophe literalLength
  cases isLiteral : isPlainLiteral rest with
  | true =>
    have within := isPlainLiteral_length isLiteral
    simp [textOf, Nat.min_eq_left within]
  | false => cases quotedEscape? rest <;> simp [textOf]

theorem leads_outside (names : List String) (c : Char) (rest : List Char) :
    Leads .outside (c :: rest) (readOutside names (c :: rest)) := by
  dsimp only [readOutside]
  split
  · exact leads_takeWhile isWordPart (by decide) (by decide) (by decide)
  split
  · refine leads_quiet fun c member => ?_
    rcases List.mem_append.mp member with inPath | inBlanks
    · exact isQuiet_of isPathPart (by decide) (by decide) (by decide)
        (of_mem_takeWhile inPath)
    · exact isQuiet_of isBlank (by decide) (by decide) (by decide)
        (of_mem_takeWhile inBlanks)
  split
  · next number isNumber => exact leads_quiet (quiet_of_mem_fraction? isNumber)
  split
  · exact leads_takeWhile isDigit (by decide) (by decide) (by decide)
  split
  · exact leads_takeWhile isBlank (by decide) (by decide) (by decide)
  split
  · next isMark =>
    refine leads_whole ?_
    rw [lineEnd, if_pos isMark]
  split
  · next kind isBracket =>
    refine leads_single (lineEnd_outside_cons ?_ rest)
    exact isQuiet_of (fun c => (bracketKind? c).isSome) rfl rfl rfl (by simp [isBracket])
  split
  · exact leads_takeWhile isSymbol (by decide) (by decide) (by decide)
  split
  · next notMark _ _ _ isQuote =>
    split
    · next isOpen =>
      refine leads_whole ?_
      rw [lineEnd, if_neg notMark, if_pos isQuote, if_pos isOpen]
    · next isClosed =>
      refine leads_single ?_
      rw [lineEnd, if_neg notMark, if_pos isQuote, if_neg isClosed]
  split
  · next notMark _ _ _ notQuote isApostrophe =>
    intro behind total
    have same : behind = rest.drop (literalLength rest) := by
      calc behind = (textOf (readApostrophe rest) ++ behind).drop (literalLength rest + 1) := by
            rw [← length_readApostrophe, List.drop_left]
        _ = rest.drop (literalLength rest) := by rw [total, List.drop_succ_cons]
    rw [same, lineEnd, if_neg notMark, if_neg notQuote, if_pos isApostrophe]
  · next notMark _ _ _ notQuote notApostrophe =>
    exact leads_single
      (lineEnd_outside_cons (isQuiet_iff.mpr ⟨notMark, notQuote, notApostrophe⟩) rest)

theorem leads_read (names : List String) (mode : Mode) (c : Char) (rest : List Char) :
    Leads mode (c :: rest) (read names mode (c :: rest)) := by
  cases mode with
  | outside => exact leads_outside names c rest
  | inString => exact leads_inString c rest

/-- What the direct reader is in at the end of a line. -/
theorem readLine_eq_lineEnd (components : List Component) (mode : Mode) (text : List Char)
    (oneLine : '\n' ∉ text) :
    (readLine (components.map (·.name)) mode text).2 = lineEnd mode text := by
  induction mode, text using readLine.induct (components.map (·.name)) with
  | case1 mode => rw [readLine, lineEnd_nil]
  | case2 mode c rest reading _ _ _ inductionHypothesis =>
    have total := read_total components mode oneLine
    have ends := inductionHypothesis fun member =>
      oneLine (List.mem_cons_of_mem c (List.mem_of_mem_drop member))
    rw [readLine_cons]
    exact ends.trans (leads_read _ mode c rest _ total).symm

/-- What the direct reader is in at the end of lines. -/
theorem readLines_eq_lineEnd (components : List Component) (mode : Mode)
    (lines : List (List Char)) (eachOneLine : ∀ line ∈ lines, '\n' ∉ line) :
    (readLines (components.map (·.name)) mode lines).2 = lines.foldl lineEnd mode := by
  induction lines generalizing mode with
  | nil => rfl
  | cons line rest inductionHypothesis =>
    obtain ⟨oneLine, restOneLine⟩ := List.forall_mem_cons.mp eachOneLine
    rw [readLines, List.foldl_cons, ← readLine_eq_lineEnd components mode line oneLine,
      ← inductionHypothesis _ restOneLine]

/-! ### Two texts -/

theorem readLines_append (names : List String) (mode : Mode) (first second : List (List Char)) :
    readLines names mode (first ++ second) =
      ((readLines names mode first).1 ++
        (readLines names (readLines names mode first).2 second).1,
      (readLines names (readLines names mode first).2 second).2) := by
  induction first generalizing mode with
  | nil => rfl
  | cons line rest inductionHypothesis =>
    simp only [List.cons_append, readLines, inductionHypothesis]

/-- The pieces that are read make up the lines. -/
theorem map_textOf_readLines (components : List Component) (mode : Mode)
    (lines : List (List Char)) (eachOneLine : ∀ line ∈ lines, '\n' ∉ line) :
    (readLines (components.map (·.name)) mode lines).1.map textOf = lines := by
  induction lines generalizing mode with
  | nil => rfl
  | cons line rest inductionHypothesis =>
    obtain ⟨oneLine, restOneLine⟩ := List.forall_mem_cons.mp eachOneLine
    have here := (scanLine_eq_readLine components mode default line oneLine).2
    rw [readLines, List.map_cons, here, inductionHypothesis _ restOneLine]

/-- Every line has its line feed, but the last one has none. -/
theorem linesLength_lines (text : List Char) :
    linesLength (Text.lines text) = Text.utf8Length text + 1 := by
  induction text with
  | nil => rfl
  | cons c rest inductionHypothesis =>
    rw [Text.lines, Text.split]
    split
    next isFeed =>
      have here : linesLength ([] :: Text.split '\n' rest) =
          1 + linesLength (Text.lines rest) := by
        rw [linesLength]
        rfl
      have oneByte : c.utf8Size = 1 := by rw [isFeed]; rfl
      rw [here, inductionHypothesis, Text.utf8Length, oneByte, Nat.add_assoc]
    next notFeed =>
      cases cut : Text.split '\n' rest with
      | nil => exact absurd cut (Text.split_ne_nil '\n' rest)
      | cons part others =>
        rw [Text.lines, cut] at inductionHypothesis
        have longer : linesLength ((c :: part) :: others) =
            c.utf8Size + linesLength (part :: others) := by
          simp only [linesLength, Text.utf8Length]
          omega
        rw [longer, inductionHypothesis, Text.utf8Length, Nat.add_assoc]

/-- Whether a string is still open at the end of a source. -/
def LeavesOpen (source : String) : Prop :=
  (Text.lines source.toList).foldl lineEnd .outside = .inString

instance (source : String) : Decidable (LeavesOpen source) :=
  inferInstanceAs (Decidable (_ = _))

example : LeavesOpen "\"\\" := by cbv

/-- A source without a line that ends in a backslash leaves no string open. -/
theorem not_leavesOpen {source : String}
    (noBackslash : ∀ line ∈ Text.lines source.toList, line.getLast? ≠ some '\\') :
    ¬ LeavesOpen source := by
  have outside (lines : List (List Char))
      (noBackslash : ∀ line ∈ lines, line.getLast? ≠ some '\\') :
      lines.foldl lineEnd .outside = .outside := by
    induction lines with
    | nil => rfl
    | cons line rest inductionHypothesis =>
      obtain ⟨here, behind⟩ := List.forall_mem_cons.mp noBackslash
      have ends : lineEnd .outside line = .outside := by
        cases mode : lineEnd .outside line with
        | outside => rfl
        | inString =>
          exact absurd (backslash_of_lineEnd (fun same => absurd same (by decide)) mode) here
      rw [List.foldl_cons, ends, inductionHypothesis behind]
  intro isOpen
  exact absurd ((outside _ noBackslash).symm.trans isOpen) (by decide)

theorem outside_of_not_leavesOpen {source : String} (notOpen : ¬ LeavesOpen source) :
    (Text.lines source.toList).foldl lineEnd .outside = .outside := by
  cases mode : (Text.lines source.toList).foldl lineEnd .outside with
  | outside => rfl
  | inString => exact absurd mode notOpen

/-- What a second text reads like behind a first one. -/
theorem tokens_append (catalog : Catalog) (first second : String) :
    tokens catalog.names (first ++ "\n" ++ second) =
      tokens catalog.names first ++
        (layOutLines 1 0 (readLines catalog.names
          ((Text.lines first.toList).foldl lineEnd .outside) (Text.lines second.toList)).1).map
            (·.shifted (Text.lines first.toList).length (Text.utf8Length first.toList + 1)) := by
  have eachOneLine (line : List Char) (member : line ∈ Text.lines first.toList) : '\n' ∉ line :=
    Text.not_mem_of_mem_split member
  have lines : Text.lines (first ++ "\n" ++ second).toList =
      Text.lines first.toList ++ Text.lines second.toList := by
    have characters : (first ++ "\n" ++ second).toList =
        first.toList ++ '\n' :: second.toList := by simp
    rw [characters]
    exact Text.split_append '\n' first.toList second.toList
  have ends : (readLines catalog.names .outside (Text.lines first.toList)).2 =
      (Text.lines first.toList).foldl lineEnd .outside :=
    readLines_eq_lineEnd catalog.components .outside _ eachOneLine
  have texts : (readLines catalog.names .outside (Text.lines first.toList)).1.map textOf =
      Text.lines first.toList :=
    map_textOf_readLines catalog.components .outside _ eachOneLine
  have count := congrArg List.length texts
  rw [List.length_map] at count
  rw [tokens, tokens, lines, readLines_append, layOutLines_append, ends, texts, count,
    linesLength_lines, layOutLines_shifted]

/-- A small letter shows whether it stands in a string. -/
theorem readLine_b (names : List String) (mode : Mode) :
    readLine names mode ['b'] =
      ([(match mode with | .outside => .reference | .inString => .string, ['b'])], mode) := by
  have here : read names mode ['b'] =
      ⟨[(match mode with | .outside => .reference | .inString => .string, ['b'])], mode⟩ := by
    cases mode <;> rfl
  have behind : readLine names mode [] = ([], mode) := by rw [readLine]
  rw [readLine_cons, here]
  show (_ ++ (readLine names mode []).1, (readLine names mode []).2) = _
  rw [behind]
  rfl

/-- Highlighting two texts with a line feed between them is highlighting each of them, with any
second text, exactly when no string is left open at the end of the first one; and that is when only
the top level has been entered there. -/
theorem highlight_append_iff (catalog : Catalog) (first : String) :
    ((∀ second : String,
      (Grammar.ofComponents catalog.components).highlight (first ++ "\n" ++ second) = do
        let here ← (Grammar.ofComponents catalog.components).highlight first
        let others ← (Grammar.ofComponents catalog.components).highlight second
        return here ++ others.map
          (·.shifted (Text.lines first.toList).length (Text.utf8Length first.toList + 1))) ↔
      ¬ LeavesOpen first) ∧
    (Highlighter.ofGrammar (.ofComponents catalog.components)).map
        (fun highlighter => (highlighter.scanLines .initial 1 0 (Text.lines first.toList)).2) =
      .ok (if LeavesOpen first then ⟨.string, [.root]⟩ else .initial) := by
  have eachOneLine (line : List Char) (member : line ∈ Text.lines first.toList) : '\n' ∉ line :=
    Text.not_mem_of_mem_split member
  simp only [highlight_eq_tokens, tokens_append]
  refine ⟨⟨fun separate isOpen => ?_, fun notOpen second => ?_⟩, ?_⟩
  · have same := List.append_cancel_left (Except.ok.inj (separate "b"))
    rw [show (Text.lines first.toList).foldl lineEnd .outside = .inString from isOpen] at same
    have kinds := congrArg (List.map Token.kind) same
    rw [List.map_map, List.map_map] at kinds
    change List.map Token.kind (layOutLines 1 0 (readLines catalog.names .inString [['b']]).1) =
      List.map Token.kind (layOutLines 1 0 (readLines catalog.names .outside [['b']]).1) at kinds
    simp only [readLines, readLine_b] at kinds
    cases kinds
  · rw [outside_of_not_leavesOpen notOpen]
    rfl
  · have scanned := congrArg Prod.snd (scanLines_eq_readLines catalog.components .outside 1 0
      (Text.lines first.toList) eachOneLine)
    rw [readLines_eq_lineEnd _ _ _ eachOneLine] at scanned
    rw [Language.ofGrammar_ofComponents, Except.map]
    refine congrArg Except.ok (scanned.trans ?_)
    show Mode.stack _ = _
    by_cases isOpen : LeavesOpen first
    · rw [if_pos isOpen, show (Text.lines first.toList).foldl lineEnd .outside = .inString from
        isOpen]
      rfl
    · rw [if_neg isOpen, outside_of_not_leavesOpen isOpen]
      rfl

end Banana.Direct
