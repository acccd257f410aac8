/-
This file reads the arguments of the command line. The general options may stand before and behind
the command, and count behind it where they stand in both places; in one place each is given at
most once. The first argument that asks for the version or for help ends the reading, and so does
the first that makes no sense.
-/

import Banana.Url.Parse

namespace Banana.CommandLine

/-- What the program can be told to do with a file, or without one. -/
inductive CommandName where
  | grammar
  | highlight
  | types
  | complete
  | check
  | submit
  deriving DecidableEq

/-- The command with a name. -/
def CommandName.ofName? : String → Option CommandName
  | "grammar" => some .grammar
  | "highlight" => some .highlight
  | "types" => some .types
  | "complete" => some .complete
  | "check" => some .check
  | "submit" => some .submit
  | _ => none

/-- What the program is told to do. -/
inductive Command where
  | grammar
  | highlight (file : String)
  | types (file : String)
  | complete (file : String) (line column : Nat)
  | check (file : String)
  | submit (file : String)

/-- The general options. -/
structure Options where
  server : Option Url := none
  config : Option String := none
  retries : Option Nat := none
  timeout : Option Nat := none

/-- Options, with those behind the command before the others. -/
def Options.over (inner outer : Options) : Options where
  server := inner.server <|> outer.server
  config := inner.config <|> outer.config
  retries := inner.retries <|> outer.retries
  timeout := inner.timeout <|> outer.timeout

/-- What a command line asks for. -/
inductive Invocation where
  | run (options : Options) (command : Command)
  | version
  | help

/-! ### Values -/

/-- An unsigned number below a bound; a plus sign may stand before it. -/
def number? (bound : Nat) (text : List Char) : Option Nat :=
  let digits := match text with
    | '+' :: rest => rest
    | _ => text
  if digits.isEmpty || !digits.all Char.isDigit then
    none
  else
    let value := digits.foldl (fun value c => 10 * value + (c.toNat - '0'.toNat)) 0
    if value < bound then some value else none

/-- A number of retries; zero may have a minus sign. -/
def retries? (text : List Char) : Option Nat :=
  match text with
  | '-' :: digits => if digits.head?.any Char.isDigit then number? 1 digits else none
  | _ => number? UInt32.size text

/-- The options that take a value. -/
inductive ValueOption where
  | server
  | config
  | retries
  | timeout
  | line
  | column
  deriving DecidableEq

/-- The bound of line and column numbers and of time limits. -/
def maxNumber : Nat := UInt64.size

/-! ### Reading -/

/-- What has been read: the command, the options before and behind it, its file and its place, the
option whose value is next, and whether all further arguments are files. -/
structure Reader where
  command : Option CommandName := none
  outer : Options := {}
  inner : Options := {}
  file : Option String := none
  line : Option Nat := none
  column : Option Nat := none
  pending : Option ValueOption := none
  onlyFiles : Bool := false

/-- What follows an argument. -/
inductive Step where
  | next (reader : Reader)
  | done (invocation : Invocation)
  | refused

namespace Reader

/-- Goes on if there is anything to go on with. -/
def proceed : Option Reader → Step
  | some reader => .next reader
  | none => .refused

/-- The value for a place that has none yet. -/
def fill {α : Type} (place : Option α) (value : Option α) : Option (Option α) :=
  match place, value with
  | none, some value => some (some value)
  | _, _ => none

/-- Options with one more value, unless it is malformed or given already. -/
def setOption? (options : Options) (option : ValueOption) (value : List Char) : Option Options :=
  match option with
  | .server => do
    let url := match Url.parse? (String.ofList value) with
      | .ok url => some url
      | .error _ => none
    pure { options with server := ← fill options.server url }
  | .config => do
    let file := if value.isEmpty then none else some (String.ofList value)
    pure { options with config := ← fill options.config file }
  | .retries => do pure { options with retries := ← fill options.retries (retries? value) }
  | .timeout => do
    pure { options with timeout := ← fill options.timeout (number? maxNumber value) }
  | _ => none

/-- Takes the value of an option. -/
def set? (reader : Reader) (option : ValueOption) (value : List Char) : Option Reader :=
  match option with
  | .line => do pure { reader with line := ← fill reader.line (number? maxNumber value) }
  | .column => do pure { reader with column := ← fill reader.column (number? maxNumber value) }
  | _ =>
    match reader.command with
    | none => (setOption? reader.outer option value).map fun outer => { reader with outer := outer }
    | some _ =>
      (setOption? reader.inner option value).map fun inner => { reader with inner := inner }

/-- The option with a long name that takes a value. -/
def longOption? (reader : Reader) (name : String) : Option ValueOption :=
  match name with
  | "server" => some .server
  | "config" => some .config
  | "retries" => some .retries
  | "timeout-ms" => some .timeout
  | "line" => if reader.command = some .complete then some .line else none
  | "column" => if reader.command = some .complete then some .column else none
  | _ => none

/-- The option with a short name, all of which take a value, except one. -/
def shortOption? (reader : Reader) (name : Char) : Option ValueOption :=
  match name with
  | 'l' => if reader.command = some .complete then some .line else none
  | 'c' => if reader.command = some .complete then some .column else none
  | _ => none

/-- Reads a long option with or without a value. -/
def long (reader : Reader) (argument : List Char) : Step :=
  let name := String.ofList (argument.takeWhile (· != '='))
  match argument.dropWhile (· != '=') with
  | [] =>
    match reader.longOption? name with
    | some option => .next { reader with pending := some option }
    | none =>
      match name with
      | "verbose" => .next reader
      | "help" => .done .help
      | "version" => if reader.command.isNone then .done .version else .refused
      | _ => .refused
  | _ :: value =>
    match reader.longOption? name with
    | some option => proceed (reader.set? option value)
    | none => .refused

/-- Reads short options. A value may follow its option directly or behind an equals sign. -/
def short (reader : Reader) : List Char → Step
  | [] => .next reader
  | 'v' :: rest => reader.short rest
  | 'h' :: _ => .done .help
  | 'V' :: _ => if reader.command.isNone then .done .version else .refused
  | name :: rest =>
    match reader.shortOption? name, rest with
    | none, _ => .refused
    | some option, [] => .next { reader with pending := some option }
    | some option, '=' :: value => proceed (reader.set? option value)
    | some option, value => proceed (reader.set? option value)

/-- Reads an argument that is no option: the command, and then its file. -/
def plain (reader : Reader) (argument : String) : Step :=
  match reader.command with
  | none =>
    if argument = "help" && !reader.onlyFiles then
      .done .help
    else if reader.onlyFiles then
      .refused
    else
      match CommandName.ofName? argument with
      | some command => .next { reader with command := some command }
      | none => .refused
  | some .grammar => .refused
  | some _ =>
    if reader.file.isSome || argument.isEmpty then .refused
    else .next { reader with file := some argument }

/-- Reads an argument. The value of an option does not start with a hyphen, unless it is one. -/
def step (reader : Reader) (argument : String) : Step :=
  match reader.pending with
  | some option =>
    match argument.toList with
    | '-' :: _ :: _ => .refused
    | value => proceed ({ reader with pending := none }.set? option value)
  | none =>
    if reader.onlyFiles then
      reader.plain argument
    else
      match argument.toList with
      | ['-', '-'] => .next { reader with onlyFiles := true }
      | '-' :: '-' :: name => reader.long name
      | '-' :: first :: more => reader.short (first :: more)
      | _ => reader.plain argument

/-- What has been asked for when all arguments are read. -/
def finish (reader : Reader) : Option Invocation :=
  if reader.pending.isSome then
    none
  else
    let run (command : Command) := some (.run (reader.inner.over reader.outer) command)
    match reader.command, reader.file with
    | some .grammar, _ => run .grammar
    | some .highlight, some file => run (.highlight file)
    | some .types, some file => run (.types file)
    | some .check, some file => run (.check file)
    | some .submit, some file => run (.submit file)
    | some .complete, some file =>
      match reader.line, reader.column with
      | some line, some column => run (.complete file line column)
      | _, _ => none
    | _, _ => none

/-- Reads the remaining arguments. -/
def readAll (reader : Reader) : List String → Option Invocation
  | [] => reader.finish
  | argument :: rest =>
    match reader.step argument with
    | .next reader => reader.readAll rest
    | .done invocation => some invocation
    | .refused => none

end Reader

/-- What a command line asks for, unless it makes no sense. -/
def Invocation.ofArguments? (arguments : List String) : Option Invocation :=
  Reader.readAll {} arguments

end Banana.CommandLine
