import ContentRouter.Command.Request
import ContentRouter.Text.Pieces

/-!
# Reading arguments

The words behind the program's name are read from left to right. A value may follow its option as a
word of its own (`-m x`, `--manifest x`) or be attached to it (`-mx`, `-m=x`, `--manifest=x`), and
flags of one letter may be put together (`-fm x`). A value that stood as a word of its own is
looked at only when the next option is recognised or the words end, so a word that is not
understood is told before anything that is wrong with such a value.

When the arguments lead to no command, a message and a summary of the commands are shown instead.
-/

namespace ContentRouter

/-- What the arguments lead to instead of a command. -/
inductive Usage where
  /-- Help was asked for. -/
  | help
  /-- The version was asked for. -/
  | version
  /-- There are no arguments, so help is shown. -/
  | nothing
  /-- A word is no option, or stands where no word is expected. -/
  | unknownArgument
  /-- A word stands for no command. -/
  | unknownCommand
  /-- The manifest is not stated. -/
  | missingManifest
  /-- An option is stated more than once. -/
  | repeatedOption
  /-- An option that takes a value has none, or an empty one. -/
  | missingValue
  /-- A value is attached to a flag. -/
  | unneededValue
  deriving DecidableEq, Repr

/-- The exit code of the program. Only asking for help or for the version is in order. -/
def Usage.exitCode : Usage → Nat
  | .help | .version => 0
  | _ => 2

/-- What a word looks like. -/
inductive Word where
  /-- Two dashes, behind which no word is an option. -/
  | dashes
  /-- A long spelling, with the value attached to it if there is one. -/
  | long (spelling : String) (value : Option String)
  /-- Letters behind one dash. -/
  | short (letters : List Char)
  /-- Any other word, a single dash among them. -/
  | plain (text : String)
  deriving DecidableEq, Repr

/-- A long spelling with what is attached to it behind an equals sign. -/
def Word.ofLong (letters : List Char) : Word :=
  let (spelling, rest) := letters.span (· != '=')
  .long (String.ofList spelling) <|
    match rest with
    | [] => none
    | _ :: value => some (String.ofList value)

/-- Tells what a word looks like. -/
def Word.ofText (text : String) : Word :=
  match text.toList with
  | ['-', '-'] => .dashes
  | '-' :: '-' :: letters => ofLong letters
  | ['-'] => .plain text
  | '-' :: letters => .short letters
  | _ => .plain text

/-- What the words of a command have stated so far. -/
structure Statements where
  values : List (CommandOption × String) := []
  flags : List CommandOption := []
  /-- An option whose value is a word of its own, with that word once it was read. -/
  pending : Option (CommandOption × Option String) := none
  /-- Set behind two dashes. -/
  trailing : Bool := false
  deriving DecidableEq, Repr

namespace Statements

/-- The value stated for an option. -/
def value? (statements : Statements) (option : CommandOption) : Option String :=
  statements.values.lookup option

/-- States the value of an option. -/
def assign (statements : Statements) (option : CommandOption) (value : String) :
    Except Usage Statements :=
  if (statements.value? option).isSome then .error .repeatedOption
  else if value.isEmpty then .error .missingValue
  else .ok { statements with values := (option, value) :: statements.values }

/-- Looks at the pending value, if there is one. -/
def settle (statements : Statements) : Except Usage Statements :=
  match statements.pending with
  | none => .ok statements
  | some (_, none) => .error .missingValue
  | some (option, some value) => assign { statements with pending := none } option value

/-- States a flag. -/
def raise (statements : Statements) (flag : CommandOption) : Except Usage Statements := do
  let settled ← statements.settle
  if flag = .help then .error .help
  else if settled.flags.contains flag then .error .repeatedOption
  else return { settled with flags := flag :: settled.flags }

/-- States an option together with its value. -/
def attach (statements : Statements) (option : CommandOption) (value : String) :
    Except Usage Statements := do
  let settled ← statements.settle
  settled.assign option value

/-- States an option whose value is the next word. -/
def await (statements : Statements) (option : CommandOption) : Except Usage Statements := do
  let settled ← statements.settle
  return { settled with pending := some (option, none) }

/-- Reads a long spelling. -/
def readLong (verb : Verb) (statements : Statements) (spelling : String)
    (attached : Option String) : Except Usage Statements :=
  match verb.long? spelling with
  | none => .error .unknownArgument
  | some option =>
      match option.takesValue, attached with
      | true, some value => statements.attach option value
      | true, none => statements.await option
      | false, some _ => .error .unneededValue
      | false, none => statements.raise option

/-- Reads letters behind one dash. The letters behind an option that takes a value are its value. -/
def readShort (verb : Verb) (statements : Statements) : List Char → Except Usage Statements
  | [] => .ok statements
  | letter :: rest =>
      match verb.short? letter with
      | none => .error .unknownArgument
      | some option =>
          if option.takesValue then
            match rest with
            | [] => statements.await option
            | '=' :: value => statements.attach option (String.ofList value)
            | value => statements.attach option (String.ofList value)
          else do
            let raised ← statements.raise option
            raised.readShort verb rest

/-- Reads a word that is no option. It is the value that is waited for, if there is one. -/
def readPlain (statements : Statements) (text : String) : Except Usage Statements :=
  match statements.pending with
  | some (option, none) => .ok { statements with pending := some (option, some text) }
  | _ => .error .unknownArgument

/-- Reads one word of a command. -/
def read (verb : Verb) (statements : Statements) (text : String) : Except Usage Statements :=
  if statements.trailing then .error .unknownArgument
  else
    match Word.ofText text with
    | .dashes => .ok { statements with trailing := true }
    | .long spelling value => statements.readLong verb spelling value
    | .short letters => statements.readShort verb letters
    | .plain text => statements.readPlain text

/-- The path stated for an option. -/
def path? (statements : Statements) (option : CommandOption) : Option Path :=
  (statements.value? option).map Path.mk

/-- The request that the statements of a command amount to, with a manifest. -/
def request (statements : Statements) (manifest : Path) : Verb → Request
  | .generate =>
      .generate
        { manifest
          output := (statements.path? .output).getD ⟨"generated"⟩
          settings := statements.path? .settings
          modelJson := statements.path? .modelJson
          force := statements.flags.contains .force
          dryRun := statements.flags.contains .dryRun }
  | .check =>
      .check manifest (statements.path? .settings) (statements.flags.contains .errorsOnly)
  | .inspect =>
      .inspect manifest (statements.path? .settings) (statements.flags.contains .json)

end Statements

/-- The request that the words behind a command amount to. -/
def Verb.request (verb : Verb) (words : List String) : Except Usage Request := do
  let start : Statements := {}
  let read ← words.foldlM (Statements.read verb) start
  let settled ← read.settle
  match settled.path? .manifest with
  | none => .error .missingManifest
  | some manifest => return settled.request manifest verb

namespace Usage

/-- Whether a word stands where a command is expected: the name of a command, or `help`. -/
def isCommandWord (word : String) : Bool :=
  word == "help" || (Verb.ofName? word).isSome

/-- What `help` leads to, with the words behind it: at most one word, which has a help of its
own. -/
def ofHelp : List String → Usage
  | [] => .help
  | [word] => if isCommandWord word then .help else .unknownCommand
  | _ => .unknownCommand

/-- What two dashes in front of the command lead to: a command cannot follow. -/
def ofTrailing : List String → Usage
  | [] => .nothing
  | word :: _ => if isCommandWord word then .unknownArgument else .unknownCommand

/-- What a word that is no command leads to where a command is expected. -/
def ofWord (text : String) (rest : List String) : Usage :=
  match Word.ofText text with
  | .dashes => ofTrailing rest
  | .long spelling value =>
      let asked? : Option Usage :=
        if spelling == "help" then some .help
        else if spelling == "version" then some .version
        else none
      match asked?, value with
      | some asked, none => asked
      | some _, some _ => .unneededValue
      | none, _ => .unknownArgument
  | .short letters =>
      match letters.head? with
      | some 'h' => .help
      | some 'V' => .version
      | _ => .unknownArgument
  | .plain text => if text == "help" then ofHelp rest else .unknownCommand

end Usage

/-- **The request that the words behind the program's name amount to.** -/
def Request.ofArguments : List String → Except Usage Request
  | [] => .error .nothing
  | word :: rest =>
      match Verb.ofName? word with
      | some verb => verb.request rest
      | none => .error (.ofWord word rest)

namespace CommandOption

/-- How an option is written in a summary of a command. -/
def summary (option : CommandOption) : String :=
  let value := if option.takesValue then " <PATH>" else ""
  match option.short? with
  | some letter => s!"[-{letter}, --{option.long}{value}]"
  | none => s!"[--{option.long}{value}]"

end CommandOption

/-- The summary of a command. -/
def Verb.summary (verb : Verb) : String :=
  s!"  {verb.name} " ++ Text.joinWith " " (verb.options.map (·.summary))

namespace Usage

/-- The name of the program. -/
def programName : String := "content-router"

/-- The summary of all commands. -/
def overview : List String :=
  s!"Usage: {programName} <COMMAND>" :: "Commands:" :: Verb.all.map (·.summary)

/-- What is told about the arguments. -/
def message : Usage → String
  | .help | .nothing => "Routers for content providers."
  | .version => s!"{programName} 0.1.0"
  | .unknownArgument => "error: unexpected argument"
  | .unknownCommand => "error: unrecognized subcommand"
  | .missingManifest => "error: --manifest <PATH> is required"
  | .repeatedOption => "error: an option cannot be used multiple times"
  | .missingValue => "error: an option needs a value"
  | .unneededValue => "error: a flag takes no value"

/-- The lines shown instead of a command's. -/
def lines (usage : Usage) : List String :=
  match usage with
  | .version => [usage.message]
  | _ => usage.message :: overview

end Usage

end ContentRouter
