import ContentRouter.File.Path

/-!
# Requests

What the program can be asked to do: to generate routers, to check a manifest, or to show what a
manifest leads to. Each of these commands has a name and takes some of the options. An option either
takes a value or is a flag; it has a long spelling and may have a short one of one letter.
-/

namespace ContentRouter

/-- What is asked of a run that generates routers. -/
structure Generation where
  manifest : Path
  output : Path
  /-- The settings file that was named explicitly. -/
  settings : Option Path := none
  /-- Where the router model is written as well. -/
  modelJson : Option Path := none
  /-- Whether files that exist are replaced. -/
  force : Bool := false
  /-- Whether the paths are only shown and nothing is written. -/
  dryRun : Bool := false
  deriving DecidableEq, Repr

/-- What a run is asked to do. -/
inductive Request where
  | generate (generation : Generation)
  | check (manifest : Path) (settings : Option Path) (errorsOnly : Bool)
  | inspect (manifest : Path) (settings : Option Path) (asJson : Bool)
  deriving DecidableEq, Repr

/-- The commands of the program. -/
inductive Verb where
  | generate
  | check
  | inspect
  deriving DecidableEq, Repr

/-- What can be stated about a command. -/
inductive CommandOption where
  | manifest
  | output
  | settings
  | modelJson
  | force
  | dryRun
  | errorsOnly
  | json
  | help
  deriving DecidableEq, Repr

namespace CommandOption

/-- The spelling behind two dashes. -/
def long : CommandOption → String
  | manifest => "manifest"
  | output => "output"
  | settings => "config"
  | modelJson => "model-json"
  | force => "force"
  | dryRun => "dry-run"
  | errorsOnly => "errors-only"
  | json => "json"
  | help => "help"

/-- The letter behind one dash. -/
def short? : CommandOption → Option Char
  | manifest => some 'm'
  | output => some 'o'
  | settings => some 'c'
  | force => some 'f'
  | help => some 'h'
  | modelJson | dryRun | errorsOnly | json => none

/-- Whether the option takes a value. Otherwise it is a flag. -/
def takesValue : CommandOption → Bool
  | manifest | output | settings | modelJson => true
  | force | dryRun | errorsOnly | json | help => false

end CommandOption

namespace Verb

/-- The commands of the program, in the order of its help. -/
def all : List Verb := [generate, check, inspect]

/-- The word that stands for a command. -/
def name : Verb → String
  | generate => "generate"
  | check => "check"
  | inspect => "inspect"

/-- The command that a word stands for. -/
def ofName? (word : String) : Option Verb :=
  all.find? (·.name == word)

/-- The options that a command takes. -/
def options : Verb → List CommandOption
  | generate => [.manifest, .output, .settings, .modelJson, .force, .dryRun, .help]
  | check => [.manifest, .settings, .errorsOnly, .help]
  | inspect => [.manifest, .settings, .json, .help]

/-- The option of a command with a long spelling. -/
def long? (verb : Verb) (spelling : String) : Option CommandOption :=
  verb.options.find? (·.long == spelling)

/-- The option of a command with a short spelling. -/
def short? (verb : Verb) (letter : Char) : Option CommandOption :=
  verb.options.find? (·.short? == some letter)

end Verb

end ContentRouter
