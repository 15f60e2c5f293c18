import Highlighter.Text.Number

/-! The options that commands take, and the values that options take. -/
namespace Highlighter.Console

inductive OptionKey where
  | verbose
  | config
  | noColor
  | help
  | version
  | language
  | noWhitespace
  | lines
  | json
  | out
  | source
  | jobs
  | force
  | print
  /-- The file or path that stands without an option. -/
  | target
deriving DecidableEq, Repr

/-- What stands after an option. -/
inductive ValueKind where
  /-- Nothing: the option is a flag. -/
  | nothing
  | anyText
  /-- A path, which is never empty. -/
  | path
  | number
deriving DecidableEq, Repr

structure OptionRule where
  key : OptionKey
  long : String
  short : Option Char
  value : ValueKind
  about : String
deriving DecidableEq, Repr

inductive CommandName where
  | tokens
  | highlight
  | compile
  | rebuildMap
  | languages
  | init
deriving DecidableEq, Repr

/-- What help can be asked about. -/
inductive HelpTopic where
  | program
  | command (name : CommandName)
  | help
deriving DecidableEq, Repr

/-- Why a command line does not lead to a command. -/
inductive Rejection where
  /-- Help is asked for, in full or in brief. -/
  | helpAsked (topic : HelpTopic) (full : Bool)
  /-- The version is asked for, perhaps of one command. -/
  | versionAsked (command : Option CommandName)
  | nothingGiven
  | noCommand
  | unknownCommand
  | missingArgument
  | unknownArgument
  | badValue
  | badNumber
  | conflict
  | surplusValue
deriving DecidableEq, Repr

/-- Whether asking for help or for the version led to the rejection, which is no mistake. -/
def Rejection.isAnswer : Rejection → Bool
  | helpAsked .. | versionAsked _ => true
  | _ => false

def Rejection.exitCode (r : Rejection) : Nat := if r.isAnswer then 0 else 2

def Rejection.message : Rejection → String
  | helpAsked .. => "help is asked for"
  | versionAsked _ => "the version is asked for"
  | nothingGiven | noCommand => "a command is missing"
  | unknownCommand => "there is no such command"
  | missingArgument => "a required argument is missing"
  | unknownArgument => "there is an argument that the command does not take"
  | badValue => "an option has no value, or one that it does not take"
  | badNumber => "an option takes a number"
  | conflict => "an option is given twice, or with one that it excludes"
  | surplusValue => "an option takes no value"

def ValueKind.check : ValueKind → String → Except Rejection Unit
  | nothing, text => if text = "true" || text = "false" then .ok () else .error .badValue
  | anyText, _ => .ok ()
  | path, text => if text = "" then .error .badValue else .ok ()
  | number, text =>
    if (Text.decimal? Text.limit64 text.toList).isSome then .ok () else .error .badNumber

/-- The options that can stand before and after the name of a command, with the variables of the
environment that stand in for them. -/
def sharedOptions : List (OptionRule × String) :=
  [(⟨.verbose, "verbose", some 'v', .nothing, "Enable verbose output"⟩, "TINCT_VERBOSE"),
    (⟨.config, "config", some 'c', .path, "Path to configuration file"⟩, "TINCT_CONFIG"),
    (⟨.noColor, "no-color", none, .nothing, "Disable color output"⟩, "TINCT_NO_COLOR")]

def askingOptions : List OptionRule :=
  [⟨.help, "help", some 'h', .nothing, "Print help"⟩,
    ⟨.version, "version", some 'V', .nothing, "Print version"⟩]

def commonOptions : List OptionRule := sharedOptions.map (·.1) ++ askingOptions

namespace CommandName

def all : List CommandName := [tokens, highlight, compile, rebuildMap, languages, init]

def name : CommandName → String
  | tokens => "tokens"
  | highlight => "highlight"
  | compile => "compile"
  | rebuildMap => "rebuild-map"
  | languages => "languages"
  | init => "init"

def ofName? (text : String) : Option CommandName := all.find? (·.name = text)

def about : CommandName → String
  | tokens => "Print the token stream of a file"
  | highlight => "Print a file with 24-bit ANSI colours"
  | compile => "Write compiled .lang files for every language"
  | rebuildMap => "Regenerate the extension map from the language source"
  | languages => "List known languages and their extensions"
  | init => "Write the effective configuration to tinct.toml"

def details? : CommandName → Option String
  | tokens => some "One token per line: line:column, offset, length, kind and text."
  | _ => none

def languageOption : OptionRule :=
  ⟨.language, "lang", some 'l', .anyText,
    "Language extension or name (default: from the file extension)"⟩

def sourceOption : OptionRule :=
  ⟨.source, "source", some 's', .path,
    "Language source TOML (default: from config, else bundled)"⟩

def options : CommandName → List OptionRule
  | tokens =>
    [languageOption, ⟨.noWhitespace, "no-whitespace", none, .nothing, "Skip whitespace tokens"⟩,
      ⟨.lines, "lines", none, .anyText,
        "Lines to scan, 1-based and inclusive (A:B, A:, :B or A)"⟩,
      ⟨.json, "json", none, .nothing, "Print one JSON object per token"⟩]
  | highlight =>
    [languageOption,
      ⟨.lines, "lines", none, .anyText,
        "Lines to print, 1-based and inclusive (A:B, A:, :B or A)"⟩]
  | compile =>
    [⟨.out, "out", some 'o', .path, "Output directory"⟩, sourceOption,
      ⟨.jobs, "jobs", some 'j', .number, "Number of parallel jobs"⟩]
  | rebuildMap =>
    [sourceOption,
      ⟨.out, "out", some 'o', .path, "Where to write the map (default: from config, else stdout)"⟩]
  | languages => [sourceOption]
  | init =>
    [⟨.force, "force", some 'f', .nothing, "Overwrite an existing file"⟩,
      ⟨.print, "print", none, .nothing, "Print the configuration instead of writing it"⟩]

/-- The file or path that a command takes without an option: its name in help texts, and what it is
about. -/
def target? : CommandName → Option (String × String)
  | tokens => some ("FILE", "File to scan")
  | highlight => some ("FILE", "File to print")
  | init => some ("PATH", "Target file (default: ./tinct.toml)")
  | _ => none

/-- What a command cannot do without. -/
def required : CommandName → List OptionKey
  | tokens | highlight => [.target]
  | compile => [.out]
  | _ => []

/-- Options that exclude each other. -/
def exclusive : CommandName → List (OptionKey × OptionKey)
  | init => [(.print, .force)]
  | _ => []

end CommandName
end Highlighter.Console
