import Highlighter.Console.Option
import Highlighter.Text.Number

/-! What the program prints about itself: its version, and help texts made from the tables of
options. -/
namespace Highlighter.Console

def programName : String := "tinct"

def programVersion : String := "0.1.0"

/-- An entry of a help text: how a thing is written, what it is about, and a remark. -/
structure HelpEntry where
  written : String
  about : String
  remark : Option String
deriving DecidableEq, Repr

namespace HelpEntry

def indentation : String := "          "

/-- The entry on one line, aligned with entries that are `width` wide. -/
def brief (width : Nat) (e : HelpEntry) : String :=
  String.join ["  ", Text.alignLeft width e.written, "  ", e.about,
    match e.remark with
    | some remark => " " ++ remark
    | none => "", "\n"]

def full (e : HelpEntry) : String :=
  String.join ["  ", e.written, "\n", indentation, e.about, "\n",
    match e.remark with
    | some remark => String.join [indentation, "\n", indentation, remark, "\n"]
    | none => ""]

end HelpEntry

/-- The entries of a section, below its title. -/
def helpSection (title : String) (isFull : Bool) (entries : List HelpEntry) : String :=
  let width := entries.foldl (fun n e => max n e.written.length) 0
  let body := if isFull then "\n".intercalate (entries.map HelpEntry.full)
    else String.join (entries.map (·.brief width))
  String.join ["\n", title, ":\n", body]

/-- A name for the value of an option, if the option has a value. -/
def OptionRule.valueName? (o : OptionRule) : Option String :=
  if o.value = .nothing then none else some (String.join ["<", o.long.toUpper, ">"])

def OptionRule.longForm (o : OptionRule) : String :=
  " ".intercalate (("--" ++ o.long) :: o.valueName?.toList)

def OptionRule.entry (o : OptionRule) (about : String) (remark : Option String) : HelpEntry :=
  let letter := match o.short with
    | some c => String.ofList ['-', c, ',', ' ']
    | none => "    "
  ⟨letter ++ o.longForm, about, remark⟩

/-- Options that stand at the same place in their tables are listed by their letters, or by their
names where they have none. -/
def OptionRule.sortText (o : OptionRule) : String :=
  match o.short with
  | some c => String.ofList [c, '0']
  | none => o.long

/-- The options of a command and the shared ones, merged place by place. -/
def listedOptions (own : List OptionRule) : List OptionRule :=
  let numbered := own.zipIdx ++ (sharedOptions.map (·.1)).zipIdx
  let sorted := numbered.mergeSort fun (a, i) (b, j) =>
    i < j || (i = j && a.sortText ≤ b.sortText)
  sorted.map (·.1)

/-- The remark of a shared option: the variable that stands in for it, and its value. -/
def variableRemark (environment : List (String × String)) (o : OptionRule) : Option String :=
  (sharedOptions.lookup o).map fun name =>
    String.join ["[env: ", name, "=", (environment.lookup name).getD "", "]"]

/-- The section on options. Where there is more to read, the option for help says so. -/
def optionSection (environment : List (String × String)) (own : List OptionRule)
    (hasMore isFull : Bool) : String :=
  let more := if !hasMore then "" else if isFull then " (see a summary with '-h')"
    else " (see more with '--help')"
  let entry := fun (o : OptionRule) =>
    o.entry (if o.key = .help then o.about ++ more else o.about) (variableRemark environment o)
  helpSection "Options" isFull ((listedOptions own ++ askingOptions).map entry)

def helpHead (about : String) (usage : List String) : String :=
  String.join [about, "\n\nUsage: ", " ".intercalate (programName :: usage), "\n"]

def helpCommandEntry : HelpEntry :=
  ⟨"help", "Print this message or the help of the given subcommand(s)", none⟩

def programHelp (environment : List (String × String)) : String :=
  let commands := CommandName.all.map fun c => ⟨c.name, c.about, none⟩
  String.join [helpHead "Tokenize and colour source files" ["[OPTIONS]", "<COMMAND>"],
    helpSection "Commands" false (commands ++ [helpCommandEntry]),
    optionSection environment [] false false]

def commandHelp (environment : List (String × String)) (c : CommandName) (full : Bool) : String :=
  let hasMore := c.details?.isSome
  let isFull := full && hasMore
  let about := match c.details? with
    | some details => if full then String.join [c.about, "\n\n", details] else c.about
    | none => c.about
  let needed := c.options.filter fun o => c.required.contains o.key
  let target := c.target?.map fun (name, about) =>
    (if c.required.contains .target then String.join ["<", name, ">"]
      else String.join ["[", name, "]"], about)
  let usage := [c.name, "[OPTIONS]"] ++ needed.map (·.longForm) ++ (target.map (·.1)).toList
  let arguments := match target with
    | some (name, about) => helpSection "Arguments" isFull [⟨name, about, none⟩]
    | none => ""
  String.join [helpHead about usage, arguments,
    optionSection environment c.options hasMore isFull]

def HelpTopic.text (environment : List (String × String)) (full : Bool) : HelpTopic → String
  | program => programHelp environment
  | command c => commandHelp environment c full
  | help => String.join [helpHead helpCommandEntry.about ["help", "[COMMAND]..."],
      helpSection "Arguments" false [⟨"[COMMAND]...", "Print help for the subcommand(s)", none⟩]]

def Rejection.output (environment : List (String × String)) : Rejection → String
  | helpAsked topic full => topic.text environment full
  | versionAsked command =>
    let name := "-".intercalate (programName :: (command.map (·.name)).toList)
    String.join [name, " ", programVersion, "\n"]
  | _ => ""

end Highlighter.Console
