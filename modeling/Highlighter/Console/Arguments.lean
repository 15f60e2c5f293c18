import Highlighter.Console.Option
import Highlighter.Text.Blank

/-! Reading the command line. Arguments are read from left to right. An option that takes a value is
settled only when the next option, the next file or the end shows that its value is complete, so of
several mistakes the one that settles first is reported. -/
namespace Highlighter.Console

inductive Command where
  | tokens (file : String) (language lines : Option String) (noWhitespace json : Bool)
  | highlight (file : String) (language lines : Option String)
  | compile (out : String) (source : Option String) (jobs : Option Nat)
  | rebuildMap (source out : Option String)
  | languages (source : Option String)
  | init (path : Option String) (force print : Bool)
deriving DecidableEq, Repr

structure Arguments where
  verbose : Bool
  config : Option String
  noColor : Bool
  command : Command
deriving DecidableEq, Repr

/-- The options of the command line before the name of a command, or after it. -/
structure Level where
  /-- The command, if its name has been read. -/
  command : Option CommandName
  options : List OptionRule

namespace Level

def root : Level := ⟨none, commonOptions⟩

def ofCommand (c : CommandName) : Level := ⟨some c, c.options ++ commonOptions⟩

/-- What help is about when it is asked for at a level. -/
def topic (level : Level) : HelpTopic :=
  match level.command with
  | none => .program
  | some c => .command c

end Level

/-- The options and values read so far. -/
structure Reading where
  given : List (OptionKey × String) := []
  /-- An option that is not settled yet, with its value if that has been read. -/
  pending : Option (OptionRule × Option String) := none
  hasTarget : Bool := false
  filesOnly : Bool := false

namespace Reading

/-- Records an option with its value. No option can be given twice. -/
def record (r : Reading) (option : OptionRule) (value : String) : Except Rejection Reading :=
  if (r.given.lookup option.key).isSome then .error .conflict
  else do
    option.value.check value
    return { r with given := r.given ++ [(option.key, value)] }

def settle (r : Reading) : Except Rejection Reading :=
  match r.pending with
  | none => .ok r
  | some (_, none) => .error .badValue
  | some (option, some value) => { r with pending := none }.record option value

def awaitsValue (r : Reading) : Bool := r.pending.any (·.2.isNone)

/-- Takes an option without a value, by its long name or by its letter. -/
def takeFlag (level : Level) (r : Reading) (option : OptionRule) (long : Bool) :
    Except Rejection Reading := do
  let r ← r.settle
  match option.key with
  | .help => throw (.helpAsked level.topic long)
  | .version => throw (.versionAsked level.command)
  | _ => r.record option "true"

/-- Takes an option that has a value, which may be attached to it. -/
def takeOption (r : Reading) (option : OptionRule) (attached : Option String) :
    Except Rejection Reading := do
  let r ← r.settle
  match attached with
  | some value => r.record option value
  | none => return { r with pending := some (option, none) }

/-- Takes an option with a long name, after its two dashes. -/
def takeLong (level : Level) (r : Reading) (text : List Char) : Except Rejection Reading :=
  let (name, attached) := match Text.cut? '=' text with
    | some (name, value) => (name, some (String.ofList value))
    | none => (text, none)
  match level.options.find? (·.long.toList = name), attached with
  | none, _ => .error .unknownArgument
  | some option, attached =>
    if option.value != .nothing then r.takeOption option attached
    else if attached.isSome then .error .surplusValue
    else r.takeFlag level option true

/-- Takes options of one letter, after their dash. -/
def takeShort (level : Level) (r : Reading) : List Char → Except Rejection Reading
  | [] => .ok r
  | c :: rest =>
    match level.options.find? (·.short = some c) with
    | none => .error .unknownArgument
    | some option =>
      if option.value = .nothing then do
        takeShort level (← r.takeFlag level option false) rest
      else
        r.takeOption option (match rest with
          | [] => none
          | '=' :: value => some (String.ofList value)
          | value => some (String.ofList value))

/-- The rule for a file or path without an option. -/
def targetRule : OptionRule := ⟨.target, "", none, .path, ""⟩

/-- Takes a file or path, if one is due. -/
def takeTarget (level : Level) (r : Reading) (text : String) : Except Rejection Reading :=
  if level.command.any (·.target?.isSome) && !r.hasTarget then do
    let r ← r.settle
    return { r with pending := some (targetRule, some text), hasTarget := true }
  else if level.command.isSome then .error .unknownArgument
  else if r.filesOnly && (text = "help" || (CommandName.ofName? text).isSome) then
    .error .unknownArgument
  else .error .unknownCommand

def take (level : Level) (r : Reading) (text : String) : Except Rejection Reading :=
  let value := fun (_ : Unit) =>
    match r.pending with
    | some (option, none) => .ok { r with pending := some (option, some text) }
    | _ => r.takeTarget level text
  if r.filesOnly then r.takeTarget level text
  else match text.toList with
    | ['-', '-'] => .ok { r with filesOnly := true }
    | '-' :: '-' :: name => r.takeLong level name
    | ['-'] => value ()
    | '-' :: letters => r.takeShort level letters
    | _ => value ()

end Reading

/-- The answer to a request for help on the command that `names` lead to. -/
def helpOn : List String → Rejection
  | [] => .helpAsked .program true
  | [name] =>
    if name = "help" then .helpAsked .help true
    else match CommandName.ofName? name with
      | some c => .helpAsked (.command c) true
      | none => .unknownCommand
  | _ => .unknownCommand

/-- Reads the arguments of a level; before the name of a command up to that name, which is returned
with the arguments after it. -/
def readLevel (level : Level) (r : Reading) :
    List String → Except Rejection (Reading × Option (CommandName × List String))
  | [] => .ok (r, none)
  | text :: rest =>
    let named := level.command.isNone && !r.filesOnly && !r.awaitsValue
    if named && text = "help" then .error (helpOn rest)
    else match (if named then CommandName.ofName? text else none) with
      | some command => .ok (r, some (command, rest))
      | none => do readLevel level (← r.take level text) rest

def environmentValues (environment : List (String × String)) (given : List (OptionKey × String)) :
    Except Rejection (List (OptionKey × String)) := do
  let values := sharedOptions.filterMap fun (option, name) =>
    if (given.lookup option.key).isSome then none
    else (environment.lookup name).map (option, ·)
  values.mapM fun (option, value) => do
    option.value.check value
    return (option.key, value)

/-- Whether the options of a command go together and none is missing. -/
def checkCommand (command : CommandName) (given : List (OptionKey × String)) :
    Except Rejection Unit :=
  let has := fun key => (given.lookup key).isSome
  if command.exclusive.any fun (a, b) => has a && has b then .error .conflict
  else if command.required.all has then .ok ()
  else .error .missingArgument

def Command.ofGiven (name : CommandName) (given : List (OptionKey × String)) : Command :=
  let value := fun key => given.lookup key
  let has := fun key => (given.lookup key).isSome
  let target := (value .target).getD ""
  match name with
  | .tokens =>
    .tokens target (value .language) (value .lines) (has .noWhitespace) (has .json)
  | .highlight => .highlight target (value .language) (value .lines)
  | .compile =>
    .compile ((value .out).getD "") (value .source)
      ((value .jobs).bind fun text => Text.decimal? Text.limit64 text.toList)
  | .rebuildMap => .rebuildMap (value .source) (value .out)
  | .languages => .languages (value .source)
  | .init => .init (value .target) (has .force) (has .print)

/-- The command in a command line. What is given after the name of the command counts more than what
is given before it, and both count more than the environment. -/
def Arguments.parse (environment : List (String × String)) (texts : List String) :
    Except Rejection Arguments := do
  let (before, command) ← readLevel .root {} texts
  match command with
  | none =>
    let before ← before.settle
    let values ← environmentValues environment before.given
    throw (if before.given.isEmpty && values.isEmpty then .nothingGiven else .noCommand)
  | some (name, rest) =>
    let (after, _) ← readLevel (.ofCommand name) {} rest
    let after ← after.settle
    let _ ← environmentValues environment after.given
    checkCommand name after.given
    let before ← before.settle
    let values ← environmentValues environment before.given
    let given := after.given ++ before.given ++ values
    return {
      verbose := given.lookup .verbose = some "true"
      config := given.lookup .config
      noColor := given.lookup .noColor = some "true"
      command := .ofGiven name after.given }

end Highlighter.Console
