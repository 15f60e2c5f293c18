import Highlighter.Catalog.Compile
import Highlighter.Console.Arguments
import Highlighter.Console.Config
import Highlighter.Console.Listing
import Highlighter.Console.Notice

/-! Running commands. A command is a function of the files: its outcome is what it prints, what it
leaves behind, and the notices on its way. -/
namespace Highlighter.Console

/-- What a program can know of the place it runs in. -/
structure Environment where
  /-- The directory of the user. -/
  home : Option String
  /-- The directory for settings of all programs, if it is not the usual one. -/
  configHome : Option String
  processors : Nat

/-- What a command has done. -/
structure Outcome where
  output : String
  error : Option CommandError
  notices : List Notice
  files : FileStore

namespace Outcome

def failed (error : CommandError) (notices : List Notice) (files : FileStore) : Outcome :=
  ⟨"", some error, notices, files⟩

def succeeded (output : String) (notices : List Notice) (files : FileStore) : Outcome :=
  ⟨output, none, notices, files⟩

def exitCode (o : Outcome) : Nat := if o.error.isSome then 1 else 0

end Outcome

def unlines (lines : List String) : String := String.join (lines.map (· ++ "\n"))

/-- A text of which the last line is ended. -/
def endedText (text : List Char) : String :=
  String.ofList (if text.isEmpty || text.getLast? = some '\n' then text else text ++ ['\n'])

def eventNotices (events : List Catalog.Event) : List Notice := events.map Notice.ofEvent

/-- The definition for a document, with the notices of finding it. -/
def openLanguage (files : FileStore) (settings : Catalog.Settings) (path : String)
    (language : Option String) : Definition × List Notice :=
  let c := Catalog.start files settings
  let events := Catalog.startEvents files settings ++
    match language with
    | none => c.resolvePathEvents files path
    | some language =>
      let (shared, c') := c.resolve files language
      c.resolveEvents files language ++
        if shared.definition.isPlainText then c'.byNameEvents files language else []
  ((selectLanguage c files path language).1.definition, eventNotices events)

/-- Prints a document in some way that needs its definition. -/
def printDocument (files : FileStore) (settings : Catalog.Settings) (path : String)
    (language : Option String) (what : String) (before : List Notice)
    (print : Buffer → Definition → Except CommandError (String × Notice)) : Outcome :=
  match files.read path with
  | .error fault => .failed (.unreadable path fault) before files
  | .ok bytes =>
    let b := Buffer.ofBytes path bytes
    let (d, found) := openLanguage files settings path language
    let notices := before ++ Notice.fileLoaded b ++ found ++ [Notice.working what d.name]
    match print b d with
    | .error error => .failed error notices files
    | .ok (output, done) => .succeeded output (notices ++ [done]) files

def runTokens (files : FileStore) (config : Config) (file : String)
    (language lines : Option String) (noWhitespace json : Bool) : Outcome :=
  printDocument files (config.catalogSettings none) file language "scanning" [] fun b d => do
    let rows ← tokenRows b d lines json (config.emitWhitespace && !noWhitespace)
    return (unlines rows, .done "tokens" (some ("tokens", rows.length)))

def runHighlight (files : FileStore) (config : Config) (noColor : Bool) (file : String)
    (language lines : Option String) : Outcome :=
  printDocument files (config.catalogSettings none) file language "highlighting"
    (Notice.overrides config.palette) fun b d => do
      let palette := Palette.mocha.override config.palette
      let text ← highlight b d lines (if noColor then none else some palette)
      return (endedText text, .done "highlight" none)

/-- Compiles all languages. Compiled files are what it makes, so it reads none. -/
def runCompile (files : FileStore) (config : Config) (out : String) (source : Option String) :
    Outcome :=
  if files.has out && !files.isDirectory out then .failed (.notDirectory out) [] files
  else
    let settings := { config.catalogSettings source with compiledDir := none }
    let c := Catalog.start files settings
    let notices := eventNotices (Catalog.startEvents files settings ++ c.compileAllEvents files out)
    match c.compileAll files out with
    | (.error error, files) => .failed (.language error) notices files
    | (.ok paths, files) =>
      .succeeded (unlines (paths ++ [s!"Compiled {paths.length} language(s) into {out}"]))
        (notices ++ [.done "compile" (some ("files", paths.length))]) files

def runRebuildMap (files : FileStore) (config : Config) (source out : Option String) : Outcome :=
  let settings := config.catalogSettings source
  let settings := { settings with mapPath := out.or settings.mapPath }
  let c := Catalog.start files settings
  let notices := eventNotices (Catalog.startEvents files settings ++ c.rebuildEvents files)
  match c.rebuild files with
  | (.error error, files) => .failed (.language error) notices files
  | (.ok (extensions, _), files) =>
    let output := match settings.mapPath with
      | some path => s!"Wrote {extensions.size} extension(s) to {path}"
      | none => extensions.render
    .succeeded (unlines [output])
      (notices ++ [.done "rebuild-map" (some ("entries", extensions.size))]) files

def runLanguages (files : FileStore) (config : Config) (source : Option String) : Outcome :=
  let settings := config.catalogSettings source
  let languages := (Catalog.start files settings).languages
  let rows := languages.map fun (name, extensions) =>
    String.join [Text.alignLeft 12 name, " ", " ".intercalate extensions]
  .succeeded (unlines rows)
    (eventNotices (Catalog.startEvents files settings) ++
      [.done "languages" (some ("count", languages.length))]) files

def runInit (files : FileStore) (config : Config) (processors : Nat) (path : Option String)
    (force print : Bool) : Outcome :=
  let done := Notice.done "init" none
  if print then .succeeded (config.render processors) [done] files
  else
    let path := path.getD Config.fileName
    if files.has path && !force then .failed (.alreadyThere path) [] files
    else match config.save processors files path with
      | (.error error, files) => .failed error [] files
      | (.ok (), files) => .succeeded (unlines [String.join ["Wrote ", path]]) [done] files

def Command.run (files : FileStore) (config : Config) (processors : Nat) (noColor : Bool) :
    Command → Outcome
  | tokens file language lines noWhitespace json =>
    runTokens files config file language lines noWhitespace json
  | highlight file language lines => runHighlight files config noColor file language lines
  | compile out source _ => runCompile files config out source
  | rebuildMap source out => runRebuildMap files config source out
  | languages source => runLanguages files config source
  | init path force print => runInit files config processors path force print

def Arguments.run (a : Arguments) (environment : Environment) (files : FileStore) : Outcome :=
  let path := Config.path? files environment.home environment.configHome a.config
  match (path.map (Config.load files)).getD (.ok {}) with
  | .error error => .failed error [] files
  | .ok config =>
    let outcome := a.command.run files config environment.processors a.noColor
    let loaded := (path.map Notice.configLoaded).toList
    { outcome with notices := (loaded ++ outcome.notices).filter (Notice.isShown a.verbose) }

end Highlighter.Console
