import Highlighter.Console.Command
import Highlighter.Console.Help

/-! The program. The files that a command looks at are read first; then the command runs, and what
it has changed is written. -/
namespace Highlighter.Console

/-- What is on the disk at a path, if it can be read. -/
def diskNode? (path : String) : IO (Option FileNode) := do
  let .ok real ← (IO.FS.realPath path).toBaseIO | return none
  if ← real.isDir then return some .directory
  let .ok bytes ← (IO.FS.readBinFile real).toBaseIO | return none
  return some (.file bytes.toList)

/-- The store with what is on the disk at a path and on the way to it. -/
def loadPath (files : FileStore) (path : String) : IO FileStore := do
  let names := Path.names path
  let start := if Path.isAbsolute path then "/" else ""
  (List.range names.length).foldlM (fun files n => do
    let path := start ++ "/".intercalate (names.take (n + 1))
    match files.locate path, ← diskNode? path with
    | .ok place, some node => return files.put place node
    | _, _ => return files) files

/-- The store with a directory on the disk and what is in it. -/
def loadDirectory (files : FileStore) (path : String) : IO FileStore := do
  let files ← loadPath files path
  let .ok real ← (IO.FS.realPath path).toBaseIO | return files
  if ← real.isDir then
    (← real.readDir).foldlM (fun files entry => loadPath files (Path.join path entry.fileName)) files
  else return files

/-- The directory whose files a command reads or replaces. -/
def Command.directory? (config : Config) : Command → Option String
  | compile out .. => some out
  | _ => config.compiledDir

/-- The files that a command reads or replaces, its settings and its directory apart. -/
def Command.paths (config : Config) (command : Command) : List String :=
  let own := match command with
    | tokens file .. | highlight file .. => [file]
    | compile _ source _ | languages source => source.toList
    | rebuildMap source out => source.toList ++ out.toList
    | init path .. => [path.getD Config.fileName]
  own ++ config.languageSource.toList ++ config.mapPath.toList

/-- The files that count for a command line. -/
def loadFiles (a : Arguments) (environment : Environment) : IO FileStore := do
  let settings := a.config.toList ++ Config.places environment.home environment.configHome
  let files ← settings.foldlM loadPath ∅
  let path := Config.path? files environment.home environment.configHome a.config
  let config := ((path.map (Config.load files)).getD (.ok {})).toOption.getD {}
  let files ← (a.command.paths config).foldlM loadPath files
  (a.command.directory? config).toList.foldlM loadDirectory files

def pathOf : Place → String
  | "/" :: names => "/" ++ "/".intercalate names
  | names => "/".intercalate names

/-- Writes what has changed in a store. Directories are before what is in them. -/
def writeChanges (before after : FileStore) : IO Unit :=
  after.nodes.forM fun (place, node) =>
    if before.nodeAt? place = some node then return
    else match node with
      | .directory => IO.FS.createDirAll (pathOf place)
      | .file contents => IO.FS.writeBinFile (pathOf place) ⟨contents.toArray⟩

/-- The number of processors, or one where it is not known. -/
def countProcessors : IO Nat := do
  let .ok text ← (IO.FS.readFile "/proc/cpuinfo").toBaseIO | return 1
  return max 1 ((text.splitOn "\n").filter (·.startsWith "processor")).length

/-- The variables of the environment that stand in for options. -/
def optionVariables : IO (List (String × String)) :=
  sharedOptions.filterMapM fun (_, name) => do return (← IO.getEnv name).map (name, ·)

def readEnvironment : IO Environment := do
  return {
    home := (← IO.getEnv "HOME").filter (· != "")
    configHome := (← IO.getEnv "XDG_CONFIG_HOME").filter Path.isAbsolute
    processors := ← countProcessors }

/-- Prints what there is to say of a rejected command line, and returns the exit code. -/
def reject (r : Rejection) : IO UInt32 := do
  let environment ← optionVariables
  IO.print (r.output environment)
  if r = .nothingGiven then IO.eprint (HelpTopic.program.text environment false)
  else if !r.isAnswer then IO.eprintln ("error: " ++ r.message)
  return r.exitCode.toUInt32

/-- Runs a command on the disk, and returns the exit code. -/
def runOnDisk (a : Arguments) : IO UInt32 := do
  let environment ← readEnvironment
  let files ← loadFiles a environment
  let outcome := a.run environment files
  outcome.notices.forM fun n => IO.eprintln n.line
  writeChanges files outcome.files
  IO.print outcome.output
  outcome.error.forM fun error => IO.eprintln ("Error: " ++ error.message)
  return outcome.exitCode.toUInt32

/-- Runs the program with its arguments, and returns the exit code. -/
def runProgram (args : List String) : IO UInt32 := do
  match Arguments.parse (← optionVariables) args with
  | .error r => reject r
  | .ok a => runOnDisk a

end Highlighter.Console

def main (args : List String) : IO UInt32 := Highlighter.Console.runProgram args
