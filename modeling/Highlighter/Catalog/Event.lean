import Highlighter.Catalog.Compile

/-! What happens in a catalog that its user may want to know of. -/
namespace Highlighter.Catalog

inductive Event where
  | sourceUnusable (error : LanguageError)
  | mapLoaded (path : String)
  | mapIgnored (path : String) (error : LanguageError)
  | conflict (conflict : ExtensionMap.Conflict)
  | ready (languages extensions : Nat)
  | remark (remark : Compiled.Remark)
  | compiledLoaded (language path : String)
  | compiledForeign (language found path : String)
  | compiledUnusable (language path : String) (error : LanguageError)
  | repeated (language : String) (repeated : Repeated)
  | built (language : String)
  | malformed (language : String) (error : LanguageError)
  | unknown (language : String)
  | mapWritten (path : String) (entries : Nat)
  | mapRebuilt (entries : Nat)
  | compiledAll (count : Nat) (dir : String)

def startEvents (files : FileStore) (settings : Settings) : List Event :=
  let source := sourceOf files settings
  let sourceEvents := match settings.source.load files with
    | .ok _ => []
    | .error error => [Event.sourceUnusable error]
  let conflicts := source.conflicts.map Event.conflict
  let mapEvents := match savedMap? files settings with
    | none => conflicts
    | some (path, .ok _) => [.mapLoaded path]
    | some (path, .error error) => .mapIgnored path error :: conflicts
  let c := start files settings
  sourceEvents ++ mapEvents ++ [.ready c.source.records.length c.extensions.size]

def buildEvents (d : Declaration) : List Event := d.repeated.map (Event.repeated d.name)

def compiledEvents (files : FileStore) (path fullName : String) : List Event :=
  let remarks := match files.readText path with
    | .ok text => (Compiled.remarks text).map Event.remark
    | .error _ => []
  match compiledFile files path fullName with
  | .absent => []
  | .usable _ => remarks ++ [.compiledLoaded fullName path]
  | .foreign name => remarks ++ [.compiledForeign fullName name path]
  | .unusable error => remarks ++ [.compiledUnusable fullName path error]

def findEvents (c : Catalog) (files : FileStore) (name : String) : List Event :=
  let fullName := c.fullName name
  let fromFile := match c.compiledPath? fullName with
    | some path => compiledEvents files path fullName
    | none => []
  let fromSource := match c.find files name, (c.source.find? name).map LanguageRecord.declaration with
    | .built _, some (.ok declaration) => .built fullName :: buildEvents declaration
    | .malformed error, _ => [.malformed name error]
    | .unknown, _ => [.unknown name]
    | _, _ => []
  fromFile ++ fromSource

/-- The events of a look-up by name; a definition found before makes none. -/
def byNameEvents (c : Catalog) (files : FileStore) (name : String) : List Event :=
  if (c.found.lookup name).isSome then [] else c.findEvents files name

/-- The events of a look-up by extension. -/
def resolveEvents (c : Catalog) (files : FileStore) (extension : String) : List Event :=
  match c.extensions.get? (Extension.normalize extension) with
  | some name => c.byNameEvents files name
  | none => []

/-- The events of a look-up by path. -/
def resolvePathEvents (c : Catalog) (files : FileStore) (path : String) : List Event :=
  match Path.extension? path with
  | some extension => c.resolveEvents files extension
  | none => []

def rebuildEvents (c : Catalog) (files : FileStore) : List Event :=
  match c.settings.source.load files, c.rebuild files with
  | .error _, _ => []
  | .ok source, (result, _) =>
    let finished := match result, c.settings.mapPath with
      | .error _, _ => []
      | .ok (extensions, _), some path =>
        [.mapWritten path extensions.size, .mapRebuilt extensions.size]
      | .ok (extensions, _), none => [.mapRebuilt extensions.size]
    source.conflicts.map Event.conflict ++ finished

/-- The events of compiling records up to the first one that fails. -/
def compileRecordsEvents (files : FileStore) (dir : String) : List LanguageRecord → List Event
  | [] => []
  | record :: rest =>
    match record.declaration with
    | .error _ => []
    | .ok declaration =>
      buildEvents declaration ++
        match saveCompiled files dir (.build declaration) with
        | (.error _, _) => []
        | (.ok _, files) => compileRecordsEvents files dir rest

def compileAllEvents (c : Catalog) (files : FileStore) (dir : String) : List Event :=
  let finished := match c.compileAll files dir with
    | (.ok paths, _) => [Event.compiledAll paths.length dir]
    | (.error _, _) => []
  match clashAfter? [] c.source.names, files.createDirectories dir with
  | none, (files, none) => compileRecordsEvents files dir c.source.records ++ finished
  | _, _ => []

end Highlighter.Catalog
