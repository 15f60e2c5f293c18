import Highlighter.Language.Bundled
import Highlighter.Language.Compiled.Basic
import Highlighter.Language.ExtensionFile

/-! A catalog of languages: it finds the definition for a name or for a file extension, from a
compiled file when there is a good one and from the language source otherwise. Definitions that have
been found are kept. A look-up never fails: what cannot be found or read is plain text. -/
namespace Highlighter

/-- Where the language source is. -/
inductive SourceLocation where
  | bundled
  | file (path : String)
  | inline (text : String)
deriving DecidableEq, Repr

def FileStore.textAt (files : FileStore) (path : String) : Except LanguageError String :=
  (files.readText path).mapError (.unusableFile path)

def SourceLocation.load (files : FileStore) : SourceLocation → Except LanguageError LanguageSource
  | bundled => .ok Bundled.source
  | file path => files.textAt path >>= LanguageSource.parse
  | inline text => LanguageSource.parse text

def ExtensionMap.load (files : FileStore) (path : String) : Except LanguageError ExtensionMap :=
  files.textAt path >>= ExtensionMap.parse

/-- The files after writing a map, and what went wrong. Missing directories are made. -/
def ExtensionMap.save (m : ExtensionMap) (files : FileStore) (path : String) :
    Except LanguageError Unit × FileStore :=
  let (files, fault) := files.createParents path
  match fault with
  | some fault => (.error (.unusableFile (Path.parent path) fault), files)
  | none =>
    match files.writeText path m.render with
    | .error fault => (.error (.unusableFile path fault), files)
    | .ok files => (.ok (), files)

namespace Catalog

structure Settings where
  source : SourceLocation := .bundled
  /-- The directory of the compiled languages. -/
  compiledDir : Option String := none
  /-- The file of the extension map. -/
  mapPath : Option String := none
deriving DecidableEq, Repr

/-- A definition that look-ups share; the same number means the same definition. -/
structure Shared where
  number : Nat
  definition : Definition

/-- The definition that stands in for every language that cannot be had. -/
def plain : Shared := ⟨0, .plainText⟩

/-- The state of the file that a language would be compiled into. -/
inductive CompiledFile where
  | absent
  | usable (definition : Definition)
  /-- It holds a language of another name. -/
  | foreign (name : String)
  | unusable (error : LanguageError)

/-- How a language is had. -/
inductive Finding where
  | compiled (definition : Definition)
  | built (definition : Definition)
  | malformed (error : LanguageError)
  | unknown

/-- The definition of a finding; without one the language is plain text. -/
def Finding.definition? : Finding → Option Definition
  | compiled d | built d => some d
  | malformed _ | unknown => none

end Catalog

open Catalog in
structure Catalog where
  settings : Settings
  source : LanguageSource
  extensions : ExtensionMap
  /-- The definitions found so far, by the names they were asked for. -/
  found : List (String × Shared)
  /-- The number of the next definition. -/
  nextNumber : Nat

namespace Catalog

/-- The source of the settings; one that cannot be had has no languages. -/
def sourceOf (files : FileStore) (settings : Settings) : LanguageSource :=
  match settings.source.load files with
  | .ok source => source
  | .error _ => ∅

/-- The extension map in the file of the settings, if there is one. -/
def savedMap? (files : FileStore) (settings : Settings) :
    Option (String × Except LanguageError ExtensionMap) :=
  settings.mapPath.bind fun path =>
    if files.isFile path then some (path, ExtensionMap.load files path) else none

/-- The catalog at the start. A saved extension map that can be read takes the place of the one of
the source. -/
def start (files : FileStore) (settings : Settings) : Catalog :=
  let source := sourceOf files settings
  let extensions := match savedMap? files settings with
    | some (_, .ok saved) => saved
    | _ => source.extensionMap
  ⟨settings, source, extensions, [], 1⟩

def bundled : Catalog := start ∅ {}

def fullName (c : Catalog) (name : String) : String :=
  ((c.source.find? name).bind (·.name)).getD name

def compiledPath? (c : Catalog) (fullName : String) : Option String :=
  c.settings.compiledDir.map (Path.join · (Compiled.fileName fullName))

/-- What the compiled file of a language holds. -/
def compiledFile (files : FileStore) (path fullName : String) : CompiledFile :=
  if files.isFile path then
    match files.textAt path >>= Compiled.parse with
    | .ok d => if d.name = fullName then .usable d else .foreign d.name
    | .error error => .unusable error
  else .absent

def build (c : Catalog) (name : String) : Finding :=
  match (c.source.find? name).map LanguageRecord.declaration with
  | some (.ok declaration) => .built (.build declaration)
  | some (.error error) => .malformed error
  | none => .unknown

def find (c : Catalog) (files : FileStore) (name : String) : Finding :=
  match (c.compiledPath? (c.fullName name)).map (compiledFile files · (c.fullName name)) with
  | some (.usable d) => .compiled d
  | _ => c.build name

def byName (c : Catalog) (files : FileStore) (name : String) : Shared × Catalog :=
  match c.found.lookup name with
  | some shared => (shared, c)
  | none =>
    match (c.find files name).definition? with
    | some d =>
      let shared : Shared := ⟨c.nextNumber, d⟩
      (shared, { c with found := c.found ++ [(name, shared)], nextNumber := c.nextNumber + 1 })
    | none => (plain, { c with found := c.found ++ [(name, plain)] })

def resolve (c : Catalog) (files : FileStore) (extension : String) : Shared × Catalog :=
  match c.extensions.get? (Extension.normalize extension) with
  | some name => c.byName files name
  | none => (plain, c)

def resolvePath (c : Catalog) (files : FileStore) (path : String) : Shared × Catalog :=
  match Path.extension? path with
  | some extension => c.resolve files extension
  | none => (plain, c)

def foundCount (c : Catalog) : Nat := c.found.length

/-- The catalog without the definitions found so far. -/
def clear (c : Catalog) : Catalog := { c with found := [] }

def languages (c : Catalog) : List (String × List String) := c.source.records.filterMap (·.summary?)

/-- Reads the source again, derives the extension map from it, and saves the map. When something
goes wrong the catalog stays as it is. -/
def rebuild (c : Catalog) (files : FileStore) :
    Except LanguageError (ExtensionMap × Catalog) × FileStore :=
  match c.settings.source.load files with
  | .error error => (.error error, files)
  | .ok source =>
    let extensions := source.extensionMap
    let rebuilt : Catalog := { c with source, extensions, found := [] }
    match c.settings.mapPath.map (extensions.save files) with
    | none => (.ok (extensions, rebuilt), files)
    | some (.ok (), files) => (.ok (extensions, rebuilt), files)
    | some (.error error, files) => (.error error, files)

end Catalog
end Highlighter
