import Highlighter.Catalog.Basic
import Highlighter.Console.Error
import Highlighter.Palette.Basic
import Highlighter.Toml.Writer

/-! Settings of the command line, and the file that they come from. -/
namespace Highlighter.Console

structure Config where
  languageSource : Option String := none
  compiledDir : Option String := none
  mapPath : Option String := none
  emitWhitespace : Bool := true
  jobs : Option Nat := none
  palette : Palette := ∅
deriving DecidableEq, Repr

namespace Config

def fileName : String := "tinct.toml"

def ofEntries (entries : Toml.Entries) : Except Toml.Fault Config := do
  let f : Toml.Fields := ⟨entries, []⟩
  let scan ← f.withDefault "scan" 3 ⟨[], []⟩ Toml.asFields
  let compile ← f.withDefault "compile" 4 ⟨[], []⟩ Toml.asFields
  return {
    languageSource := ← f.optional "language_source" 0 Toml.asString
    compiledDir := ← f.optional "compiled_dir" 1 Toml.asString
    mapPath := ← f.optional "extension_map" 2 Toml.asString
    emitWhitespace := ← scan.withDefault "emit_whitespace" 0 true Toml.asBool
    jobs := ← compile.optional "jobs" 0 Toml.asNat
    palette := ← f.withDefault "palette" 5 ∅ fun v => Toml.asFields v >>= Palette.ofFields }

def parse (text : String) : Except Toml.Fault Config := Toml.parse text >>= ofEntries

def load (files : FileStore) (path : String) : Except CommandError Config :=
  if files.has path then do
    let text ← (files.readText path).mapError .files
    (parse text).mapError .configMalformed
  else .error (.configMissing path)

/-- The places where a file with settings is looked for: the working directory, the usual directory
for settings, and another one if there is one. -/
def places (home configHome : Option String) : List String :=
  fileName :: ((home.map (Path.join · ".config")).toList ++ configHome.toList).map fun dir =>
    Path.join (Path.join dir "tinct") fileName

/-- The file with settings that counts: the one asked for, or else the first one that is there. -/
def path? (files : FileStore) (home configHome asked : Option String) : Option String :=
  asked.or ((places home configHome).find? files.has)

/-- The settings of a catalog, in which another source may take the place of the one set. -/
def catalogSettings (c : Config) (source : Option String) : Catalog.Settings :=
  { source := match source.or c.languageSource with
      | some path => .file path
      | none => .bundled
    compiledDir := c.compiledDir
    mapPath := c.mapPath }

/-- The written form of the settings, with `processors` jobs unless a number is set. -/
def render (c : Config) (processors : Nat) : String :=
  let texts := [("language_source", c.languageSource), ("compiled_dir", c.compiledDir),
    ("extension_map", c.mapPath)]
  let top := texts.filterMap fun (key, text) => text.map (Toml.keyLine key ∘ Toml.quote)
  let colors := Category.all.filterMap fun category =>
    (c.palette.color? category).map fun color =>
      Toml.keyLine category.name (Toml.quote (toString color))
  let groups := c.palette.keywordGroups.map (Toml.quote ∘ toString)
  let tables := [
    Toml.tableLines "scan"
      [Toml.keyLine "emit_whitespace" (if c.emitWhitespace then "true" else "false")],
    Toml.tableLines "compile" [Toml.keyLine "jobs" (toString (c.jobs.getD processors))],
    Toml.tableLines "palette"
      (colors ++ if groups.isEmpty then [] else [Toml.keyLine "keyword_groups" (Toml.arrayOf groups)])]
  "\n".intercalate (if top.isEmpty then tables else String.join top :: tables)

/-- The files after writing the settings, and what went wrong. Missing directories are made. -/
def save (c : Config) (processors : Nat) (files : FileStore) (path : String) :
    Except CommandError Unit × FileStore :=
  match files.createParents path with
  | (files, some fault) => (.error (.files fault), files)
  | (files, none) =>
    match files.writeText path (c.render processors) with
    | .error fault => (.error (.files fault), files)
    | .ok files => (.ok (), files)

end Config
end Highlighter.Console
