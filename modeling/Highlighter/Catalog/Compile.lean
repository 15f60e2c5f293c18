import Highlighter.Catalog.Basic

/-! Compiling all languages of a catalog into a directory. -/
namespace Highlighter.Catalog

/-- The first two names that are compiled into the same file, given the names before them with
their files. -/
def clashAfter? (seen : List (String × String)) : List String → Option (String × String × String)
  | [] => none
  | name :: rest =>
    let file := Compiled.fileName name
    match seen.lookup file with
    | some first => some (first, name, file)
    | none => clashAfter? ((file, name) :: seen) rest

/-- The files after writing the compiled file of a definition, and its path. -/
@[irreducible]
def saveCompiled (files : FileStore) (dir : String) (d : Definition) :
    Except LanguageError String × FileStore :=
  let path := Path.join dir (Compiled.fileName d.name)
  match files.writeText path (Compiled.render d) with
  | .ok files => (.ok path, files)
  | .error fault => (.error (.unusableFile path fault), files)

/-- The files after compiling records one after the other, and the paths of the compiled files. The
first record that cannot be compiled ends it. -/
def compileRecords (files : FileStore) (dir : String) :
    List LanguageRecord → Except LanguageError (List String) × FileStore
  | [] => (.ok [], files)
  | record :: rest =>
    match record.declaration with
    | .error error => (.error error, files)
    | .ok declaration =>
      match saveCompiled files dir (.build declaration) with
      | (.error error, files) => (.error error, files)
      | (.ok path, files) =>
        let (paths, files) := compileRecords files dir rest
        (paths.map (path :: ·), files)

/-- The files after compiling all languages, and the paths of the compiled files in the order of
the source. Nothing is written when one file would hold two languages. -/
def compileAll (c : Catalog) (files : FileStore) (dir : String) :
    Except LanguageError (List String) × FileStore :=
  match clashAfter? [] c.source.names with
  | some (first, second, file) => (.error (.fileClash first second (Path.join dir file)), files)
  | none =>
    match files.createDirectories dir with
    | (files, some fault) => (.error (.unusableFile dir fault), files)
    | (files, none) => compileRecords files dir c.source.records

end Highlighter.Catalog
