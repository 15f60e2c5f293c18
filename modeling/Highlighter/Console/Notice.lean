import Highlighter.Catalog.Event
import Highlighter.Palette.Basic

/-! Notices: what happened while a command ran, for the standard error output. -/
namespace Highlighter.Console

inductive Severity where
  | debug
  | info
  | warning
deriving DecidableEq, Repr

def Severity.label : Severity → String
  | debug => "DEBUG"
  | info => "INFO"
  | warning => "WARN"

/-- A notice with named details, which are written as they stand. -/
structure Notice where
  severity : Severity
  message : String
  details : List (String × String)
deriving DecidableEq, Repr

namespace Notice

/-- Whether a notice is shown; debugging notices are shown on request only. -/
def isShown (verbose : Bool) (n : Notice) : Bool := verbose || n.severity != .debug

def line (n : Notice) : String :=
  String.join (n.severity.label :: " " :: n.message ::
    n.details.map fun (name, value) => String.join [" ", name, "=", value])

open Catalog (Event)

/-- The notice of an event in a catalog. Names of languages are quoted where they stand for what was
asked for. -/
def ofEvent : Event → Notice
  | .sourceUnusable error =>
    ⟨.warning, "language source unusable, falling back to plain text", [("error", error.message)]⟩
  | .mapLoaded path => ⟨.debug, "loaded cached extension map", [("path", path)]⟩
  | .mapIgnored path error =>
    ⟨.warning, "ignoring cached extension map", [("path", path), ("error", error.message)]⟩
  | .conflict c =>
    ⟨.warning, "extension claimed by two languages, keeping the first",
      [("extension", c.extension), ("kept", c.kept), ("ignored", c.ignored)]⟩
  | .ready languages extensions =>
    ⟨.debug, "language manager ready",
      [("languages", toString languages), ("extensions", toString extensions)]⟩
  | .remark (.unknownKey line key) =>
    ⟨.warning, "unknown key in compiled language file",
      [("line", toString line), ("key", Text.quoted key)]⟩
  | .remark (.repeatedKeyword language word) =>
    ⟨.debug, "repeated keyword, keeping the first", [("language", language), ("keyword", word)]⟩
  | .compiledLoaded language path =>
    ⟨.debug, "loaded compiled language", [("language", Text.quoted language), ("path", path)]⟩
  | .compiledForeign language found path =>
    ⟨.warning, "compiled file holds another language, building from source",
      [("language", Text.quoted language), ("found", Text.quoted found), ("path", path)]⟩
  | .compiledUnusable language path error =>
    ⟨.warning, "compiled language unusable, building from source",
      [("language", Text.quoted language), ("path", path), ("error", error.message)]⟩
  | .repeated language r =>
    ⟨.debug, "duplicate keyword, first group wins",
      [("language", language), ("keyword", r.word), ("kept_in", r.keptIn),
        ("dropped_from", r.droppedFrom)]⟩
  | .built language =>
    ⟨.debug, "built language from source", [("language", Text.quoted language)]⟩
  | .malformed language error =>
    ⟨.warning, "malformed language, using plain text",
      [("language", Text.quoted language), ("error", error.message)]⟩
  | .unknown language =>
    ⟨.warning, "language not in source, using plain text", [("language", Text.quoted language)]⟩
  | .mapWritten path entries =>
    ⟨.debug, "extension map written", [("path", path), ("entries", toString entries)]⟩
  | .mapRebuilt entries => ⟨.info, "extension map rebuilt", [("entries", toString entries)]⟩
  | .compiledAll count dir =>
    ⟨.info, "compiled languages", [("count", toString count), ("dir", dir)]⟩

def configLoaded (path : String) : Notice := ⟨.debug, "loaded configuration", [("path", path)]⟩

def fileLoaded (b : Buffer) : List Notice :=
  let issues : List Notice :=
    if b.hasIssues then
      [⟨.warning, "file contains undecodable bytes",
        [("file", b.name), ("encoding", b.encoding.name), ("issues", toString b.issues.length)]⟩]
    else []
  issues ++ [⟨.debug, "loaded file",
    [("file", b.name), ("encoding", b.encoding.name), ("bytes", toString b.raw.length),
      ("chars", toString b.length)]⟩]

def overrides (changes : Palette) : List Notice :=
  Category.all.filterMap fun category =>
    (changes.color? category).map fun color =>
      ⟨.debug, "palette override", [("category", category.name), ("color", toString color)]⟩

def working (what language : String) : Notice :=
  ⟨.debug, what, [("language", Text.quoted language)]⟩

/-- The notice of a command that is done, with a count of what it was about. -/
def done (command : String) (count : Option (String × Nat)) : Notice :=
  ⟨.debug, "done", ("command", Text.quoted command) ::
    (count.map fun (name, n) => (name, toString n)).toList⟩

end Notice
end Highlighter.Console
