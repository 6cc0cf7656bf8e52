import InputChain.World.FileTree
import InputChain.World.StandardInput

/-!
# What inputs are read from

* `World`: the files, which stay as they are, and standard input, which is used up.
-/

namespace InputChain

/-- What inputs are read from. -/
structure World where
  files : FileTree := {}
  input : StandardInput := {}
  deriving DecidableEq, Repr

end InputChain
