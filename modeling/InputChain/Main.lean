import InputChain.CommandLine.Heads

/-!
# The command that prints the first lines of every input

Loads the files that a command line names, and standard input if it is named, and runs the command
on them.
-/

namespace InputChain.Heads

/-- Everything left in standard input. -/
partial def loadInput (taken : ByteArray) (stream : IO.FS.Stream) : IO ByteArray := do
  let block ← stream.read blockSize.toUSize
  if block.isEmpty then return taken else loadInput (taken ++ block) stream

/-- The tree with what stands at a path, if it can be read. What opens but cannot be read as a file is
a directory. -/
def loadPath (tree : FileTree) (path : String) : IO FileTree := do
  try
    return tree.addFile path (← IO.FS.readBinFile path).toList
  catch
    | .inappropriateType .. => return tree.addDirectory path
    | _ => return tree

/-- What the inputs of a request are read from. -/
def loadWorld (request : Request) : IO World := do
  let files ← request.inputs.paths.foldlM loadPath {}
  let input ←
    if request.inputs.isStdin then loadInput .empty (← IO.getStdin) else pure .empty
  return ⟨files, .ofBytes input.toList⟩

end InputChain.Heads

/-- Runs the command on the words of a command line. -/
def main (words : List String) : IO UInt32 := do
  let world ←
    match InputChain.Heads.Request.ofWords words with
    | .ok request => InputChain.Heads.loadWorld request
    | .error _ => pure {}
  let outcome := InputChain.Heads.run world words
  (← IO.getStdout).write ⟨outcome.output.toArray⟩
  (← IO.getStderr).putStr outcome.errors
  return outcome.code
