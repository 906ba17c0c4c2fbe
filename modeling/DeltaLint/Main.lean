import DeltaLint.Run
import DeltaLint.Sandbox.World

/-
  DeltaLint.Main — the command line, as a rehearsal.

  The run takes place in a sandbox. Its files are those at and below the working directory, where a
  file that names its interpreter on its first line may be run. Git's answers come from the standard
  input, in the order of the calls and with a form feed between two of them; a call beyond the last
  answer fails. What is printed and the exit status are those of the run.
-/

namespace DeltaLint

/-- What the arguments can be. -/
def usage : String := "\n".intercalate
  ["Usage: delta-lint [OPTIONS] [FILENAME]...", "",
    "  -f, --force        report problems on every line, not only on the changed ones",
    "  -t, --tracked      only lint files that git tracks",
    "      --last-commit  lint the files that the last commit changed",
    "      --json         print the results as a JSON object by file",
    "      --pretty       print JSON over several lines",
    "      --no-color     print without colours",
    "  -v, --verbose      say more",
    "      --config PATH  read the configuration from PATH",
    "  -h, --help         print this text",
    "  -V, --version      print the version"]

def Usage.message : Usage → String
  | .unknownArgument => "error: unexpected argument"
  | .missingRequiredArgument => "error: an option needs another one"
  | .argumentConflict => "error: an option cannot be used twice"
  | .invalidValue => "error: a value is missing or empty"
  | .tooManyValues => "error: an option takes no value"
  | .displayHelp => usage
  | .displayVersion => "delta-lint 0.1.0"

namespace Rehearsal

/-- Takes up what an entry names, and all below it. What cannot be read is left out. -/
partial def load (place : Sandbox.Place) (tree : Sandbox.Tree) (entry : IO.FS.DirEntry) : IO Sandbox.Tree := do
  let here := place ++ [entry.fileName]
  try
    match (← entry.path.symlinkMetadata).type with
    | .dir => (← entry.path.readDir).foldlM (load here) (tree.put here .directory)
    | .symlink => return tree.put here (.link (← IO.FS.realPath entry.path).toString)
    | _ =>
      let bytes := (← IO.FS.readBinFile entry.path).toList
      return tree.put here (.file bytes (Sandbox.Shell.interpreter? bytes).isSome)
  catch _ => return tree

/-- The sandbox with the files at and below the working directory, and git's answers. -/
def world (answers : String) : IO Sandbox.World := do
  let directory ← IO.currentDir
  let place := (Sandbox.Tree.segments directory.toString).filter (· != "")
  let tree := Sandbox.World.systemTree.put place .directory
  let tree ← (← directory.readDir).foldlM (load place) tree
  let w : Sandbox.World := ⟨tree, directory.toString, ["/usr/bin", "/bin"], [], []⟩
  return w.withGit ((Text.pieces '\x0c' answers.toList).map fun text => ⟨Text.Utf8.encode text, [], 0⟩)

end Rehearsal

end DeltaLint

open DeltaLint

def main (arguments : List String) : IO UInt32 := do
  match CommandLine.parse arguments (← IO.getEnv "GIT_LINT_CONFIG") with
  | .error u =>
    if u.exitCode = 0 then IO.println u.message else IO.eprintln u.message
    return u.exitCode.toUInt32
  | .ok options =>
    let world ← Rehearsal.world (← (← IO.getStdin).readToEnd)
    let (result, session) := (run Sandbox.World.host options (← (← IO.getStdout).isTty)).runOn world
    session.printedLines.forM IO.println
    match result with
    | .ok status => return status.toUInt32
    | .error abort =>
      IO.eprintln ("fatal: " ++ abort.account id)
      return abort.exitCode.toUInt32
