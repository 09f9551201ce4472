import BindingIndex.CommandLine.Touched
import BindingIndex.FileTree.Changes

/-!
# The program

Look at the paths of the command line, run it on what is there, and carry out what came of it. A
name that is no UTF-8 cannot be handed to the system from here.
-/

open BindingIndex

namespace BindingIndex.Program

def locationText (loc : Location) : String :=
  "/" ++ "/".intercalate (loc.map fun name => String.ofList (Text.Utf8.nameText name).shown)

def look (t : FileTree) (loc : Location) : IO FileTree := do
  let path := (← IO.currentDir) / locationText loc
  if ← path.isDir then return t.put loc .dir
  else if ← path.pathExists then return t.put loc (.file (← IO.FS.readBinFile path).toList)
  else return t

/-- Add what is at the paths of a command line. The second look follows the configuration file. -/
def lookAround (args : List Text) (t : FileTree) : IO FileTree := do
  let t ← (t.unknown (CommandLine.touched t args)).foldlM look t
  (t.unknown (CommandLine.touched t args)).foldlM look t

def put (s : List Char) : IO Unit := do
  let out ← IO.getStdout
  out.putStr (String.ofList s)
  out.flush

/-- Run a command line, one line of input after another as it asks for them. The answer tells how
much of the output has been seen, what was typed included. -/
partial def converse (t : FileTree) (args : List Text) (input : String) (seen : Nat) :
    IO (CommandLine.Outcome × Nat) := do
  let o := CommandLine.run t args input
  match o.ending with
  | .inputEnded =>
    -- the question is to be seen before its answer is typed
    put (o.output.drop seen)
    let line ← (← IO.getStdin).getLine
    if line.isEmpty then return (o, o.output.length)
    converse t args (input ++ line) (o.output.length + (Text.unifyNewlines line.toList).length)
  | _ => return (o, seen)

def change : Location × Item → IO Unit
  | (loc, .dir) => IO.FS.createDir (locationText loc)
  | (loc, .file bytes) => IO.FS.writeBinFile (locationText loc) ⟨bytes.toArray⟩

end BindingIndex.Program

def main (args : List String) : IO UInt32 := do
  let args := args.map Text.ofString
  let here := Path.ofText (← IO.currentDir).toString
  let before ← Program.lookAround args ⟨here.names.map Text.Utf8.fileName, []⟩
  let (o, seen) ← Program.converse before args "" 0
  (before.changes o.tree).forM Program.change
  Program.put (o.output.drop seen)
  let complaint := o.ending.complaint.withEscapes
  IO.eprint (CommandLine.logText o.events ++ o.ending.farewell ++
    if complaint.isEmpty then "" else complaint ++ "\n")
  return UInt32.ofNat o.ending.exitCode
