import Codebook.CommandLine
import Codebook.Registry.Program

/-!
# The program

Reads the directories that a command may look at, runs it on them, and puts what it leaves behind
where it belongs: shown lines and text on standard output, files on the disk.
-/

open Codebook

namespace Codebook.Main

/-- What is shown for arguments that cannot be read. -/
def usage : String :=
  "Usage: codebook [--help] examine | serve | serve-stdio [options]\n\n" ++
  "  examine      -d DIRECTORY -f markdown|json -o FILE -e EXCLUDE -s SECTION\n" ++
  "               --include-dotfiles --include-test-files --use-gitignore --no-gitignore\n" ++
  "  serve        -p PORT\n" ++
  "  serve-stdio"

/-- The tree at an entry of a directory. A link to a directory is a directory with nothing in it. -/
partial def readEntry (entry : IO.FS.DirEntry) : IO (Option (String × Tree)) := do
  try
    if ← entry.path.isDir then
      if (← entry.path.symlinkMetadata).type == .symlink then
        return some (entry.fileName, .dir [])
      let entries ← entry.path.readDir
      let trees ← entries.toList.filterMapM readEntry
      return some (entry.fileName, .dir (trees.mergeSort fun a b => decide (a.1 ≤ b.1)))
    else
      return some (entry.fileName, .file (← IO.FS.readBinFile entry.path).toList)
  catch _ => return none

/-- The disk with the tree of a directory, given by the names that lead to it. -/
def addDirectory (d : Disk) (parts : List String) : IO Disk := do
  let entry : IO.FS.DirEntry := ⟨"/" ++ "/".intercalate parts, ""⟩
  match ← readEntry entry with
  | some (_, tree) => return { d with root := tree.put parts d.root }
  | none => return d

/-- The directories that the arguments lead to, besides the current one. -/
def directories (d : Disk) (args : List String) : List (List String) :=
  match CommandLine.parse args with
  | .run (.examine r) =>
    let directory := (d.resolve (Path.ofString r.directory)).parts
    let output := match r.outputFile with
      | some file => [(d.resolve (Path.ofString file)).parts.dropLast]
      | none => []
    (directory :: output).filter fun parts => !d.current.isPrefixOf parts
  | _ => []

/-- Writes a file of a disk. -/
def writeFile (file : List String × List UInt8) : IO Unit :=
  IO.FS.writeBinFile ("/" ++ "/".intercalate file.1) ⟨file.2.toArray⟩

end Codebook.Main

open Codebook.Main in
/-- Runs the program on its arguments. -/
def main (args : List String) : IO UInt32 := do
  let current := (Path.ofString (← IO.currentDir).toString).parts
  let start : Disk := ⟨.dir [], current⟩
  let here ← addDirectory start current
  let disk ← (directories start args).foldlM addDirectory here
  let setting ← IO.getEnv "CODEBASE_EXAMINER_AUTO_REGISTER"
  let registry := (Registry.Program.start setting true).registry 0
  let report := CommandLine.run registry .missing disk args .empty
  for shown in report.console do
    IO.println shown.text
  IO.print report.output
  if report.code == 2 && report.console.isEmpty then IO.eprintln usage
  (disk.changes report.disk).forM writeFile
  return (CommandLine.status report.code).toUInt32
