import Codebook.Path
import Codebook.Text.Half
import Codebook.Text.Utf8

/-!
# Files and directories

A `Tree` is a file with its bytes or a directory with its entries in the order of their names. A
`Disk` is the tree below the root together with the current directory. There are no links, so `..`
is the directory above, and the absolute form of a path can be found without looking at the tree.
A name has at most 255 bytes and a path fewer than 4096; a path that holds a null character names
nothing.
-/

namespace Codebook

open Text

/-- A file, or a directory with its entries sorted by name. -/
inductive Tree
  | file (bytes : List UInt8)
  | dir (entries : List (String × Tree))
  deriving Repr

/-- One directory met on a walk: its path text, and the names of its directories and files. -/
structure Visit where
  root : String
  dirs : List String
  files : List String
  deriving DecidableEq, Repr

/-- Why a file cannot be read or written. -/
inductive FileError
  | missing (path : String)
  | isDirectory (path : String)
  | notDirectory (path : String)
  | tooLong (path : String)
  | nullByte
  | nullCharacter (action : String)
  | undecodable (failure : DecodeFailure)
  | unencodable (failure : EncodeFailure)
  deriving DecidableEq, Repr

/-- The wording of a file error. -/
def FileError.message : FileError → String
  | .missing path => "[Errno 2] No such file or directory: " ++ quoted path
  | .isDirectory path => "[Errno 21] Is a directory: " ++ quoted path
  | .notDirectory path => "[Errno 20] Not a directory: " ++ quoted path
  | .tooLong path => "[Errno 36] File name too long: " ++ quoted path
  | .nullByte => "embedded null byte"
  | .nullCharacter action => action ++ ": embedded null character in path"
  | .undecodable f => f.message
  | .unencodable f => f.message

namespace Tree

/-- The empty directory. -/
def empty : Tree := .dir []

/-- The tree is a directory. -/
def isDir : Tree → Bool
  | .file _ => false
  | .dir _ => true

/-- The entries of a directory; a file has none. -/
def entries : Tree → List (String × Tree)
  | .file _ => []
  | .dir es => es

/-- An entry put in its place among entries sorted by name, instead of one of the same name. -/
def putEntry (name : String) (t : Tree) : List (String × Tree) → List (String × Tree)
  | [] => [(name, t)]
  | (n, u) :: es =>
    if name == n then (name, t) :: es
    else if name < n then (name, t) :: (n, u) :: es
    else (n, u) :: putEntry name t es

/-- The tree with `t` at the end of a path, and with the directories that this needs. -/
def put (t : Tree) : List String → Tree → Tree
  | [], _ => t
  | p :: ps, u =>
    let below := ((u.entries.find? (·.1 == p)).map (·.2)).getD empty
    .dir (putEntry p (put t ps below) u.entries)

mutual

/-- The directories of a tree from the top down, without those below a directory whose name is
skipped. -/
def walk (skip : String → Bool) (top : String) : Tree → List Visit
  | .file _ => []
  | .dir es =>
    let names := (es.filter (·.2.isDir)).map (·.1)
    let files := (es.filter (!·.2.isDir)).map (·.1)
    ⟨top, names.filter (!skip ·), files⟩ :: walkEntries skip top es

/-- The directories met below the entries of a directory. -/
def walkEntries (skip : String → Bool) (top : String) : List (String × Tree) → List Visit
  | [] => []
  | (name, t) :: es =>
    (if skip name then [] else walk skip (Path.joinText top name) t) ++ walkEntries skip top es

end

mutual

/-- All files of a tree with their paths from its top. -/
def files (above : List String) : Tree → List (List String × List UInt8)
  | .file bytes => [(above, bytes)]
  | .dir es => filesOf above es

/-- All files below the entries of a directory. -/
def filesOf (above : List String) : List (String × Tree) → List (List String × List UInt8)
  | [] => []
  | (name, t) :: es => files (above ++ [name]) t ++ filesOf above es

end

end Tree

/-- The tree below the root and the names that lead to the current directory. -/
structure Disk where
  root : Tree
  current : List String

/-- Why no tree is found at the end of a path: a name is missing, one on the way is a file, the path
is too long, or it holds a null character. -/
inductive Disk.Dead
  | missing
  | notDirectory
  | tooLong
  | nullCharacter
  deriving DecidableEq, Repr

namespace Disk

/-- The number of bytes that a name can have. -/
def nameLimit : Nat := 255

/-- The number of bytes that a path has to stay below. -/
def pathLimit : Nat := 4096

/-- The tree at the end of a list of names, from a tree below the directories `above`, the nearest
first. -/
def follow (above : List Tree) (t : Tree) : List String → Except Dead Tree
  | [] => .ok t
  | n :: ns =>
    match t with
    | .file _ => .error .notDirectory
    | .dir es =>
      if n == ".." then
        match above with
        | [] => follow [] t ns
        | a :: above => follow above a ns
      else
        match es.find? (·.1 == n) with
        | some (_, u) => follow (t :: above) u ns
        | none => .error (if nameLimit < n.utf8ByteSize then .tooLong else .missing)

/-- The names from the root to the end of a path, `..` among them. -/
def route (d : Disk) (p : Path) : List String :=
  match p.anchor with
  | .here => d.current ++ p.parts
  | _ => p.parts

/-- What is at the end of a path. -/
def get (d : Disk) (p : Path) : Except Dead Tree :=
  if p.hasNull then .error .nullCharacter
  else if pathLimit ≤ p.toString.utf8ByteSize then .error .tooLong
  else follow [] d.root (d.route p)

/-- The error of a path that leads nowhere. -/
def Dead.at (p : Path) : Dead → FileError
  | .missing => .missing p.toString
  | .notDirectory => .notDirectory p.toString
  | .tooLong => .tooLong p.toString
  | .nullCharacter => .nullByte

/-- There is a file or a directory at the end of the path, and it passes the test. A path that is
too long is an error, any other that leads nowhere is just not there. -/
def holds (d : Disk) (p : Path) (test : Tree → Bool) : Except FileError Bool :=
  match d.get p with
  | .ok t => .ok (test t)
  | .error .tooLong => .error (.tooLong p.toString)
  | .error _ => .ok false

/-- There is a file or a directory at the end of the path. -/
def exists? (d : Disk) (p : Path) : Except FileError Bool :=
  d.holds p fun _ => true

/-- There is a directory at the end of the path. -/
def isDir (d : Disk) (p : Path) : Except FileError Bool :=
  d.holds p Tree.isDir

/-- Names without `..`: each takes away the name before it, if there is one. -/
def straighten (done : List String) : List String → List String
  | [] => done.reverse
  | n :: ns => if n == ".." then straighten done.tail ns else straighten (n :: done) ns

/-- The absolute path without `..`. -/
def resolve (d : Disk) (p : Path) : Path :=
  ⟨.root, straighten [] (d.route p)⟩

/-- The absolute path of a path that can name something. -/
def locate (d : Disk) (p : Path) : Except FileError Path :=
  if p.hasNull then .error (.nullCharacter "lstat") else .ok (d.resolve p)

/-- The bytes of a file. -/
def bytes (d : Disk) (p : Path) : Except FileError (List UInt8) :=
  match d.get p with
  | .ok (.file bs) => .ok bs
  | .ok (.dir _) => .error (.isDirectory p.toString)
  | .error e => .error (e.at p)

/-- The text of a file, with line feeds for all line ends. -/
def read (d : Disk) (p : Path) : Except FileError String := do
  match decode (← d.bytes p) with
  | .ok s => .ok (String.ofList (unifyNewlines s.toList))
  | .error f => .error (.undecodable f)

/-- The disk after a file has been opened for writing, which leaves it empty. The directory must be
there. -/
def create (d : Disk) (p : Path) : Except FileError Disk :=
  let opened : Disk := { d with root := (Tree.file []).put (d.resolve p).parts d.root }
  match d.get p with
  | .ok (.dir _) => .error (.isDirectory p.toString)
  | .ok (.file _) => .ok opened
  | .error .missing =>
    match d.get ⟨p.anchor, p.parts.dropLast⟩ with
    | .ok _ => .ok opened
    | .error e => .error (e.at p)
  | .error e => .error (e.at p)

/-- Writes a text to a file: what went wrong, if anything, and the disk after it. A text that has no
encoding leaves the file empty. -/
def write (d : Disk) (p : Path) (text : String) : Option FileError × Disk :=
  match d.create p with
  | .error e => (some e, d)
  | .ok opened =>
    match encode? text with
    | .error f => (some (.unencodable f), opened)
    | .ok bytes =>
      (none, { d with root := (Tree.file bytes).put (d.resolve p).parts d.root })

/-- The files of a disk that another one lacks or has with other bytes. -/
def changes (before after : Disk) : List (List String × List UInt8) :=
  let old := before.root.files []
  (after.root.files []).filter fun f => !old.contains f

/-- The directories below a path from the top down. A path that is no directory has none. -/
def walk (d : Disk) (skip : String → Bool) (p : Path) : List Visit :=
  match d.get p with
  | .ok t => t.walk skip p.toString
  | .error _ => []

/-- The directories below a path that can name something. -/
def explore (d : Disk) (skip : String → Bool) (p : Path) : Except FileError (List Visit) :=
  if p.hasNull then .error (.nullCharacter "scandir") else .ok (d.walk skip p)

end Disk

end Codebook
