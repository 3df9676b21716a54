import Dataflow.Text.Utf8
import Dataflow.Keyed
import Dataflow.Fault
/-!
Storage: the files and directories of a worker's working directory, as a value. Paths are
written as text with `/` between components and followed one component at a time, as the
operating system does: empty and `.` components stay where they are, `..` goes up one directory,
every other component must name a directory unless it is the last, and a path that ends in `/`
must name a directory: looking up a file named so finds no directory, making a file so named finds
a directory in the way, and making a directory so named finds the file in the way. A path that starts with `/`, or climbs above the working directory, lies
outside it: there only directories are known to exist, with no entries, and nothing can be made.
The empty path names nothing.

Operations fail as the operating system does: a missing entry, a file where a directory is
needed, a directory where a file is needed, and an existing entry where a directory is to be made.
Reading a directory opened as a file fails at the first read, not at opening.
-/
namespace Dataflow

inductive IoError where
  | notFound
  | notDirectory
  | isDirectory
  | exists
  | denied
  | invalidText
  deriving DecidableEq, Repr, Inhabited

def IoError.message : IoError → String
  | .notFound => "No such file or directory (os error 2)"
  | .notDirectory => "Not a directory (os error 20)"
  | .isDirectory => "Is a directory (os error 21)"
  | .exists => "File exists (os error 17)"
  | .denied => "Permission denied (os error 13)"
  | .invalidText => "stream did not contain valid UTF-8"

def IoError.toFault (e : IoError) : Fault := .io e.message

inductive Entry where
  | file (bytes : List UInt8)
  | directory
  deriving DecidableEq, Repr, Inhabited

/-- Joins a path onto a base, as a path buffer does: an absolute path replaces the base, and a
separator is added unless the base is empty or already ends in one. -/
def joinPath (base p : String) : String :=
  if p.startsWith "/" then p
  else if base.isEmpty || base.endsWith "/" then base ++ p
  else base ++ "/" ++ p

/-- The components of a path as a path value sees them: separators collapse and `.` drops out,
except a leading `.`. -/
def pathParts (p : String) : List String :=
  match p.splitOn "/" with
  | "." :: rest => "." :: rest.filter fun c => c ≠ "" ∧ c ≠ "."
  | parts => parts.filter fun c => c ≠ "" ∧ c ≠ "."

/-- The path without its last component, as a path value computes it; `none` for a path with no
components (the empty path and the root). -/
def parentPath (p : String) : Option String :=
  let parts := pathParts p
  if parts.isEmpty then none
  else some ((if p.startsWith "/" then "/" else "") ++ "/".intercalate parts.dropLast)

/-- A directory reached while following a path: a directory of the working directory, by its
components, or one outside it. -/
inductive Folder where
  | inside (cs : List String)
  | outside
  deriving DecidableEq, Repr, Inhabited

def Folder.up : Folder → Folder
  | .inside [] => .outside
  | .inside cs => .inside cs.dropLast
  | .outside => .outside

inductive Found where
  | directory (place : Folder)
  /-- An existing file, by its components; `trailing` when the path goes on with separators
  only. -/
  | file (cs : List String) (bytes : List UInt8) (trailing : Bool)
  /-- No entry called `name` in an existing directory; `trailing` when the path goes on with
  separators only. -/
  | absent (parent : Folder) (name : String) (trailing : Bool)
  deriving DecidableEq, Repr, Inhabited

/-- The working directory: every entry below the root, by its components. -/
structure Storage where
  entries : List (List String × Entry) := []
  deriving Inhabited

namespace Storage

def child (s : Storage) : Folder → String → Option Entry
  | .inside cs, name => s.entries.lookup (cs ++ [name])
  | .outside, _ => none

def walk (s : Storage) (here : Folder) : List String → Except IoError Found
  | [] => .ok (.directory here)
  | c :: rest =>
    if c = "" ∨ c = "." then s.walk here rest
    else if c = ".." then s.walk here.up rest
    else
      match here, s.child here c with
      | .inside cs, some .directory => s.walk (.inside (cs ++ [c])) rest
      | .inside cs, some (.file bytes) =>
        if rest.all (· = "") then .ok (.file (cs ++ [c]) bytes !rest.isEmpty) else .error .notDirectory
      | _, _ =>
        if rest.all (· = "") then .ok (.absent here c !rest.isEmpty) else .error .notFound

/-- Follows a path from the working directory, or from the root for an absolute path. -/
def resolve (s : Storage) (p : String) : Except IoError Found :=
  if p.isEmpty then .error .notFound
  else s.walk (if p.startsWith "/" then .outside else .inside []) (p.splitOn "/")

/-- The entry a path names; a file named with separators after it is not a directory. -/
def lookup (s : Storage) (p : String) : Except IoError Entry := do
  match ← s.resolve p with
  | .directory _ => return .directory
  | .file _ bytes false => return .file bytes
  | .file _ _ true => throw .notDirectory
  | .absent _ _ _ => throw .notFound

def isFile (s : Storage) (p : String) : Bool :=
  match s.lookup p with
  | .ok (.file _) => true
  | _ => false

def isDir (s : Storage) (p : String) : Bool :=
  match s.lookup p with
  | .ok .directory => true
  | _ => false

def readDir (s : Storage) (p : String) : Except IoError (List String) := do
  match ← s.resolve p with
  | .file _ _ _ => throw .notDirectory
  | .absent _ _ _ => throw .notFound
  | .directory .outside => return []
  | .directory (.inside cs) =>
    let names := s.entries.filterMap fun (k, _) =>
      if k.length = cs.length + 1 ∧ k.take cs.length = cs then k.getLast? else none
    return names.mergeSort (· ≤ ·)

def put (s : Storage) (cs : List String) (e : Entry) : Storage :=
  { entries := (s.entries.filter (·.1 ≠ cs)) ++ [(cs, e)] }

/-- Makes one directory in an existing one; separators after its name are allowed, and any
existing entry of that name, file or directory, is in the way. -/
def makeDir (s : Storage) (p : String) : Except IoError Storage := do
  match ← s.resolve p with
  | .absent (.inside cs) name _ => return s.put (cs ++ [name]) .directory
  | .absent .outside _ _ => throw .denied
  | _ => throw .exists

/-- Makes a directory and its missing parents, with `fuel` above the number of components: the
directory is made at once if its parent exists, else the parent first and then the directory;
a failure where a directory already stands is no failure. -/
def makeDirsWithin : Nat → Storage → String → Except IoError Storage
  | 0, _, _ => .error .notFound
  | fuel + 1, s, p =>
    if p.isEmpty then .ok s
    else
      match s.makeDir p with
      | .ok s' => .ok s'
      | .error .notFound =>
        match parentPath p with
        | none => .error .notFound
        | some q => do
          let s' ← makeDirsWithin fuel s q
          match s'.makeDir p with
          | .ok made => .ok made
          | .error e => if s'.isDir p then .ok s' else .error e
      | .error e => if s.isDir p then .ok s else .error e

def makeDirs (s : Storage) (p : String) : Except IoError Storage :=
  makeDirsWithin ((pathParts p).length + 1) s p

/-- Creates or empties a file and writes bytes to it. A path that goes on with separators after
its last name can only be a directory, whatever stands there. -/
def writeFile (s : Storage) (p : String) (bytes : List UInt8) : Except IoError Storage := do
  match ← s.resolve p with
  | .file cs _ false => return s.put cs (.file bytes)
  | .file _ _ true => throw .isDirectory
  | .directory _ => throw .isDirectory
  | .absent (.inside cs) name trailing =>
    if trailing then throw .isDirectory else return s.put (cs ++ [name]) (.file bytes)
  | .absent .outside _ _ => throw .denied

def files (s : Storage) : List (String × List UInt8) :=
  let all := s.entries.filterMap fun (cs, e) => match e with
    | .file bytes => some ("/".intercalate cs, bytes)
    | .directory => none
  all.mergeSort fun a b => a.1 ≤ b.1

/-- A working directory holding the given directories, then the given files, with their parents. -/
def ofEntries (dirs : List String) (files : List (String × List UInt8)) : Storage :=
  let s := dirs.foldl (fun s d => (s.makeDirs d).toOption.getD s) ({} : Storage)
  files.foldl (fun s (p, bytes) =>
    let s := match parentPath p with
      | some q => (s.makeDirs q).toOption.getD s
      | none => s
    (s.writeFile p bytes).toOption.getD s) s

def openRead (s : Storage) (p : String) : Except IoError Entry := s.lookup p

end Storage

structure LineReader where
  source : Entry
  deriving Inhabited

namespace LineReader

def splitLine (bytes : List UInt8) : List UInt8 × List UInt8 :=
  match bytes.findIdx? (· = 10) with
  | some i => (bytes.take (i + 1), bytes.drop (i + 1))
  | none => (bytes, [])

def stripEnd (line : List Char) : List Char :=
  if line.getLast? = some '\n' then
    let line := line.dropLast
    if line.getLast? = some '\r' then line.dropLast else line
  else line

/-- The next line: `none` at the end, a failure for a directory or for a line that is not UTF-8
text (the line is consumed), else the line. -/
def next (r : LineReader) : Option (Except IoError String) × LineReader :=
  match r.source with
  | .directory => (some (.error .isDirectory), r)
  | .file [] => (none, r)
  | .file bytes =>
    let (line, rest) := splitLine bytes
    let r := ⟨.file rest⟩
    match Text.decodeStrict line with
    | some cs => (some (.ok (String.ofList (stripEnd cs))), r)
    | none => (some (.error .invalidText), r)

end LineReader


end Dataflow
