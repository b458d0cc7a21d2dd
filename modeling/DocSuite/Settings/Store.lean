import DocSuite.Settings.Toml
import DocSuite.Path
/-!
# Saving settings into a directory tree

A directory tree of files and directories in which settings are saved and loaded again.
Saving creates the directories above the target, one level at a time from the deepest that
is missing, and then writes the file; the failures are those a file system reports: a name
that is missing, a file where a directory is needed, a name that is taken, a directory where
a file is written. A failure names the path it happened on: the parent directory while
directories are made, the target when the file is written.

Paths are relative, with `/` between components; empty components and `.` stand for the
directory they are in.
-/

namespace DocSuite

/-- What a name in a directory tree stands for. -/
inductive Entry where
  | file (contents : String)
  | directory
  deriving DecidableEq, Repr, Inhabited

/-- A failure a file system reports. -/
inductive FsFault where
  /-- A name on the path is missing. -/
  | notFound
  /-- A name on the path is a file. -/
  | notDirectory
  /-- The name is taken. -/
  | taken
  /-- The name is a directory. -/
  | isDirectory
  deriving DecidableEq, Repr, Inhabited

/-- The system's message for a failure, with its error number. -/
def FsFault.message : FsFault → String
  | .notFound => "No such file or directory (os error 2)"
  | .notDirectory => "Not a directory (os error 20)"
  | .taken => "File exists (os error 17)"
  | .isDirectory => "Is a directory (os error 21)"

/-- A directory tree: each entry under the list of its path's components. -/
structure DirTree where
  entries : List (List String × Entry)
  deriving Repr, Inhabited

/-- The text of a path's parent: the path up to the end of the component before its last,
keeping a leading `.`; nothing for a path without components. -/
def parentText? (path : String) : Option String :=
  let pieces := path.splitOn "/"
  -- each kept component with the length of the text up to its end
  let ends := (pieces.zipIdx.foldl (fun (acc : List (String × Nat) × Nat) (c, i) =>
      let (kept, offset) := acc
      let stop := offset + c.length
      let keep := c != "" && (c != "." || i == 0)
      ((if keep then kept ++ [(c, stop)] else kept), stop + 1)) ([], 0)).1
  match ends.reverse with
  | [] => none
  | [_] => some ""
  | _ :: (_, stop) :: _ => some (String.ofList (path.toList.take stop))

/-- Whether a path stays inside the tree: relative, without a `..` component. -/
def isConfined (path : String) : Bool :=
  !path.startsWith "/" && !(path.splitOn "/").contains ".."

namespace DirTree

/-- The tree that saving starts from: a regular file `file` and an empty directory `dir`. -/
def fresh : DirTree := ⟨[(["file"], .file ""), (["dir"], .directory)]⟩

/-- What the path with components `cs` names; the empty path is the tree's own directory. -/
def find? (tree : DirTree) (cs : List String) : Option Entry :=
  if cs.isEmpty then some .directory else lookupPath cs tree.entries
where
  /-- The entry stored under a path. -/
  lookupPath (cs : List String) (es : List (List String × Entry)) : Option Entry :=
    (es.find? (·.1 == cs)).map (·.2)

/-- The first failure on the way to the last component of `cs`: a missing name or a file
among the directories above it. -/
def wayFault? (tree : DirTree) (cs : List String) : Option FsFault :=
  (List.range (cs.length - 1)).findSome? fun i =>
    match tree.find? (cs.take (i + 1)) with
    | none => some .notFound
    | some (.file _) => some .notDirectory
    | some .directory => none

/-- Whether `cs` names a directory. -/
def isDir (tree : DirTree) (cs : List String) : Bool := tree.find? cs == some .directory

/-- Makes the directory `cs`, whose parent must exist. -/
def makeDir (tree : DirTree) (cs : List String) : Except FsFault DirTree :=
  match tree.wayFault? cs with
  | some f => .error f
  | none =>
    if (tree.find? cs).isSome then .error .taken
    else .ok ⟨tree.entries ++ [(cs, .directory)]⟩

/-- Makes the directory `cs` and the missing ones above it. A directory that exists is
kept; when the directory cannot be made for want of its parent, the parent is made first. -/
def makeDirs (tree : DirTree) (cs : List String) : Except FsFault DirTree :=
  if cs.isEmpty then .ok tree
  else
    match tree.makeDir cs with
    | .ok tree => .ok tree
    | .error .notFound => do
      let tree ← tree.makeDirs cs.dropLast
      match tree.makeDir cs with
      | .ok tree => .ok tree
      | .error f => if tree.isDir cs then .ok tree else .error f
    | .error f => if tree.isDir cs then .ok tree else .error f
termination_by cs.length
decreasing_by
  simp only [List.length_dropLast]
  have : cs.length ≠ 0 := by simpa [List.isEmpty_iff, List.length_eq_zero_iff] using ‹¬cs.isEmpty = true›
  omega

/-- Writes `contents` to the file at `path`. A path ending in `/` or `.` must be a
directory, so it cannot be written. When its last component is `.`, every name before it
is a directory on the way, so a missing one is reported as missing. -/
def write (tree : DirTree) (path contents : String) : Except FsFault DirTree :=
  let cs := pathComponents path
  let dotLast := ((path.splitOn "/").filter (· != "")).getLast? == some "."
  if path.isEmpty then .error .notFound
  else
    match tree.wayFault? (if dotLast then cs ++ ["."] else cs) with
    | some f => .error f
    | none =>
      let endsAsDir := path.endsWith "/" || path.endsWith "/." || path == "."
      match tree.find? cs, endsAsDir with
      | some .directory, _ => .error .isDirectory
      | some (.file _), true => .error .notDirectory
      | none, true => .error .isDirectory
      | _, false => .ok ⟨(tree.entries.filter (·.1 != cs)) ++ [(cs, .file contents)]⟩

/-- The contents of the file at `path`. -/
def read? (tree : DirTree) (path : String) : Option String :=
  match tree.find? (pathComponents path) with
  | some (.file t) => some t
  | _ => none

end DirTree

namespace Settings

/-- Saves settings as a TOML document written with `lib` at `path`, making the directories
above it. A document the writer refuses fails at the path. -/
def saveIn (lib : TomlLibrary) (s : Settings) (tree : DirTree) (path : String) :
    Except Error DirTree := do
  let text ← (s.writeWith lib).mapError fun message => .io path message
  let tree ← match parentText? path with
    | some parent =>
      if parent.isEmpty then pure tree
      else (tree.makeDirs (pathComponents parent)).mapError fun f => .io parent f.message
    | none => pure tree
  (tree.write path text).mapError fun f => .io path f.message

/-- Loads settings from the document at `path`, read with `lib` and merged over the defaults
with `merge`. A path that names no file adds nothing to them, so it loads the defaults. -/
def loadFrom (lib : TomlLibrary) (merge : TableMerge) (tree : DirTree) (path : String) :
    Except Error Settings :=
  match tree.read? path with
  | some text => readWith lib merge text
  | none => .ok {}

end Settings

end DocSuite
