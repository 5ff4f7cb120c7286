import HeaderAudit.Error
import HeaderAudit.Text.Search
/-!
The directory a program works in, as the files it holds: each file under its path relative to the
directory, with its text.
-/
namespace HeaderAudit

/-- The files of a working directory, by relative path. -/
structure Workspace where
  files : List (String × String)
  deriving Inhabited

namespace Workspace

def components (path : String) : List String :=
  ((Text.split path "/").foldl (fun (acc : List String) part =>
    if part = "" ∨ part = "." then acc
    else if part = ".." then acc.drop 1
    else part :: acc) []).reverse

def read? (w : Workspace) (path : String) : Option String :=
  (w.files.find? fun f => components f.1 = components path).map (·.2)

/-- Whether a directory is at a path: the working directory itself, or a proper prefix of some
file's path. -/
def isDir (w : Workspace) (path : String) : Bool :=
  let p := components path
  p.isEmpty || w.files.any fun f => p.isPrefixOf (components f.1) ∧ p.length < (components f.1).length

def throughFile (w : Workspace) (path : String) : Bool :=
  let p := components path
  (List.range p.length).any fun i => i > 0 ∧ (w.files.any fun f => components f.1 = p.take i)

/-- Reads the file at a path, failing as opening or reading it fails: a missing file, a path
through a file, or a directory. -/
def readFile (w : Workspace) (path : String) : Outcome String :=
  match w.read? path with
  | some t => .ok t
  | none =>
    if w.throughFile path then .error (Error.plain ("open " ++ path ++ ": not a directory"))
    else if w.isDir path then .error (Error.plain ("read " ++ path ++ ": is a directory"))
    else .error (Error.plain ("open " ++ path ++ ": no such file or directory"))

def write (w : Workspace) (path : String) (text : String) : Workspace :=
  ⟨(w.files.filter fun f => components f.1 ≠ components path) ++ [(path, text)]⟩

def dirOf (path : String) : String :=
  let parts := Text.split path "/"
  match parts.dropLast with
  | [] => "."
  | [""] => "/"
  | ps => String.intercalate "/" ps

/-- Makes a directory with the directories above it. It fails at the first prefix of the path,
as written, that is a file. -/
def makeDirs (w : Workspace) (path : String) : Outcome Unit :=
  let parts := Text.split path "/"
  let prefixes := (List.range parts.length).map fun i => String.intercalate "/" (parts.take (i + 1))
  match prefixes.find? fun p => p ≠ "" ∧ (w.read? p).isSome with
  | some p => .error (Error.plain ("mkdir " ++ p ++ ": not a directory"))
  | none => .ok ()

end Workspace

end HeaderAudit
