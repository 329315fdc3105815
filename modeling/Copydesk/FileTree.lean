import Copydesk.Path

/-! What is read of a file system: a tree of folders and files. -/

namespace Copydesk

inductive FileTree
  /-- A file's text; `none` when its bytes are not UTF-8. -/
  | file (content : Option Text)
  | folder (entries : List (Text × FileTree))

namespace FileTree

inductive Fault
  | notFound
  | isFolder
  | notFolder
  | notText
  deriving DecidableEq, Repr

def Fault.message : Fault → Text
  | notFound => "No such file or directory (os error 2)"
  | isFolder => "Is a directory (os error 21)"
  | notFolder => "Not a directory (os error 20)"
  | notText => "stream did not contain valid UTF-8"

def empty : FileTree := folder []

def isFile : FileTree → Bool
  | file _ => true
  | folder _ => false

/-- Follows the components of a path; the folders passed on the way are kept for `..`. -/
def follow : List FileTree → FileTree → List Text → Except Fault FileTree
  | _, t, [] => .ok t
  | above, t, c :: cs =>
    match t with
    | file _ => .error .notFolder
    | folder entries =>
      if c = ['.'] then follow above t cs
      else if c = ['.', '.'] then
        match above with
        | [] => .error .notFound
        | up :: above => follow above up cs
      else match entries.lookup c with
        | some child => follow (t :: above) child cs
        | none => .error .notFound

def find (t : FileTree) (path : Text) : Except Fault FileTree := do
  if path.isEmpty || Path.isAbsolute path then throw .notFound
  let node ← follow [] t (Path.components path)
  if path.getLast? == some '/' && node.isFile then throw .notFolder
  return node

def holds (t : FileTree) (path : Text) : Bool := (t.find path).toOption.isSome

def holdsFile (t : FileTree) (path : Text) : Bool := (t.find path).toOption.any isFile

def holdsFolder (t : FileTree) (path : Text) : Bool := (t.find path).toOption.any (!·.isFile)

/-- The text of a file. -/
def read (t : FileTree) (path : Text) : Except Fault Text := do
  match ← t.find path with
  | file (some content) => return content
  | file none => throw .notText
  | folder _ => throw .isFolder

def entriesAt (t : FileTree) (path : Text) : Except Fault (List (Text × FileTree)) := do
  match ← t.find path with
  | file _ => throw .notFolder
  | folder entries => return entries.mergeSort fun a b => Text.le a.1 b.1

def setEntry (name : Text) (node : FileTree) :
    List (Text × FileTree) → List (Text × FileTree)
  | [] => [(name, node)]
  | (n, old) :: rest => if n = name then (n, node) :: rest else (n, old) :: setEntry name node rest

/-- Puts a node at a path, making the folders on the way. A folder keeps what it holds. -/
def insertAt (node : FileTree) : List Text → FileTree → FileTree
  | [], old => match node, old with
    | folder [], folder _ => old
    | _, _ => node
  | c :: cs, t =>
    let entries := match t with
      | folder entries => entries
      | file _ => []
    folder (setEntry c (insertAt node cs ((entries.lookup c).getD empty)) entries)

def namesOf (path : Text) : List Text := (Path.components path).filter (· != ['.'])

def insert (t : FileTree) (path : Text) (node : FileTree) : FileTree :=
  insertAt node (namesOf path) t

def eraseAt : List Text → FileTree → FileTree
  | [], t => t
  | [c], folder entries => folder (entries.filter (·.1 != c))
  | c :: cs, folder entries =>
    match entries.lookup c with
    | some child => folder (setEntry c (eraseAt cs child) entries)
    | none => folder entries
  | _, t => t

def erase (t : FileTree) (path : Text) : FileTree := eraseAt (namesOf path) t

end FileTree

end Copydesk
