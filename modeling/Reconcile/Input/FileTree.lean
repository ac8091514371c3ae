/-!
# File trees

The files that a run may read, by the names that lead to them. Paths are followed from a home
directory or, when they start with a slash, from the root. `FileTree.locate` says what a path leads
to, `FileTree.filesIn` lists the files of a directory.
-/

namespace Reconcile

/-- Splits a text at each place where a character stands. -/
def splitText (separator : Char) (text : String) : List String :=
  (text.toList.splitOn separator).map String.ofList

/-- Splits a path at its slashes. -/
def pathParts (path : String) : List String := splitText '/' path

/-- What stands at a place of a file tree. -/
inductive FileEntry where
  | file (content : ByteArray)
  | emptyDirectory

/-- Files and empty directories by the names that lead to them. -/
structure FileTree where
  /-- The names that lead to the home directory. -/
  home : List String
  entries : List (List String × FileEntry)

/-- What a path leads to. -/
inductive FilePlace where
  | file (content : ByteArray)
  | directory (names : List String)
  | nothing

namespace FileTree

/-- The names that a path spells out, seen from the home directory. -/
def spelled (home : List String) (path : String) : List String :=
  (pathParts path).foldl (fun names part =>
    if part = "" ∨ part = "." then names
    else if part = ".." then names.dropLast
    else names ++ [part]) (if path.toList.head? = some '/' then [] else home)

/-- The tree with these paths, seen from its home directory. -/
def ofList (home : List String) (files : List (String × FileEntry)) : FileTree :=
  ⟨home, files.map fun file => (spelled home file.1, file.2)⟩

/-- The content of the file that these names lead to. -/
def file? (t : FileTree) (names : List String) : Option ByteArray :=
  t.entries.findSome? fun entry =>
    match entry with
    | (path, .file content) => if path = names then some content else none
    | _ => none

/-- Whether the names lead to a directory: the home directory or one above it, an empty one, or one
above an entry. -/
def isDirectory (t : FileTree) (names : List String) : Bool :=
  names.isPrefixOf t.home || t.entries.any fun entry =>
    match entry with
    | (path, .file _) => names.isPrefixOf path && names.length < path.length
    | (path, .emptyDirectory) => names.isPrefixOf path

/-- Follows the parts of a path from a directory, given by its names in reverse. -/
def follow (t : FileTree) : List String → List String → FilePlace
  | names, [] => .directory names.reverse
  | names, "" :: rest => follow t names rest
  | names, "." :: rest => follow t names rest
  | names, ".." :: rest =>
    match names with
    | [] => follow t [] rest
    | _ :: outer => follow t outer rest
  | names, part :: rest =>
    let next := (part :: names).reverse
    if t.isDirectory next then follow t (part :: names) rest
    else
      match rest, t.file? next with
      | [], some content => .file content
      | _, _ => .nothing

/-- What a path leads to; the empty path leads nowhere. -/
def locate (t : FileTree) (path : String) : FilePlace :=
  if path = "" then .nothing
  else t.follow (if path.toList.head? = some '/' then [] else t.home.reverse) (pathParts path)

/-- The names of the files of a directory, in order. -/
def filesIn (t : FileTree) (directory : List String) : List String :=
  let names := t.entries.filterMap fun entry =>
    match entry with
    | (path, .file _) =>
      match path.reverse with
      | name :: outer => if outer.reverse = directory then some name else none
      | [] => none
    | _ => none
  (names.mergeSort fun a b => a ≤ b).eraseDups

end FileTree

/-- The extension of a file's name: what follows its last point, unless that is the first
character. -/
def fileExtension (path : String) : Option String :=
  let name := (pathParts path).getLast?.getD ""
  match (splitText '.' name).reverse with
  | [] | [_] => none
  | ext :: before => if before = [""] ∨ name = ".." then none else some ext

end Reconcile
