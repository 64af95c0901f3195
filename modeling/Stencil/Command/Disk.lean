/-! # Files of a command

What a command can find out about files: whether there is something at a path, the text of a
file, and whether a file can be written. A directory given by its files is such a view.
-/

namespace Stencil.Command

/-- A view of files. -/
structure Disk where
  present : String → Bool
  read? : String → Option String
  canWrite : String → Bool

/-- The files of a directory by their paths in it. -/
abbrev Directory := List (String × String)

namespace Directory

/-- The parts of the path of a file. -/
def parts (path : String) : List (List Char) := path.toList.splitOn '/'

/-- Whether the directory holds a directory with the given path; the last part comes first. -/
def hasFolder (files : Directory) (folder : List (List Char)) : Bool :=
  folder.isEmpty || files.any fun (path, _) =>
    folder.reverse.isPrefixOf (parts path) && folder.length < (parts path).length

/-- Follows the parts of a path from a folder, given with its last part first. -/
def follow (files : Directory) : List (List Char) → List (List Char) → Option (List (List Char))
  | folder, [] => some folder
  | folder, part :: rest =>
    if !files.hasFolder folder then none
    else if part = [] || part = ['.'] then follow files folder rest
    else if part = ['.', '.'] then
      match folder with
      | [] => none
      | _ :: outer => follow files outer rest
    else follow files (part :: folder) rest

/-- The path of a place in the directory without detours. -/
def resolve? (files : Directory) (path : String) : Option String :=
  match path.toList with
  | '/' :: _ => none
  | _ =>
    (files.follow [] (parts path)).map fun folder =>
      String.ofList (['/'].intercalate folder.reverse)

/-- The text of a file. -/
def read? (files : Directory) (path : String) : Option String :=
  (files.resolve? path).bind (List.lookup · files)

/-- Whether a path leads to a folder. -/
def isFolder (files : Directory) (path : String) : Bool :=
  match files.resolve? path with
  | none => false
  | some place => place = "" || files.hasFolder (parts place).reverse

/-- Whether a file can be written: its folder exists and it is no folder itself. -/
def canWrite (files : Directory) (path : String) : Bool :=
  (files.resolve? path).isSome && !files.isFolder path

/-- The directory as a view of files. -/
def disk (files : Directory) : Disk :=
  { present := fun path => (files.read? path).isSome || files.isFolder path
    read? := files.read?
    canWrite := files.canWrite }

end Directory

end Stencil.Command
