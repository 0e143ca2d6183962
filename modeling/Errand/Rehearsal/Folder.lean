import Errand.Json.Basic

/-!
# A folder of files

The files of a rehearsal stand in one folder, each under a path of names with slashes between them.
A path is followed from the folder on, name by name: an empty name and a single point stay, two
points lead up, any other name leads down. Above the folder there are only more folders, and no name
leads down from them.
-/

set_option autoImplicit false

namespace Errand.Rehearsal

/-- Files by their paths. -/
structure Folder where
  /-- The files. -/
  files : List (String × Json)

namespace Folder

/-- Why there is no text under a path. -/
inductive Trouble
  | missing
  /-- A file is taken for a folder. -/
  | noFolder
  /-- The path leads to a folder. -/
  | isFolder
  /-- A name, or the whole path, is longer than any can be. -/
  | tooLong
  /-- The path holds a character that no path holds. -/
  | unwritable
deriving DecidableEq, Repr

/-- The wording of a trouble. -/
def Trouble.message : Trouble → String
  | .missing => "No such file or directory (os error 2)"
  | .noFolder => "Not a directory (os error 20)"
  | .isFolder => "Is a directory (os error 21)"
  | .tooLong => "File name too long (os error 36)"
  | .unwritable => "file name contained an unexpected NUL byte"

/-- Where a path has led so far. -/
inductive Place
  /-- A folder inside, by the names that lead down to it. -/
  | inside (names : List String)
  /-- A folder above. -/
  | above
  | file (document : Json)

/-- What is found under names. -/
def find? (folder : Folder) (names : List String) : Option Place :=
  match folder.files.find? fun file => file.1.splitOn "/" = names with
  | some (_, document) => some (.file document)
  | none =>
    if folder.files.any fun file => names.isPrefixOf (file.1.splitOn "/") then some (.inside names)
    else none

/-- Follows one name of a path. -/
def follow (folder : Folder) : Place → String → Except Trouble Place
  | .file _, _ => .error .noFolder
  | place, "" | place, "." => .ok place
  | .above, ".." | .inside [], ".." => .ok .above
  | .inside names, ".." => .ok (.inside names.dropLast)
  | place, name =>
    if 255 < name.utf8ByteSize then .error .tooLong
    else
      match place with
      | .inside names =>
        match folder.find? (names ++ [name]) with
        | some place => .ok place
        | none => .error .missing
      | _ => .error .missing

/-- What a path leads to. A path that begins with a slash begins above. -/
def place (folder : Folder) (path : String) : Except Trouble Place :=
  if path.contains '\x00' then .error .unwritable
  else if path = "" then .error .missing
  else if 4096 ≤ path.utf8ByteSize then .error .tooLong
  else
    (path.splitOn "/").foldlM folder.follow (if path.startsWith "/" then .above else .inside [])

/-- The document of the file under a path. -/
def document (folder : Folder) (path : String) : Except Trouble Json :=
  match folder.place path with
  | .ok (.file document) => .ok document
  | .ok _ => .error .isFolder
  | .error trouble => .error trouble

end Folder

end Errand.Rehearsal
