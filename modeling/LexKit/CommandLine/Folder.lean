/-!
# Reading a file by its path

A working folder that holds at most one file, as far as reading by a path can tell: the way leads through
the folder itself and the folders around it, of which nothing else is known, or from the root through the
folders that every system has there.
-/

namespace LexKit.CommandLine

inductive ReadFault where
  | notFound
  | isFolder
  | notFolder
  | nameTooLong
  | nulInPath
  | other (reason : String)
deriving Repr, DecidableEq

namespace ReadFault

def reason : ReadFault → String
  | .notFound => "No such file or directory (os error 2)"
  | .isFolder => "Is a directory (os error 21)"
  | .notFolder => "Not a directory (os error 20)"
  | .nameTooLong => "File name too long (os error 36)"
  | .nulInPath => "file name contained an unexpected NUL byte"
  | .other reason => reason

end ReadFault

/-- A folder with a file in it, or an empty one. -/
structure Folder where
  file : Option (String × ByteArray)

namespace Folder

/-- Names take at most this many bytes. -/
def nameLimit : Nat := 255

/-- Paths take fewer bytes than this. -/
def pathLimit : Nat := 4096

def systemFolders : List String :=
  ["bin", "boot", "dev", "etc", "home", "lib", "mnt", "opt", "proc", "root", "run", "sbin", "srv", "sys",
    "tmp", "usr", "var"]

inductive Place where
  /-- The working folder. -/
  | working
  /-- A folder around it. -/
  | around
  | root
  /-- A folder below the root. -/
  | system (name : String)
deriving Repr, DecidableEq

def Place.parent : Place → Place
  | .working | .around => .around
  | .root | .system _ => .root

/-- The bytes of a file, if the path ends with it. -/
def fileEnd (bytes : ByteArray) (rest : List String) : Except ReadFault ByteArray :=
  if rest.isEmpty then .ok bytes else .error .notFolder

/-- Follows the parts of a path. The one file known outside the working folder is the empty device. -/
def follow (folder : Folder) (place : Place) : List String → Except ReadFault ByteArray
  | [] => .error .isFolder
  | name :: rest =>
      if name = "" ∨ name = "." then folder.follow place rest
      else if name = ".." then folder.follow place.parent rest
      else if nameLimit < name.utf8ByteSize then .error .nameTooLong
      else
        match place with
        | .working =>
            match folder.file with
            | some (own, bytes) => if name = own then fileEnd bytes rest else .error .notFound
            | none => .error .notFound
        | .around => .error .notFound
        | .root =>
            if systemFolders.contains name then folder.follow (.system name) rest
            else .error .notFound
        | .system folderName =>
            if folderName = "dev" ∧ name = "null" then fileEnd .empty rest else .error .notFound

def read (folder : Folder) (path : String) : Except ReadFault ByteArray :=
  if path.contains '\x00' then .error .nulInPath
  else if path.isEmpty then .error .notFound
  else if pathLimit ≤ path.utf8ByteSize then .error .nameTooLong
  else folder.follow (if path.startsWith "/" then .root else .working) (path.splitOn "/")

end Folder

end LexKit.CommandLine
