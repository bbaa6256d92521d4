/-
Reading a file by its path, in a working directory of which the files are known.
Of the tree around it only that is known which every system has. Paths are
resolved as POSIX lays down.
-/
import DeviceTwin.Fault
import DeviceTwin.Text.Utf8

namespace DeviceTwin

/-- The files of a working directory that has no directories in it. -/
structure Folder where
  files : List (String × Bytes)

namespace Folder

/-- The greatest number of bytes in one part of a path. -/
def maxName : Nat := 255

/-- The number of bytes that a path may not reach. -/
def pathLimit : Nat := 4096

/-- The directories that every system has, by the names on the way to them. -/
def systemDirectories : List (List String) :=
  ["bin", "dev", "etc", "home", "lib", "mnt", "opt", "proc", "root", "run", "sbin", "srv", "sys",
    "tmp", "usr", "var"].map ([·]) ++
    [["usr", "bin"], ["usr", "lib"], ["var", "log"], ["var", "tmp"]]

/-- The file that is always empty. -/
def emptyFile : List String := ["dev", "null"]

/-- Where the resolution of a path has come to. -/
inductive Place
  | here
  | above
  /-- A directory that every system has. -/
  | system (names : List String)
  | file (content : Bytes)

/-- Goes from a place to a part of a path. -/
def enter (folder : Folder) : Place → String → Except FileError Place
  | .file _, _ => .error .notDirectory
  | place, "" => .ok place
  | place, "." => .ok place
  | .system names, ".." => .ok (.system names.dropLast)
  | _, ".." => .ok .above
  | place, name =>
      if maxName < name.utf8ByteSize then .error .nameTooLong
      else
        match place with
        | .here =>
            match folder.files.lookup name with
            | some content => .ok (.file content)
            | none => .error .notFound
        | .system names =>
            let names := names ++ [name]
            if names = emptyFile then .ok (.file [])
            else if systemDirectories.contains names then .ok (.system names)
            else .error .notFound
        | _ => .error .notFound

def resolve (folder : Folder) (path : String) : Except FileError Place :=
  if path.toList.contains '\x00' then .error .zeroByte
  else if path = "" then .error .notFound
  else if pathLimit ≤ path.utf8ByteSize then .error .nameTooLong
  else
    let start := if path.toList.head? = some '/' then Place.system [] else Place.here
    (path.splitOn "/").foldlM folder.enter start

/-- The content of the file of a path. -/
def read (folder : Folder) (path : String) : Except FileError Bytes :=
  match folder.resolve path with
  | .ok (.file content) => .ok content
  | .ok _ => .error .isDirectory
  | .error cause => .error cause

end Folder

end DeviceTwin
