import Gridwalk.Text.Utf8

/-!
# A directory of files

A flat directory in which paths are looked up. What lies above it is known to consist of
directories and otherwise holds nothing.
-/
namespace Gridwalk

inductive FileFault where
  | notFound
  | isDirectory
  | notDirectory
  | nameTooLong
  | nulInPath
  deriving DecidableEq, Repr, Inhabited

def FileFault.message : FileFault → String
  | notFound => "No such file or directory (os error 2)"
  | isDirectory => "Is a directory (os error 21)"
  | notDirectory => "Not a directory (os error 20)"
  | nameTooLong => "File name too long (os error 36)"
  | nulInPath => "file name contained an unexpected NUL byte"

structure Directory where
  files : List (String × List UInt8) := []
  deriving DecidableEq, Repr, Inhabited

namespace Directory

/-- Where the walk along a path has come to. -/
inductive Place where
  | here
  | above
  | file (contents : List UInt8)
  deriving DecidableEq, Repr, Inhabited

def maxName : Nat := 255

def maxPath : Nat := 4095

def components (path : List Char) : List (List Char) :=
  path.foldr (fun c parts =>
    match parts with
    | [] => [[c]]
    | part :: rest => if c = '/' then [] :: part :: rest else (c :: part) :: rest) [[]]

/-- One component further. Below a file there is nothing, not even by way of a trailing
slash; that is noticed before the component itself is looked at. -/
def enter (d : Directory) (component : List Char) : Place → Except FileFault Place
  | .file _ => .error .notDirectory
  | place =>
    if component = [] ∨ component = ['.'] then .ok place
    else if component = ['.', '.'] then .ok .above
    else if maxName < (Utf8.encode component).length then .error .nameTooLong
    else if place = .here then
      match d.files.lookup (String.ofList component) with
      | some contents => .ok (.file contents)
      | none => .error .notFound
    else .error .notFound

def read (d : Directory) (path : String) : Except FileFault (List UInt8) :=
  let text := path.toList
  if '\x00' ∈ text then .error .nulInPath
  else if text = [] then .error .notFound
  else if maxPath < (Utf8.encode text).length then .error .nameTooLong
  else
    let root : Place := if text.head? = some '/' then .above else .here
    match (components text).foldlM (fun place component => d.enter component place) root with
    | .error fault => .error fault
    | .ok (.file contents) => .ok contents
    | .ok _ => .error .isDirectory

end Directory

end Gridwalk
