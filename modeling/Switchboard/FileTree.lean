/-!
A directory with text files in it, seen from inside. Paths have slashes between their names; a
point stands for the directory where it occurs, and two for the one above. Outside of the directory
lie only a few places that every system has, and the way up.
-/
namespace Switchboard

inductive PathFault where
  | missing | notDirectory | isDirectory | tooLong | nullCharacter
  deriving DecidableEq, Repr

def PathFault.message : PathFault → String
  | .missing => "No such file or directory (os error 2)"
  | .notDirectory => "Not a directory (os error 20)"
  | .isDirectory => "Is a directory (os error 21)"
  | .tooLong => "File name too long (os error 36)"
  | .nullCharacter => "file name contained an unexpected NUL byte"

def nameLimit : Nat := 255

def pathLimit : Nat := 4095

def pathFault? (path : String) : Option PathFault :=
  if path.toList.contains '\x00' then some .nullCharacter
  else if path = "" then some .missing
  else if pathLimit < path.utf8ByteSize then some .tooLong
  else none

structure FileTree where
  files : List (List String × String) := []
  deriving Repr

namespace FileTree

inductive Item where
  | file (contents : String)
  | directory

/-- The way from the top to the directory itself, whose name no path spells. -/
def home : List String := ["tmp", ""]

def usualDirectories : List (List String) :=
  ["bin", "dev", "etc", "lib", "proc", "tmp", "usr", "var"].map fun name => [name]

def usualFiles : List (List String × String) :=
  [(["dev", "null"], ""), (["etc", "passwd"], "root:x:0:0:root:/root:/bin/sh\n")]

/-- The names of a path; an empty name at its end or a point asks for a directory. -/
def names (path : String) : List String := path.splitOn "/"

def isStay (name : String) : Bool := name == "" || name == "."

def file? (tree : FileTree) (place : List String) : Option String :=
  (tree.files.find? fun file => file.1 == place).map (·.2)

def isDirectory (tree : FileTree) (place : List String) : Bool :=
  place.isPrefixOf home || usualDirectories.contains place
    || tree.files.any fun file => place.isPrefixOf file.1 && file.1 != place

/-- Follows names from a directory. The top lies above itself. -/
def follow (tree : FileTree) : List String → List String → Except PathFault Item
  | _, [] => .ok .directory
  | place, name :: rest =>
    if isStay name then follow tree place rest
    else if name == ".." then follow tree place.dropLast rest
    else if nameLimit < name.utf8ByteSize then .error .tooLong
    else
      let next := place ++ [name]
      match tree.file? next with
      | some contents => if rest.isEmpty then .ok (.file contents) else .error .notDirectory
      | none => if tree.isDirectory next then follow tree next rest else .error .missing

def item (tree : FileTree) (path : String) : Except PathFault Item :=
  match pathFault? path with
  | some fault => .error fault
  | none => tree.follow (if path.startsWith "/" then [] else home) (names path)

def ofPaths (files : List (String × String)) : FileTree :=
  ⟨(files.map fun file => (home ++ (names file.1).filter fun name => !isStay name, file.2))
    ++ usualFiles⟩

def read (tree : FileTree) (path : String) : Except String String :=
  match tree.item path with
  | .ok (.file contents) => .ok contents
  | .ok .directory => .error PathFault.isDirectory.message
  | .error fault => .error fault.message

def reach (tree : FileTree) (path : String) : Except String Unit :=
  match tree.item path with
  | .ok _ => .ok ()
  | .error fault => .error fault.message

end FileTree
end Switchboard
