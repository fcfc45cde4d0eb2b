/-!
# File systems

## Directories and files as a value

Tokens files live in a tree of directories.  A file system says what stands at each
location of the tree: a file with its contents, a directory, or nothing.  Reading leaves
it alone and writing returns a new one, so what a write changes can be stated as an
equation.

A path names a location by the directories that lead to it.  Every component of a path
is looked up in a directory that exists, one dot stays where it is, two dots lead to the
parent, and a slash at the end asks for a directory.  A path has fewer than 4096 bytes and
a component no more than 255.
-/

namespace TokenNames

inductive FileFault where
  | notFound
  | notDirectory
  | isDirectory
  | nameTooLong
  | nullInPath
  | invalidText
  /-- Any other fault, in the words of the system. -/
  | other (description : String)
deriving DecidableEq

def FileFault.message : FileFault → String
  | .notFound => "No such file or directory (os error 2)"
  | .notDirectory => "Not a directory (os error 20)"
  | .isDirectory => "Is a directory (os error 21)"
  | .nameTooLong => "File name too long (os error 36)"
  | .nullInPath => "file name contained an unexpected NUL byte"
  | .invalidText => "stream did not contain valid UTF-8"
  | .other description => description

/-- The names that lead from the root to a place in the tree, the innermost first. -/
abbrev Location := List String

inductive Node where
  | file (contents : ByteArray)
  | directory

structure FileSystem where
  node? : Location → Option Node

namespace FileSystem

def empty : FileSystem where
  node? location := if location = [] then some .directory else none

def set (fs : FileSystem) (location : Location) (node : Node) : FileSystem where
  node? l := if l = location then some node else fs.node? l

theorem node?_set_self (fs : FileSystem) (location : Location) (node : Node) :
    (fs.set location node).node? location = some node := by
  simp [set]

theorem node?_set_of_ne (fs : FileSystem) {location l : Location} (node : Node)
    (h : l ≠ location) : (fs.set location node).node? l = fs.node? l := by
  simp [set, h]

/-!
# Paths

A relative path starts at the root, like an absolute one.
-/

def components (path : String) : List String :=
  (path.toList.splitOn '/').map String.ofList

def walk (fs : FileSystem) : Location → List String → Except FileFault Location
  | location, [] => .ok location
  | location, component :: rest =>
      match fs.node? location with
      | none => .error .notFound
      | some (.file _) => .error .notDirectory
      | some .directory =>
          if component = "" ∨ component = "." then walk fs location rest
          else if component = ".." then walk fs location.tail rest
          else if 255 < component.utf8ByteSize then .error .nameTooLong
          else walk fs (component :: location) rest

def usable (path : String) : Except FileFault (List String) :=
  if path.toList.contains '\x00' then .error .nullInPath
  else if 4096 ≤ path.utf8ByteSize then .error .nameTooLong
  else if path = "" then .error .notFound
  else .ok (components path)

/-- The location that a path leads to.  Nothing need stand there. -/
def locate (fs : FileSystem) (path : String) : Except FileFault Location :=
  match usable path with
  | .error fault => .error fault
  | .ok parts => fs.walk [] parts

/-- The location where a path lets a file be written: its directory exists, and the path
ends with a name. -/
def target (fs : FileSystem) (path : String) : Except FileFault Location :=
  match usable path with
  | .error fault => .error fault
  | .ok parts =>
      let named := (parts.reverse.dropWhile (· = "")).reverse
      match fs.walk [] (named.dropLast ++ [""]) with
      | .error fault => .error fault
      | .ok directory =>
          match parts.getLast? with
          | none | some "" | some "." | some ".." => .error .isDirectory
          | some name =>
              if 255 < name.utf8ByteSize then .error .nameTooLong else .ok (name :: directory)

/-!
# Reading and writing

A write replaces the whole contents of a file or makes a new one.  It never makes a
directory.
-/

def readBytes (fs : FileSystem) (path : String) : Except FileFault ByteArray :=
  match fs.locate path with
  | .error fault => .error fault
  | .ok location =>
      match fs.node? location with
      | none => .error .notFound
      | some .directory => .error .isDirectory
      | some (.file contents) => .ok contents

def decode (contents : ByteArray) : Except FileFault String :=
  match String.fromUTF8? contents with
  | none => .error .invalidText
  | some text => .ok text

def readText (fs : FileSystem) (path : String) : Except FileFault String :=
  match fs.readBytes path with
  | .error fault => .error fault
  | .ok contents => decode contents

def writeText (fs : FileSystem) (path text : String) : Except FileFault FileSystem :=
  match fs.target path with
  | .error fault => .error fault
  | .ok location =>
      match fs.node? location with
      | some .directory => .error .isDirectory
      | none | some (.file _) => .ok (fs.set location (.file text.toUTF8))

end FileSystem
end TokenNames
