import ClusterTopology.CommandLine.Environment
import ClusterTopology.Text.Lines

/-!
A working directory as a value: the files in it and in the folders below it, with
their contents. A path is followed name by name, and every name but the last has
to lead to a folder. Writing changes no file but the one written, and creates no
folder. What lies outside the working directory is known only as far as runs
themselves have put it there.

Only files are kept, so a folder is there as long as a file lies in it or further
down: there are no empty folders, and no links from one place to another. Every file
can be read and written; who may do so is not part of the value. A run makes and
removes neither folders nor links, so these are limits on where it starts from only.
-/

namespace ClusterTopology.CommandLine

/-- Where something is: the names on the way from the working directory. A way out
of it starts with `..`, and one from the root of the file system with `/`. -/
abbrev Location := List String

namespace Location

/-- The folder around a location. -/
def parent (location : Location) : Location :=
  match location.getLast? with
  | none => [".."]
  | some ".." => location ++ [".."]
  | some "/" => location
  | some _ => location.dropLast

/-- Where a path starts. -/
def start (path : String) : Location := if path.startsWith "/" then ["/"] else []

end Location

/-- The longest name, in bytes. -/
def maxNameSize : Nat := 255

/-- The longest path, in bytes. -/
def maxPathSize : Nat := 4095

/-- Files with their contents. The folders are those on the way to a file. -/
structure Directory where
  files : List (Location × ByteArray) := []

namespace Directory

/-- The contents of the file at a location. -/
def contents? (directory : Directory) (location : Location) : Option ByteArray :=
  directory.files.lookup location

/-- A folder is the working directory, anything around it, or whatever a file is
in. -/
def isFolder (directory : Directory) (location : Location) : Bool :=
  location == ["/"] || location.all (· == "..") ||
    directory.files.any fun (file, _) => location.length < file.length && location.isPrefixOf file

/-- Go from a folder to what a name in it leads to, which has to be a folder. -/
def enter (directory : Directory) (here : Location) (name : String) :
    Except FileFault Location :=
  if name = "" ∨ name = "." then .ok here
  else if name = ".." then .ok here.parent
  else if maxNameSize < name.utf8ByteSize then .error .nameTooLong
  else
    let there := here ++ [name]
    if directory.isFolder there then .ok there
    else match directory.contents? there with
      | some _ => .error .notFolder
      | none => .error .notFound

/-- Whether a name stands for a folder by itself. -/
def namesFolder (name : String) : Bool := ["", ".", ".."].contains name

/-- The names in a path. -/
def names (path : String) : List String :=
  (Text.pieces (· == '/') path.toList).map String.ofList

/-- Follow these names to the place where a file is or could be. -/
def follow (directory : Directory) (here : Location) : List String → Except FileFault Location
  | [] => .error .isFolder
  | [last] =>
    if namesFolder last then .error .isFolder
    else if maxNameSize < last.utf8ByteSize then .error .nameTooLong
    else
      let there := here ++ [last]
      if directory.isFolder there then .error .isFolder else .ok there
  | name :: rest => do follow directory (← directory.enter here name) rest

/-- Names without the empty ones at their end. -/
def withoutTrailing (names : List String) : List String :=
  (names.reverse.dropWhile (· == "")).reverse

/-- The location of the file to read at a path. -/
def locate (directory : Directory) (path : String) : Except FileFault Location :=
  if maxPathSize < path.utf8ByteSize then .error .nameTooLong
  else directory.follow (Location.start path) (names path)

/-- The location of the file to write at a path. A path that ends in a slash can
only lead to a folder, whatever there is. -/
def locateToWrite (directory : Directory) (path : String) : Except FileFault Location :=
  if maxPathSize < path.utf8ByteSize then .error .nameTooLong
  else
    let kept := withoutTrailing (names path)
    if kept.length < (names path).length then
      directory.follow (Location.start path) (kept.dropLast ++ [""])
    else directory.follow (Location.start path) (names path)

/-- The text at a path. -/
def read (directory : Directory) (path : String) : Except FileFault String := do
  match directory.contents? (← directory.locate path) with
  | none => .error .notFound
  | some bytes =>
    match String.fromUTF8? bytes with
    | some text => .ok text
    | none => .error .notText

/-- Put contents at a location, in the place of those that are there. -/
def put (directory : Directory) (location : Location) (bytes : ByteArray) : Directory where
  files := (location, bytes) :: directory.files.filter fun file => file.1 != location

/-- The directory once a text is written at a path. -/
def write (directory : Directory) (path text : String) : Except FileFault Directory := do
  return directory.put (← directory.locateToWrite path) text.toUTF8

/-- Runs in a directory, which is the state. -/
def environment : Environment (StateM Directory) where
  read path directory := (directory.read path, directory)
  write path text directory :=
    match directory.write path text with
    | .ok after => (.ok (), after)
    | .error fault => (.error fault, directory)

/-- The directory of files given by their paths. -/
def ofFiles (files : List (String × ByteArray)) : Directory where
  files := files.map fun (path, bytes) => (names path, bytes)

theorem contents?_put (directory : Directory) (location wanted : Location) (bytes : ByteArray) :
    (directory.put location bytes).contents? wanted =
      if wanted = location then some bytes else directory.contents? wanted := by
  by_cases same : wanted = location
  · simp [contents?, put, same]
  · simp only [contents?, put, List.lookup_cons, same, if_false]
    have differs : (wanted == location) = false := by simpa using same
    rw [differs]
    dsimp only
    induction directory.files with
    | nil => rfl
    | cons file rest ih =>
      obtain ⟨other, old⟩ := file
      by_cases kept : other = location
      · subst kept
        simp [List.lookup_cons, differs, ih]
      · have stays : (other != location) = true := by simpa using kept
        simp only [List.filter_cons, stays, if_true, List.lookup_cons]
        split
        · rfl
        · exact ih

end Directory

end ClusterTopology.CommandLine
