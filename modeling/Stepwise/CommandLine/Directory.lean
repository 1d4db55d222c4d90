/-
Module: Stepwise.CommandLine.Directory
Purpose: Files as seen from a working directory.
Main exports: CommandLine.ReadFault, CommandLine.Directory, CommandLine.Directory.read
-/

namespace Stepwise.CommandLine

/-!
A directory is given by its files, each with the names that lead to it; any
proper front part of these names is a directory too.  A path is followed name
by name, and everything a name is looked up in has to be a directory.  The name
`.` and the empty names around slashes stay where they are, so a slash at the
end asks for a directory, and `..` goes back.

What lies outside the working directory is not known.  A path that starts there
or goes back beyond the working directory is in some directory until it names
something, and then finds nothing.
-/

/-- Why a file cannot be read. -/
inductive ReadFault where
  | notFound
  | notDirectory
  | isDirectory
  | nameTooLong
  | notText
  | other (reason : String)
deriving Repr, Inhabited, DecidableEq

/-- The reason in words. -/
def ReadFault.message : ReadFault → String
  | .notFound => "No such file or directory (os error 2)"
  | .notDirectory => "Not a directory (os error 20)"
  | .isDirectory => "Is a directory (os error 21)"
  | .nameTooLong => "File name too long (os error 36)"
  | .notText => "stream did not contain valid UTF-8"
  | .other reason => reason

/-- The text that bytes encode. -/
def decodeText (bytes : ByteArray) : Except ReadFault String :=
  match String.fromUTF8? bytes with
  | some text => .ok text
  | none => .error .notText

/-- The files below a working directory, each with the names that lead to it. -/
structure Directory where
  files : List (List String × ByteArray)
deriving Inhabited

namespace Directory

/-- The names in a path. -/
def names (path : String) : List String :=
  (path.toList.splitOn '/').map String.ofList

/-- Whether a name stays where it is. -/
def stays (name : String) : Bool :=
  name == "" || name == "."

/-- The directory of files with their paths. -/
def ofFiles (files : List (String × ByteArray)) : Directory :=
  ⟨files.map fun (path, bytes) => ((names path).filter fun name => !stays name, bytes)⟩

/-- The most bytes in a name. -/
def nameLimit : Nat := 255

/-- The most bytes in a path. -/
def pathLimit : Nat := 4095

/-- Where following a path leads: a place below the working directory, or some
directory outside of it. -/
inductive Place where
  | inside (names : List String)
  | outside
deriving Repr, Inhabited, DecidableEq

/-- Whether a directory stands below the working directory. -/
def isDirectory (directory : Directory) (place : List String) : Bool :=
  place.isEmpty || directory.files.any fun (path, _) =>
    place.isPrefixOf path && place.length < path.length

/-- Goes back from a directory. -/
def Place.back : Place → Place
  | .inside [] => .outside
  | .inside names => .inside names.dropLast
  | .outside => .outside

/-- Looks a name up in a place. -/
def enter (directory : Directory) (place : Place) (name : String) : Except ReadFault Place :=
  match place with
  | .inside names =>
      if directory.isDirectory names then
        if stays name then .ok place
        else if name = ".." then .ok place.back
        else if name.utf8ByteSize > nameLimit then .error .nameTooLong
        else .ok (.inside (names ++ [name]))
      else if (directory.files.lookup names).isSome then .error .notDirectory
      else .error .notFound
  | .outside =>
      if stays name || name = ".." then .ok place
      else if name.utf8ByteSize > nameLimit then .error .nameTooLong
      else .error .notFound

/-- The bytes of the file at a path. -/
def read (directory : Directory) (path : String) : Except ReadFault ByteArray := do
  let start : Place := if path.toList.head? = some '/' then .outside else .inside []
  if path.utf8ByteSize > pathLimit then .error .nameTooLong
  else
    match ← (names path).foldlM directory.enter start with
    | .outside => .error .isDirectory
    | .inside names =>
        if directory.isDirectory names then .error .isDirectory
        else
          match directory.files.lookup names with
          | none => .error .notFound
          | some bytes => return bytes

end Directory

end Stepwise.CommandLine
