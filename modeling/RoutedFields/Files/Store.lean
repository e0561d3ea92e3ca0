import RoutedFields.Failure
import RoutedFields.Files.Path

/-!
# Files

Files by the names that lead to them from the root. A directory is there because of the files in it
and of the working directory, or because it is listed.

* `FileStore.read?`: the content of a file.
* `FileStore.write`: a file with its content replaced, or why it cannot be written.
* `decodeText`: the text in a file, with its line breaks in one form.
-/

namespace RoutedFields

/-- Files, and the working directory that paths start from. -/
structure FileStore where
  /-- The working directory. -/
  directory : FilePath
  /-- The names that lead to directories that may be empty. -/
  directories : List (List String)
  /-- The names that lead to each file, and its content. -/
  files : List (List String × ByteArray)

namespace FileStore

/-- Whether names lead to a file. -/
def isFile (store : FileStore) (names : List String) : Bool :=
  store.files.any (·.1 == names)

/-- Whether names lead to a directory. -/
def isDirectory (store : FileStore) (names : List String) : Bool :=
  names.isPrefixOf store.directory.names || store.directories.contains names ||
    store.files.any fun f => names.isPrefixOf f.1 && f.1 != names

/-- The names to a place, starting from some names; `..` leads one directory up, and all names but
the last have to lead to directories. -/
def follow (store : FileStore) : List String → List String → Except Fault (List String)
  | names, [] => .ok names
  | names, next :: rest =>
    if !store.isDirectory names then
      .error (if store.isFile names then .notADirectory else .noSuchFile)
    else if next == ".." then follow store names.dropLast rest
    else follow store (names ++ [next]) rest

/-- Whether a path is counted from the root: an absolute one is, and one that goes on from the name
of the working directory. -/
def isFromRoot (store : FileStore) (path : FilePath) : Bool :=
  !path.anchor.isEmpty ||
    (store.directory.anchor.isEmpty && store.directory.names.isPrefixOf path.names)

/-- The names to the place that a path leads to. -/
def locate (store : FileStore) (path : FilePath) : Except Fault (List String) :=
  store.follow (if store.isFromRoot path then [] else store.directory.names) path.names

/-- The content of a file. -/
def read? (store : FileStore) (path : FilePath) : Option ByteArray := do
  let names ← (store.locate path).toOption
  (store.files.find? (·.1 == names)).map (·.2)

/-- Files with one of them set: in its old place if it is there, else at the end. -/
def put (files : List (List String × ByteArray)) (names : List String) (content : ByteArray) :
    List (List String × ByteArray) :=
  match files with
  | [] => [(names, content)]
  | (n, c) :: rest => if n == names then (n, content) :: rest else (n, c) :: put rest names content

/-- The names to a place where a file can be written, or why none can. -/
def writable (store : FileStore) (text : String) : Except Fault (List String) := do
  let names ← store.locate (.ofText text)
  if store.isDirectory names then throw .isADirectory
  if text.toList.getLast? == some '/' then
    throw (if store.isFile names then .notADirectory else .isADirectory)
  return names

/-- The files with a text written to one of them. -/
def write (store : FileStore) (path text : String) : Except Fault FileStore := do
  let names ← store.writable path
  return { store with files := put store.files names text.toUTF8 }

end FileStore

/-! ## Text in files -/

/-- A text with every line break in the form of one line feed. -/
def unifyLines : List Char → List Char
  | '\r' :: '\n' :: rest => '\n' :: unifyLines rest
  | '\r' :: rest => '\n' :: unifyLines rest
  | c :: rest => c :: unifyLines rest
  | [] => []

/-- The text in a file. -/
def decodeText (content : ByteArray) : Except Fault String :=
  match String.fromUTF8? content with
  | some text => .ok (String.ofList (unifyLines text.toList))
  | none => .error .notUtf8

end RoutedFields
