import DispatchScan.Text.Utf8

/-!
# Files

What reading a file by its path can give. Whoever reads passes a function from paths to bytes; a
tree of named files is one such function, with the usual rules for relative paths. Nothing exists
outside the tree but the directories above it.
-/

namespace DispatchScan

/-- Why a file cannot be read. -/
inductive FileError where
  /-- There is no such file. -/
  | notFound
  /-- A file stands where a directory is needed. -/
  | notDirectory
  /-- The path leads to a directory. -/
  | isDirectory
  /-- A component of the path has more than 255 bytes. -/
  | nameTooLong
  /-- The path holds the character NUL. -/
  | nulInPath
  /-- The content is no UTF-8 text. -/
  | notUtf8
  /-- Any other reason, in the words of the system. -/
  | system (reason : String)
  deriving DecidableEq, Repr

/-- The wording of a file error. -/
def FileError.message : FileError → String
  | .notFound => "No such file or directory (os error 2)"
  | .notDirectory => "Not a directory (os error 20)"
  | .isDirectory => "Is a directory (os error 21)"
  | .nameTooLong => "File name too long (os error 36)"
  | .nulInPath => "file name contained an unexpected NUL byte"
  | .notUtf8 => "stream did not contain valid UTF-8"
  | .system reason => reason

/-- Gives the bytes of the file at a path. -/
abbrev ReadFile := String → Except FileError (List UInt8)

/-- Read a file as a text. -/
def readText (read : ReadFile) (path : String) : Except FileError String :=
  match read path with
  | .error e => .error e
  | .ok bytes =>
    match Text.ofUtf8? bytes with
    | some s => .ok s
    | none => .error .notUtf8

/-- A file that holds the UTF-8 bytes of a text is read as this text. -/
theorem readText_of_utf8 {read : ReadFile} {path text : String}
    (h : read path = .ok (Text.utf8 text)) : readText read path = .ok text := by
  rw [readText, h]
  simp only [Text.ofUtf8?_utf8]

/-- A tree of files. -/
structure FileTree where
  /-- The components of each file's path, and its bytes. -/
  files : List (List String × List UInt8)

namespace FileTree

/-- The components of a path, which slashes separate. -/
def components (path : String) : List String :=
  path.splitOn "/"

/-- The tree with files of the given relative paths. -/
def ofList (files : List (String × List UInt8)) : FileTree :=
  ⟨files.map fun (path, bytes) => (components path, bytes)⟩

/-- Whether some file lies below the given directory. -/
def hasDirectory (tree : FileTree) (directory : List String) : Bool :=
  tree.files.any fun (path, _) => directory.length < path.length && directory.isPrefixOf path

/-- Follow the components of a path from a directory above the tree by so many levels. -/
def walkAbove : Nat → List String → Except FileError (List UInt8)
  | _, [] => .error .isDirectory
  | levels, name :: names =>
    if name = "" ∨ name = "." then walkAbove levels names
    else if name = ".." then walkAbove (levels + 1) names
    else if 255 < name.utf8ByteSize then .error .nameTooLong
    else .error .notFound

/-- Follow the components of a path from a directory of the tree. -/
def walk (tree : FileTree) (directory : List String) :
    List String → Except FileError (List UInt8)
  | [] => .error .isDirectory
  | name :: names =>
    if name = "" ∨ name = "." then walk tree directory names
    else if name = ".." then
      if directory.isEmpty then walkAbove 1 names else walk tree directory.dropLast names
    else if 255 < name.utf8ByteSize then .error .nameTooLong
    else
      let here := directory ++ [name]
      match tree.files.lookup here with
      | some bytes => if names.isEmpty then .ok bytes else .error .notDirectory
      | none => if tree.hasDirectory here then walk tree here names else .error .notFound

/-- Read the file at a path. -/
def read (tree : FileTree) : ReadFile := fun path =>
  if path.toList.contains '\x00' then .error .nulInPath
  else
    match components path with
    | [""] => .error .notFound
    | "" :: names => walkAbove 0 names
    | names => walk tree [] names

end FileTree

end DispatchScan
