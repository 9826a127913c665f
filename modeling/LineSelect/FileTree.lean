import LineSelect.Text.Split

/-!
File trees as values: what is found where, how the text of a path is followed, and what reading,
writing and making directories do. Trees have files and directories and nothing else: there are no
permissions and no links, and an operation fails only for what stands in the tree, never because a
device is full or broken.
-/

namespace LineSelect

/-- The names from the root of a tree down to an entry. -/
abbrev Path := List String

inductive FileError where
  | notFound
  | alreadyExists
  | notDirectory
  | isDirectory
  | nameTooLong
  /-- The content is no text. -/
  | notText
deriving DecidableEq, Repr

def FileError.message : FileError → String
  | .notFound => "No such file or directory (os error 2)"
  | .alreadyExists => "File exists (os error 17)"
  | .notDirectory => "Not a directory (os error 20)"
  | .isDirectory => "Is a directory (os error 21)"
  | .nameTooLong => "File name too long (os error 36)"
  | .notText => "stream did not contain valid UTF-8"

inductive FileEntry where
  | file (content : ByteArray)
  | directory

instance : DecidableEq FileEntry
  | .directory, .directory => isTrue rfl
  | .file a, .file b => decidable_of_iff (a.data = b.data) (by cases a; cases b; simp)
  | .directory, .file _ | .file _, .directory => isFalse nofun

/-- The entries below a root, which is a directory and has no entry of its own. -/
structure FileTree where
  /-- The text that stands for the root in front of a path. -/
  root : String := ""
  entries : List (Path × FileEntry) := []

namespace FileTree

/-- A path as messages show it. -/
def display (tree : FileTree) (path : Path) : String :=
  tree.root ++ String.join (path.map ("/" ++ ·))

def get? (tree : FileTree) (path : Path) : Option FileEntry :=
  if path = [] then some .directory else tree.entries.lookup path

theorem lookup_cons_eq_ite (path other : Path) (entry : FileEntry)
    (entries : List (Path × FileEntry)) :
    ((path, entry) :: entries).lookup other =
      if other = path then some entry else entries.lookup other := by
  by_cases h : other = path
  · simp [h]
  · rw [List.lookup_cons, beq_false_of_ne h, if_neg h]

/-- Puts an entry at a path, in the place of one that may be there, and else at the end. -/
def put (path : Path) (entry : FileEntry) : List (Path × FileEntry) → List (Path × FileEntry)
  | [] => [(path, entry)]
  | e :: rest => if e.1 = path then (path, entry) :: rest else e :: put path entry rest

theorem lookup_put (path other : Path) (entry : FileEntry) (entries : List (Path × FileEntry)) :
    (put path entry entries).lookup other =
      if other = path then some entry else entries.lookup other := by
  induction entries with
  | nil => exact lookup_cons_eq_ite path other entry []
  | cons e rest ih =>
    obtain ⟨name, old⟩ := e
    rw [put, lookup_cons_eq_ite name]
    split
    · next h =>
      simp only at h
      rw [lookup_cons_eq_ite, h]
      split <;> rfl
    · next h =>
      simp only at h
      rw [lookup_cons_eq_ite, ih]
      grind

/-- The tree with an entry at a path; nothing else changes. -/
def set (tree : FileTree) (path : Path) (entry : FileEntry) : FileTree :=
  { tree with entries := put path entry tree.entries }

theorem get?_set_self (tree : FileTree) {path : Path} (entry : FileEntry) (h : path ≠ []) :
    (tree.set path entry).get? path = some entry := by
  simp [get?, set, lookup_put, h]

theorem get?_set_of_ne (tree : FileTree) {path other : Path} (entry : FileEntry)
    (h : other ≠ path) : (tree.set path entry).get? other = tree.get? other := by
  simp [get?, set, lookup_put, h]

/-- Names take up to this many bytes. -/
def nameLimit : Nat := 255

/-- Follows names from a path on. All but the last have to lead to directories; two dots lead back
up, and a single dot or no name at all leads nowhere else. -/
def follow (tree : FileTree) (path : Path) : List String → Except FileError Path
  | [] => .ok path
  | name :: rest =>
    match tree.get? path with
    | none => .error .notFound
    | some (.file _) => .error .notDirectory
    | some .directory =>
      if name = "" ∨ name = "." then follow tree path rest
      else if name = ".." then follow tree path.dropLast rest
      else if nameLimit < name.utf8ByteSize then .error .nameTooLong
      else follow tree (path ++ [name]) rest

/-- The names between the slashes of a text. -/
def namesOf (text : List Char) : List String :=
  (Text.splitOn '/' text).map String.ofList

/-- The text of a path stays below this many bytes. -/
def textLimit : Nat := 4096

/-- The path that a text means, seen from a directory. A slash in front leads to the root. -/
def locate (tree : FileTree) (start : Path) (text : String) : Except FileError Path :=
  if textLimit ≤ text.utf8ByteSize then .error .nameTooLong
  else match text.toList with
    | [] => .error .notFound
    | '/' :: rest => tree.follow [] (namesOf rest)
    | chars => tree.follow start (namesOf chars)

def read (tree : FileTree) (path : Path) : Except FileError ByteArray :=
  match tree.get? path with
  | none => .error .notFound
  | some .directory => .error .isDirectory
  | some (.file content) => .ok content

/-- The text that bytes hold. -/
def decode (content : ByteArray) : Except FileError String :=
  match String.fromUTF8? content with
  | some text => .ok text
  | none => .error .notText

def readText (tree : FileTree) (path : Path) : Except FileError String :=
  match tree.read path with
  | .error e => .error e
  | .ok content => decode content

/-- Writes a file into a directory that is there. -/
def write (tree : FileTree) (path : Path) (content : ByteArray) : Except FileError FileTree :=
  match tree.get? path with
  | some .directory => .error .isDirectory
  | _ => .ok (tree.set path (.file content))

/-- Adds bytes to the end of a file, which is made if it is not there. -/
def append (tree : FileTree) (path : Path) (content : ByteArray) : Except FileError FileTree :=
  match tree.get? path with
  | some .directory => .error .isDirectory
  | some (.file old) => .ok (tree.set path (.file (old ++ content)))
  | none => .ok (tree.set path (.file content))

/-- Makes the directories on the way from one path along further names. A file in the way is a
fault, and of another kind in the last place. -/
def makeDirectoriesFrom (tree : FileTree) (path : Path) : List String → Except FileError FileTree
  | [] => .ok tree
  | name :: rest =>
    match tree.get? (path ++ [name]) with
    | some (.file _) => .error (if rest = [] then .alreadyExists else .notDirectory)
    | some .directory => makeDirectoriesFrom tree (path ++ [name]) rest
    | none => makeDirectoriesFrom (tree.set (path ++ [name]) .directory) (path ++ [name]) rest

/-- Makes a directory and those above it, as far as they are not there. -/
def makeDirectories (tree : FileTree) (path : Path) : Except FileError FileTree :=
  makeDirectoriesFrom tree [] path

end FileTree

end LineSelect
