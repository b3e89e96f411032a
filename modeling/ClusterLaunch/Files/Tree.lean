import ClusterLaunch.Files.Basic

/-! # File trees

A directory with everything below it, in which paths are walked part by part from the present
directory. Outside it there are only directories above and the root.
-/

namespace ClusterLaunch

inductive Entry where
  | file (content : ByteArray)
  | directory (entries : List (String × Entry))
  deriving Inhabited

namespace Entry

def empty : Entry := .directory []

def setChild (name : String) (e : Entry) : List (String × Entry) → List (String × Entry)
  | [] => [(name, e)]
  | (n, old) :: rest => if n = name then (n, e) :: rest else (n, old) :: setChild name e rest

/-- Put a leaf at the end of a list of names. Directories on the way are made, and a directory that
is there already is kept when an empty one is put in its place. -/
def put (leaf : Entry) : List String → Entry → Entry
  | [], e =>
    match e, leaf with
    | .directory entries, .directory [] => .directory entries
    | _, leaf => leaf
  | name :: names, .directory entries =>
    .directory (setChild name (put leaf names ((entries.lookup name).getD empty)) entries)
  | _ :: _, e => e

/-- The longest name of a directory entry, in bytes. -/
def maxName : Nat := 255

/-- The longest path, in bytes, with the mark at its end. -/
def maxPath : Nat := 4096

def bytesOf (name : String) : Nat :=
  ((Text.codePoints name.toList).map Text.byteSize).foldl (· + ·) 0

/-- Whether a code point stands for no bytes of a file name: a surrogate other than those that stand
for single bytes. -/
def hasNoBytes (n : Nat) : Bool := Text.isSurrogate n && !(0xdc80 ≤ n && n ≤ 0xdcff)

/-- Walk names from an entry whose ancestors are given, the nearest first. -/
def walk : List Entry → Entry → List String → Except ReadError Entry
  | _, e, [] => .ok e
  | above, e, name :: names =>
    match e with
    | .file _ => .error .notDirectory
    | .directory entries =>
      if name = ".." then
        match above with
        | parent :: above => walk above parent names
        | [] => walk [] empty names
      else if maxName < bytesOf name then .error .nameTooLong
      else match entries.lookup name with
        | some child => walk (e :: above) child names
        | none => .error .notFound

/-- The files of a directory that is the present one. -/
def files (present : Entry) : Files := fun p =>
  if (Text.codePoints p.text.toList).any hasNoBytes then .error .notEncodable
  else if '\x00' ∈ p.text.toList then .error .unusable
  else if maxPath ≤ bytesOf p.text then .error .nameTooLong
  else do
    match ← walk [] (if p.slashes = 0 then present else empty) p.parts with
    | .file content => return content
    | .directory _ => throw .isDirectory

end Entry

end ClusterLaunch
