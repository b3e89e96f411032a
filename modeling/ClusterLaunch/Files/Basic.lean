import ClusterLaunch.Text.Basic
import ClusterLaunch.Text.Quoted

/-! # Files

A path is absolute or relative and has parts. Empty parts and single dots mean nothing; exactly two
slashes at the beginning are told apart from one. Reading a file gives its bytes or the reason why
it cannot be read. Text is in UTF-8, and every line break is read as a line feed.
-/

namespace ClusterLaunch

structure Path where
  /-- How many slashes it begins with: none, one, or two. -/
  slashes : Nat
  parts : List String
  deriving DecidableEq, Repr

namespace Path

def ofText (s : String) : Path :=
  let leading := (s.toList.takeWhile (· = '/')).length
  let parts := (Text.fields '/' s.toList).filter fun part => part ≠ [] ∧ part ≠ ['.']
  ⟨if leading = 2 then 2 else min leading 1, parts.map String.ofList⟩

/-- The text of a path; the empty relative path is a dot. -/
def text (p : Path) : String :=
  if p.slashes = 0 ∧ p.parts = [] then "."
  else String.ofList (List.replicate p.slashes '/') ++ "/".intercalate p.parts

instance : ToString Path := ⟨text⟩

end Path

inductive ReadError where
  | notFound
  | notDirectory
  | isDirectory
  | nameTooLong
  /-- The path has a null character and names no file at all. -/
  | unusable
  /-- The path has a surrogate that stands for no byte. -/
  | notEncodable
  deriving DecidableEq, Repr

/-- The number and the words of an error of the file system. -/
def ReadError.reason : ReadError → Nat × String
  | .notFound => (2, "No such file or directory")
  | .notDirectory => (20, "Not a directory")
  | .isDirectory => (21, "Is a directory")
  | .nameTooLong => (36, "File name too long")
  | .unusable | .notEncodable => (22, "Invalid argument")

def ReadError.message (e : ReadError) (p : Path) : String :=
  "[Errno " ++ toString e.reason.1 ++ "] " ++ e.reason.2 ++ ": " ++ Text.quoted p.text

abbrev Files := Path → Except ReadError ByteArray

/-- Replace each carriage return, alone or before a line feed, by a line feed. -/
def unifyBreaks : List Char → List Char
  | [] => []
  | '\r' :: '\n' :: s => '\n' :: unifyBreaks s
  | '\r' :: s => '\n' :: unifyBreaks s
  | c :: s => c :: unifyBreaks s

/-- The text of a file, if its bytes are UTF-8. -/
def textOfBytes? (bytes : ByteArray) : Option String :=
  (String.fromUTF8? bytes).map fun s => String.ofList (unifyBreaks (Text.ofChars s.toList))

theorem unifyBreaks_eq_self {s : List Char} (h : '\r' ∉ s) : unifyBreaks s = s := by
  induction s with
  | nil => rfl
  | cons c s ih =>
    simp only [List.mem_cons, not_or] at h
    unfold unifyBreaks
    split <;> simp_all

end ClusterLaunch
