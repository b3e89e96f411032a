import ClusterLaunch.Decimal.Integer
import ClusterLaunch.Files.Basic

/-! # Command lines

The parameters of the two commands. A parameter is given by its name, `--x v` or `--x=v`, or by its
position; a flag has no value and a negative form. Once a parameter has been given by name, no later
one can be given by position. A word with a hyphen in front is a name, unless it is a number: a real
or a complex one, an integer in a base that is marked, or a range of integers with colons.
-/

namespace ClusterLaunch.Word

/-- A real number in ASCII digits without blanks and underscores. -/
def isReal : List Char → Bool
  | '-' :: s => (Decimal.unsigned? s).isSome
  | '+' :: s => (Decimal.unsigned? s).isSome
  | s => (Decimal.unsigned? s).isSome

/-- A number before its imaginary unit: a real number or a sign on its own. -/
def isFactor (s : List Char) : Bool := isReal s || s == ['-'] || s == ['+']

/-- An imaginary number, or a real and an imaginary one with a sign between them. -/
def isImaginary (s : List Char) : Bool :=
  (s.getLast? == some 'j' || s.getLast? == some 'J') &&
    (let s := s.dropLast
     isFactor s || (List.range s.length).any fun k =>
      (s.drop k).head?.any (fun c => c = '+' || c = '-') && isReal (s.take k) &&
        isFactor (s.drop k))

def isComplex (s : List Char) : Bool :=
  let digits := (Text.stripWhile Decimal.surroundsNumber s).map Decimal.plainDigit
  (Decimal.dropUnderscores digits).any fun s => isReal s || isImaginary s

/-- A range of integers: two or three parts between colons, any of which may be absent. -/
def isRange (s : List Char) : Bool :=
  let parts := Text.fields ':' s
  1 < parts.length && parts.length ≤ 3 &&
    parts.all fun part => part.isEmpty || (Decimal.integer? 10 part).isSome

def isNumber (s : List Char) : Bool :=
  isComplex s || (Decimal.markedInteger? s).isSome || isRange s

/-- Whether a word is meant as the name of a parameter: it begins with a hyphen and is no
number. -/
def isOptionLike (word : String) : Bool :=
  word.toList.head? = some '-' && !isNumber word.toList

end ClusterLaunch.Word

namespace ClusterLaunch

inductive Command where
  | validate
  | provision
  deriving DecidableEq, Repr

inductive Parameter where
  | config
  | template
  | profile
  | pollInterval
  | timeout
  | dryRun
  | verbose
  deriving DecidableEq, Repr

namespace Parameter

def name : Parameter → String
  | config => "config"
  | template => "template"
  | profile => "profile"
  | pollInterval => "poll-interval"
  | timeout => "timeout"
  | dryRun => "dry-run"
  | verbose => "verbose"

def isFlag : Parameter → Bool
  | dryRun | verbose => true
  | _ => false

end Parameter

/-- The parameters of a command, in the order of their positions. -/
def Command.parameters : Command → List Parameter
  | .validate => [.config, .template, .profile, .verbose]
  | .provision => [.config, .template, .profile, .pollInterval, .timeout, .dryRun, .verbose]

structure Arguments where
  config : Option Path := none
  template : Option Path := none
  profile : Option String := none
  pollInterval : Option String := none
  timeout : Option String := none
  dryRun : Option Bool := none
  verbose : Bool := false
  deriving DecidableEq, Repr

namespace Arguments

def flagWords : List (String × Bool) :=
  [("yes", true), ("y", true), ("1", true), ("true", true), ("t", true),
    ("no", false), ("n", false), ("0", false), ("false", false), ("f", false)]

def flagOf? (word : String) : Option Bool :=
  flagWords.lookup (String.ofList (word.toList.map Char.toLower))

/-- Whether a word in any letter case leaves a flag open. -/
def isOpen (word : String) : Bool :=
  ["none", "null"].contains (String.ofList (word.toList.map Char.toLower))

def set? (a : Arguments) (p : Parameter) (word : String) : Option Arguments :=
  match p with
  | .config => some { a with config := some (Path.ofText word) }
  | .template => some { a with template := some (Path.ofText word) }
  | .profile => some { a with profile := some word }
  | .pollInterval => some { a with pollInterval := some word }
  | .timeout => some { a with timeout := some word }
  | .dryRun =>
    if isOpen word then some { a with dryRun := none }
    else (flagOf? word).map fun b => { a with dryRun := some b }
  | .verbose => (flagOf? word).map fun b => { a with verbose := b }

/-- What a word before the values names: a parameter and, for a flag, its direction. In a name
underscores count as hyphens. -/
def named? (c : Command) (name : List Char) : Option (Parameter × Bool) :=
  match name with
  | '-' :: '-' :: s =>
    let s := String.ofList (s.map fun ch => if ch = '_' then '-' else ch)
    c.parameters.findSome? fun p =>
      if s = p.name then some (p, true)
      else if p.isFlag && s = "no-" ++ p.name then some (p, false)
      else none
  | _ => none

structure Sorted where
  /-- The parameters given by name, with their values. -/
  named : List (Parameter × String) := []
  /-- The words given by position, with whether each may look like an option. -/
  positional : List (String × Bool) := []
  deriving Repr

def flagWord (b : Bool) : String := if b then "true" else "false"

/-- Sort the words of a command line. After two hyphens all words are given by position. -/
def sort? (c : Command) : List String → Option Sorted
  | [] => some {}
  | word :: rest =>
    if word = "--" then some { positional := rest.map fun w => (w, true) }
    else if !Word.isOptionLike word then
      (sort? c rest).map fun s => { s with positional := (word, false) :: s.positional }
    else
      let name := word.toList.takeWhile (· ≠ '=')
      let inline? := if '=' ∈ word.toList then
        some (String.ofList ((word.toList.dropWhile (· ≠ '=')).drop 1)) else none
      match named? c name, inline? with
      | none, _ => none
      | some (p, true), some value =>
        (sort? c rest).map fun s => { s with named := (p, value) :: s.named }
      | some (p, false), some value => do
        let b ← flagOf? value
        let s ← sort? c rest
        return { s with named := (p, flagWord !b) :: s.named }
      | some (p, positive), none =>
        if p.isFlag then
          (sort? c rest).map fun s => { s with named := (p, flagWord positive) :: s.named }
        else match rest with
          | value :: rest =>
            if Word.isOptionLike value then none
            else (sort? c rest).map fun s => { s with named := (p, value) :: s.named }
          | [] => none

/-- Give the words by position to the parameters in order, none of which is given by name. -/
def place? (given : List Parameter) : List Parameter → List (String × Bool) →
    Option (List (Parameter × String))
  | _, [] => some []
  | [], _ :: _ => none
  | p :: ps, (word, verbatim) :: words =>
    if given.contains p || (!verbatim && Word.isOptionLike word) then none
    else (place? given ps words).map ((p, word) :: ·)

/-- The arguments of a command line, if it is one. No parameter is given twice. -/
def parse? (c : Command) (words : List String) : Option Arguments := do
  let sorted ← sort? c words
  let given := sorted.named.map (·.1)
  if given.eraseDups.length ≠ given.length then none
  let placed ← place? given c.parameters sorted.positional
  (sorted.named ++ placed).foldlM (fun a (p, word) => a.set? p word) {}

end Arguments

end ClusterLaunch
