import ClusterLaunch.Text.Basic
import ClusterLaunch.Yaml.Basic
import ClusterLaunch.Yaml.Cursor

/-! # Forms of plain text

The forms of text that denote more than text: truth values, integers in four bases, decimals and
numbers of minutes and seconds, the absent value, timestamps, and the two keys with a meaning.
-/

namespace ClusterLaunch.Yaml.Form

def unsigned : List Char → List Char
  | '+' :: s => s
  | '-' :: s => s
  | s => s

def isSpacedDigit (c : Char) : Bool := c.isDigit || c = '_'

/-- Digits and underscores that begin with a digit. -/
def isSpacedNumber : List Char → Bool
  | [] => false
  | c :: s => c.isDigit && s.all isSpacedDigit

/-- A number from 0 to 59 of one or two digits. -/
def isSixtieth : List Char → Bool
  | [c] => c.isDigit
  | [c, d] => '0' ≤ c && c ≤ '5' && d.isDigit
  | _ => false

def isBool (s : List Char) : Bool :=
  ["yes", "Yes", "YES", "no", "No", "NO", "true", "True", "TRUE", "false", "False", "FALSE",
    "on", "On", "ON", "off", "Off", "OFF"].contains (String.ofList s)

def isNull (s : List Char) : Bool :=
  ["", "~", "null", "Null", "NULL"].contains (String.ofList s)

/-- An integer: binary, octal, decimal, hexadecimal, or in sixtieths. -/
def isInt (s : List Char) : Bool :=
  match unsigned s with
  | [] => false
  | ['0'] => true
  | '0' :: 'b' :: ds => !ds.isEmpty && ds.all fun c => c = '0' || c = '1' || c = '_'
  | '0' :: 'x' :: ds => !ds.isEmpty && ds.all fun c => isHexDigit c || c = '_'
  | '0' :: ds => ds.all fun c => ('0' ≤ c && c ≤ '7') || c = '_'
  | s => match Text.fields ':' s with
    | [] => false
    | first :: more => isSpacedNumber first && more.all isSixtieth

/-- An exponent with its sign, or nothing. -/
def isExponent : List Char → Bool
  | [] => true
  | e :: sign :: ds =>
    (e = 'e' || e = 'E') && (sign = '+' || sign = '-') && !ds.isEmpty && ds.all Char.isDigit
  | _ => false

/-- Digits and underscores after a point, with an exponent. -/
def isFraction (s : List Char) : Bool := isExponent (s.dropWhile isSpacedDigit)

/-- A decimal in sixtieths: at least one colon, and a point after the last number. -/
def isSexagesimal (s : List Char) : Bool :=
  match (Text.fields ':' s).reverse with
  | last :: middle@(_ :: _) =>
    let whole := last.takeWhile Char.isDigit
    isSixtieth whole &&
      (match last.drop whole.length with
        | '.' :: part => part.all isSpacedDigit
        | _ => false) &&
      (middle.dropLast.all isSixtieth && (middle.getLast?.any isSpacedNumber))
  | _ => false

/-- A decimal: with a point, in sixtieths, infinite or undefined. -/
def isFloat (s : List Char) : Bool :=
  let u := unsigned s
  let infinite := ["inf", "Inf", "INF"]
  let undefined := ["nan", "NaN", "NAN"]
  let named (names : List String) : Bool :=
    match u with
    | '.' :: name => names.contains (String.ofList name)
    | _ => false
  let positional :=
    match u.dropWhile isSpacedDigit with
    | '.' :: part => isSpacedNumber (u.takeWhile isSpacedDigit) && isFraction part
    | _ => false
  let leadingPoint :=
    match s with
    | '.' :: d :: part => d.isDigit && isFraction part
    | _ => false
  positional || leadingPoint || isSexagesimal u || named infinite ||
    (s == u && named undefined)

structure Timestamp where
  year : List Char
  month : List Char
  day : List Char
  /-- Hour, minute, second and the digits of a fraction, if there is a time. -/
  time : Option (List Char × List Char × List Char × List Char)
  /-- The zone: none, universal time, or a sign with hours and minutes. -/
  zone : Option (Option (Char × List Char × List Char))
  deriving Repr

/-- One or two leading digits and what follows them. -/
def digits? : List Char → Option (List Char × List Char)
  | a :: b :: s =>
    if a.isDigit then (if b.isDigit then some ([a, b], s) else some ([a], b :: s)) else none
  | [a] => if a.isDigit then some ([a], []) else none
  | [] => none

def twoDigits? (s : List Char) : Option (List Char × List Char) :=
  (digits? s).filter (·.1.length = 2)

def after? (c : Char) : List Char → Option (List Char)
  | d :: s => if c = d then some s else none
  | [] => none

def isTabOrSpace (c : Char) : Bool := c = ' ' || c = '\t'

def zone? (s : List Char) : Option (Option (Option (Char × List Char × List Char))) :=
  if s.isEmpty then some none
  else match s.dropWhile isTabOrSpace with
    | ['Z'] => some (some none)
    | sign :: rest => do
      if sign ≠ '+' ∧ sign ≠ '-' then none
      let (hours, rest) ← digits? rest
      if rest.isEmpty then some (some (some (sign, hours, [])))
      else
        let rest ← after? ':' rest
        let (minutes, rest) ← twoDigits? rest
        if rest.isEmpty then some (some (some (sign, hours, minutes))) else none
    | [] => none

/-- A text without the line feed at its end, which belongs to no form. -/
def unbroken (s : List Char) : List Char :=
  if 1 < s.length ∧ s.getLast? = some '\n' then s.dropLast else s

def timestamp? (s : List Char) : Option Timestamp := do
  let s := unbroken s
  let year := s.take 4
  if year.length ≠ 4 ∨ !year.all Char.isDigit then none
  let rest ← after? '-' (s.drop 4)
  let (month, rest) ← digits? rest
  let rest ← after? '-' rest
  let (day, rest) ← digits? rest
  if rest.isEmpty then return ⟨year, month, day, none, none⟩
  let rest ← match rest with
    | 'T' :: t => some t
    | 't' :: t => some t
    | t => if t.head?.any isTabOrSpace then some (t.dropWhile isTabOrSpace) else none
  let (hour, rest) ← digits? rest
  let rest ← after? ':' rest
  let (minute, rest) ← twoDigits? rest
  let rest ← after? ':' rest
  let (second, rest) ← twoDigits? rest
  let (fraction, rest) := match rest with
    | '.' :: t => (t.takeWhile Char.isDigit, t.dropWhile Char.isDigit)
    | t => ([], t)
  let zone ← zone? rest
  return ⟨year, month, day, some (hour, minute, second, fraction), zone⟩

/-- Whether plain text is a timestamp; a date alone has two digits for month and day. -/
def isTimestamp (s : List Char) : Bool :=
  (timestamp? s).any fun t => t.time.isSome || (t.month.length = 2 && t.day.length = 2)

def tag (s : List Char) : Tag :=
  let s := unbroken s
  if isBool s then .bool
  else if isFloat s then .float
  else if isInt s then .int
  else if s = ['<', '<'] then .merge
  else if isNull s then .null
  else if isTimestamp s then .timestamp
  else if s = ['='] then .value
  else if s = ['!'] ∨ s = ['&'] ∨ s = ['*'] then .unknown (Tag.family ++ "yaml")
  else .str

end ClusterLaunch.Yaml.Form
