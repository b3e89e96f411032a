import ClusterLaunch.Text.CodePoint
import ClusterLaunch.Yaml.Basic
import ClusterLaunch.Yaml.Cursor

/-! # Quoted scalars

Text in single quotes writes the quote twice. Text in double quotes has escapes. In both a line
break is read as a space, and further ones are kept; spaces around breaks are dropped.
-/

namespace ClusterLaunch.Yaml.Quoted

def simpleEscape? : Char → Option Char
  | '0' => some '\x00'
  | 'a' => some '\x07'
  | 'b' => some '\x08'
  | 't' => some '\x09'
  | '\t' => some '\x09'
  | 'n' => some '\x0a'
  | 'v' => some '\x0b'
  | 'f' => some '\x0c'
  | 'r' => some '\x0d'
  | 'e' => some '\x1b'
  | ' ' => some ' '
  | '"' => some '"'
  | '\\' => some '\\'
  | '/' => some '/'
  | 'N' => some '\x85'
  | '_' => some (Char.ofNat 0xa0)
  | 'L' => some '\u2028'
  | 'P' => some '\u2029'
  | _ => none

/-- How many hexadecimal digits follow an escape letter. -/
def codeWidth? : Char → Option Nat
  | 'x' => some 2
  | 'u' => some 4
  | 'U' => some 8
  | _ => none

def codePoint (n : Nat) : Except Error (List Char) :=
  if Nat.pow 2 31 ≤ n then .error .hugeCodePoint
  else if 0x10ffff < n then .error .codePoint
  else .ok (Text.ofCodePoint n)

/-- Line breaks inside quotes, without the spaces and tabs around them. -/
def breaks : Nat → Cursor → Except Error (List Char × Cursor)
  | 0, c => .ok ([], c)
  | fuel + 1, c =>
    if c.atMarker then .error .malformed
    else
      let c := c.skipWhile fun ch => ch = ' ' || ch = '\t'
      if isBreak c.here then do
        let (b, c) := c.lineBreak
        let (more, c) ← breaks fuel c
        return (b ++ more, c)
      else .ok ([], c)

def gap (c : Cursor) : Except Error (List Char × Cursor) := do
  let (spaces, c) := c.span fun ch => ch = ' ' || ch = '\t'
  if c.here = endMark then throw .malformed
  else if isBreak c.here then
    let (first, c) := c.lineBreak
    let (more, c) ← breaks (c.rest.length + 1) c
    if first ≠ ['\n'] then return (first ++ more, c)
    else if more.isEmpty then return ([' '], c)
    else return (more, c)
  else return (spaces, c)

def escape (c : Cursor) : Except Error (List Char × Cursor) := do
  match simpleEscape? c.here, codeWidth? c.here with
  | some ch, _ => return ([ch], c.next)
  | none, some width =>
    let digits := c.next.rest.take width
    if digits.length = width && digits.all isHexDigit then
      return (← codePoint (hexNumber digits), c.next.skip width)
    else throw .malformed
  | none, none =>
    if isBreak c.here then
      let c := c.lineBreak.2
      breaks (c.rest.length + 1) c
    else throw .malformed

def body (double : Bool) : Nat → Cursor → Except Error (List Char × Cursor)
  | 0, _ => .error .malformed
  | fuel + 1, c => do
    let ch := c.here
    if isGap ch then
      let (s, c) ← gap c
      let (more, c) ← body double fuel c
      return (s ++ more, c)
    else if !double && ch = '\'' && c.peek 1 = '\'' then
      let (more, c) ← body double fuel (c.skip 2)
      return ('\'' :: more, c)
    else if ch = (if double then '"' else '\'') then return ([], c.next)
    else if double && ch = '\\' then
      let (s, c) ← escape c.next
      let (more, c) ← body double fuel c
      return (s ++ more, c)
    else
      let (more, c) ← body double fuel c.next
      return (ch :: more, c)

/-- Read quoted text from its opening quote to the place after the closing one. -/
def scan (double : Bool) (c : Cursor) : Except Error (List Char × Cursor) :=
  body double (c.rest.length + 1) c.next

end ClusterLaunch.Yaml.Quoted
