/-! # Places in a document

A cursor is a place in the text with its line and column. Line breaks are the carriage return,
the line feed, both together, the next-line character and the two separators. A byte order mark
takes no column. The end of the text reads as the null character, which no text contains.
-/

namespace ClusterLaunch.Yaml

/-- What stands at the end of the text. -/
def endMark : Char := '\x00'

def byteOrderMark : Char := Char.ofNat 0xfeff

/-- Whether a document may contain a code point. -/
def isReadable (n : Nat) : Bool :=
  n = 0x09 || n = 0x0a || n = 0x0d || (0x20 ≤ n && n ≤ 0x7e) || n = 0x85 ||
    (0xa0 ≤ n && n ≤ 0xd7ff) || (0xe000 ≤ n && n ≤ 0xfffd) || 0x10000 ≤ n

def isBreak (c : Char) : Bool :=
  c = '\r' || c = '\n' || c = '\x85' || c = '\u2028' || c = '\u2029'

/-- The end of a line or of the text. -/
def isLineEnd (c : Char) : Bool := c = endMark || isBreak c

/-- A space or the end of a line. -/
def isSpaceEnd (c : Char) : Bool := c = ' ' || isLineEnd c

/-- A space, a tab or the end of a line. -/
def isGap (c : Char) : Bool := c = '\t' || isSpaceEnd c

/-- A letter or digit of a name, or one of its two signs. -/
def isNameChar (c : Char) : Bool := c.isAlphanum || c = '-' || c = '_'

def isHexDigit (c : Char) : Bool :=
  c.isDigit || ('a' ≤ c && c ≤ 'f') || ('A' ≤ c && c ≤ 'F')

def hexNumber (ds : List Char) : Nat :=
  ds.foldl (fun n c => 16 * n +
    (if c.isDigit then c.toNat - '0'.toNat else c.toLower.toNat - 'a'.toNat + 10)) 0

structure Cursor where
  rest : List Char
  index : Nat
  line : Nat
  column : Nat
  deriving Repr

namespace Cursor

def start (text : List Char) : Cursor := ⟨text, 0, 0, 0⟩

/-- The character `k` places ahead. -/
def peek (c : Cursor) (k : Nat) : Char := c.rest.getD k endMark

def here (c : Cursor) : Char := c.peek 0

def next (c : Cursor) : Cursor :=
  match c.rest with
  | [] => c
  | ch :: rest =>
    if isBreak ch && (ch ≠ '\r' || rest.head? ≠ some '\n') then
      ⟨rest, c.index + 1, c.line + 1, 0⟩
    else if ch = byteOrderMark then ⟨rest, c.index + 1, c.line, c.column⟩
    else ⟨rest, c.index + 1, c.line, c.column + 1⟩

def skip : Nat → Cursor → Cursor
  | 0, c => c
  | n + 1, c => skip n c.next

/-- The longest run of characters of a class, and the place after it. -/
def span (p : Char → Bool) (c : Cursor) : List Char × Cursor :=
  let run := c.rest.takeWhile p
  (run, c.skip run.length)

def skipWhile (p : Char → Bool) (c : Cursor) : Cursor := (c.span p).2

/-- Read one line break. The separators stand for themselves, all others for a line feed. -/
def lineBreak (c : Cursor) : List Char × Cursor :=
  match c.rest with
  | '\r' :: '\n' :: _ => (['\n'], c.skip 2)
  | ch :: _ =>
    if ch = '\u2028' || ch = '\u2029' then ([ch], c.next)
    else if isBreak ch then (['\n'], c.next)
    else ([], c)
  | [] => ([], c)

/-- Whether a document marker stands here, three equal signs with a gap after them. -/
def atMarker (c : Cursor) : Bool :=
  (c.rest.take 3 == ['-', '-', '-'] || c.rest.take 3 == ['.', '.', '.']) && isGap (c.peek 3)

/-- Skip spaces, a comment and one line break, if nothing else is on the line. -/
def restOfLine? (c : Cursor) : Option Cursor :=
  let c := c.skipWhile (· = ' ')
  let c := if c.here = '#' then c.skipWhile (!isLineEnd ·) else c
  if isLineEnd c.here then some c.lineBreak.2 else none

end Cursor

end ClusterLaunch.Yaml
