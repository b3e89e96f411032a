import ClusterLaunch.Yaml.Cursor

/-! # Plain scalars

Text without quotes ends at a comment, at a colon before a gap and, inside brackets, at a sign of
the bracketed style. It goes on over line breaks as long as the lines are indented. A single
break is read as a space, further ones are kept.
-/

namespace ClusterLaunch.Yaml.Plain

def isFlowSign (c : Char) : Bool :=
  c = ',' || c = '?' || c = '[' || c = ']' || c = '\x7b' || c = '\x7d'

def starts (flow : Bool) (c : Cursor) : Bool :=
  let ch := c.here
  if isGap ch || "-?:,[]\x7b\x7d#&*!|>'\"%@`".toList.contains ch then
    !isGap (c.peek 1) && (ch = '-' || (!flow && (ch = '?' || ch = ':')))
  else true

def word (flow : Bool) : List Char → List Char
  | [] => []
  | ch :: rest =>
    let after := rest.headD endMark
    if isGap ch || (flow && isFlowSign ch) ||
        (ch = ':' && (isGap after || (flow && isFlowSign after && after ≠ '?'))) then []
    else ch :: word flow rest

/-- Line breaks and spaces between the lines of plain text. The flag tells whether a document
marker follows. -/
def breaks : Nat → Cursor → List Char × Bool × Cursor
  | 0, c => ([], false, c)
  | fuel + 1, c =>
    if c.here = ' ' then breaks fuel c.next
    else if isBreak c.here then
      let (b, c) := c.lineBreak
      if c.atMarker then (b, true, c)
      else
        let (more, marker, c) := breaks fuel c
        (b ++ more, marker, c)
    else ([], false, c)

/-- What stands between two words, whether a line was ended, and the place after it. -/
def between (c : Cursor) : List Char × Bool × Cursor :=
  let (spaces, c) := c.span (· = ' ')
  if isBreak c.here then
    let (first, c) := c.lineBreak
    if c.atMarker then ([], true, c)
    else
      let (more, marker, c) := breaks c.rest.length c
      if marker then ([], true, c)
      else if first ≠ ['\n'] then (first ++ more, true, c)
      else if more.isEmpty then ([' '], true, c)
      else (more, true, c)
  else (spaces, false, c)

def words (flow : Bool) (indent : Nat) : Nat → List Char → Bool → Cursor → List Char × Bool × Cursor
  | 0, _, crossed, c => ([], crossed, c)
  | fuel + 1, gap, crossed, c =>
    let w := word flow c.rest
    if c.here = '#' || w.isEmpty then ([], crossed, c)
    else
      let (gap', crossed', c) := between (c.skip w.length)
      if gap'.isEmpty || c.here = '#' || (!flow && c.column < indent) then
        (gap ++ w, crossed', c)
      else
        let (more, crossed'', c) := words flow indent fuel gap' crossed' c
        (gap ++ w ++ more, crossed'', c)

/-- Read plain text on lines of at least `indent` columns. The flag tells whether a line was
ended after its last word. -/
def scan (flow : Bool) (indent : Nat) (c : Cursor) : List Char × Bool × Cursor :=
  words flow indent (c.rest.length + 1) [] false c

end ClusterLaunch.Yaml.Plain
