import ClusterLaunch.Yaml.Basic
import ClusterLaunch.Yaml.Cursor

/-! # Block scalars

Text after a bar keeps its lines, text after an angle is folded: a break between two lines that
begin without a blank becomes a space. An indicator sets the indentation, and another one keeps
or drops the breaks at the end.
-/

namespace ClusterLaunch.Yaml.BlockText

/-- What becomes of the line breaks at the end: one is left unless said otherwise. -/
inductive Chomping where
  | strip
  | clip
  | keep
  deriving DecidableEq, Repr

def chomping? : Char → Option Chomping
  | '+' => some .keep
  | '-' => some .strip
  | _ => none

/-- The digit that sets the indentation, which is not zero. -/
def increment? (ch : Char) : Except Error (Option Nat) :=
  if ch = '0' then .error .malformed
  else if ch.isDigit then .ok (some (ch.toNat - '0'.toNat))
  else .ok none

def indicators (c : Cursor) : Except Error (Chomping × Option Nat × Cursor) := do
  let (chomping, increment, c) ←
    match chomping? c.here with
    | some chomping =>
      let c := c.next
      match ← increment? c.here with
      | some n => pure (chomping, some n, c.next)
      | none => pure (chomping, none, c)
    | none =>
      match ← increment? c.here with
      | some n =>
        let c := c.next
        match chomping? c.here with
        | some chomping => pure (chomping, some n, c.next)
        | none => pure (.clip, some n, c)
      | none => pure (.clip, none, c)
  if isSpaceEnd c.here then return (chomping, increment, c) else throw .malformed

/-- Leading line breaks, the widest of the lines of spaces among them, and the place after. -/
def leading : Nat → Nat → Cursor → List Char × Nat × Cursor
  | 0, widest, c => ([], widest, c)
  | fuel + 1, widest, c =>
    if c.here = ' ' then
      let c := c.next
      leading fuel (max widest c.column) c
    else if isBreak c.here then
      let (b, c) := c.lineBreak
      let (more, widest, c) := leading fuel widest c
      (b ++ more, widest, c)
    else ([], widest, c)

def toColumn (indent : Nat) : Nat → Cursor → Cursor
  | 0, c => c
  | fuel + 1, c =>
    if c.column < indent && c.here = ' ' then toColumn indent fuel c.next else c

/-- Line breaks between lines of text, each with the indentation after it. -/
def breaks (indent : Nat) : Nat → Cursor → List Char × Cursor
  | 0, c => ([], c)
  | fuel + 1, c =>
    let c := toColumn indent indent c
    if isBreak c.here then
      let (b, c) := c.lineBreak
      let (more, c) := breaks indent fuel c
      (b ++ more, c)
    else ([], c)

/-- Lines of text after the breaks `before`. The result ends without its last line break, which
is given next, and without the breaks after it, which come third. -/
def lines (folded : Bool) (indent : Nat) : Nat → List Char → Cursor →
    List Char × List Char × List Char × Cursor
  | 0, before, c => ([], [], before, c)
  | fuel + 1, before, c =>
    if c.column = indent && c.here ≠ endMark then
      let flush := c.here ≠ ' ' && c.here ≠ '\t'
      let (line, c) := c.span (!isLineEnd ·)
      let (last, c) := c.lineBreak
      let (after, c) := breaks indent (c.rest.length + 1) c
      if c.column = indent && c.here ≠ endMark then
        let joint :=
          if folded && last = ['\n'] && flush && c.here ≠ ' ' && c.here ≠ '\t' then
            (if after.isEmpty then [' '] else [])
          else last
        let (more, last, after, c) := lines folded indent fuel after c
        (before ++ line ++ joint ++ more, last, after, c)
      else (before ++ line, last, after, c)
    else ([], [], before, c)

/-- Read block text from its indicator. `outer` is the indentation of the collection around it. -/
def scan (folded : Bool) (outer : Int) (c : Cursor) : Except Error (List Char × Cursor) := do
  let (chomping, increment, c) ← indicators c.next
  let some c := c.restOfLine? | throw .malformed
  let least := max (outer + 1).toNat 1
  let fuel := c.rest.length + 1
  let (before, indent, c) :=
    match increment with
    | some n =>
      let indent := least + n - 1
      let (before, c) := breaks indent fuel c
      (before, indent, c)
    | none =>
      let (before, widest, c) := leading fuel 0 c
      (before, max least widest, c)
  let (text, last, after, c) := lines folded indent fuel before c
  let tail := match chomping with
    | .strip => []
    | .clip => last
    | .keep => last ++ after
  return (text ++ tail, c)

end ClusterLaunch.Yaml.BlockText
