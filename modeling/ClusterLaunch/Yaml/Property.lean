import ClusterLaunch.Text.Basic
import ClusterLaunch.Yaml.Basic
import ClusterLaunch.Yaml.Cursor

/-! # Anchors, tags and directives

The marks that stand before a node or a document: names, handles and identifiers with escapes.
-/

namespace ClusterLaunch.Yaml.Property

def name (c : Cursor) : Except Error (String × Cursor) :=
  let (s, c) := c.next.span isNameChar
  if s.isEmpty || !(isGap c.here || "?:,]\x7d%@`".toList.contains c.here) then .error .malformed
  else .ok (String.ofList s, c)

/-- A tag handle: an exclamation mark, or a name between two of them. -/
def handle (c : Cursor) : Except Error (String × Cursor) :=
  if c.here ≠ '!' then .error .malformed
  else if c.peek 1 = ' ' then .ok ("!", c.next)
  else
    let (s, c) := c.next.span isNameChar
    if c.here = '!' then .ok (String.ofList ('!' :: s ++ ['!']), c.next) else .error .malformed

def isUriChar (c : Char) : Bool := c.isAlphanum || "-;/?:@&=+$,_.!~*'()[]".toList.contains c

def escapedBytes : Nat → Cursor → Except Error (List UInt8 × Cursor)
  | 0, c => .ok ([], c)
  | fuel + 1, c =>
    if c.here = '%' then
      let digits := c.next.rest.take 2
      if digits.length = 2 && digits.all isHexDigit then do
        let (more, c) ← escapedBytes fuel (c.skip 3)
        return (UInt8.ofNat (hexNumber digits) :: more, c)
      else .error .malformed
    else .ok ([], c)

def uriFrom : Nat → Cursor → Except Error (List Char × Cursor)
  | 0, c => .ok ([], c)
  | fuel + 1, c =>
    if c.here = '%' then do
      let (bytes, c) ← escapedBytes (c.rest.length + 1) c
      let some s := String.fromUTF8? ⟨bytes.toArray⟩ | throw .malformed
      let (more, c) ← uriFrom fuel c
      return (s.toList ++ more, c)
    else if isUriChar c.here then do
      let (run, c) := c.span isUriChar
      let (more, c) ← uriFrom fuel c
      return (run ++ more, c)
    else .ok ([], c)

def uri (c : Cursor) : Except Error (String × Cursor) := do
  let (s, c) ← uriFrom (c.rest.length + 1) c
  if s.isEmpty then throw .malformed else return (String.ofList s, c)

/-- The tag of a node, after which a space or the end of the line must stand. -/
def tag (c : Cursor) : Except Error (Token × Cursor) := do
  let (token, c) ←
    if c.peek 1 = '<' then do
      let (suffix, c) ← uri (c.skip 2)
      if c.here = '>' then pure (Token.tag none suffix, c.next) else throw .malformed
    else if isGap (c.peek 1) then pure (Token.tag none "!", c.next)
    else if '!' ∈ (c.next.rest.takeWhile (!isSpaceEnd ·)) then do
      let (handle, c) ← handle c
      let (suffix, c) ← uri c
      pure (Token.tag (some handle) suffix, c)
    else do
      let (suffix, c) ← uri c.next
      pure (Token.tag (some "!") suffix, c)
  if isSpaceEnd c.here then return (token, c) else throw .malformed

def version (c : Cursor) : Except Error (Directive × Cursor) := do
  let (major, c) := (c.skipWhile (· = ' ')).span Char.isDigit
  if major.isEmpty || c.here ≠ '.' then throw .malformed
  let (minor, c) := c.next.span Char.isDigit
  if minor.isEmpty || !isSpaceEnd c.here then throw .malformed
  return (.version (Text.number major), c)

def tagDirective (c : Cursor) : Except Error (Directive × Cursor) := do
  let (handle, c) ← handle (c.skipWhile (· = ' '))
  if c.here ≠ ' ' then throw .malformed
  let (expansion, c) ← uri (c.skipWhile (· = ' '))
  if isSpaceEnd c.here then return (.tag handle expansion, c) else throw .malformed

/-- A directive from its percent sign to the beginning of the next line. -/
def directive (c : Cursor) : Except Error (Directive × Cursor) := do
  let (name, c) := c.next.span isNameChar
  if name.isEmpty || !isSpaceEnd c.here then throw .malformed
  let (d, c) ←
    if name = ['Y', 'A', 'M', 'L'] then version c
    else if name = ['T', 'A', 'G'] then tagDirective c
    else pure (Directive.other, c.skipWhile (!isLineEnd ·))
  match c.restOfLine? with
  | some c => return (d, c)
  | none => throw .malformed

end ClusterLaunch.Yaml.Property
