import ClusterLaunch.Yaml.Property
import ClusterLaunch.Yaml.Scalar.Block
import ClusterLaunch.Yaml.Scalar.Plain
import ClusterLaunch.Yaml.Scalar.Quoted

/-! # The tokens of a document

A mapping key is known as one only at its colon. Until then its place is kept, and at the colon
the tokens that open the key are put there. A place is given up when the line ends or after 1024
characters; where a key must stand this is a fault.
-/

namespace ClusterLaunch.Yaml

/-- Where a mapping key may have begun. -/
structure PendingKey where
  /-- How many tokens stand before it. -/
  position : Nat
  /-- Whether nothing but a key can stand there. -/
  required : Bool
  index : Nat
  line : Nat
  column : Nat
  deriving Repr

/-- The state between two tokens. -/
structure Lexer where
  cursor : Cursor
  tokens : Array Token
  /-- The column of the innermost block collection, `-1` outside all of them. -/
  indent : Int
  /-- The columns of the collections around it. -/
  outer : List Int
  keyAllowed : Bool
  /-- The pending key outside brackets. -/
  pending : Option PendingKey
  /-- The pending keys inside the open brackets, the innermost first. -/
  flow : List (Option PendingKey)

namespace Lexer

def start (text : List Char) : Lexer where
  cursor := Cursor.start text
  tokens := #[]
  indent := -1
  outer := []
  keyAllowed := true
  pending := none
  flow := []

def inFlow (l : Lexer) : Bool := !l.flow.isEmpty

def emit (l : Lexer) (t : Token) : Lexer := { l with tokens := l.tokens.push t }

def insertAt (l : Lexer) (position : Nat) (t : Token) : Lexer :=
  if h : position ≤ l.tokens.size then { l with tokens := l.tokens.insertIdx position t h } else l

def skip (l : Lexer) (n : Nat) : Lexer := { l with cursor := l.cursor.skip n }

def current (l : Lexer) : Option PendingKey :=
  match l.flow with
  | [] => l.pending
  | k :: _ => k

def setCurrent (l : Lexer) (k : Option PendingKey) : Lexer :=
  match l.flow with
  | [] => { l with pending := k }
  | _ :: rest => { l with flow := k :: rest }

def dropKey (l : Lexer) : Except Error Lexer :=
  match l.current with
  | some k => if k.required then .error .malformed else .ok (l.setCurrent none)
  | none => .ok l

/-- Keep the place of the next token if a key may begin there. -/
def saveKey (l : Lexer) : Except Error Lexer := do
  if l.keyAllowed then
    let l ← l.dropKey
    let c := l.cursor
    return l.setCurrent (some
      ⟨l.tokens.size, !l.inFlow && l.indent == (c.column : Int), c.index, c.line, c.column⟩)
  else return l

/-- Whether a key that began at a place can still reach its colon. -/
def isFresh (c : Cursor) (k : PendingKey) : Bool := k.line == c.line && c.index - k.index ≤ 1024

def dropStale (l : Lexer) : Except Error Lexer :=
  let keep (k : Option PendingKey) : Option PendingKey := k.filter (isFresh l.cursor)
  match l.pending with
  | some k =>
    if !isFresh l.cursor k && k.required then .error .malformed
    else .ok { l with pending := keep l.pending, flow := l.flow.map keep }
  | none => .ok { l with flow := l.flow.map keep }

/-- Close the block collections that begin right of a column. -/
def closeFrom (column : Int) : List Int → Int → Array Token → List Int × Int × Array Token
  | [], indent, tokens => ([], indent, tokens)
  | previous :: outer, indent, tokens =>
    if column < indent then closeFrom column outer previous (tokens.push .blockEnd)
    else (previous :: outer, indent, tokens)

/-- Close the block collections that end before a column; brackets ignore indentation. -/
def unwind (l : Lexer) (column : Int) : Lexer :=
  if l.inFlow then l
  else
    let (outer, indent, tokens) := closeFrom column l.outer l.indent l.tokens
    { l with outer := outer, indent := indent, tokens := tokens }

/-- Open a block collection at a column right of the present one. The token that opens it goes to
`position`. -/
def openBlock (l : Lexer) (column position : Nat) (t : Token) : Lexer :=
  if l.indent < column then
    { l with outer := l.indent :: l.outer, indent := column }.insertAt position t
  else l

/-- Skip spaces, comments and line breaks. After a line break outside brackets a key may begin. -/
def skipBlank : Nat → Lexer → Lexer
  | 0, l => l
  | fuel + 1, l =>
    let c := l.cursor.skipWhile (· = ' ')
    let c := if c.here = '#' then c.skipWhile (!isLineEnd ·) else c
    if isBreak c.here then
      skipBlank fuel { l with cursor := c.lineBreak.2, keyAllowed := l.keyAllowed || !l.inFlow }
    else { l with cursor := c }

def toNextToken (l : Lexer) : Lexer :=
  let l := if l.cursor.index = 0 && l.cursor.here = byteOrderMark then l.skip 1 else l
  skipBlank (l.cursor.rest.length + 1) l

def keyToken (l : Lexer) (read : Cursor → Except Error (Token × Cursor)) : Except Error Lexer := do
  let l ← l.saveKey
  let (t, c) ← read l.cursor
  return { l with cursor := c, keyAllowed := false }.emit t

def outerToken (l : Lexer) (read : Cursor → Except Error (Token × Cursor)) :
    Except Error Lexer := do
  let l ← (l.unwind (-1)).dropKey
  let (t, c) ← read l.cursor
  return { l with cursor := c, keyAllowed := false }.emit t

def openFlow (l : Lexer) (t : Token) : Except Error Lexer := do
  let l ← l.saveKey
  return { l with flow := none :: l.flow, keyAllowed := true }.skip 1 |>.emit t

/-- A closing bracket; there must be one to close. -/
def closeFlow (l : Lexer) (t : Token) : Except Error Lexer :=
  match l.flow with
  | [] => .error .malformed
  | _ :: rest => .ok ({ l with flow := rest, keyAllowed := false }.skip 1 |>.emit t)

def flowEntry (l : Lexer) : Except Error Lexer := do
  let l ← l.dropKey
  return { l with keyAllowed := true }.skip 1 |>.emit .flowEntry

def blockEntry (l : Lexer) : Except Error Lexer := do
  let l ←
    if l.inFlow then pure l
    else if l.keyAllowed then
      pure (l.openBlock l.cursor.column l.tokens.size .blockSequenceStart)
    else throw .malformed
  let l ← l.dropKey
  return { l with keyAllowed := true }.skip 1 |>.emit .blockEntry

def explicitKey (l : Lexer) : Except Error Lexer := do
  let l ←
    if l.inFlow then pure l
    else if l.keyAllowed then
      pure (l.openBlock l.cursor.column l.tokens.size .blockMappingStart)
    else throw .malformed
  let l ← l.dropKey
  return { l with keyAllowed := !l.inFlow }.skip 1 |>.emit .key

/-- A colon: the value of the pending key, or of an empty one. -/
def value (l : Lexer) : Except Error Lexer := do
  match l.current with
  | some k =>
    let l := (l.setCurrent none).insertAt k.position .key
    let l := if l.inFlow then l else l.openBlock k.column k.position .blockMappingStart
    return { l with keyAllowed := false }.skip 1 |>.emit .value
  | none =>
    let l ←
      if l.inFlow then pure l
      else if l.keyAllowed then
        pure (l.openBlock l.cursor.column l.tokens.size .blockMappingStart)
      else throw .malformed
    return { l with keyAllowed := !l.inFlow }.skip 1 |>.emit .value

def blockScalar (l : Lexer) (folded : Bool) : Except Error Lexer := do
  let l ← l.dropKey
  let (s, c) ← BlockText.scan folded l.indent l.cursor
  return { l with cursor := c, keyAllowed := true }.emit (.scalar (String.ofList s) false)

def quotedScalar (l : Lexer) (double : Bool) : Except Error Lexer :=
  l.keyToken fun c => do
    let (s, c) ← Quoted.scan double c
    return (.scalar (String.ofList s) false, c)

/-- Plain text. When it was ended by the end of a line, a key may begin next. -/
def plainScalar (l : Lexer) : Except Error Lexer := do
  let l ← l.saveKey
  let (s, crossed, c) := Plain.scan l.inFlow (l.indent + 1).toNat l.cursor
  return { l with cursor := c, keyAllowed := crossed }.emit (.scalar (String.ofList s) true)

def finish (l : Lexer) : Except Error Lexer := do
  let l ← (l.unwind (-1)).dropKey
  return l.emit .streamEnd

def token (l : Lexer) : Except Error Lexer :=
  let c := l.cursor
  let ch := c.here
  let marks (sign : Char) : Bool := c.column == 0 && ch = sign && c.atMarker
  if c.column == 0 && ch = '%' then
    l.outerToken fun c => do
      let (d, c) ← Property.directive c
      return (.directive d, c)
  else if marks '-' then l.outerToken fun c => .ok (.documentStart, c.skip 3)
  else if marks '.' then l.outerToken fun c => .ok (.documentEnd, c.skip 3)
  else if ch = '[' then l.openFlow .flowSequenceStart
  else if ch = '\x7b' then l.openFlow .flowMappingStart
  else if ch = ']' then l.closeFlow .flowSequenceEnd
  else if ch = '\x7d' then l.closeFlow .flowMappingEnd
  else if ch = ',' && l.inFlow then l.flowEntry
  else if ch = '-' && isGap (c.peek 1) then l.blockEntry
  else if ch = '?' && (l.inFlow || isGap (c.peek 1)) then l.explicitKey
  else if ch = ':' && (l.inFlow || isGap (c.peek 1)) then l.value
  else if ch = '*' then
    l.keyToken fun c => do
      let (name, c) ← Property.name c
      return (.alias name, c)
  else if ch = '&' then
    l.keyToken fun c => do
      let (name, c) ← Property.name c
      return (.anchor name, c)
  else if ch = '!' then l.keyToken Property.tag
  else if ch = '|' && !l.inFlow then l.blockScalar false
  else if ch = '>' && !l.inFlow then l.blockScalar true
  else if ch = '\'' then l.quotedScalar false
  else if ch = '"' then l.quotedScalar true
  else if Plain.starts l.inFlow c then l.plainScalar
  else .error .malformed

/-- Step over blanks and read what comes next: a token, or the end of the text. -/
def advance (l : Lexer) : Except Error Lexer := do
  let l ← l.toNextToken.dropStale
  let l := l.unwind l.cursor.column
  if l.cursor.here = endMark then l.finish else l.token

/-- How many tokens are settled. A pending key may still put tokens in front of itself, so the
tokens from the first such key on are not. -/
def settled (l : Lexer) : Nat :=
  let keys := (l.pending :: l.flow).filterMap fun k => k.filter (isFresh l.cursor)
  (keys.map (·.position)).foldl min l.tokens.size

/-- The settled tokens, and a fault in the place of the others. -/
def endWith (l : Lexer) (e : Error) : Array Token :=
  (l.tokens.extract 0 l.settled).push (.fault e)

/-- Read tokens to the end of the text or to the first fault. -/
def run : Nat → Lexer → Array Token
  | 0, l => l.endWith .malformed
  | fuel + 1, l =>
    match l.advance with
    | .error e => l.endWith e
    | .ok l => if l.tokens.back? = some .streamEnd then l.tokens else run fuel l

end Lexer

def Token.ofText (text : List Char) : List Token :=
  if (Text.codePoints text).all isReadable then
    (Lexer.run (text.length + 1) (Lexer.start text)).toList
  else [.fault .malformed]

end ClusterLaunch.Yaml
