import ClusterLaunch.Yaml.Form
import ClusterLaunch.Yaml.Lexer

/-! # Nodes

The nodes of a document form a graph. An alias stands for the node of its anchor, so a node may
be part of several others and of itself.
-/

namespace ClusterLaunch.Yaml

abbrev NodeId := Nat

inductive Content where
  | scalar (text : String)
  | sequence (items : List NodeId)
  | mapping (entries : List (NodeId × NodeId))
  deriving Inhabited, Repr

structure Node where
  tag : Tag
  content : Content
  deriving Inhabited, Repr

structure Graph where
  nodes : Array Node := #[]

namespace Graph

def get (g : Graph) (n : NodeId) : Node := g.nodes.getD n ⟨.null, .scalar ""⟩

def set (g : Graph) (n : NodeId) (node : Node) : Graph := ⟨g.nodes.setIfInBounds n node⟩

def add (g : Graph) (node : Node) : NodeId × Graph := (g.nodes.size, ⟨g.nodes.push node⟩)

def tag (g : Graph) (n : NodeId) : Tag := (g.get n).tag

def content (g : Graph) (n : NodeId) : Content := (g.get n).content

def entries (g : Graph) (n : NodeId) : List (NodeId × NodeId) :=
  match g.content n with
  | .mapping entries => entries
  | _ => []

end Graph

/-- The state between two nodes. -/
structure NodeReader where
  tokens : List Token
  anchors : List (String × NodeId)
  handles : List (String × String)
  graph : Graph := {}

namespace NodeReader

/-- A reading step either fails or gives a result and the state after it. -/
abbrev Step (α : Type) := NodeReader → Except Error (α × NodeReader)

def peek (r : NodeReader) : Token := r.tokens.headD .streamEnd

def next (r : NodeReader) : NodeReader := { r with tokens := r.tokens.tail }

def unexpected {α : Type} (r : NodeReader) : Except Error α :=
  match r.peek with
  | .fault e => .error e
  | _ => .error .malformed

def expect (t : Token) (r : NodeReader) : Except Error NodeReader :=
  if r.peek = t then .ok r.next else r.unexpected

def identifier (r : NodeReader) (handle : Option String) (suffix : String) : Except Error String :=
  match handle with
  | none => .ok suffix
  | some h => match r.handles.lookup h with
    | some expansion => .ok (expansion ++ suffix)
    | none => .error .malformed

/-- The anchor and the tag before a node, in either order. -/
def properties (r : NodeReader) :
    Except Error (Option String × Option String × NodeReader) := do
  match r.peek with
  | .anchor name =>
    let r := r.next
    match r.peek with
    | .tag handle suffix => return (some name, some (← r.identifier handle suffix), r.next)
    | _ => return (some name, none, r)
  | .tag handle suffix =>
    let r := r.next
    match r.peek with
    | .anchor name => return (some name, some (← r.identifier handle suffix), r.next)
    | .fault e => throw e
    | _ => return (none, some (← r.identifier handle suffix), r)
  | _ => return (none, none, r)

def add (r : NodeReader) (anchor : Option String) (node : Node) : NodeId × NodeReader :=
  let ⟨tokens, anchors, handles, graph⟩ := r
  let (n, graph) := graph.add node
  (n, ⟨tokens, (anchor.map fun name => (name, n)).toList ++ anchors, handles, graph⟩)

def setContent (r : NodeReader) (n : NodeId) (content : Content) : NodeReader :=
  let ⟨tokens, anchors, handles, graph⟩ := r
  let tag := graph.tag n
  ⟨tokens, anchors, handles, graph.set n ⟨tag, content⟩⟩

def collectionTag (uri : Option String) (standard : Tag) : Tag :=
  match uri with
  | none => standard
  | some u => if u = "!" then standard else Tag.ofUri u

/-- The tag of a scalar: its own, or by its form when it is plain or marked with a lone sign. -/
def scalarTag (uri : Option String) (text : String) (plain : Bool) : Tag :=
  match uri with
  | none => if plain then Form.tag text.toList else .str
  | some u => if u = "!" then Form.tag text.toList else Tag.ofUri u

def empty : Step NodeId := fun r => .ok (r.add none ⟨.null, .scalar ""⟩)

def single (key value : NodeId) : Step NodeId := fun r =>
  .ok (r.add none ⟨.map, .mapping [(key, value)]⟩)

mutual

/-- A node with at most so many levels. `block` allows block collections, `indentless` a sequence
at the column of its key. -/
def node : Nat → Nat → Bool → Bool → Step NodeId
  | 0, _, _, _, _ => .error .malformed
  | _, 0, _, _, _ => .error .depth
  | fuel + 1, levels + 1, block, indentless, r => do
    if let .alias name := r.peek then
      match r.anchors.lookup name with
      | some n => return (n, r.next)
      | none => throw .malformed
    let (anchor, uri, r) ← r.properties
    if let some name := anchor then
      if (r.anchors.lookup name).isSome then
        match r.peek with
        | .fault e => throw e
        | _ => throw .malformed
    let scalar (text : String) (plain : Bool) (r : NodeReader) : NodeId × NodeReader :=
      r.add anchor ⟨scalarTag uri text plain, .scalar text⟩
    let sequence (items : Step (List NodeId)) : Except Error (NodeId × NodeReader) := do
      let (n, r) := r.add anchor ⟨collectionTag uri .seq, .sequence []⟩
      let (items, r) ← items r
      return (n, r.setContent n (.sequence items))
    let mapping (entries : Step (List (NodeId × NodeId))) :
        Except Error (NodeId × NodeReader) := do
      let (n, r) := r.add anchor ⟨collectionTag uri .map, .mapping []⟩
      let (entries, r) ← entries r
      return (n, r.setContent n (.mapping entries))
    let marked := anchor.isSome || uri.isSome
    match r.peek with
    | .blockEntry =>
      if indentless then sequence (indentlessItems fuel levels)
      else if marked then return scalar "" true r
      else r.unexpected
    | .scalar text plain => return scalar text plain r.next
    | .flowSequenceStart => sequence fun r => flowItems fuel levels true r.next
    | .flowMappingStart => mapping fun r => flowEntries fuel levels true r.next
    | .blockSequenceStart =>
      if block then sequence fun r => blockItems fuel levels r.next
      else if marked then return scalar "" true r
      else r.unexpected
    | .blockMappingStart =>
      if block then mapping fun r => blockEntries fuel levels r.next
      else if marked then return scalar "" true r
      else r.unexpected
    | .fault e => throw e
    | _ => if marked then return scalar "" true r else throw .malformed
termination_by structural fuel => fuel

/-- A node, or the absent one before a token that cannot begin a node here. -/
def nodeUnless (stops : List Token) : Nat → Nat → Bool → Bool → Step NodeId
  | 0, _, _, _, _ => .error .malformed
  | fuel + 1, levels, block, indentless, r =>
    if stops.contains r.peek then empty r else node fuel levels block indentless r
termination_by structural fuel => fuel

def blockItems : Nat → Nat → Step (List NodeId)
  | 0, _, _ => .error .malformed
  | fuel + 1, levels, r => do
    match r.peek with
    | .blockEntry =>
      let (n, r) ← nodeUnless [.blockEntry, .blockEnd] fuel levels true false r.next
      let (more, r) ← blockItems fuel levels r
      return (n :: more, r)
    | .blockEnd => return ([], r.next)
    | _ => r.unexpected
termination_by structural fuel => fuel

def indentlessItems : Nat → Nat → Step (List NodeId)
  | 0, _, _ => .error .malformed
  | fuel + 1, levels, r => do
    match r.peek with
    | .blockEntry =>
      let (n, r) ← nodeUnless [.blockEntry, .key, .value, .blockEnd] fuel levels true false r.next
      let (more, r) ← indentlessItems fuel levels r
      return (n :: more, r)
    | _ => return ([], r)
termination_by structural fuel => fuel

def blockEntries : Nat → Nat → Step (List (NodeId × NodeId))
  | 0, _, _ => .error .malformed
  | fuel + 1, levels, r => do
    match r.peek with
    | .blockEnd => return ([], r.next)
    | .key =>
      let stops : List Token := [.key, .value, .blockEnd]
      let (k, r) ← nodeUnless stops fuel levels true true r.next
      let (v, r) ←
        if r.peek = .value then nodeUnless stops fuel levels true true r.next
        else match r.peek with
          | .fault e => throw e
          | _ => empty r
      let (more, r) ← blockEntries fuel levels r
      return ((k, v) :: more, r)
    | _ => r.unexpected
termination_by structural fuel => fuel

/-- The items of a bracketed sequence; an item with a key is a mapping of one entry. -/
def flowItems : Nat → Nat → Bool → Step (List NodeId)
  | 0, _, _, _ => .error .malformed
  | fuel + 1, levels, isFirst, r => do
    if r.peek = .flowSequenceEnd then return ([], r.next)
    let r ← if isFirst then pure r else r.expect .flowEntry
    if r.peek = .flowSequenceEnd then return ([], r.next)
    let (n, r) ←
      if r.peek = .key then do
        let stops : List Token := [.flowEntry, .flowSequenceEnd]
        let (k, r) ← nodeUnless (.value :: stops) fuel (levels - 1) false false r.next
        let (v, r) ←
          if r.peek = .value then nodeUnless stops fuel (levels - 1) false false r.next
          else empty r
        single k v r
      else node fuel levels false false r
    let (more, r) ← flowItems fuel levels false r
    return (n :: more, r)
termination_by structural fuel => fuel

def flowEntries : Nat → Nat → Bool → Step (List (NodeId × NodeId))
  | 0, _, _, _ => .error .malformed
  | fuel + 1, levels, isFirst, r => do
    if r.peek = .flowMappingEnd then return ([], r.next)
    let r ← if isFirst then pure r else r.expect .flowEntry
    if r.peek = .flowMappingEnd then return ([], r.next)
    let stops : List Token := [.flowEntry, .flowMappingEnd]
    let (k, v, r) ←
      if r.peek = .key then do
        let (k, r) ← nodeUnless (.value :: stops) fuel levels false false r.next
        let (v, r) ←
          if r.peek = .value then nodeUnless stops fuel levels false false r.next else empty r
        pure (k, v, r)
      else do
        let (k, r) ← node fuel levels false false r
        let (v, r) ← empty r
        pure (k, v, r)
    let (more, r) ← flowEntries fuel levels false r
    return ((k, v) :: more, r)
termination_by structural fuel => fuel

end

/-- The handles that need no directive. -/
def standardHandles : List (String × String) := [("!", "!"), ("!!", Tag.family)]

/-- The directives before a document: at most one version, and one expansion for each handle. -/
def directives : List Token → Bool → List (String × String) →
    Except Error (List (String × String) × List Token)
  | .directive (.version major) :: rest, versioned, handles =>
    if versioned || major ≠ 1 then .error .malformed else directives rest true handles
  | .directive (.tag handle expansion) :: rest, versioned, handles =>
    if (handles.lookup handle).isSome then .error .malformed
    else directives rest versioned ((handle, expansion) :: handles)
  | .directive .other :: rest, versioned, handles => directives rest versioned handles
  | tokens, _, handles => .ok (handles, tokens)

/-- Nothing but document ends may follow the document. Directives that follow are still read, so
their faults come before the complaint about a second document. -/
def atEnd (r : NodeReader) : Except Error Unit :=
  match r.tokens.dropWhile (· = .documentEnd) with
  | .streamEnd :: _ => .ok ()
  | tokens => do
    let (_, rest) ← directives tokens false []
    unexpected { r with tokens := rest }

/-- The only document among the tokens, if there is one: its nodes, in so many levels at most, and
the number of its root. -/
def document (levels : Nat) (tokens : List Token) : Except Error (Option (Graph × NodeId)) := do
  let only (node : Step NodeId) (r : NodeReader) : Except Error (Option (Graph × NodeId)) := do
    let (n, r) ← node r
    r.atEnd
    return some (r.graph, n)
  let root := node (3 * tokens.length + 3) levels true false
  match tokens.headD .streamEnd with
  | .streamEnd => return none
  | .directive _ | .documentStart =>
    let (handles, tokens) ← directives tokens false []
    let r ← expect .documentStart { tokens, anchors := [], handles := handles ++ standardHandles }
    match r.peek with
    | .directive _ | .documentStart | .documentEnd | .streamEnd => only empty r
    | _ => only root r
  | _ => only root { tokens, anchors := [], handles := standardHandles }

end NodeReader

/-- The graph of a text that holds one document and the number of its root, or nothing for a text
without a document. -/
def Graph.ofText (levels : Nat) (text : List Char) : Except Error (Option (Graph × NodeId)) :=
  NodeReader.document levels (Token.ofText text)

end ClusterLaunch.Yaml
