import ClusterLaunch.Value.Basic
import ClusterLaunch.Value.Members
import ClusterLaunch.Yaml.Merge
import ClusterLaunch.Yaml.Numeral

/-! # The value of a document

Each node has one value, wherever it is used. A collection is known by its number as soon as it
is met and is filled later, in the order of the numbers, so of several faults the one nearest to
the root is reported. A mapping is filled after its merge keys have been used up; of equal keys
the first keeps its place and the last its value.
-/

namespace ClusterLaunch.Yaml.Base64

/-! ## Bytes written in base 64

Four letters write three bytes. Characters that are not letters of the alphabet are skipped, and
padding ends the text once it completes a group.
-/

def sextet? (c : Char) : Option Nat :=
  if 'A' ≤ c ∧ c ≤ 'Z' then some (c.toNat - 'A'.toNat)
  else if 'a' ≤ c ∧ c ≤ 'z' then some (c.toNat - 'a'.toNat + 26)
  else if c.isDigit then some (c.toNat - '0'.toNat + 52)
  else if c = '+' then some 62
  else if c = '/' then some 63
  else none

/-- Decode the rest of a text. `place` counts the letters of the present group, `held` has the
bits that do not yet fill a byte, and `pads` counts the padding signs. -/
def decodeFrom (place held pads : Nat) : List Char → Option (List UInt8)
  | [] => if place = 0 then some [] else none
  | c :: rest =>
    if c = '=' then
      if 2 ≤ place ∧ 4 ≤ place + pads + 1 then some []
      else decodeFrom place held (if 2 ≤ place then pads + 1 else pads) rest
    else match sextet? c with
      | none => decodeFrom place held pads rest
      | some n =>
        match place with
        | 0 => decodeFrom 1 n 0 rest
        | 1 => (decodeFrom 2 (n % 16) 0 rest).map (UInt8.ofNat (held * 4 + n / 16) :: ·)
        | 2 => (decodeFrom 3 (n % 4) 0 rest).map (UInt8.ofNat (held * 16 + n / 4) :: ·)
        | _ => (decodeFrom 0 0 0 rest).map (UInt8.ofNat (held * 64 + n) :: ·)

/-- The bytes that a text writes; a group must be complete or padded. -/
def decode? (s : List Char) : Option (List UInt8) := decodeFrom 0 0 0 s

end ClusterLaunch.Yaml.Base64

namespace ClusterLaunch.Yaml

/-! ## Values of nodes -/

def timestamp (s : List Char) : Except Error Scalar := do
  let some t := Form.timestamp? s | throw .timestamp
  let date : Date := ⟨Text.number t.year, Text.number t.month, Text.number t.day⟩
  match t.time with
  | none => if date.isValid then return .date date else throw .calendar
  | some (hour, minute, second, fraction) =>
    let offset := match t.zone with
      | none => none
      | some none => some 0
      | some (some (sign, hours, minutes)) =>
        let total : Int := Text.number hours * 60 + Text.number minutes
        some (if sign = '-' then -total else total)
    let digits := fraction.take 6
    let micro := Text.number (digits ++ List.replicate (6 - digits.length) '0')
    let moment : Moment :=
      ⟨date, Text.number hour, Text.number minute, Text.number second, micro, offset⟩
    if moment.isValid then return .moment moment else throw .calendar

def truth (s : String) : Except Error Scalar :=
  let word := String.ofList (Text.lower s.toList)
  if ["yes", "true", "on"].contains word then .ok (.flag true)
  else if ["no", "false", "off"].contains word then .ok (.flag false)
  else .error .truthValue

def binary (s : List Char) : Except Error Scalar :=
  if s.all (·.toNat < 128) then
    match Base64.decode? s with
    | some bs => .ok (.bytes bs)
    | none => .error .malformed
  else .error .malformed

/-- What differs from one interpreter to the next: how deep it follows what is nested, and the
order in which it shows the members of a set. -/
structure Interpreter where
  /-- How deep nodes may be nested. -/
  nodes : Nat := 487
  /-- How deep the sources of merge keys may be nested. -/
  merges : Nat := 980
  /-- How deep mappings that stand for scalars may be nested. -/
  scalars : Nat := 980
  /-- How deep collections may be nested in text. -/
  writing : Nat := 985
  shownOrder : List Scalar → List Scalar := Members.inOrder

namespace Graph

/-- The text of a scalar, or of the scalar that a mapping marks with an equals sign. -/
def scalarText (g : Graph) : Nat → NodeId → Except Error String
  | 0, _ => .error .depth
  | levels + 1, n =>
    match g.content n with
    | .scalar text => .ok text
    | .mapping entries => match entries.find? fun (k, _) => g.tag k = .value with
      | some (_, v) => g.scalarText levels v
      | none => .error .malformed
    | .sequence _ => .error .malformed

def scalar (levels : Nat) (g : Graph) (n : NodeId) : Except Error Scalar := do
  let text := g.scalarText levels n
  match g.tag n with
  | .null => (fun _ => .null) <$> text
  | .bool => truth (← text)
  | .int => .integer <$> Numeral.int (← text).toList
  | .float => do
    let (x, isWord) ← Numeral.float (← text).toList
    return .number x (if isWord then 0 else n + 1)
  | .binary => binary (← text).toList
  | .timestamp => do
    let text ← text
    match g.content n with
    | .scalar _ => timestamp text.toList
    | _ => throw .notText
  | .str => .text <$> text
  | _ => throw .malformed

end Graph

/-- What is known while the values of a document are built. -/
structure Builder where
  interpreter : Interpreter
  graph : Graph
  /-- The values of the nodes that have been met. -/
  values : Array (Option Value)
  /-- The nodes of the collections that have been met. -/
  met : Array NodeId

abbrev Build := StateT Builder (Except Error)

namespace Build

/-- The value of a node. A collection that is met for the first time gets the next number. -/
def value (n : NodeId) : Build Value := fun ⟨i, graph, values, met⟩ =>
  match values.getD n none with
  | some v => .ok (v, ⟨i, graph, values, met⟩)
  | none =>
    if (graph.tag n).isCollection then
      let v := Value.collection met.size
      .ok (v, ⟨i, graph, values.setIfInBounds n (some v), met.push n⟩)
    else do
      let v := Value.scalar (← graph.scalar i.scalars n)
      return (v, ⟨i, graph, values.setIfInBounds n (some v), met⟩)

/-- Use up the merge keys of a mapping, and give its entries. -/
def merged (n : NodeId) : Build (List (NodeId × NodeId)) := fun ⟨i, graph, values, met⟩ => do
  let graph ← graph.merge i.merges n
  return (graph.entries n, ⟨i, graph, values, met⟩)

/-- The entries of a mapping. A key must be a scalar. -/
def entries (n : NodeId) : Build (List (Scalar × Value)) := do
  (← merged n).foldlM (fun done (k, v) => do
    match ← value k with
    | .scalar key => return Scalar.insert key (← value v) done
    | .collection _ => throw .malformed) []

def pair (n : NodeId) : Build (Value × Value) := do
  match (← get).graph.content n with
  | .mapping [(k, v)] => return (← value k, ← value v)
  | _ => throw .malformed

def collection (n : NodeId) : Build Collection := do
  let ⟨i, graph, _, _⟩ ← get
  match graph.tag n, graph.content n with
  | .seq, .sequence items => .sequence <$> items.mapM value
  | .omap, .sequence items => .pairs <$> items.mapM pair
  | .pairs, .sequence items => .pairs <$> items.mapM pair
  | .map, .mapping _ => .mapping <$> entries n
  | .set, .mapping _ => return .set (i.shownOrder ((← entries n).map (·.1)))
  | _, _ => throw .malformed

/-- Fill the collections that have been met and those that are met on the way. The fuel bounds
how many there can be. -/
def fill : Nat → Heap → Build Heap
  | 0, heap => return heap
  | fuel + 1, heap => do
    match (← get).met[heap.collections.size]? with
    | some n => fill fuel (heap.add (← collection n)).2
    | none => return heap

end Build

def Graph.data (i : Interpreter) (g : Graph) (n : NodeId) : Except Error Data := do
  let build : Build Data := do
    let v ← Build.value n
    return ⟨← Build.fill g.nodes.size { depth := i.writing }, v⟩
  let (d, _) ← build.run ⟨i, g, Array.replicate g.nodes.size none, #[]⟩
  return d

/-- The value of a text that holds one document, or nothing for a text without one. -/
def read (text : String) (i : Interpreter := {}) : Except Error (Option Data) := do
  match ← Graph.ofText i.nodes text.toList with
  | some (g, n) => return some (← g.data i n)
  | none => return none

end ClusterLaunch.Yaml
