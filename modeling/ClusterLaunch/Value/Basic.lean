import ClusterLaunch.Value.Scalar

/-! # Values

A value is a scalar or a collection. Collections are told apart by number and kept in a heap, so
that one may be part of several others and even of itself. In the text of a collection, a place
where it recurs inside itself is marked and not followed.
-/

namespace ClusterLaunch

/-- A scalar, or the number of a collection. -/
inductive Value where
  | scalar (s : Scalar)
  | collection (id : Nat)
  deriving Inhabited

/-- A collection. A mapping keeps the order of its entries. -/
inductive Collection where
  | sequence (items : List Value)
  /-- A sequence of pairs. -/
  | pairs (entries : List (Value × Value))
  | mapping (entries : List (Scalar × Value))
  /-- A set, its members in the order in which they are shown. -/
  | set (members : List Scalar)
  deriving Inhabited

namespace Collection

/-- The values in a collection, in the order in which they are written. -/
def values : Collection → List Value
  | sequence items => items
  | pairs entries => entries.flatMap fun (a, b) => [a, b]
  | mapping entries => entries.flatMap fun (k, v) => [.scalar k, v]
  | set members => members.map .scalar

/-- The mark of a collection inside itself. -/
def recurring : Collection → String
  | sequence _ | pairs _ => "[...]"
  | mapping _ => "\x7b...\x7d"
  | set _ => "set(...)"

def shownBy (shown : Value → String) : Collection → String
  | sequence items => "[" ++ ", ".intercalate (items.map shown) ++ "]"
  | pairs entries =>
    let pair (e : Value × Value) : String := "(" ++ shown e.1 ++ ", " ++ shown e.2 ++ ")"
    "[" ++ ", ".intercalate (entries.map pair) ++ "]"
  | mapping entries =>
    let entry (e : Scalar × Value) : String := e.1.shown ++ ": " ++ shown e.2
    "\x7b" ++ ", ".intercalate (entries.map entry) ++ "\x7d"
  | set [] => "set()"
  | set members => "\x7b" ++ ", ".intercalate (members.map Scalar.shown) ++ "\x7d"

end Collection

/-- Collections by number. -/
structure Heap where
  collections : Array Collection := #[]
  /-- How deep collections can be nested in text, by the limit of the interpreter. -/
  depth : Nat := 985

/-- What keeps a value from being written out. -/
inductive Obstacle where
  /-- An integer has too many digits. -/
  | digits
  /-- Collections are nested too deep. -/
  | depth
  deriving DecidableEq, Repr

namespace Heap

def get (h : Heap) (id : Nat) : Collection := h.collections.getD id (.sequence [])

def add (h : Heap) (c : Collection) : Nat × Heap :=
  (h.collections.size, { h with collections := h.collections.push c })

/-- A value inside collections that are being written. The fuel bounds how many may be. -/
def shownWithin (h : Heap) : Nat → List Nat → Value → String
  | _, _, .scalar s => s.shown
  | 0, _, .collection id => (h.get id).recurring
  | fuel + 1, enclosing, .collection id =>
    if enclosing.contains id then (h.get id).recurring
    else (h.get id).shownBy (h.shownWithin fuel (id :: enclosing))

/-- A value as it stands inside another one or in a message. No more collections are nested in
one another than there are. -/
def shown (h : Heap) (v : Value) : String := h.shownWithin (h.collections.size + 1) [] v

def text (h : Heap) : Value → String
  | .scalar s => s.toText
  | v => h.shown v

/-- What first keeps a value from being written out, inside collections that are being written. -/
def obstacleWithin (h : Heap) : Nat → List Nat → Value → Option Obstacle
  | _, _, .scalar s => if s.isWritable then none else some .digits
  | 0, _, .collection _ => some .depth
  | room + 1, enclosing, .collection id =>
    if enclosing.contains id then none
    else (h.get id).values.findSome? (h.obstacleWithin room (id :: enclosing))

def obstacle? (h : Heap) (v : Value) : Option Obstacle := h.obstacleWithin h.depth [] v

end Heap

/-- A value with the collections that it refers to. -/
structure Data where
  heap : Heap
  value : Value

namespace Data

def ofScalar (s : Scalar) : Data := ⟨{}, .scalar s⟩

def shown (d : Data) : String := d.heap.shown d.value

def text (d : Data) : String := d.heap.text d.value

end Data

end ClusterLaunch
