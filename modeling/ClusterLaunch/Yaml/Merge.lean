import ClusterLaunch.Yaml.Node

/-! # Merge keys

A merge key brings the entries of other mappings into its own mapping, in front of the entries
that stand there. It is used up: afterwards the entries belong to the mapping, wherever the node
is used. The sources are merged first, and of a list of sources the last comes first. A key that
is an equals sign is plain text from then on.
-/

namespace ClusterLaunch.Yaml.Graph

/-- The source of the first merge key among entries, and the entries without it. -/
def firstMerge? (g : Graph) :
    List (NodeId × NodeId) → Option (NodeId × List (NodeId × NodeId))
  | [] => none
  | (k, v) :: rest =>
    if g.tag k = .merge then some (v, rest)
    else (g.firstMerge? rest).map fun (source, others) => (source, (k, v) :: others)

def setEntries (g : Graph) (n : NodeId) (entries : List (NodeId × NodeId)) : Graph :=
  g.set n ⟨g.tag n, .mapping entries⟩

/-- Read keys that are equals signs as plain text. -/
def withPlainKeys (g : Graph) (entries : List (NodeId × NodeId)) : Graph :=
  entries.foldl (fun g (k, _) =>
    if g.tag k = .value then g.set k ⟨.str, g.content k⟩ else g) g

/-- How many merge keys there are. Each is used up once. -/
def mergeCount (g : Graph) : Nat :=
  (g.nodes.toList.map fun node =>
    match node.content with
    | .mapping entries => entries.countP fun (k, _) => g.tag k = .merge
    | _ => 0).foldl (· + ·) 0

/-- Use up the merge keys of a mapping that has brought in some entries already. The fuel bounds
the merge keys that are left, the levels how deep sources may be nested. -/
def mergeInto : Nat → Nat → NodeId → List (NodeId × NodeId) → Graph → Except Error Graph
  | 0, _, _, _, _ => .error .malformed
  | _, 0, _, _, _ => .error .depth
  | fuel + 1, levels + 1, n, brought, g =>
    match g.firstMerge? (g.entries n) with
    | none =>
      let entries := brought ++ g.entries n
      .ok ((g.setEntries n entries).withPlainKeys entries)
    | some (source, others) => do
      let g := g.setEntries n others
      match g.content source with
      | .mapping _ =>
        let g ← mergeInto fuel levels source [] g
        mergeInto fuel (levels + 1) n (brought ++ g.entries source) g
      | .sequence items =>
        let (lists, g) ← items.foldlM (fun (lists, g) item =>
          match g.content item with
          | .mapping _ => do
            let g ← mergeInto fuel levels item [] g
            return (g.entries item :: lists, g)
          | _ => throw .malformed) ([], g)
        mergeInto fuel (levels + 1) n (brought ++ lists.flatten) g
      | .scalar _ => throw .malformed

def merge (levels : Nat) (g : Graph) (n : NodeId) : Except Error Graph :=
  match g.firstMerge? (g.entries n) with
  | none => .ok (g.withPlainKeys (g.entries n))
  | some _ => mergeInto (g.mergeCount + 1) levels n [] g

end ClusterLaunch.Yaml.Graph
