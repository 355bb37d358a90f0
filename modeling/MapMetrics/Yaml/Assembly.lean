import MapMetrics.Yaml.Graph

/-!
# From nodes to values

Nodes become values one after another. A list, set or mapping is there at once and is filled later,
when everything beside it is there. So of several nodes without a value the one nearest to the root
is the one to blame, and of those the first. A node becomes one value, however often it is referred
to; one that is inside of itself becomes a knot.

A mapping may merge others. Before it is filled, their entries are put in front of its own, for
good: whoever merges it later finds them there. Entries that come later win. A key that stands in
for a whole mapping is a text among the entries of a mapping that is filled. Where a scalar is asked
for and a mapping stands, the value under such a key is the scalar.
-/

namespace MapMetrics.Yaml

/-- What a node has become. -/
inductive Part where
  /-- A value that has no parts. -/
  | plain (v : Value)
  /-- The list, set or mapping of a node. -/
  | collection (n : Nat)

/-- What a list, set or mapping is filled with. -/
inductive Filling where
  /-- The items of a list. -/
  | list (items : List Part)
  /-- The pairs of a list of pairs. -/
  | pairs (pairs : List (Part × Part))
  /-- The keys of a set. -/
  | set (keys : List Value)
  /-- The entries of a mapping. -/
  | mapping (entries : List (Value × Part))

/-- What nodes have become so far. -/
structure Assembly where
  /-- The nodes. -/
  graph : Graph
  /-- What the nodes have become. -/
  parts : Array (Option Part)
  /-- What lists, sets and mappings are filled with. -/
  fillings : Array (Option Filling)
  /-- The nodes of lists, sets and mappings that wait to be filled, the last one first. -/
  waiting : List Nat
  /-- The number of entries that mappings have of their own, merge keys among them. -/
  ownEntries : Nat

namespace Assembly

/-- The start, when no node has become anything. -/
def ofGraph (g : Graph) : Assembly :=
  ⟨g, Array.replicate g.size none, Array.replicate g.size none, [], g.entryCount⟩

/-- A step from nodes to values. -/
abbrev Step := StateT Assembly (Except Error)

private def failWith {α : Type} (reason : String) : Step α :=
  throw (Stage.values.error reason)

/-- The text of a node: its own, or that of the value under the key of a mapping that stands in for
all of it. The fuel is more than the number of nodes. -/
def textOf (g : Graph) : Nat → Nat → Except Error String
  | 0, _ => .error .endless
  | fuel + 1, n =>
    match (g.node n).content with
    | .scalar s => .ok s
    | .list _ => .error (Stage.values.error "expected a scalar, but found a list")
    | .mapping entries =>
      match entries.find? fun e => (g.node e.1).tag == .standIn with
      | some (_, v) => textOf g fuel v
      | none => .error (Stage.values.error "expected a scalar, but found a mapping")

/-- The value of a node that is to become no collection. Timestamps are only taken from a text of
the node itself. -/
def plainValue (g : Graph) (n : Nat) : Except Error Value := do
  let node := g.node n
  match node.tag, node.content with
  | .other _, _ => scalarValue node.tag ""
  | .merge, _ => scalarValue node.tag ""
  | .standIn, _ => scalarValue node.tag ""
  | .timestamp, .mapping _ =>
    let _ ← textOf g (g.size + 1) n
    .error .mappedTimestamp
  | tag, _ => scalarValue tag (← textOf g (g.size + 1) n)

/-- Makes a part of a node, unless that has been done. -/
def make (n : Nat) : Step Part := do
  match (← get).parts[n]?.join with
  | some part => return part
  | none =>
    let g := (← get).graph
    let collects := (g.node n).tag.isCollection
    let part ← if collects then pure (.collection n) else .plain <$> plainValue g n
    modify fun a => { a with
      parts := a.parts.setIfInBounds n (some part)
      waiting := if collects then n :: a.waiting else a.waiting }
    return part

/-! ## Merging -/

/-- The entries of a node that holds some. -/
def entriesOf? (n : Nat) : Step (Option (List (Nat × Nat))) := do
  match ((← get).graph.node n).content with
  | .mapping entries => return some entries
  | _ => return none

/-- The entries of a mapping that is merged, which is flattened first. -/
def mergedFrom (flatten : Nat → Step Unit) (n : Nat) : Step (List (Nat × Nat)) := do
  if (← entriesOf? n).isNone then failWith "expected a mapping for merging"
  flatten n
  return (← entriesOf? n).getD []

/-- The entries that a merge key brings: those of a mapping, or of a list of mappings, where the
entries of earlier ones come last. -/
def merged (flatten : Nat → Step Unit) (n : Nat) : Step (List (Nat × Nat)) := do
  match ((← get).graph.node n).content with
  | .list items => return (← items.mapM (mergedFrom flatten)).reverse.flatten
  | _ => mergedFrom flatten n

/-- Puts the entries of merged mappings in front of those of a mapping, one merge key after another,
and makes texts of keys that stand in for a mapping. The fuel is more than the number of merge keys
that are left. -/
def flatten : Nat → Nat → Step Unit
  | 0, _ => throw .endless
  | fuel + 1, n => do
    let g := (← get).graph
    let entries := (← entriesOf? n).getD []
    let front := entries.takeWhile fun e => (g.node e.1).tag != .merge
    match entries.drop front.length with
    | [] =>
      let keys := (entries.map (·.1)).filter fun k => (g.node k).tag == .standIn
      modify fun a => { a with graph := keys.foldl (fun g k => g.setTag k .text) a.graph }
    | (_, value) :: rest =>
      modify fun a => { a with graph := a.graph.setContent n (.mapping (front ++ rest)) }
      let found ← merged (flatten fuel) value
      flatten fuel n
      let own := (← entriesOf? n).getD []
      modify fun a => { a with graph := a.graph.setContent n (.mapping (found ++ own)) }

/-! ## Filling -/

/-- Makes a key, which must be a value without parts. -/
def makeKey (n : Nat) : Step Value := do
  match ← make n with
  | .plain v => return v
  | .collection _ => failWith "found unhashable key"

/-- Makes the entries of a mapping. -/
def makeEntries (n : Nat) : Step (List (Value × Part)) := do
  if (← entriesOf? n).isNone then failWith "expected a mapping"
  flatten ((← get).ownEntries + 1) n
  ((← entriesOf? n).getD []).foldlM (fun made e => do
    let key ← makeKey e.1
    let part ← make e.2
    return Value.insert key part made) []

/-- Makes a pair of a mapping with a single entry. -/
def makePair (n : Nat) : Step (Part × Part) := do
  match ← entriesOf? n with
  | some [(key, value)] =>
    let first ← make key
    return (first, ← make value)
  | _ => failWith "expected a mapping with a single entry"

/-- Makes the parts of a list, set or mapping. -/
def makeFilling (n : Nat) : Step Filling := do
  let node := (← get).graph.node n
  match node.tag, node.content with
  | .list, .list items => .list <$> items.mapM make
  | .pairs, .list items => .pairs <$> items.mapM makePair
  | .set, _ => return .set ((← makeEntries n).map (·.1))
  | .mapping, _ => .mapping <$> makeEntries n
  | _, _ => failWith "expected a list"

/-- Fills a list, set or mapping. -/
def fill (n : Nat) : Step Unit := do
  let filling ← makeFilling n
  modify fun a => { a with fillings := a.fillings.setIfInBounds n (some filling) }

/-- Fills what waits, and then what came up meanwhile, until nothing waits. -/
def fillAll : Nat → Step Unit
  | 0 => return
  | fuel + 1 => do
    let waiting := (← get).waiting.reverse
    if waiting.isEmpty then return
    modify fun a => { a with waiting := [] }
    waiting.forM fill
    fillAll fuel

/-- Makes a value of a node and of all that is inside of it. Every round fills a node. -/
def makeAll (root : Nat) : Step Part := do
  let part ← make root
  fillAll ((← get).graph.size + 1)
  return part

end Assembly

/-! ## Values -/

/-- A value, with the nodes around it that it meets again. -/
structure Unfolded where
  /-- The value. -/
  value : Value
  /-- The nodes, by their numbers. -/
  met : List Nat

/-- Unfolding of parts, with the values of nodes that are not inside of themselves. -/
abbrev Unfolding := StateM (Array (Option Value))

/-- A part inside of the nodes `around`. A node that meets itself or a node around it is inside of
itself, and becomes a knot. The fuel is more than the number of nodes that are not around. -/
def Part.unfold (fillings : Array (Option Filling)) (fuel : Nat) (around : List Nat) (part : Part) :
    Unfolding Unfolded :=
  match fuel, part with
  | _, .plain v => return ⟨v, []⟩
  | 0, .collection n => return ⟨.again n, [n]⟩
  | fuel + 1, .collection n => do
    if around.contains n then return ⟨.again n, [n]⟩
    if let some v := (← get)[n]?.join then return ⟨v, []⟩
    let inner (p : Part) : Unfolding Unfolded := p.unfold fillings fuel (n :: around)
    let inside ← match (fillings[n]?.join).getD (.list []) with
      | .list items => do
        let found ← items.mapM inner
        pure (⟨.list (found.map (·.value)), found.flatMap (·.met)⟩ : Unfolded)
      | .pairs pairs => do
        let found ← pairs.mapM fun p => return (← inner p.1, ← inner p.2)
        pure ⟨.list (found.map fun f => .pair f.1.value f.2.value),
          found.flatMap fun f => f.1.met ++ f.2.met⟩
      | .set keys => pure ⟨Value.ofKeys keys, []⟩
      | .mapping entries => do
        let found ← entries.mapM fun e => return (e.1, ← inner e.2)
        pure ⟨.mapping (found.map fun f => (f.1, f.2.value)), found.flatMap fun f => f.2.met⟩
    if inside.met.isEmpty then
      modify fun values => values.setIfInBounds n (some inside.value)
      return inside
    return ⟨.knot n inside.value, (inside.met.filter (· != n)).eraseDups⟩

/-- The value of a node. -/
def Graph.value (root : Nat) (g : Graph) : Except Error Value := do
  let (part, done) ← (Assembly.makeAll root).run (Assembly.ofGraph g)
  let (unfolded, _) := (part.unfold done.fillings (g.size + 1) []).run (Array.replicate g.size none)
  return unfolded.value

end MapMetrics.Yaml
