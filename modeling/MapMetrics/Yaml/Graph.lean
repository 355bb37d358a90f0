import MapMetrics.Yaml.Tag

/-!
# Graphs of nodes

The nodes of a document and what they are to become. A node refers to those inside of it by their
numbers, which are given out in the order in which nodes begin. An alias refers to the node that it
stands for, so a node can be inside of many others, and inside of itself.
-/

namespace MapMetrics.Yaml

/-- What a node holds. -/
inductive Content where
  /-- A text. -/
  | scalar (text : String)
  /-- Nodes in a row. -/
  | list (items : List Nat)
  /-- Pairs of nodes. -/
  | mapping (entries : List (Nat × Nat))
  deriving DecidableEq, Repr

/-- A node. -/
structure Node where
  /-- What it is to become. -/
  tag : Tag
  /-- What it holds. -/
  content : Content
  deriving DecidableEq, Repr

instance : Inhabited Node :=
  ⟨.null, .scalar ""⟩

/-- The nodes of a document by their numbers. -/
abbrev Graph := Array Node

namespace Graph

/-- The node of a number. -/
def node (g : Graph) (n : Nat) : Node :=
  g[n]?.getD default

/-- A graph with another tag for a node. -/
def setTag (n : Nat) (tag : Tag) (g : Graph) : Graph :=
  g.modify n fun node => { node with tag := tag }

/-- A graph with another content for a node. -/
def setContent (n : Nat) (content : Content) (g : Graph) : Graph :=
  g.modify n fun node => { node with content := content }

/-- The number of entries of all mappings. -/
def entryCount (g : Graph) : Nat :=
  g.foldl (fun count node => match node.content with
    | .mapping entries => count + entries.length
    | _ => count) 0

end Graph

end MapMetrics.Yaml
