import MapMetrics.Yaml.Assembly
import MapMetrics.Yaml.Node

/-!
# YAML documents

A file holds a document or none. Its characters are read into tokens as they come, the tokens into
nodes, and the nodes become values when all of them are there.
-/

namespace MapMetrics.Yaml

/-- The value that a document holds; nothing if there is no document. -/
def read (feed : Feed) : Except Error Value := do
  match ← Node.ofTokens (tokens feed) with
  | none => return .null
  | some (root, g) => g.value root

end MapMetrics.Yaml
