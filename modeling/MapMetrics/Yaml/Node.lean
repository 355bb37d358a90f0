import MapMetrics.Yaml.Graph
import MapMetrics.Yaml.TokenStream

/-!
# From tokens to nodes

The tokens of a document spell its nodes, each with its tag. A node may be named by an anchor and be
used again by aliases, even inside of itself; a name may be given once. Nodes may stand inside of
each other to any depth. A text holds one document or none.

Reading a node takes at least one token, apart from lists that are not indented, which take one
before they read an item; so twice the number of tokens is enough fuel.
-/

namespace MapMetrics.Yaml

namespace Node

/-- What is left to read, and what the document has given so far. -/
structure Progress where
  /-- Tokens that are left. -/
  tokens : List Lexeme
  /-- The nodes that have begun. -/
  nodes : Graph := #[]
  /-- Names of nodes. -/
  anchors : List (String × Nat) := []
  /-- What handles in tags stand for. -/
  handles : List (String × String) := []

/-- A reader of tokens. -/
abbrev Reader := StateT Progress (Except Error)

private def failAt {α : Type} (stage : Stage) (place : Place) (reason : String) : Reader α :=
  throw (.unreadable stage reason (some place))

/-- The next token, which is not taken. -/
def peek : Reader Lexeme := do
  match (← get).tokens with
  | [] => return ⟨.streamEnd, ⟨1, 1⟩⟩
  | first :: _ =>
    match first.token with
    | .broken e => throw e
    | _ => return first

/-- Takes the next token. -/
def skip : Reader Unit :=
  modify fun p => { p with tokens := p.tokens.drop 1 }

/-- What stands in front of a node. -/
structure Properties where
  /-- Its name. -/
  anchor : Option String := none
  /-- Its tag as it is written. -/
  tag : Option (Option String × String) := none

private def tagToken : Reader (Option (Option String × String)) := do
  match (← peek).token with
  | .tag handle suffix => skip; return some (handle, suffix)
  | _ => return none

private def anchorToken : Reader (Option String) := do
  match (← peek).token with
  | .anchor name => skip; return some name
  | _ => return none

/-- An anchor and a tag, in either order. -/
def properties : Reader Properties := do
  match ← anchorToken with
  | some name => return ⟨some name, ← tagToken⟩
  | none =>
    match ← tagToken with
    | some tag => return ⟨← anchorToken, some tag⟩
    | none => return {}

/-- The full name of a tag. -/
def fullTag (place : Place) : Option (Option String × String) → Reader (Option String)
  | none => return none
  | some (none, suffix) => return some suffix
  | some (some handle, suffix) => do
    match (← get).handles.lookup handle with
    | some meaning => return some (meaning ++ suffix)
    | none => failAt .arrangement place ("found undefined tag handle " ++ handle)

/-- A name may be given to one node only. -/
def announce (place : Place) : Option String → Reader Unit
  | none => return
  | some name => do
    if ((← get).anchors.lookup name).isSome then
      failAt .references place ("found duplicate anchor " ++ name)

/-- A new node, with its name if it has one. -/
def add (anchor : Option String) (node : Node) : Reader Nat := do
  let n := (← get).nodes.size
  modify fun p => { p with
    nodes := p.nodes.push node
    anchors := match anchor with
      | none => p.anchors
      | some name => (name, n) :: p.anchors }
  return n

/-- A node whose content is read after it has been named. -/
def enclose (anchor : Option String) (tag : Tag) (read : Reader Content) : Reader Nat := do
  let n ← add anchor ⟨tag, .list []⟩
  let content ← read
  modify fun p => { p with nodes := p.nodes.setContent n content }
  return n

/-- The node that an alias stands for. -/
def resolve (place : Place) (name : String) : Reader Nat := do
  match (← get).anchors.lookup name with
  | some n => return n
  | none => failAt .references place ("found undefined alias " ++ name)

/-- The tag that a list or mapping has. -/
def collectionTag (default : Tag) : Option String → Tag
  | none => default
  | some name => if name == "!" then default else Tag.ofName name

/-- The tag that a scalar has. -/
def scalarTag (plain : Bool) (text : String) : Option String → Tag
  | none => if plain then Tag.ofPlain text else .text
  | some name => if name == "!" then Tag.ofPlain text else Tag.ofName name

/-- A node that is not there. -/
def absent : Reader Nat :=
  add none ⟨.null, .scalar ""⟩

/-- The next token is one of some. -/
def nextIsOneOf (tokens : List Token) : Reader Bool := do
  return tokens.contains (← peek).token

private def tooLong {α : Type} : Reader α :=
  throw (Stage.arrangement.error "the document does not end")

mutual

/-- A node. Inside brackets, `block` is false and lists and mappings by lines cannot stand; a list
that is not indented can only be the value or key of a mapping by lines. -/
def node (block unindented : Bool) : Nat → Reader Nat
  | 0 => tooLong
  | fuel + 1 => do
    let first ← peek
    if let .alias name := first.token then
      skip
      return ← resolve first.place name
    let written ← properties
    let tag ← fullTag first.place written.tag
    let announced := announce first.place written.anchor
    let here ← peek
    match here.token with
    | .scalar plain text =>
      skip
      announced
      add written.anchor ⟨scalarTag plain text tag, .scalar text⟩
    | .listStart =>
      skip
      announced
      enclose written.anchor (collectionTag .list tag) (.list <$> flowItems true fuel)
    | .mappingStart =>
      skip
      announced
      enclose written.anchor (collectionTag .mapping tag) (.mapping <$> flowEntries true fuel)
    | .item =>
      if unindented then
        announced
        enclose written.anchor (collectionTag .list tag) (.list <$> unindentedItems fuel)
      else empty here written tag
    | .blockListStart =>
      if block then
        announced
        skip
        enclose written.anchor (collectionTag .list tag) (.list <$> blockItems fuel)
      else empty here written tag
    | .blockMappingStart =>
      if block then
        announced
        skip
        enclose written.anchor (collectionTag .mapping tag) (.mapping <$> blockEntries fuel)
      else empty here written tag
    | _ => empty here written tag

/-- The items of a list by lines, to its end. -/
def blockItems : Nat → Reader (List Nat)
  | 0 => tooLong
  | fuel + 1 => do
    let here ← peek
    match here.token with
    | .item =>
      skip
      let v ← if ← nextIsOneOf [.item, .blockEnd] then absent else node true false fuel
      return v :: (← blockItems fuel)
    | .blockEnd =>
      skip
      return []
    | _ => failAt .arrangement here.place "expected the end of a list"

/-- The items of a list that is not indented; another token ends it. -/
def unindentedItems : Nat → Reader (List Nat)
  | 0 => tooLong
  | fuel + 1 => do
    match (← peek).token with
    | .item =>
      skip
      let v ← if ← nextIsOneOf [.item, .key, .value, .blockEnd] then absent
        else node true false fuel
      return v :: (← unindentedItems fuel)
    | _ => return []

/-- The entries of a mapping by lines, to its end. -/
def blockEntries : Nat → Reader (List (Nat × Nat))
  | 0 => tooLong
  | fuel + 1 => do
    let here ← peek
    match here.token with
    | .key =>
      skip
      let k ← blockPart fuel
      let v ← if ← nextIsOneOf [.value] then do skip; blockPart fuel else absent
      return (k, v) :: (← blockEntries fuel)
    | .blockEnd =>
      skip
      return []
    | _ => failAt .arrangement here.place "expected the end of a mapping"

/-- A key or value of a mapping by lines, which may be absent. -/
def blockPart : Nat → Reader Nat
  | 0 => tooLong
  | fuel + 1 => do
    if ← nextIsOneOf [.key, .value, .blockEnd] then absent else node true true fuel

/-- The items of a list in brackets, to its end. A pair stands for a mapping of one entry. -/
def flowItems (first : Bool) : Nat → Reader (List Nat)
  | 0 => tooLong
  | fuel + 1 => do
    if ← nextIsOneOf [.listEnd] then
      skip
      return []
    if !first then
      let here ← peek
      if here.token == .comma then skip
      else failAt .arrangement here.place "expected a comma or the end of a list"
    if ← nextIsOneOf [.key] then
      let v ← enclose none .mapping do
        skip
        let k ← if ← nextIsOneOf [.value, .comma, .listEnd] then absent
          else node false false fuel
        return .mapping [(k, ← flowValue .listEnd fuel)]
      return v :: (← flowItems false fuel)
    else if ← nextIsOneOf [.listEnd] then
      skip
      return []
    else
      let v ← node false false fuel
      return v :: (← flowItems false fuel)

/-- The entries of a mapping in braces, to its end. A key may stand alone. -/
def flowEntries (first : Bool) : Nat → Reader (List (Nat × Nat))
  | 0 => tooLong
  | fuel + 1 => do
    if ← nextIsOneOf [.mappingEnd] then
      skip
      return []
    if !first then
      let here ← peek
      if here.token == .comma then skip
      else failAt .arrangement here.place "expected a comma or the end of a mapping"
    if ← nextIsOneOf [.key] then
      skip
      let k ← if ← nextIsOneOf [.value, .comma, .mappingEnd] then absent
        else node false false fuel
      let v ← flowValue .mappingEnd fuel
      return (k, v) :: (← flowEntries false fuel)
    else if ← nextIsOneOf [.mappingEnd] then
      skip
      return []
    else
      let k ← node false false fuel
      let v ← absent
      return (k, v) :: (← flowEntries false fuel)

/-- The value of an entry in brackets or braces, which may be absent. -/
def flowValue (close : Token) : Nat → Reader Nat
  | 0 => tooLong
  | fuel + 1 => do
    if ← nextIsOneOf [.value] then
      skip
      if ← nextIsOneOf [.comma, close] then absent else node false false fuel
    else absent

/-- A node of which only the anchor or the tag is there. -/
def empty (here : Lexeme) (written : Properties) (tag : Option String) : Reader Nat :=
  if written.anchor.isSome || tag.isSome then do
    announce here.place written.anchor
    add written.anchor ⟨scalarTag true "" tag, .scalar ""⟩
  else failAt .arrangement here.place "expected the content of a node"

end

/-- What handles stand for in every document. -/
def defaultHandles : List (String × String) :=
  [("!", "!"), ("!!", commonPrefix)]

private def directiveStep (version : Bool) (place : Place) (d : Directive) : Reader Bool := do
  match d with
  | .version major _ =>
    if version then failAt .arrangement place "found duplicate version directive"
    if major != 1 then
      failAt .arrangement place "found incompatible document, version 1 is required"
    return true
  | .handle name meaning =>
    if ((← get).handles.lookup name).isSome then
      failAt .arrangement place ("found duplicate tag handle " ++ name)
    modify fun p => { p with handles := (name, meaning) :: p.handles }
    return version
  | .other _ => return version

/-- The directives in front of a document. -/
def directives (version : Bool) : Nat → Reader Unit
  | 0 => tooLong
  | fuel + 1 => do
    let here ← peek
    match here.token with
    | .directive d =>
      skip
      directives (← directiveStep version here.place d) fuel
    | _ => return

/-- The directives and the mark in front of a document. -/
def documentHead (fuel : Nat) : Reader Unit := do
  modify fun p => { p with handles := [] }
  directives false fuel
  modify fun p => { p with handles := p.handles ++ defaultHandles }
  let here ← peek
  if here.token == .documentStart then skip
  else failAt .arrangement here.place "expected the start of a document"

/-- Takes the marks of the end of a document. -/
def documentEnds : Nat → Reader Unit
  | 0 => tooLong
  | fuel + 1 => do
    if ← nextIsOneOf [.documentEnd] then
      skip
      documentEnds fuel

/-- After a document, nothing may follow. -/
def onlyOne (fuel : Nat) : Reader Unit := do
  documentEnds fuel
  let here ← peek
  if here.token != .streamEnd then
    documentHead fuel
    failAt .references here.place "expected a single document, but found another one"

/-- The root of the only document, if there is one. -/
def root (fuel : Nat) : Reader (Option Nat) := do
  match (← peek).token with
  | .streamEnd => return none
  | .documentStart => explicit
  | .directive _ => explicit
  | _ =>
    modify fun p => { p with handles := defaultHandles }
    let n ← node true false fuel
    onlyOne fuel
    return some n
where
  /-- A document with a head. -/
  explicit : Reader (Option Nat) := do
    documentHead fuel
    let n ← match (← peek).token with
      | .directive _ => absent
      | .documentStart => absent
      | .documentEnd => absent
      | .streamEnd => absent
      | _ => node true false fuel
    onlyOne fuel
    return some n

/-- The root and the nodes of the document that some tokens spell, if they spell one. -/
def ofTokens (tokens : List Lexeme) : Except Error (Option (Nat × Graph)) := do
  let (n, progress) ← (root (2 * tokens.length + 2)).run { tokens := tokens }
  return n.map (·, progress.nodes)

end Node

end MapMetrics.Yaml
