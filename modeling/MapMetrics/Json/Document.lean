import MapMetrics.Json.Lexeme
import MapMetrics.Text.Lines

/-!
# JSON documents

A document is read one lexeme at a time. What has been read and not yet closed is a stack of open
lists and mappings, and a state says what may stand next; each lexeme takes one state to the next
or is a fault at its place. A key that comes again gets the later value in its first place. Lists
and mappings may stand inside of each other to any depth.
-/

namespace MapMetrics.Json

/-- A list or mapping that waits for a value. -/
inductive Open where
  /-- A list, its last item first. -/
  | list (items : List Value)
  /-- A mapping, with the key that the value is for. -/
  | member (entries : List (Value × Value)) (key : String)

/-- What may stand next. -/
inductive State where
  /-- A value. -/
  | value (outer : List Open)
  /-- The first item of a list, or its end. -/
  | firstItem (outer : List Open)
  /-- The first key of a mapping, or its end. -/
  | firstKey (outer : List Open)
  /-- A key. -/
  | key (entries : List (Value × Value)) (outer : List Open)
  /-- A colon. -/
  | colon (entries : List (Value × Value)) (key : String) (outer : List Open)
  /-- A comma, or the end of a list, its last item first. -/
  | afterItem (items : List Value) (outer : List Open)
  /-- A comma, or the end of a mapping. -/
  | afterMember (entries : List (Value × Value)) (outer : List Open)
  /-- Nothing. -/
  | finished (document : Value)

namespace State

/-- The state after a value. -/
def deliver (v : Value) : List Open → State
  | [] => finished v
  | .list items :: outer => afterItem (v :: items) outer
  | .member entries k :: outer => afterMember (Value.insert (.text k) v entries) outer

/-- The state after the first lexeme of a value; another lexeme is no value. -/
def beginValue (outer : List Open) (lexeme : Lexeme) : Except Error State :=
  match lexeme.token with
  | .openMapping => .ok (firstKey outer)
  | .openList => .ok (firstItem outer)
  | .text s => .ok (deliver (.text s) outer)
  | .scalar v => .ok (deliver v outer)
  | .broken e => .error e
  | _ => .error ⟨.value, lexeme.place.length⟩

/-- The state after the key of a mapping; another lexeme is no key. -/
def beginMember (entries : List (Value × Value)) (outer : List Open) (lexeme : Lexeme) :
    Except Error State :=
  match lexeme.token with
  | .text s => .ok (colon entries s outer)
  | .broken e => .error e
  | _ => .error ⟨.key, lexeme.place.length⟩

/-- The fault of a state that does not go on. -/
def fault : State → Fault
  | value _ => .value
  | firstItem _ => .value
  | firstKey _ => .key
  | key _ _ => .key
  | colon _ _ _ => .colon
  | afterItem _ _ => .comma
  | afterMember _ _ => .comma
  | finished _ => .extra

/-- The state after a lexeme. -/
def step (state : State) (lexeme : Lexeme) : Except Error State :=
  match state, lexeme.token with
  | value outer, _ => beginValue outer lexeme
  | firstItem outer, .closeList => .ok (deliver (.list []) outer)
  | firstItem outer, _ => beginValue (.list [] :: outer) lexeme
  | firstKey outer, .closeMapping => .ok (deliver (.mapping []) outer)
  | firstKey outer, _ => beginMember [] outer lexeme
  | key entries outer, _ => beginMember entries outer lexeme
  | colon entries k outer, .colon => .ok (value (.member entries k :: outer))
  | afterItem items outer, .comma => .ok (value (.list items :: outer))
  | afterItem items outer, .closeList => .ok (deliver (.list items.reverse) outer)
  | afterMember entries outer, .comma => .ok (key entries outer)
  | afterMember entries outer, .closeMapping => .ok (deliver (.mapping entries) outer)
  | state, _ => .error ⟨state.fault, lexeme.place.length⟩

/-- The document that ends in a state. -/
def finish : State → Except Error Value
  | finished document => .ok document
  | state => .error ⟨state.fault, 0⟩

end State

/-- The document that a text holds. -/
def read (cs : List Char) : Except Error Value :=
  if cs.head? == some '\uFEFF' then .error ⟨.byteOrderMark, cs.length⟩
  else (lexemes cs).foldlM State.step (.value []) >>= State.finish

/-- What is wrong at the place. -/
def Fault.message : Fault → String
  | value => "Expecting value"
  | key => "Expecting property name enclosed in double quotes"
  | colon => "Expecting ':' delimiter"
  | comma => "Expecting ',' delimiter"
  | extra => "Extra data"
  | unterminated => "Unterminated string starting at"
  | escape => "Invalid \\escape"
  | codePoint => "Invalid \\uXXXX escape"
  | control => "Invalid control character at"
  | byteOrderMark => "Unexpected UTF-8 BOM (decode using utf-8-sig)"
  | digits count => Number.tooManyDigits (some count)

/-- The text breaks a rule of the format, and not only a limit. -/
def Fault.isSyntax : Fault → Bool
  | digits _ => false
  | _ => true

/-- The message says where in the text a fault of the format is. -/
def Error.message (cs : List Char) (e : Error) : String :=
  let index := cs.length - e.left
  if e.fault.isSyntax then
    e.fault.message ++ ": line " ++ toString (Text.lineAt cs index) ++ " column " ++
      toString (Text.columnAt cs index) ++ " (char " ++ toString index ++ ")"
  else e.fault.message

end MapMetrics.Json
