import MapMetrics.Text.Quoted
import MapMetrics.Text.Utf8

/-!
# Errors of YAML documents

A document can fail in the characters it is made of, in its tokens, in their order, in its
references, and in the values that its nodes are to become. Apart from these stand files that are no
text, and values that are asked for by a tag and still do not exist: of texts that have the right
form, such as a date in the thirteenth month, and of texts or nodes that do not have it.
-/

namespace MapMetrics.Yaml

/-- What a document fails in. -/
inductive Stage where
  /-- A character that no document may hold. -/
  | characters
  /-- A token. -/
  | tokens
  /-- A token that the end of the text breaks off. -/
  | ending
  /-- The order of the tokens. -/
  | arrangement
  /-- Anchors, aliases, or the number of documents. -/
  | references
  /-- The value of a node. -/
  | values
  deriving DecidableEq, Repr

/-- A line and a column, both counted from one. -/
structure Place where
  /-- Line. -/
  line : Nat
  /-- Column. -/
  column : Nat
  deriving DecidableEq, Repr

/-- The ways in which a text fails to be a document. -/
inductive Error where
  /-- The text is no document. -/
  | unreadable (stage : Stage) (reason : String) (place : Option Place)
  /-- The octets are no text. -/
  | undecodable (e : Text.Utf8.Error)
  /-- A value does not exist. -/
  | impossible (reason : String)
  /-- A number is too large for what it is to be. -/
  | tooLarge (reason : String)
  /-- A text is no word for a truth value. -/
  | unknownWord (word : String)
  /-- A text without a digit stands for a number. -/
  | noDigits
  /-- A text that is no timestamp stands for one. -/
  | noTimestamp
  /-- A mapping stands for a timestamp. -/
  | mappedTimestamp
  /-- A mapping stands for a text that is its own. -/
  | endless
  deriving DecidableEq, Repr

/-- An error of a stage. -/
def Stage.error (stage : Stage) (reason : String) : Error :=
  .unreadable stage reason none

/-- An error with a place, unless it has one. -/
def Error.orAt (place : Place) : Error → Error
  | .unreadable stage reason none => .unreadable stage reason (some place)
  | e => e

/-- The message says where the text fails, when that is known. -/
def Error.message : Error → String
  | .unreadable _ reason none => reason
  | .unreadable _ reason (some p) =>
    reason ++ " (line " ++ toString p.line ++ ", column " ++ toString p.column ++ ")"
  | .undecodable e => e.message
  | .impossible reason => reason
  | .tooLarge reason => reason
  | .unknownWord word => Text.quoted word
  | .noDigits => "string index out of range"
  | .noTimestamp => "'NoneType' object has no attribute 'groupdict'"
  | .mappedTimestamp => "expected string or bytes-like object, got 'list'"
  | .endless => "maximum recursion depth exceeded"

end MapMetrics.Yaml
