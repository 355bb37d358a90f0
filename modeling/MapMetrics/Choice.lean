import MapMetrics.Event
import MapMetrics.Text.Blank
import MapMetrics.Text.Case
import MapMetrics.Value

/-!
# Named choices

A finite set of alternatives, each with a name. Some settings must give the name exactly. Others
are lenient: blanks around the name do not matter, nor does the case of letters, where a letter
counts as the upper-case form that Unicode gives it.
-/

namespace MapMetrics

/-- A type whose members go by names. -/
class Named (α : Type) where
  /-- The members in order. -/
  members : List α
  /-- The name of a member. -/
  name : α → String

namespace Named

variable {α : Type} [Named α]

/-- The member with a name. -/
def ofName? (s : String) : Option α :=
  (members : List α).find? fun m => name m == s

/-- The member whose name a text gives, up to surrounding blanks and the case of letters. -/
def ofText? (s : String) : Option α := do
  let cs ← Text.upper? (Text.trim Text.isBlank s.toList)
  ofName? (String.ofList cs)

variable (α) in
/-- The names in order. -/
def names : List String :=
  (members : List α).map name

end Named

/-- The words in which a set of choices is spoken of. -/
structure Vocabulary where
  /-- The setting, inside a sentence. -/
  subject : String
  /-- The setting, at the start of a sentence. -/
  title : String
  /-- The kind of choice, in the plural. -/
  plural : String
  /-- The valid names. -/
  names : List String
  deriving DecidableEq, Repr

/-- The ways in which a value fails to be a lenient choice. -/
inductive Refusal where
  /-- The value is no text. -/
  | notText (words : Vocabulary)
  /-- The text is no valid name. -/
  | unknown (words : Vocabulary) (given : String)
  deriving DecidableEq, Repr

/-- Why the value is refused. -/
def Refusal.message : Refusal → String
  | notText words => words.title ++ " must be provided as a string"
  | unknown words given =>
    "Invalid " ++ words.subject ++ ": '" ++ given ++ "'. Valid " ++ words.plural ++ " are: " ++
      ", ".intercalate words.names

/-- A refusal of a text is an event. -/
def Refusal.events : Refusal → List Event
  | notText _ => []
  | r => [⟨.error, r.message⟩]

/-- The lenient choice that a value makes. -/
def choose {α : Type} [Named α] (words : Vocabulary) : Value → Except Refusal α
  | .text s =>
    match Named.ofText? s with
    | some m => .ok m
    | none => .error (.unknown words s)
  | _ => .error (.notText words)

end MapMetrics
