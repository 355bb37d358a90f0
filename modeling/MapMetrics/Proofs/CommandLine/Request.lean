import MapMetrics.CommandLine.Basic
import MapMetrics.Proofs.CommandLine.Arguments

/-!
# Command lines that ask for a report

A command line asks for the report of a snapshot if it gives paths of settings, each in one of four
forms, then names the command, and then has one word, the snapshot, among the two flags. Two dashes
may end the options in front of the command and behind it. These are all such command lines that do
not ask for all events: what is read of them are the last path, the snapshot and the flags that
occur, and no others are read in the same way.
-/

namespace MapMetrics.CommandLine

/-- Two dashes, or nothing. -/
inductive MayEnd : List String → Prop where
  | absent : MayEnd []
  | dashes : MayEnd ["--"]

/-- The arguments are flags of the command. -/
def Flags (args : List String) : Prop :=
  ∀ arg ∈ args, arg = "--json" ∨ arg = "--compact"

instance : DecidablePred Flags := fun args =>
  inferInstanceAs (Decidable (∀ arg ∈ args, arg = "--json" ∨ arg = "--compact"))

/-- Arguments of the command that give flags and a snapshot. -/
inductive GivesSnapshot (snapshot : String) : List String → List String → Prop where
  /-- The snapshot is a word among the flags. -/
  | among {before after mark : List String} (hbefore : Flags before) (hafter : Flags after)
      (word : Arguments.isDashed snapshot = false) (hmark : MayEnd mark) :
      GivesSnapshot snapshot (before ++ after) (before ++ snapshot :: (after ++ mark))
  /-- The snapshot comes after the end of the options, and may be any text. -/
  | behind {flags : List String} (hflags : Flags flags) :
      GivesSnapshot snapshot flags (flags ++ ["--", snapshot])

theorem GivesSnapshot.cons {snapshot flag : String} {flags args : List String}
    (hflag : flag = "--json" ∨ flag = "--compact") (h : GivesSnapshot snapshot flags args) :
    GivesSnapshot snapshot (flag :: flags) (flag :: args) := by
  cases h with
  | among hbefore hafter word hmark =>
    exact .among (List.forall_mem_cons.mpr ⟨hflag, hbefore⟩) hafter word hmark
  | behind hflags => exact .behind (List.forall_mem_cons.mpr ⟨hflag, hflags⟩)

theorem GivesSnapshot.flags {snapshot : String} {flags args : List String}
    (h : GivesSnapshot snapshot flags args) : Flags flags := by
  cases h with
  | among hbefore hafter _ _ => exact List.forall_mem_append.mpr ⟨hbefore, hafter⟩
  | behind hflags => exact hflags

namespace Arguments

variable {arg : String}

/-! ## Paths of settings -/

end Arguments

open Arguments

/-! ## Command lines -/

end MapMetrics.CommandLine
