/-!
# Diagnostics

Registration, type resolution and walks report what they do as a stream of notes:
the trace of each state a walk enters, a warning when elements are kept as text,
a line per registered type.  The notes never change a result; they are collected in
order so that a caller can show them.

## Main definitions

* `Note` — one diagnostic line with its level.
* `Logged` — a computation that appends notes as it runs.
-/

namespace ValuePaths

/-- How much a note matters. -/
inductive Level where
  | trace
  | debug
  | warn
  deriving DecidableEq, Repr, Inhabited

/-- The name of a level as it is shown beside a note. -/
def Level.label : Level → String
  | .trace => "TRACE"
  | .debug => "DEBUG"
  | .warn => "WARN"

/-- One diagnostic line. -/
structure Note where
  level : Level
  message : String
  deriving DecidableEq, Repr, Inhabited

/-- A computation that appends notes, in the order they are made. -/
abbrev Logged := StateM (Array Note)

/-- Appends one note. -/
def note (level : Level) (message : String) : Logged Unit :=
  modify (·.push ⟨level, message⟩)

/-- Runs a computation from an empty record of notes. -/
def Logged.collect {α : Type} (x : Logged α) : α × Array Note :=
  StateT.run x #[]

end ValuePaths
