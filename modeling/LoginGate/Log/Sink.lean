import LoginGate.Log.Level
import LoginGate.Redact.Rules

/-!
# Log/Sink — where records go

The sink takes the records at or above its threshold. Each carries the correlation id of the moment,
and its message is redacted on the way in, so nothing that is masked ever gets there.
-/

namespace LoginGate.Log

/-- A record as the sink keeps it. -/
structure Record where
  level : Level
  correlation : String
  message : String
  deriving DecidableEq, Repr

/-- The sink, and the correlation id that the next records get. -/
structure Sink where
  threshold : Level
  correlation : String
  records : List Record

namespace Sink

/-- The correlation id where there is none. -/
def noCorrelation : String := "-"

/-- An empty sink. -/
def empty (threshold : Level) : Sink := ⟨threshold, noCorrelation, []⟩

/-- Set the correlation id; an empty or missing one counts as none. -/
def correlate (s : Sink) (id : Option String) : Sink :=
  match id with
  | some id => { s with correlation := if id = "" then noCorrelation else id }
  | none => { s with correlation := noCorrelation }

/-- **Log a message.** -/
def log (s : Sink) (level : Level) (message : String) : Sink :=
  if s.threshold.number ≤ level.number then
    { s with records := s.records ++ [⟨level, s.correlation, Redact.redact message⟩] }
  else s

end Sink
end LoginGate.Log
