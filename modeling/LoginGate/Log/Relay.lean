import LoginGate.Log.Arguments
import LoginGate.Log.Sink
import LoginGate.Log.Template

/-!
# Log/Relay — records from the standard loggers

Libraries log through named loggers with levels of their own. What passes a logger's threshold is
relayed to the sink: the arguments are filled in, the level is looked up by its standard name, and,
if the sink takes the level, the message is read as a template that may name the correlation id.
-/

namespace LoginGate.Log

/-- Why a record could not be relayed. -/
inductive RelayError where
  | arguments (fault : Arguments.Fault)
  | template (fault : Template.Fault)
  /-- A level without a standard name. -/
  | unknownLevel
  deriving DecidableEq, Repr

/-- The loggers with a threshold of their own; the loggers below them share it. -/
def thresholds : List (String × Int) :=
  [("werkzeug", 20), ("sqlalchemy.engine", 30), ("sqlalchemy", 30), ("flask_cors", 30)]

/-- Whether a logger is another one or below it. -/
def isBelow (logger ancestor : String) : Bool :=
  logger == ancestor || (ancestor ++ ".").toList.isPrefixOf logger.toList

/-- The threshold of a logger: every positive level passes where none is set. -/
def loggerThreshold (logger : String) : Int :=
  match thresholds.find? fun entry => isBelow logger entry.1 with
  | some entry => entry.2
  | none => 1

/-- **Relay a record to the sink.** -/
def Sink.relay (sink : Sink) (logger : String) (level : Int) (message : String)
    (args : List Json) : Except RelayError Sink :=
  if level < loggerThreshold logger then .ok sink
  else
    match Arguments.fill message args with
    | .error fault => .error (.arguments fault)
    | .ok text =>
      match Level.ofStandard? level with
      | none => .error .unknownLevel
      | some known =>
        if known.number < sink.threshold.number then .ok sink
        else
          match Template.fill "correlation_id" sink.correlation text with
          | .error fault => .error (.template fault)
          | .ok text => .ok (sink.log known text)

end LoginGate.Log
