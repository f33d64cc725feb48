import LoginGate.Text.Case

/-!
# Log/Level — how serious a record is

Seven levels, ordered by number. Five of them are known to the standard loggers too, under the same
names; `success` and `trace` are not.
-/

namespace LoginGate.Log

/-- A level. -/
inductive Level where
  | trace
  | debug
  | info
  | success
  | warning
  | error
  | critical
  deriving DecidableEq, Repr

namespace Level

/-- All levels, the least first. -/
def all : List Level := [.trace, .debug, .info, .success, .warning, .error, .critical]

/-- The number of a level. -/
def number : Level → Int
  | .trace => 5
  | .debug => 10
  | .info => 20
  | .success => 25
  | .warning => 30
  | .error => 40
  | .critical => 50

/-- The name of a level. -/
def name : Level → String
  | .trace => "TRACE"
  | .debug => "DEBUG"
  | .info => "INFO"
  | .success => "SUCCESS"
  | .warning => "WARNING"
  | .error => "ERROR"
  | .critical => "CRITICAL"

/-- The level of a name. -/
def ofName? (name : String) : Option Level := all.find? (·.name == name)

/-- The level of a name in any letter case. -/
def ofSetting? (name : String) : Option Level := ofName? (String.ofList (Text.upper name.toList))

/-- The level that a standard logger's number has a name for. -/
def ofStandard? (n : Int) : Option Level :=
  [debug, info, warning, error, critical].find? (·.number == n)

end Level
end LoginGate.Log
