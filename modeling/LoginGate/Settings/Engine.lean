import LoginGate.Settings.Section

/-!
# Settings/Engine — how the storage is reached

The kind of storage is read off its address. A storage in a file or in memory bounds the time to
wait for a lock, a binary64 number of seconds; one that lives in memory must keep its only
connection. A server has a pool of connections, and one kind of server is told how long a statement
may take.
-/

namespace LoginGate.Settings

/-- What is asked of each connection. -/
inductive Connection where
  | plain
  /-- Wait some seconds for a lock. -/
  | waiting (seconds : Binary64)
  /-- Let a statement take some milliseconds. -/
  | limited (ms : Int)
  deriving DecidableEq

/-- How connections are kept. -/
inductive Pool where
  /-- As is usual for the kind of storage. -/
  | ofKind
  | single
  | sized (size overflow : Int) (timeout : Binary64)
  deriving DecidableEq

/-- How the storage is reached. -/
structure Engine where
  url : String
  connection : Connection
  pool : Pool
  deriving DecidableEq

namespace Engine

/-- Milliseconds as seconds, but not less than one millisecond. Milliseconds that are out of range
have no seconds. -/
def lockSeconds? (ms : Int) : Option Binary64 := do
  let (num, den) ← (Binary64.ofInt ms).toFraction?
  let seconds := Binary64.ofFraction num (den * 1000)
  let least := Binary64.ofFraction 1 1000
  some (if least.le seconds then seconds else least)

/-- **The engine of some settings**, if its time to wait is in range. -/
def of? (d : Database) : Option Engine := do
  let url := d.url.toList
  if "sqlite".toList.isPrefixOf url then
    let seconds ← lockSeconds? d.statementTimeoutMs
    some
      { url := d.url, connection := .waiting seconds
        pool := if d.url = "sqlite://" ∨ d.url = "sqlite:///:memory:" then .single else .ofKind }
  else
    some
      { url := d.url
        connection :=
          if "postgresql".toList.isPrefixOf url then .limited d.statementTimeoutMs else .plain
        pool := .sized d.poolSize d.maxOverflow d.poolTimeout }

end Engine
end LoginGate.Settings
