import LoginGate.Failure
import LoginGate.Log.Sink
import LoginGate.Store

/-!
# World — what a step of the service reads and changes

The store, the clock, what has been drawn at random so far, the fault that the storage is about to
have, and the log. A step (`Act`) runs in a world and leaves one behind, whether it ends with a
result or with a failure: what it has drawn and logged before it failed stays so.
-/

namespace LoginGate

/-- Where the random values come from: the n-th draws. Draws that never repeat are injective
supplies. -/
structure Supply where
  id : Nat → Uuid
  token : Nat → String
  salt : Nat → String

/-- The state of everything that steps share. -/
structure World where
  store : Store
  now : Instant
  /-- How many of each kind have been drawn. -/
  ids : Nat
  tokens : Nat
  salts : Nat
  /-- The storage call from now that is going to fail; none if zero. -/
  faultIn : Nat
  sink : Log.Sink

namespace World

/-- The world after a message is logged. -/
def log (w : World) (level : Log.Level) (message : String) : World :=
  { w with sink := w.sink.log level message }

/-- The world after a storage call has begun: a pending fault comes nearer. -/
def countdown (w : World) : World := { w with faultIn := w.faultIn - 1 }

@[simp] theorem store_log (w : World) (level : Log.Level) (message : String) :
    (w.log level message).store = w.store := rfl

@[simp] theorem now_log (w : World) (level : Log.Level) (message : String) :
    (w.log level message).now = w.now := rfl

@[simp] theorem store_countdown (w : World) : w.countdown.store = w.store := rfl

@[simp] theorem now_countdown (w : World) : w.countdown.now = w.now := rfl

end World

/-- **A step**: its result or its failure, and the world after it. -/
def Act (α : Type) : Type := World → Except Failure α × World

namespace Act

/-- A step that does nothing but give a result. -/
def pure {α : Type} (a : α) : Act α := fun w => (.ok a, w)

/-- One step after another; a failure ends both. -/
def bind {α β : Type} (x : Act α) (f : α → Act β) : Act β := fun w =>
  match x w with
  | (.ok a, w) => f a w
  | (.error e, w) => (.error e, w)

instance : Monad Act where
  pure := Act.pure
  bind := Act.bind

/-- Fail. -/
def fail {α : Type} (e : Failure) : Act α := fun w => (.error e, w)

/-- A result or a failure from elsewhere. -/
def ofExcept {α : Type} (x : Except Failure α) : Act α := fun w => (x, w)

/-- A result or a failure that depends on the clock. -/
def atNow {α : Type} (x : Instant → Except Failure α) : Act α := fun w => (x w.now, w)

/-- A step, and what to do about its failure. -/
def orElse {α : Type} (x : Act α) (handle : Failure → Act α) : Act α := fun w =>
  match x w with
  | (.ok a, w) => (.ok a, w)
  | (.error e, w) => handle e w

/-- Log a message. -/
def log (level : Log.Level) (message : String) : Act Unit := fun w =>
  (.ok (), w.log level message)

/-- Set or clear the correlation id of what is logged next. -/
def correlate (id : Option String) : Act Unit := fun w =>
  (.ok (), { w with sink := w.sink.correlate id })

/-- Set the least level that is logged from now on. -/
def setThreshold (level : Log.Level) : Act Unit := fun w =>
  (.ok (), { w with sink := { w.sink with threshold := level } })

/-- Read the clock, which shows dates alone. -/
def clock : Act Instant :=
  atNow fun now => if Instant.isDate now then .ok now else .error .noDate

/-- Draw an identifier. -/
def drawId (supply : Supply) : Act Uuid := fun w =>
  (.ok (supply.id (w.ids + 1)), { w with ids := w.ids + 1 })

/-- Draw a refresh token. -/
def drawToken (supply : Supply) : Act String := fun w =>
  (.ok (supply.token (w.tokens + 1)), { w with tokens := w.tokens + 1 })

/-- Draw a salt. -/
def drawSalt (supply : Supply) : Act String := fun w =>
  (.ok (supply.salt (w.salts + 1)), { w with salts := w.salts + 1 })

/-- A sum of a date and a span. -/
def later (t : Instant) (span : Int) : Act Instant :=
  match Instant.plus? t span with
  | some t => pure t
  | none => fail .noDate

@[simp] theorem pure_apply {α : Type} (a : α) (w : World) :
    (Pure.pure a : Act α) w = (.ok a, w) := rfl

theorem bind_apply {α β : Type} (x : Act α) (f : α → Act β) (w : World) :
    (x >>= f) w = match x w with
      | (.ok a, w) => f a w
      | (.error e, w) => (.error e, w) := rfl

@[simp] theorem fail_apply {α : Type} (e : Failure) (w : World) :
    (fail e : Act α) w = (.error e, w) := rfl

@[simp] theorem ofExcept_apply {α : Type} (x : Except Failure α) (w : World) :
    ofExcept x w = (x, w) := rfl

@[simp] theorem atNow_apply {α : Type} (x : Instant → Except Failure α) (w : World) :
    atNow x w = (x w.now, w) := rfl

@[simp] theorem log_apply (level : Log.Level) (message : String) (w : World) :
    log level message w = (.ok (), w.log level message) := rfl

end Act
end LoginGate
