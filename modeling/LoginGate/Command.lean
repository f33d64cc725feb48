import LoginGate.Service.Block

/-!
# Command — blocking an account from the command line

The arguments are one login and, if the account is to be unblocked, the switch `--unblock`, which
may be cut short as long as it stays unambiguous. A request for help ends the reading as soon as it
is reached. A lone `--` ends the switches, so that a login may start with a hyphen.
-/

namespace LoginGate

/-- What an operator asks for. -/
structure Command where
  login : String
  unblock : Bool
  deriving DecidableEq, Repr

namespace Command

/-- Why the arguments are no command. -/
inductive Usage where
  /-- The arguments ask for help. -/
  | help
  | wrong
  deriving DecidableEq, Repr

/-- The exit code that goes with it. -/
def Usage.exitCode : Usage → Nat
  | .help => 0
  | .wrong => 2

/-- What an argument before `--` is. -/
inductive Argument where
  | login (s : String)
  | unblock
  | help
  /-- A switch with a value that it does not take, or a cut one that could be several. -/
  | misused
  | ambiguous
  | unknown
  deriving DecidableEq, Repr

/-- The long switches. -/
def longSwitches : List (String × Argument) := [("--help", .help), ("--unblock", .unblock)]

/-- A text without one line feed at its end. -/
def withoutLineFeed (s : List Char) : List Char :=
  if s.getLast? = some '\n' then s.dropLast else s

/-- Whether an argument is a negative number, which is no switch: the digits may be those of any
script, and a line feed may follow. -/
def isNegativeNumber (s : List Char) : Bool :=
  let isDigit (c : Char) : Bool := (Text.decimalDigit? c).isSome
  match withoutLineFeed s with
  | '-' :: rest =>
    let whole := rest.takeWhile isDigit
    match rest.drop whole.length with
    | [] => !whole.isEmpty
    | '.' :: places => !places.isEmpty && places.all isDigit
    | _ => false
  | _ => false

/-- What follows `-h` in one argument: switches of one letter, of which there is no other. -/
def ofShort (letters : List Char) : Argument :=
  if letters ≠ [] && letters.all (· == 'h') then .help else .misused

/-- A switch of two hyphens, perhaps cut short, and whether a value is given with it. -/
def ofLong (name : List Char) (hasValue : Bool) : Option Argument :=
  match longSwitches.find? fun known => known.1.toList = name with
  | some known => some (if hasValue then .misused else known.2)
  | none =>
    match longSwitches.filter fun known => name.isPrefixOf known.1.toList with
    | [] => none
    | [known] => some (if hasValue then .misused else known.2)
    | _ => some .ambiguous

/-- What an argument is that starts with a hyphen and is no switch. -/
def ofStray (s : String) : Argument :=
  if isNegativeNumber s.toList || s.toList.contains ' ' then .login s else .unknown

/-- **What an argument is.** -/
def Argument.of (s : String) : Argument :=
  match s.toList with
  | '-' :: '-' :: rest =>
    let name := '-' :: '-' :: rest.takeWhile (· ≠ '=')
    (ofLong name (rest.contains '=')).getD (ofStray s)
  | ['-', 'h'] => .help
  | '-' :: 'h' :: '=' :: letters | '-' :: 'h' :: letters => ofShort letters
  | '-' :: _ :: _ => ofStray s
  | _ => .login s

/-- The first thing that ends the reading, in the order of the arguments. -/
def interruption? : List Argument → Option Usage
  | [] => none
  | .help :: _ => some .help
  | .misused :: _ => some .wrong
  | _ :: rest => interruption? rest

/-- The logins among some arguments. -/
def logins (arguments : List Argument) : List String :=
  arguments.filterMap fun
    | .login s => some s
    | _ => none

/-- Whether an argument is a login. -/
def Argument.isLogin : Argument → Bool
  | .login _ => true
  | _ => false

/-- **The command of some arguments.** A `--` that is not next to the login is one argument too
many. -/
def ofArguments (args : List String) : Except Usage Command :=
  let before := (args.takeWhile (· ≠ "--")).map Argument.of
  let rest := args.drop before.length
  let after := rest.drop 1
  if before.contains .ambiguous then .error .wrong
  else
    match interruption? before with
    | some usage => .error usage
    | none =>
      let marked := !rest.isEmpty && after.isEmpty && !(before.getLast?.any (·.isLogin))
      if before.contains .unknown || marked then .error .wrong
      else
        match logins before ++ after with
        | [login] => .ok { login, unblock := before.contains .unblock }
        | _ => .error .wrong

/-- **Carry out a command**: the exit code says whether there is such an account. The log starts
anew, at its own level. -/
def run (c : Command) (config : Config) : Act Nat := do
  match Log.Level.ofSetting? config.logLevel with
  | none => Act.fail .unknownLevel
  | some level => Act.setThreshold level
  Act.log .info "Database schema ensured"
  let found ← Service.block c.login (!c.unblock)
  return if found then 0 else 1

end Command
end LoginGate
