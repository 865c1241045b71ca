import Columnar.CommandLine.Flag
import Columnar.Literal

/-!
# The arguments of the program

The program has two commands.  `show` prints relations loaded from files, and `join`
joins two of them.  Options may stand before the command, if they are shared by both, or
anywhere after it.

An option is written `--name value`, `--name=value`, and if it has a one-letter form also
`-n value`, `-nvalue` or `-n=value`.  A single dash is a value, everything else that
begins with a dash is an option, and after `--` nothing is.  The arguments are read from
the left, one at a time: each moves the reading from one state to the next
(`Reading.step`), or stops it.

A call for help stops the reading where it stands, so what is wrong behind it does not
matter.  The values of an option are looked at when the next option or operand comes; at
the end of the options before the command they are looked at last of all, so that a call
for help after the command comes first.

## Main definitions

* `Command`, `Invocation` — what the program is asked to do.
* `Stop` — why there is nothing to do: wrong arguments, or a call for help.
* `Reading.step` — one argument.
* `Invocation.parse` — all arguments.
-/

namespace Columnar

namespace CommandLine

/-! ### Invocations -/

/-- What the program is asked to do. -/
inductive Command where
  /-- Print relations loaded from files: only the rows that satisfy the filter, which is
  empty or given as column, operator and value, and only the given columns, or all if
  none are given. -/
  | show (files : List String) (filter columns : List String)
  /-- Join two relations loaded from files. -/
  | join (left leftColumn right rightColumn : String) (strategy : JoinStrategy)
      (op : Comparison)
  deriving DecidableEq, Repr

/-- A command and the options shared by all commands. -/
structure Invocation where
  /-- The byte between the fields of the files. -/
  delimiter : UInt8
  /-- How many workers a parallel join may use.  The result does not depend on it. -/
  threads : Option Nat
  /-- The command. -/
  command : Command
  deriving DecidableEq, Repr

/-- Why there is no invocation. -/
inductive Stop where
  /-- The arguments are not understood. -/
  | usage
  /-- The arguments ask for help on a part of them. -/
  | help (scope : Scope)
  /-- The arguments ask for the version. -/
  | version
  deriving DecidableEq, Repr

/-! ### Settings -/

/-- What has been set in one scope. -/
structure Settings where
  /-- The delimiter. -/
  delimiter : Option UInt8
  /-- The number of workers. -/
  threads : Option Nat
  /-- The values of all filters. -/
  filter : List String
  /-- The columns. -/
  columns : List String
  /-- The strategy. -/
  strategy : Option JoinStrategy
  /-- The comparison. -/
  comparison : Option Comparison
  /-- The arguments that are no options. -/
  operands : List String

namespace Settings

/-- Nothing is set. -/
def none : Settings := ⟨.none, .none, [], [], .none, .none, []⟩

/-- Sets something that can be set only once, from a text that must be understood. -/
def once {α : Type} (old : Option α) (read : Option α) : Except Stop (Option α) :=
  if old.isSome ∨ read.isNone then .error .usage else .ok read

/-- A delimiter is a single ASCII character. -/
def readDelimiter (text : String) : Option UInt8 :=
  match text.toList with
  | [c] => if c.toNat < 128 then some c.toUInt8 else .none
  | _ => .none

/-- A number of workers: digits with an optional plus, within the 64-bit range. -/
def readThreads (text : String) : Option Nat :=
  let digits := match text.toList with
    | '+' :: digits => digits
    | digits => digits
  (readNatural digits).filter (· < 0x10000000000000000)

/-- The parts of a text between its commas. -/
def splitColumns (text : String) : List String :=
  (text.toList.splitOn ',').map String.ofList

/-- Sets an option of a scope to its values.  Filters and columns add up, and a call for
help stops the reading. -/
def set (s : Settings) (scope : Scope) (flag : Flag) (values : List String) :
    Except Stop Settings :=
  match flag, values with
  | .delimiter, [text] => return { s with delimiter := ← once s.delimiter (readDelimiter text) }
  | .threads, [text] => return { s with threads := ← once s.threads (readThreads text) }
  | .filter, [_, _, _] => return { s with filter := s.filter ++ values }
  | .columns, [text] => return { s with columns := s.columns ++ splitColumns text }
  | .strategy, [text] =>
    return { s with strategy := ← once s.strategy (JoinStrategy.ofName? text) }
  | .comparison, [text] =>
    return { s with comparison := ← once s.comparison (Comparison.ofSymbol? text) }
  | .help, [] => .error (.help scope)
  | .version, [] => .error .version
  | _, _ => .error .usage

end Settings

/-! ### Reading from the left -/

/-- What an argument looks like. -/
inductive Shape where
  /-- Two dashes: only operands follow. -/
  | separator
  /-- An option by its name, with the value after an equals sign, if there is one. -/
  | long (name : String) (value : Option String)
  /-- An option by its letter, with what follows it. -/
  | short (letter : Char) (rest : List Char)
  /-- A value or an operand. -/
  | plain
  deriving DecidableEq, Repr

/-- The shape of an argument. -/
def Shape.of (argument : String) : Shape :=
  match argument.toList with
  | ['-', '-'] => .separator
  | '-' :: '-' :: rest =>
    let name := rest.takeWhile (· ≠ '=')
    match rest.dropWhile (· ≠ '=') with
    | [] => .long (String.ofList name) none
    | _ :: value => .long (String.ofList name) (some (String.ofList value))
  | '-' :: letter :: rest => .short letter rest
  | _ => .plain

/-- The state of reading the arguments. -/
structure Reading where
  /-- The current scope. -/
  scope : Scope
  /-- What was set before the command. -/
  outer : Except Stop Settings
  /-- What was set in the current scope. -/
  inner : Settings
  /-- The last option, with the values it has, until they are looked at. -/
  pending : Option (Flag × List String)
  /-- Whether the separator was passed. -/
  operandsOnly : Bool
  /-- The command that follows the command `help`. -/
  topic : Option Scope

namespace Reading

/-- Nothing has been read. -/
def start : Reading := ⟨.program, .ok .none, .none, none, false, none⟩

/-- Whether the last option still waits for values. -/
def awaitsValue (r : Reading) : Bool :=
  match r.pending with
  | some (flag, values) => decide (values.length < flag.arity)
  | none => false

/-- Sets the last option to its values. -/
def settle (r : Reading) : Except Stop Reading :=
  match r.pending with
  | some (flag, values) => return { r with inner := ← r.inner.set r.scope flag values, pending := none }
  | none => .ok r

/-- Enters the scope of a command, what was set before it being kept apart. -/
def enter (r : Reading) (scope : Scope) : Reading :=
  { start with scope, outer := r.settle.map Reading.inner }

/-- Whether an operand of a command may stand at a position, counted from zero.  The names
of files are not empty. -/
def accepts (r : Reading) (position : Nat) (operand : String) : Bool :=
  match r.scope with
  | .show => operand != ""
  | .join => decide (position < 4) && (position % 2 == 1 || operand != "")
  | _ => false

/-- Takes an argument that is no option: the command, or an operand of the command. -/
def operand (r : Reading) (argument : String) : Except Stop Reading :=
  match r.scope with
  | .program =>
    match Scope.ofCommand? argument with
    | some scope => if r.operandsOnly then .error .usage else .ok (r.enter scope)
    | none => .error .usage
  | _ => do
    let r ← r.settle
    let operands := r.inner.operands
    if r.accepts operands.length argument then
      .ok { r with inner := { r.inner with operands := operands ++ [argument] } }
    else .error .usage

/-- Takes an option, with the value attached to it, if there is one. -/
def option (r : Reading) (flag : Option Flag) (value : Option String) : Except Stop Reading := do
  let r ← r.settle
  match flag, value with
  | none, _ => .error .usage
  | some flag, some value => settle { r with pending := some (flag, [value]) }
  | some flag, none =>
    let given := { r with pending := some (flag, []) }
    if flag.arity = 0 then given.settle else .ok given

/-- The value attached to a letter: what follows it, without a first equals sign. -/
def attached : List Char → Option String
  | [] => none
  | '=' :: value => some (String.ofList value)
  | value => some (String.ofList value)

/-- Takes an option by its letter.  After a letter that takes no value more letters may
follow. -/
def letter (r : Reading) (letter : Char) (rest : List Char) : Except Stop Reading :=
  match Flag.ofLetter? r.scope letter with
  | none => .error .usage
  | some flag => r.option (some flag) (if flag.arity = 0 then none else attached rest)

/-- Takes the topic that help is wanted for: a single command. -/
def takeTopic (r : Reading) (argument : String) : Except Stop Reading :=
  match r.topic, Scope.ofCommand? argument with
  | none, some scope => .ok { r with topic := some scope }
  | _, _ => .error .usage

/-- Takes one argument.  An option that waits for values takes only plain ones. -/
def step (r : Reading) (argument : String) : Except Stop Reading :=
  if r.scope = .help then r.takeTopic argument
  else if r.operandsOnly then r.operand argument
  else
    match Shape.of argument, r.awaitsValue with
    | .plain, true =>
      .ok { r with pending := r.pending.map fun (flag, values) => (flag, values ++ [argument]) }
    | .plain, false => r.operand argument
    | .separator, true => .error .usage
    | .separator, false => .ok { r with operandsOnly := true }
    | .long name value, _ => r.option (Flag.ofName? r.scope name) value
    | .short c rest, _ => r.letter c rest

/-- The command that was read. -/
def command (r : Reading) : Except Stop Command :=
  match r.scope, r.inner.operands with
  | .show, file :: files => .ok (.show (file :: files) r.inner.filter r.inner.columns)
  | .join, [left, leftColumn, right, rightColumn] =>
    .ok (.join left leftColumn right rightColumn (r.inner.strategy.getD .hash)
      (r.inner.comparison.getD .eq))
  | .help, _ => .error (.help (r.topic.getD .program))
  | _, _ => .error .usage

/-- The invocation when all arguments are read.  What is set after the command counts more
than what is set before it. -/
def finish (r : Reading) : Except Stop Invocation := do
  let r ← r.settle
  let command ← r.command
  let outer ← r.outer
  .ok { delimiter := (r.inner.delimiter.or outer.delimiter).getD ','.toUInt8
        threads := r.inner.threads.or outer.threads
        command }

end Reading

/-- The invocation that the arguments describe. -/
def Invocation.parse (arguments : List String) : Except Stop Invocation := do
  (← arguments.foldlM Reading.step Reading.start).finish

end CommandLine

end Columnar
