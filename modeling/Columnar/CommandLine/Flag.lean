import Columnar.Comparison
import Columnar.Join.Strategy

/-!
# Commands and options

The commands of the program and the options that may stand after each of them.

## Main definitions

* `Scope` — the parts of the arguments, with the options of each (`Scope.flags`).
* `Flag` — the options, with their names and the values that follow them.
* `Flag.ofName?`, `Flag.ofLetter?` — the option that a name or a letter means in a scope.
-/

namespace Columnar

namespace CommandLine

/-- An option. -/
inductive Flag where
  /-- The delimiter of the files. -/
  | delimiter
  /-- The number of workers. -/
  | threads
  /-- The filter of `show`. -/
  | filter
  /-- The columns of `show`. -/
  | columns
  /-- The strategy of `join`. -/
  | strategy
  /-- The comparison of `join`. -/
  | comparison
  /-- A call for help. -/
  | help
  /-- A question for the version. -/
  | version
  deriving DecidableEq, Repr

/-- The part of the arguments that an option belongs to. -/
inductive Scope where
  /-- Before the command. -/
  | program
  /-- After `show`. -/
  | show
  /-- After `join`. -/
  | join
  /-- After `help`, where no options are. -/
  | help
  deriving DecidableEq, Repr

namespace Scope

/-- The options of a scope, in the order in which help lists them. -/
def flags : Scope → List Flag
  | .program => [.delimiter, .threads, .help, .version]
  | .show => [.delimiter, .filter, .columns, .threads, .help]
  | .join => [.strategy, .delimiter, .comparison, .threads, .help]
  | .help => []

/-- The command that opens a scope. -/
def command? : Scope → Option String
  | .program => none
  | .show => some "show"
  | .join => some "join"
  | .help => some "help"

/-- The scopes that a command opens, in the order in which help lists them. -/
def commands : List Scope := [.show, .join, .help]

/-- The scope that a command opens. -/
def ofCommand? (name : String) : Option Scope :=
  commands.find? fun scope => scope.command? == some name

end Scope

namespace Flag

/-- The name of an option after two dashes. -/
def name : Flag → String
  | .delimiter => "delimiter"
  | .threads => "threads"
  | .filter => "where"
  | .columns => "columns"
  | .strategy => "algorithm"
  | .comparison => "op"
  | .help => "help"
  | .version => "version"

/-- The letter of an option after one dash. -/
def letter? : Flag → Option Char
  | .delimiter => some 'd'
  | .strategy => some 'a'
  | .help => some 'h'
  | .version => some 'V'
  | _ => none

/-- The names by which help calls the values that follow an option. -/
def values : Flag → List String
  | .delimiter => ["DELIMITER"]
  | .threads => ["THREADS"]
  | .filter => ["COLUMN", "OP", "VALUE"]
  | .columns => ["COLUMNS"]
  | .strategy => ["ALGORITHM"]
  | .comparison => ["OP"]
  | .help | .version => []

/-- The number of values that follow an option. -/
def arity (flag : Flag) : Nat := flag.values.length

/-- The option of a given name in a scope. -/
def ofName? (scope : Scope) (name : String) : Option Flag :=
  scope.flags.find? fun flag => flag.name == name

/-- The option of a given letter in a scope. -/
def ofLetter? (scope : Scope) (letter : Char) : Option Flag :=
  scope.flags.find? fun flag => flag.letter? == some letter

end Flag

end CommandLine

end Columnar
