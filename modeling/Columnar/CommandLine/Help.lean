import Columnar.CommandLine.Arguments

/-!
# Help

What the program prints when it is asked for help or for its version.  A page of help says
what a command does and how it is called, and lists its commands, operands and options in
two columns, the second of which starts where the widest entry of its list leaves room.

## Main definitions

* `Help.Entry`, `Help.list` — a line of a list, and a list under its title.
* `Scope.page` — the page of help for a part of the arguments.
* `Stop.output` — what is printed when there is nothing to run.
-/

namespace Columnar

namespace CommandLine

namespace Help

/-! ### Lists -/

/-- A line of a list: what is described, and its description. -/
structure Entry where
  /-- What is described. -/
  label : String
  /-- The description. -/
  text : String
  deriving DecidableEq, Repr

/-- A label, filled up with blanks to a width. -/
def padded (width : Nat) (label : String) : String :=
  label ++ String.ofList (List.replicate (width - label.length) ' ')

/-- The lines of a list. -/
def lines (entries : List Entry) : List String :=
  let width := (entries.map fun entry => entry.label.length).foldr max 0
  entries.map fun entry => "  " ++ padded width entry.label ++ "  " ++ entry.text ++ "\n"

/-- A list under its title; nothing if the list is empty. -/
def list (title : String) (entries : List Entry) : String :=
  if entries = [] then "" else "\n" ++ title ++ ":\n" ++ String.join (lines entries)

end Help

/-! ### Options -/

namespace Flag

/-- What an option is for. -/
def description : Flag → String
  | .delimiter => "Field delimiter of the input files"
  | .threads => "Worker threads for the parallel hash join (defaults to one per core)"
  | .filter => "Keep only rows where COLUMN OP VALUE holds"
  | .columns => "Columns to print, comma separated"
  | .strategy => "nested-loop, index-nested-loop, hash or parallel-hash"
  | .comparison => "==, !=, <, >, <= or >=, evaluated as `right OP left`"
  | .help => "Print help"
  | .version => "Print version"

/-- The value that an option has where it is not given. -/
def default? : Flag → Option String
  | .delimiter => some ","
  | .strategy => some JoinStrategy.hash.name
  | .comparison => some Comparison.eq.symbol
  | _ => none

/-- The ways to write an option, with the names of its values. -/
def label (flag : Flag) : String :=
  let letter :=
    match flag.letter? with
    | some letter => String.ofList ['-', letter, ',', ' ']
    | none => "    "
  letter ++ "--" ++ flag.name ++ String.join (flag.values.map fun value => " <" ++ value ++ ">")

/-- The line of an option in a list. -/
def entry (flag : Flag) : Help.Entry :=
  let default :=
    match flag.default? with
    | some text => " [default: " ++ text ++ "]"
    | none => ""
  ⟨flag.label, flag.description ++ default⟩

end Flag

/-! ### Pages -/

namespace Scope

/-- What the program or a command does. -/
def description : Scope → String
  | .program =>
    "Load CSV files into an in-memory column store, then print, filter or join them"
  | .show => "Print one or more relations"
  | .join => "Join two relations and print the result"
  | .help => "Print this message or the help of the given subcommand(s)"

/-- The operands of a command. -/
def operands : Scope → List Help.Entry
  | .program => []
  | .show => [⟨"<FILES>...", ""⟩]
  | .join => [⟨"<LEFT>", ""⟩, ⟨"<LEFT_COL>", ""⟩, ⟨"<RIGHT>", ""⟩, ⟨"<RIGHT_COL>", ""⟩]
  | .help => [⟨"[COMMAND]...", "Print help for the subcommand(s)"⟩]

/-- The commands that may be given in a scope. -/
def commandEntries : Scope → List Help.Entry
  | .program => commands.map fun scope => ⟨scope.command?.getD "", scope.description⟩
  | _ => []

/-- How the program is called with a command. -/
def usage (program : String) (scope : Scope) : String :=
  let options := if scope.flags = [] then [] else ["[OPTIONS]"]
  let operands :=
    if scope.commandEntries = [] then scope.operands.map Help.Entry.label else ["<COMMAND>"]
  " ".intercalate (program :: scope.command?.toList ++ options ++ operands)

/-- The page of help for a part of the arguments, the program being called by the given
name. -/
def page (program : String) (scope : Scope) : String :=
  scope.description ++ "\n\nUsage: " ++ scope.usage program ++ "\n" ++
    Help.list "Commands" scope.commandEntries ++
    Help.list "Arguments" scope.operands ++
    Help.list "Options" (scope.flags.map Flag.entry)

end Scope

/-- The name and version that the program prints. -/
def versionText : String := "colstore 0.1.0\n"

/-- What is printed when there is nothing to run, the program being called by the given
name.  What is wrong with arguments that are not understood is not part of it. -/
def Stop.output (program : String) : Stop → String
  | .usage => ""
  | .help scope => scope.page program
  | .version => versionText

/-- The exit status when there is nothing to run. -/
def Stop.exitStatus : Stop → Nat
  | .usage => 2
  | .help _ | .version => 0

end CommandLine

end Columnar
