import OsDetection.Numeral.Digits
import OsDetection.Report

/-!
# Command line arguments

The program has two commands, `match` and `check`. Options may be given in any order after the
command, long ones with the value attached by an equals sign or in the next argument, short ones
also in one cluster; only the options that every command knows may stand before it. Arguments are
read as a fold from the left, and a request for the version counts where it is met.
-/

namespace OsDetection.CommandLine

/-- An option of a command. -/
inductive Flag where
  | verbose | database | input | top | format
  deriving DecidableEq, Repr

/-- The commands. -/
inductive Command where
  | rank | check
  deriving DecidableEq, Repr

/-- What the options of a command ask for. -/
structure Settings where
  database : Option String
  input : Option String
  top : Option Nat
  format : Option Format
  /-- How often a more verbose log was asked for. -/
  verbosity : Nat
  deriving DecidableEq, Repr

/-- No option was given. -/
def Settings.none : Settings := ⟨.none, .none, .none, .none, 0⟩

/-- What a command line asks for. -/
inductive Request where
  | version
  | run (command : Command) (settings : Settings)
  deriving DecidableEq, Repr

namespace Command

def ofName? : String → Option Command
  | "match" => some rank
  | "check" => some check
  | _ => none

/-- Whether a command knows an option. -/
def knows (command : Command) (flag : Flag) : Bool :=
  match command, flag with
  | rank, _ => true
  | check, .verbose => true
  | check, .database => true
  | check, _ => false

end Command

namespace Flag

def ofLetter? : Char → Option Flag
  | 'v' => some verbose
  | 'd' => some database
  | 'i' => some input
  | 'n' => some top
  | 'o' => some format
  | _ => none

def ofWord? : String → Option Flag
  | "verbose" => some verbose
  | "db" => some database
  | "input" => some input
  | "top" => some top
  | "output-format" => some format
  | _ => none

end Flag

namespace Settings

/-- A path, which may not be empty. -/
def path? (text : String) : Option String :=
  if text = "" then Option.none else some text

/-- Sets what is not set yet. -/
def once {α : Type} (old new : Option α) : Option α :=
  match old with
  | some _ => Option.none
  | Option.none => new

/-- Gives an option its value; an option that has one, or takes none, refuses it. -/
def give (s : Settings) (flag : Flag) (value : String) : Option Settings :=
  match flag with
  | .verbose => Option.none
  | .database => (once s.database (path? value)).map fun path => { s with database := some path }
  | .input => (once s.input (path? value)).map fun path => { s with input := some path }
  | .top =>
    (once s.top (Numeral.decimal? (Numeral.limit 64) value.toList)).map fun n =>
      { s with top := some n }
  | .format => (once s.format (Format.ofName? value)).map fun f => { s with format := some f }

end Settings

/-- What is known between two arguments of a command. -/
structure Progress where
  settings : Settings
  /-- An option that was given without a value yet. -/
  awaiting : Option Flag
  /-- Nothing may follow any more. -/
  closed : Bool
  deriving DecidableEq, Repr

namespace Progress

def start : Progress := ⟨.none, none, false⟩

/-- Reads an option without an attached value. -/
def mention (p : Progress) (flag : Flag) : Progress :=
  match flag with
  | .verbose => { p with settings := { p.settings with verbosity := p.settings.verbosity + 1 } }
  | flag => { p with awaiting := some flag }

/-- Reads the letters of a cluster. The first option that takes a value takes the rest, or the next
argument if there is no rest; an equals sign before the value is left out. -/
def cluster (command : Command) (p : Progress) : List Char → Option Progress
  | [] => some p
  | c :: rest => do
    let flag ← (Flag.ofLetter? c).filter (command.knows ·)
    if flag = .verbose then cluster command (p.mention flag) rest
    else if rest = [] then return p.mention flag
    else
      let value := if rest.head? = some '=' then rest.drop 1 else rest
      let settings ← p.settings.give flag (String.ofList value)
      return { p with settings }

/-- Reads a long option, without its dashes. -/
def long (command : Command) (p : Progress) (cs : List Char) : Option Progress := do
  let (word, value) :=
    match Text.cut? '=' cs with
    | some (word, value) => (word, some value)
    | none => (cs, none)
  let flag ← (Flag.ofWord? (String.ofList word)).filter (command.knows ·)
  match value with
  | none => return p.mention flag
  | some value =>
    let settings ← p.settings.give flag (String.ofList value)
    return { p with settings }

/-- Whether an argument can be the value of the option before it. -/
def isValue (cs : List Char) : Bool :=
  cs = ['-'] || cs.head? ≠ some '-'

/-- Reads an argument. -/
def step (command : Command) (p : Progress) (arg : String) : Option Progress :=
  let cs := arg.toList
  if p.closed then none
  else
    match p.awaiting with
    | some flag =>
      if isValue cs then
        (p.settings.give flag arg).map fun settings => { p with settings, awaiting := none }
      else none
    | none =>
      if isValue cs then none
      else if cs = ['-', '-'] then some { p with closed := true }
      else if cs.take 2 = ['-', '-'] then long command p (cs.drop 2)
      else cluster command p (cs.drop 1)

/-- The settings, after the last argument. -/
def finish (p : Progress) : Option Settings :=
  match p.awaiting with
  | some _ => none
  | none => some p.settings

end Progress

/-- The settings that the arguments of a command ask for. -/
def settings? (command : Command) (args : List String) : Option Settings := do
  let p ← args.foldlM (Progress.step command) .start
  p.finish

/-- What a cluster before the command amounts to: a version request, or as many requests for a more
verbose log. -/
def leadingCluster : List Char → Option (Option Nat)
  | [] => some (some 0)
  | 'v' :: rest => (leadingCluster rest).map fun found => found.map (· + 1)
  | 'V' :: _ => some none
  | _ => none

/-- What an argument before the command amounts to. -/
def leading? (arg : String) : Option (Option Nat) :=
  match arg.toList with
  | '-' :: c :: cs =>
    if arg = "--version" then some none
    else if arg = "--verbose" then some (some 1)
    else leadingCluster (c :: cs)
  | _ => none

/-- What a command line asks for, `verbosity` having been asked for before. After the command its
own count of requests for a more verbose log counts, unless it has none. -/
def requestFrom? (verbosity : Nat) : List String → Option Request
  | [] => none
  | arg :: args =>
    match Command.ofName? arg with
    | some command =>
      (settings? command args).map fun settings =>
        if settings.verbosity = 0 then .run command { settings with verbosity }
        else .run command settings
    | none =>
      match leading? arg with
      | none => none
      | some none => some .version
      | some (some more) => requestFrom? (verbosity + more) args

/-- What a command line asks for, if it is well formed. -/
def request? (args : List String) : Option Request := requestFrom? 0 args

end OsDetection.CommandLine
