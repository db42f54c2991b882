import ContractPress.CommandLine.Argument
import ContractPress.Contract.Model

/-!
Invocations: what a command line asks for.
-/

namespace ContractPress

inductive Command where
  /-- Generates files from contracts. -/
  | generate (specs : List String) (config output : String) (force dryRun : Bool)
  /-- Shows the definitions and groups of a contract. -/
  | inspect (spec groupBy : String) (operations : Option (List String))
deriving Repr, DecidableEq

structure Invocation where
  verbose : Bool
  command : Command
deriving Repr, DecidableEq

namespace Invocation

def verboseOption : CommandOption :=
  ⟨"verbose", some 'v', .switch, false, false⟩

def helpOption : CommandOption :=
  ⟨"help", some 'h', .help, false, false⟩

/-- The options that every command has. -/
def commonOptions : List CommandOption :=
  [verboseOption, helpOption]

def generateOptions : List CommandOption :=
  [⟨"spec", some 's', .many, true, true⟩,
    ⟨"config", some 'c', .single, true, true⟩,
    ⟨"output", some 'o', .single, true, false⟩,
    ⟨"force", some 'f', .switch, false, false⟩,
    ⟨"dry-run", none, .switch, false, false⟩] ++ commonOptions

def inspectOptions : List CommandOption :=
  [⟨"spec", some 's', .single, true, true⟩,
    ⟨"group-by", none, .single, false, false⟩,
    ⟨"operations", none, .list, false, false⟩] ++ commonOptions

/-- The field by which operations are grouped if none is named. -/
def defaultGroupBy : String :=
  "x-swagger-router-controller"

/-- Reads the words of a command without further commands in it. -/
def readCommand (options : List CommandOption) (words : List String) :
    Except ArgumentFault GivenOptions := do
  let (a, _) ← GivenOptions.read options [] false .empty words
  if a.isComplete options then return a else throw .missingArgument

def readGenerate (words : List String) : Except ArgumentFault Invocation := do
  let a ← readCommand generateOptions words
  return ⟨a.isGiven "verbose", .generate (a.values "spec") (a.value "config" "")
    (a.value "output" ".") (a.isGiven "force") (a.isGiven "dry-run")⟩

def readInspect (words : List String) : Except ArgumentFault Invocation := do
  let a ← readCommand inspectOptions words
  return ⟨a.isGiven "verbose", .inspect (a.value "spec" "") (a.value "group-by" defaultGroupBy)
    (if a.isGiven "operations" then some (a.values "operations") else none)⟩

def commandNames : List String :=
  ["generate", "inspect", "help"]

/-- What a request for help with some commands comes to. -/
def helpWith (words : List String) : ArgumentFault :=
  match words with
  | [] => .help
  | [command] => if commandNames.contains command then .help else .unknownCommand
  | _ => .unknownCommand

/-- Reads the words of a command line. -/
def parse (words : List String) : Except ArgumentFault Invocation := do
  let (a, command) ← GivenOptions.read commonOptions commandNames false .empty words
  match command with
  | none => throw (if a.given.isEmpty then .nothingGiven else .missingCommand)
  | some (name, words) =>
    if name = "help" then throw (helpWith words)
    let i ← if name = "generate" then readGenerate words else readInspect words
    return { i with verbose := i.verbose || a.isGiven "verbose" }

end Invocation

end ContractPress
