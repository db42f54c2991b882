import ContractPress.Entries
import ContractPress.Text.Split

/-!
The words of a command line, by the options that a command declares.

An option has a long name and perhaps a short letter. Its value is the rest of its word, or else the
next word; letters that need no value may share a word. What has been read of an option counts only
when the next option begins, so that a later fault can come first.
-/

namespace ContractPress

/-- What is wrong with a command line, or a request for help in place of a command. -/
inductive ArgumentFault where
  | help
  /-- Nothing has been asked for. -/
  | nothingGiven
  | missingCommand
  | unknownCommand
  | unknownArgument
  | missingArgument
  | missingValue
  | superfluousValue
  | repeatedArgument
deriving Repr, DecidableEq

/-- What an option takes. -/
inductive OptionKind where
  /-- Nothing, and once at most. -/
  | switch
  /-- Nothing; it asks for help. -/
  | help
  /-- One value, once at most. -/
  | single
  /-- One value, which is a list with commas; further lists are added to it. -/
  | list
  /-- All words that follow, up to the next option; further ones are added. -/
  | many
deriving Repr, DecidableEq

structure CommandOption where
  name : String
  letter : Option Char
  kind : OptionKind
  /-- Whether its values are paths, which are not empty. -/
  isPath : Bool
  required : Bool

namespace CommandOption

def takesValue (o : CommandOption) : Bool :=
  o.kind ≠ .switch && o.kind ≠ .help

def isRepeatable (o : CommandOption) : Bool :=
  o.kind = .list || o.kind = .many

end CommandOption

/-- What has been read of a command. -/
structure GivenOptions where
  /-- The values of the options that have been given. -/
  given : Entries String (List String)
  /-- The option read last, with its values so far, until it counts. -/
  pending : Option (CommandOption × List String)
  /-- Whether the next word may be a value. -/
  awaitsValue : Bool

namespace GivenOptions

def empty : GivenOptions :=
  ⟨[], none, false⟩

/-- Lets an option with its values count. -/
def record (a : GivenOptions) (o : CommandOption) (values : List String) :
    Except ArgumentFault GivenOptions :=
  if o.kind = .help then .error .help
  else if o.takesValue && values.isEmpty then .error .missingValue
  else if !o.isRepeatable && a.given.contains o.name then .error .repeatedArgument
  else if o.isPath && values.contains "" then .error .missingValue
  else
    let values := if o.kind = .list then
        values.flatMap fun v => (Text.split ',' v.toList).map String.ofList
      else values
    .ok { a with given := a.given.insert o.name ((a.given.get? o.name).getD [] ++ values) }

/-- Lets the pending option count. -/
def settle (a : GivenOptions) : Except ArgumentFault GivenOptions :=
  match a.pending with
  | some (o, values) => record { a with pending := none } o values
  | none => .ok a

/-- Reads an option together with a value in the same word, if there is one. -/
def takeOption (a : GivenOptions) (o : CommandOption) (attached : Option String) :
    Except ArgumentFault GivenOptions := do
  if o.takesValue then
    let a ← a.settle
    match attached with
    | some v =>
      let a ← a.record o [v]
      return { a with awaitsValue := false }
    | none => return { a with pending := some (o, []), awaitsValue := true }
  else if attached.isSome then throw .superfluousValue
  else
    let a ← a.settle
    let a ← a.record o []
    return { a with awaitsValue := false }

/-- Reads a long name, and a value after an equals sign. -/
def takeLong (options : List CommandOption) (a : GivenOptions) (word : List Char) :
    Except ArgumentFault GivenOptions :=
  let name := String.ofList (word.takeWhile (· ≠ '='))
  let attached := match word.dropWhile (· ≠ '=') with
    | _ :: value => some (String.ofList value)
    | [] => none
  match options.find? (·.name = name) with
  | some o => a.takeOption o attached
  | none => .error .unknownArgument

/-- Reads letters; what follows the letter of an option with a value is the value, an equals sign at
its beginning apart. -/
def takeLetters (options : List CommandOption) :
    GivenOptions → List Char → Except ArgumentFault GivenOptions
  | a, [] => .ok a
  | a, c :: rest =>
    match options.find? (·.letter = some c) with
    | none => .error .unknownArgument
    | some o =>
      if o.takesValue then
        a.takeOption o (match rest with
          | [] => none
          | '=' :: value => some (String.ofList value)
          | value => some (String.ofList value))
      else do takeLetters options (← a.takeOption o none) rest

/-- Takes a word as a value of the pending option. -/
def takeValue (a : GivenOptions) (word : String) : GivenOptions :=
  match a.pending with
  | some (o, values) =>
    { a with pending := some (o, values ++ [word]), awaitsValue := o.kind = .many }
  | none => a

/-- What is wrong with a word that is neither an option nor a value. -/
def strayWord (commands : List String) (afterDashes : Bool) (word : String) : ArgumentFault :=
  if commands.isEmpty || (afterDashes && commands.contains word) then .unknownArgument
  else .unknownCommand

/-- Reads words up to the name of a command, and gives that name with the words after it. Two dashes
alone end the options. -/
def read (options : List CommandOption) (commands : List String) :
    Bool → GivenOptions → List String →
      Except ArgumentFault (GivenOptions × Option (String × List String))
  | _, a, [] => do return (← a.settle, none)
  | afterDashes, a, word :: words =>
    if afterDashes then .error (strayWord commands true word)
    else if !a.awaitsValue && commands.contains word then do
      return (← a.settle, some (word, words))
    else match word.toList with
      | ['-', '-'] => read options commands true a words
      | '-' :: '-' :: rest => do read options commands false (← takeLong options a rest) words
      | '-' :: c :: rest => do
        read options commands false (← takeLetters options a (c :: rest)) words
      | _ =>
        if a.awaitsValue then read options commands false (a.takeValue word) words
        else .error (strayWord commands false word)

/-- Whether all required options have been given. -/
def isComplete (options : List CommandOption) (a : GivenOptions) : Bool :=
  options.all fun o => !o.required || a.given.contains o.name

def isGiven (a : GivenOptions) (name : String) : Bool :=
  a.given.contains name

def values (a : GivenOptions) (name : String) : List String :=
  (a.given.get? name).getD []

/-- The value of an option that takes one. -/
def value (a : GivenOptions) (name : String) (missing : String) : String :=
  (a.values name).headD missing

end GivenOptions

end ContractPress
