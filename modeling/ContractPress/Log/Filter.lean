import ContractPress.Decimal.Numeral
import ContractPress.Log.Settings
import ContractPress.Text.Blank
import ContractPress.Text.Split

/-!
Which events are reported.

A directive sets the least level for the events whose targets begin with a text. Of the directives
that concern an event the most particular one decides, and where none does the event is not
reported.
-/

namespace ContractPress

structure LogDirective where
  target : Option String
  /-- Fields that an event must have. -/
  fields : List String
  /-- Whether the directive is about parts of the run or values of fields, of which events have
  none. -/
  isInert : Bool
  /-- The least level; none lets nothing through. -/
  threshold : Option LogLevel
deriving Repr, DecidableEq

namespace LogDirective

/-- The threshold that a word or a digit stands for. -/
def threshold? (text : List Char) : Option (Option LogLevel) :=
  let digits := match text with
    | '+' :: rest => rest
    | _ => text
  match Decimal.natural? 10 digits with
  | some 0 => some none
  | some 1 => some (some .error)
  | some 2 => some (some .warn)
  | some 3 => some (some .info)
  | some 4 => some (some .debug)
  | some 5 => some (some .trace)
  | _ =>
    match (String.ofList text).toLower with
    | "" | "error" => some (some .error)
    | "warn" => some (some .warn)
    | "info" => some (some .info)
    | "debug" => some (some .debug)
    | "trace" => some (some .trace)
    | "off" => some none
    | _ => none

/-- A threshold alone, or else a target of which everything is reported. -/
def ofWord (word : List Char) : LogDirective :=
  match threshold? word with
  | some threshold => ⟨none, [], false, threshold⟩
  | none => ⟨some (String.ofList word), [], false, some .trace⟩

/-- What may follow the target, or the brackets: an equals sign and a threshold, which may be left
out. -/
def suffixThreshold? : List Char → Option (Option LogLevel)
  | [] | ['='] => some (some .trace)
  | '=' :: word => threshold? word
  | _ => none

/-- What stands in brackets: the name of a part of the run, fields in braces, or both. -/
def bracketed? (target : Option String) (text : List Char) : Option LogDirective := do
  let inside := text.takeWhile (· ≠ ']')
  let threshold ← match text.dropWhile (· ≠ ']') with
    | _ :: suffix => suffixThreshold? suffix
    | [] => none
  let name := inside.takeWhile (· ≠ '\x7b')
  match inside.dropWhile (· ≠ '\x7b') with
  | [] => return ⟨target, [], true, threshold⟩
  | _ :: rest =>
    let field := rest.takeWhile (· ≠ '\x7d')
    if field = [] || rest.dropWhile (· ≠ '\x7d') ≠ ['\x7d'] then none
    return ⟨target, [String.ofList field], name ≠ [] || field.contains '=', threshold⟩

/-- Characters with which a directive may begin; all letters beyond ASCII count. -/
def startsDirective (c : Char) : Bool :=
  c.isAlphanum || c = '-' || c = ':' || c = '_' || 0x80 ≤ c.toNat

/-- Reads a directive: a threshold, a target, or a target with a threshold after an equals sign. -/
def parse? (text : String) : Option LogDirective :=
  let cs := (Text.trim text).toList
  match cs with
  | [] => none
  | '[' :: rest => bracketed? none rest
  | c :: _ =>
    if !startsDirective c then none
    else
      let isPlain := fun c : Char => c ≠ '=' && c ≠ '['
      let target := String.ofList (cs.takeWhile isPlain)
      match cs.dropWhile isPlain with
      | [] => some (ofWord cs)
      | '[' :: rest => bracketed? (some target) rest
      | suffix => (suffixThreshold? suffix).map fun threshold => ⟨some target, [], false, threshold⟩

/-- Whether the directive concerns an event. -/
def concerns (d : LogDirective) (e : Event) : Bool :=
  !d.isInert && (match d.target with
    | some target => e.target.startsWith target
    | none => true) &&
  d.fields.all fun field => field = "message" || (e.details.map Prod.fst).contains field

/-- Whether the second directive is at least as particular as the first: by the length of the
target, then by the number of fields, then by their names. -/
def yieldsTo (d d' : LogDirective) : Bool :=
  let rank := fun d : LogDirective => match d.target with
    | some target => target.utf8ByteSize + 1
    | none => 0
  rank d < rank d' || (rank d = rank d' &&
    (d.fields.length < d'.fields.length || (d.fields.length = d'.fields.length &&
      !decide (d'.fields < d.fields))))

end LogDirective

/-- Directives; of two that are alike but for the threshold the later one counts. -/
abbrev LogFilter := List LogDirective

namespace LogFilter

/-- The directive that decides about an event. -/
def decisive? (filter : LogFilter) (e : Event) : Option LogDirective :=
  filter.foldl (fun found d =>
    if !d.concerns e then found
    else match found with
      | some d' => if d'.yieldsTo d then some d else some d'
      | none => some d) none

def admits (filter : LogFilter) (e : Event) : Bool :=
  match filter.decisive? e with
  | some ⟨_, _, _, some level⟩ => level.rank ≤ e.level.rank
  | _ => false

/-- Reads directives with commas between them; without any, only errors are reported. -/
def parse? (text : String) : Option LogFilter := do
  let parts := (Text.split ',' text.toList).filter (· ≠ [])
  let directives ← parts.mapM fun part => LogDirective.parse? (String.ofList part)
  return if directives.isEmpty then [⟨none, [], false, some .error⟩] else directives

/-- The directives of the settings, and those among them that cannot be read. -/
def additions (settings : LogSettings) : List (String × Option LogDirective) :=
  match settings.targetFilter with
  | none => []
  | some text =>
    ((Text.split ',' text.toList).map fun part => Text.trim (String.ofList part)).filter (· ≠ "")
      |>.map fun part => (part, LogDirective.parse? part)

/-- The filter that the settings describe; `base` takes the place of their level if it can be read.
-/
def ofSettings (settings : LogSettings) (base : Option String) : LogFilter :=
  let first := (base.bind parse?).getD [⟨none, [], false, some settings.level⟩]
  first ++ (additions settings).filterMap Prod.snd

/-- A line for each directive that cannot be read. -/
def warnings (settings : LogSettings) : List String :=
  (additions settings).filterMap fun a =>
    if a.2.isNone then some ("Warning: Invalid log filter directive: " ++ a.1) else none

end LogFilter

end ContractPress
