import ContractPress.Decimal.Numeral

/-!
The dates and times of TOML, and their usual spelling.

Seconds may be left out. Of a second's fraction nine places count.
-/

namespace ContractPress.Toml.Moment

/-- The number that exactly so many decimal digits write at the head of a text. -/
def digits? (count : Nat) (text : List Char) : Option (Nat × List Char) := do
  let digits := text.take count
  if digits.length < count || !digits.all Char.isDigit then none
  return (← Decimal.natural? 10 digits, text.drop count)

def after? (c : Char) : List Char → Option (List Char)
  | x :: rest => if x = c then some rest else none
  | [] => none

/-- Writes a number with at least so many digits. -/
def padded (width n : Nat) : List Char :=
  let digits := Nat.toDigits 10 n
  List.replicate (width - digits.length) '0' ++ digits

def isLeapYear (year : Nat) : Bool :=
  year % 4 = 0 && (year % 100 ≠ 0 || year % 400 = 0)

def daysIn (year month : Nat) : Nat :=
  if month = 2 then if isLeapYear year then 29 else 28
  else if month = 4 || month = 6 || month = 9 || month = 11 then 30
  else 31

/-- The spelling of the date at the head of a text, and what follows it. -/
def date? (text : List Char) : Option (List Char × List Char) := do
  let (year, text) ← digits? 4 text
  let text ← after? '-' text
  let (month, text) ← digits? 2 text
  let text ← after? '-' text
  let (day, text) ← digits? 2 text
  if month < 1 || 12 < month || day < 1 || daysIn year month < day then none
  return (padded 4 year ++ ['-'] ++ padded 2 month ++ ['-'] ++ padded 2 day, text)

/-- The spelling of a fraction: nine places at most, without zeros at its end but for a first place.
-/
def fraction (digits : List Char) : List Char :=
  match (digits.take 9).reverse.dropWhile (· = '0') with
  | [] => ['.', '0']
  | significant => '.' :: significant.reverse

def seconds? (text : List Char) : Option (List Char × List Char) :=
  match text with
  | ':' :: text => do
    let (second, text) ← digits? 2 text
    if 60 < second then none
    let written := ':' :: padded 2 second
    match text with
    | '.' :: rest =>
      let digits := rest.takeWhile Char.isDigit
      if digits = [] then none
      return (written ++ fraction digits, rest.dropWhile Char.isDigit)
    | _ => return (written, text)
  | _ => some ([], text)

/-- The spelling of the time at the head of a text, and what follows it. -/
def time? (text : List Char) : Option (List Char × List Char) := do
  let (hour, text) ← digits? 2 text
  let text ← after? ':' text
  let (minute, text) ← digits? 2 text
  if 23 < hour || 59 < minute then none
  let (seconds, text) ← seconds? text
  return (padded 2 hour ++ [':'] ++ padded 2 minute ++ seconds, text)

/-- The spelling of the distance from universal time; none is the sign of a local time. -/
def offset? (text : List Char) : Option (List Char × List Char) :=
  match text with
  | 'Z' :: rest | 'z' :: rest => some (['Z'], rest)
  | '+' :: rest | '-' :: rest => do
    let (hours, rest) ← digits? 2 rest
    let rest ← after? ':' rest
    let (minutes, rest) ← digits? 2 rest
    if 23 < hours || 59 < minutes then none
    let sign := if text.head? = some '-' && 0 < hours + minutes then '-' else '+'
    return (sign :: padded 2 hours ++ [':'] ++ padded 2 minutes, rest)
  | _ => some ([], text)

/-- The time that follows a date: after a letter T, or after a space. -/
def timeText? : List Char → Option (List Char)
  | 'T' :: rest | 't' :: rest => some rest
  | ' ' :: a :: rest => if a.isDigit then some (a :: rest) else none
  | _ => none

/-- Reads a date, a time, or a date with a time. -/
def read? (text : List Char) : Option (String × List Char) :=
  match date? text with
  | some (date, rest) =>
    match timeText? rest with
    | some rest => do
      let (time, rest) ← time? rest
      let (offset, rest) ← offset? rest
      return (String.ofList (date ++ ['T'] ++ time ++ offset), rest)
    | none => some (String.ofList date, rest)
  | none => (time? text).map fun (time, rest) => (String.ofList time, rest)

end ContractPress.Toml.Moment
