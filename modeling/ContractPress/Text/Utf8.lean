/-!
Reading octets as UTF-8.
-/

namespace ContractPress.Text

/-- The range of the second octet after a leading one, and how many octets follow in all. -/
def utf8Lead? (lead : Nat) : Option (Nat × Nat × Nat) :=
  if lead < 0xC2 then none
  else if lead < 0xE0 then some (0x80, 0xBF, 1)
  else if lead = 0xE0 then some (0xA0, 0xBF, 2)
  else if lead = 0xED then some (0x80, 0x9F, 2)
  else if lead < 0xF0 then some (0x80, 0xBF, 2)
  else if lead = 0xF0 then some (0x90, 0xBF, 3)
  else if lead < 0xF4 then some (0x80, 0xBF, 3)
  else if lead = 0xF4 then some (0x80, 0x8F, 3)
  else none

/-- Reads `count` continuation octets, the first of them in the given range: the code point if all
are there, and how many were read. -/
def utf8Continue : Nat → Nat → Nat → Nat → Nat → List UInt8 → Option Nat × Nat
  | 0, _, _, code, read, _ => (some code, read)
  | _ + 1, _, _, _, read, [] => (none, read)
  | count + 1, low, high, code, read, o :: rest =>
    let n := o.toNat
    if low ≤ n && n ≤ high then
      utf8Continue count 0x80 0xBF (code * 64 + (n - 0x80)) (read + 1) rest
    else (none, read)

/-- The character at the head of the octets, if one is well formed there, and the number of octets
that it or its well-formed beginning takes. -/
def utf8Step (o : UInt8) (rest : List UInt8) : Option Char × Nat :=
  let lead := o.toNat
  if lead < 0x80 then (some (Char.ofNat lead), 1)
  else match utf8Lead? lead with
    | none => (none, 1)
    | some (low, high, count) =>
      let bits := if count = 1 then lead - 0xC0 else if count = 2 then lead - 0xE0 else lead - 0xF0
      let (code, read) := utf8Continue count low high bits 0 rest
      (code.map Char.ofNat, 1 + read)

private def utf8From : Nat → List UInt8 → List (Option Char)
  | 0, _ => []
  | _ + 1, [] => []
  | fuel + 1, o :: rest =>
    let (c, n) := utf8Step o rest
    c :: utf8From fuel (rest.drop (n - 1))

/-- The characters that the octets spell, `none` for each stretch that spells none. -/
def utf8Chars (octets : List UInt8) : List (Option Char) :=
  utf8From octets.length octets

/-- The text that the octets spell. -/
def ofUtf8? (octets : List UInt8) : Option String :=
  (utf8Chars octets).mapM id |>.map String.ofList

/-- The text that the octets spell, a replacement character for each stretch that spells nothing. -/
def ofUtf8Lossy (octets : List UInt8) : String :=
  String.ofList ((utf8Chars octets).map (·.getD '\uFFFD'))

/-- The octets of a text. -/
def toUtf8 (s : String) : List UInt8 :=
  s.toUTF8.toList

end ContractPress.Text
