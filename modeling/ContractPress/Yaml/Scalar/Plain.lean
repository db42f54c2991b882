import ContractPress.Yaml.Scalar.Gap

/-!
Plain scalars: words without quotes, over several lines if they stay indented.
-/

namespace ContractPress.Yaml.Plain

/-- Indicators that part the items of a flow collection. -/
def isFlowBoundary (c : Char) : Bool :=
  c = ',' || c = '[' || c = ']' || c = '\x7b' || c = '\x7d'

/-- Whether the word ends here. -/
def wordEnds (inFlow : Bool) : List Char → Bool
  | [] => true
  | ':' :: rest => endsWord rest
  | c :: _ => isBlank c || isBreak c || (inFlow && isFlowBoundary c)

/-- A colon that touches an indicator of the flow collection it stands in. -/
def clashes (inFlow : Bool) : List Char → Bool
  | ':' :: c :: _ => inFlow && (isFlowBoundary c || c = '?')
  | _ => false

/-- One word, its characters gathered last first. -/
def word (inFlow : Bool) : Nat → List Char → Cursor → Except Fault (List Char × Cursor)
  | 0, acc, c => .ok (acc, c)
  | fuel + 1, acc, c =>
    if endsWord c.rest then .ok (acc, c)
    else if clashes inFlow c.rest then .error .strayCharacter
    else if wordEnds inFlow c.rest then .ok (acc, c)
    else match c.peek with
      | none => .ok (acc, c)
      | some x => word inFlow fuel (x :: acc) (c.skip 1)

/-- The text of a plain scalar, last character first, where it ends, and whether a line was left
behind on the way there. -/
def readFrom (inFlow : Bool) (indent : Nat) :
    Nat → Gap → List Char → Cursor → Except Fault (List Char × Cursor × Bool)
  | 0, g, acc, c => .ok (acc, c, g.broken)
  | fuel + 1, g, acc, c =>
    if c.atMarker || c.peek = some '#' then .ok (acc, c, g.broken)
    else do
      let (w, c') ← word inFlow (c.rest.length + 1) [] c
      let moved := !w.isEmpty
      let acc := if moved then w ++ g.text.reverse ++ acc else acc
      let g := if moved then Gap.empty else g
      match c'.peek with
      | some b =>
        if isBlank b || isBreak b then
          let (g', c'') ← Gap.read indent (c'.rest.length + 1) g c'
          if !inFlow && c''.column < indent then .ok (acc, c'', g'.broken)
          else readFrom inFlow indent fuel g' acc c''
        else .ok (acc, c', g.broken)
      | none => .ok (acc, c', g.broken)

/-- Reads a plain scalar whose later lines are indented by `indent` at least. -/
def read (inFlow : Bool) (indent : Nat) (c : Cursor) : Except Fault (String × Cursor × Bool) := do
  let (acc, c, broken) ← readFrom inFlow indent (c.rest.length + 1) Gap.empty [] c
  return (String.ofList acc.reverse, c, broken)

end ContractPress.Yaml.Plain
