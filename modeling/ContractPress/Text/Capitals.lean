/-!
Cutting a text before its capitals.
-/

namespace ContractPress.Text

def isCapital (c : Char) : Bool :=
  'A' ≤ c && c ≤ 'Z'

/-- Puts `joiner` before every capital. -/
def joinBeforeCapitals (joiner : List Char) : List Char → List Char
  | [] => []
  | c :: rest => (if isCapital c then joiner ++ [c] else [c]) ++ joinBeforeCapitals joiner rest

/-- Puts `joiner` before every ASCII capital but a leading one. -/
def splitOnCapitals (text joiner : String) : String :=
  match text.toList with
  | [] => ""
  | c :: rest => String.ofList (c :: joinBeforeCapitals joiner.toList rest)

end ContractPress.Text
