import ContractPress.Text.CaseTable

/-!
Small and capital forms of whole texts and of their first letters.

One rule looks at the neighbours: a capital sigma that ends a word becomes the final small sigma.
The rule applies to whole texts only; a letter mapped on its own has no neighbours.
-/

namespace ContractPress.Text

private def inRanges (ranges : List (Nat × Nat)) (c : Char) : Bool :=
  ranges.any fun r => r.1 ≤ c.toNat && c.toNat ≤ r.2

def isCased (c : Char) : Bool :=
  inRanges casedRanges c

def isCaseIgnorable (c : Char) : Bool :=
  inRanges caseIgnorableRanges c

private def form (runs : List CaseRun) (expansions : List (Nat × List Nat)) (c : Char) :
    List Char :=
  match runs.findSome? (·.image? c.toNat) with
  | some code => [Char.ofNat code]
  | none => match expansions.lookup c.toNat with
    | some codes => codes.map Char.ofNat
    | none => [c]

/-- The small form of one letter. -/
def smallForm (c : Char) : List Char :=
  if c.toNat < 128 then [c.toLower] else form smallRuns smallExpansions c

/-- The capital form of one letter. -/
def capitalForm (c : Char) : List Char :=
  if c.toNat < 128 then [c.toUpper] else form capitalRuns capitalExpansions c

/-- Whether the first character that counts is a cased letter. -/
def startsCased (cs : List Char) : Bool :=
  match cs.dropWhile isCaseIgnorable with
  | [] => false
  | c :: _ => isCased c

/-- `before` holds the characters already passed, nearest first. -/
def lowercaseFrom (before : List Char) : List Char → List Char
  | [] => []
  | c :: rest =>
    (if c = 'Σ' then [if startsCased before && !startsCased rest then 'ς' else 'σ']
      else smallForm c) ++ lowercaseFrom (c :: before) rest

def lowercase (s : String) : String :=
  String.ofList (lowercaseFrom [] s.toList)

def uppercase (s : String) : String :=
  String.ofList (s.toList.flatMap capitalForm)

private def mapFirst (f : Char → List Char) : List Char → List Char
  | [] => []
  | c :: rest => f c ++ rest

/-- The text with its first letter made small. -/
def lowerFirst (s : String) : String :=
  String.ofList (mapFirst smallForm s.toList)

/-- The text with its first letter made capital. -/
def upperFirst (s : String) : String :=
  String.ofList (mapFirst capitalForm s.toList)

end ContractPress.Text
