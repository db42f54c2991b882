import ContractPress.Yaml.Cursor

/-!
The blanks and line breaks between two words of a scalar, and the text they stand for.
-/

namespace ContractPress.Yaml

structure Gap where
  /-- The blanks, as long as no break is met. -/
  blanks : List Char
  firstBreak : List Char
  moreBreaks : List Char
  /-- Whether a break was met. -/
  broken : Bool

namespace Gap

def empty : Gap :=
  ⟨[], [], [], false⟩

/-- A gap that begins with a break that leaves no text. -/
def afterEscapedBreak : Gap :=
  ⟨[], [], [], true⟩

def isEmpty (g : Gap) : Bool :=
  g.blanks.isEmpty && !g.broken

/-- One break becomes a space, further breaks stand for themselves. -/
def text (g : Gap) : List Char :=
  if !g.broken then g.blanks
  else if g.firstBreak.head? = some '\n' then
    if g.moreBreaks.isEmpty then [' '] else g.moreBreaks
  else g.firstBreak ++ g.moreBreaks

/-- Reads on to the next character that is neither blank nor break. A tab before column `indent` of
a later line is refused. -/
def read (indent : Nat) : Nat → Gap → Cursor → Except Fault (Gap × Cursor)
  | 0, g, c => .ok (g, c)
  | fuel + 1, g, c =>
    match c.peek with
    | none => .ok (g, c)
    | some b =>
      if isBlank b then
        if g.broken then
          if b = '\t' && c.column < indent then .error .tabIndentation
          else read indent fuel g (c.skip 1)
        else read indent fuel { g with blanks := g.blanks ++ [b] } (c.skip 1)
      else if isBreak b then
        let (text, c) := c.takeBreak
        if g.broken then read indent fuel { g with moreBreaks := g.moreBreaks ++ text } c
        else read indent fuel ⟨[], text, [], true⟩ c
      else .ok (g, c)

end Gap

end ContractPress.Yaml
