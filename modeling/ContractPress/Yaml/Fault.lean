/-!
What can be wrong with a YAML text.
-/

namespace ContractPress.Yaml

inductive Fault where
  /-- The text holds a character that no YAML text may hold. -/
  | forbiddenCharacter
  /-- No token starts with the character found. -/
  | strayCharacter
  /-- A line that had to be a key has no colon. -/
  | missingColon
  /-- An entry, key or value begins where none is allowed. -/
  | misplacedIndicator
  | badAnchor
  | badTag
  | badDirective
  | badEscape
  | unclosedQuote
  /-- A tab stands where indentation is counted. -/
  | tabIndentation
  | badBlockHeader
  /-- The tokens do not form a document. -/
  | badStructure
  | unknownAnchor
  | emptyTag
  /-- A scalar does not have the form its tag asks for. -/
  | tagMismatch
  /-- A whole number has more than 64 bits. -/
  | oversizedInteger
  | duplicateKey
  | tooDeep
  | tooManyAliases
  | severalDocuments
deriving Repr, DecidableEq

end ContractPress.Yaml
