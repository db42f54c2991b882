import ContractPress.Template.Parser
import ContractPress.Proofs.Results

/-!
The faults of texts that are no templates.

Lexer and parser describe a fault by its kind only (`detail_of_parse_error`). What a parser does to
tokens is followed through its parts: each fails with such a fault or leaves tokens of which the
same holds (`Parser.Plain`).
-/

namespace ContractPress.Template

/-- Its kind describes the fault. -/
def Fault.IsPlain (fault : Fault) : Prop :=
  fault.detail = none

/-- Where the text cannot be read on, the fault is plain. -/
def Token.IsPlain (token : Token) : Prop :=
  ∀ fault, token = .broken fault → fault.IsPlain

theorem Fault.isPlain_of (kind : FaultKind) : (Fault.of kind).IsPlain :=
  rfl

namespace Lexer

/-- A plain fault or a token at which the text can be read on, if the text does not end there. -/
def Plain : Except Fault (Option (Token × List Char)) → Prop
  | .error fault => fault.IsPlain
  | .ok (some (token, _)) => token.IsPlain
  | .ok none => True

theorem plain_bad : Plain bad :=
  Fault.isPlain_of _

theorem plain_wholeNumber (base : Nat) (digits rest : List Char) :
    Plain ((wholeNumber base digits rest).map some) := by
  unfold wholeNumber
  repeat' split
  all_goals first | exact plain_bad | exact nofun

theorem plain_number (cs : List Char) : Plain ((number cs).map some) := by
  unfold number basedNumber
  repeat' split
  all_goals first | exact plain_wholeNumber _ _ _ | exact plain_bad | exact nofun

theorem plain_string (quote : Char) (cs : List Char) : Plain ((string quote cs).map some) := by
  unfold string
  repeat' split
  · exact plain_bad
  · exact nofun
  · exact Fault.isPlain_of _

theorem plain_tagToken? (cs : List Char) : Plain (tagToken? cs) := by
  unfold tagToken?
  repeat' split
  · exact trivial
  · intro fault h
    cases h
  · exact plain_string _ _
  · exact plain_number _
  · intro fault h
    cases h
  · exact plain_bad

theorem isPlain_textToken (cs : List Char) : ∀ t ∈ textToken cs, t.IsPlain := by
  intro t ht
  unfold textToken at ht
  split at ht
  · cases ht
  · obtain rfl := List.mem_singleton.mp ht
    exact nofun

theorem isPlain_unreadable : ∀ t ∈ unreadable, t.IsPlain := by
  intro t ht
  obtain rfl := List.mem_singleton.mp ht
  intro fault h
  cases h
  exact Fault.isPlain_of _

theorem isPlain_scan (fuel : Nat) (place : Place) (cs : List Char) :
    ∀ t ∈ scan fuel place cs, t.IsPlain := by
  fun_induction scan fuel place cs <;>
    grind [isPlain_textToken, isPlain_unreadable, plain_tagToken?, Plain, Token.IsPlain]

end Lexer

namespace Parser

/-- From tokens without a described fault, a parser fails with a plain fault or leaves such
tokens. -/
def Plain {α : Type} (p : Parse α) : Prop :=
  ∀ ts, (∀ t ∈ ts, t.IsPlain) →
    (∀ fault, p.run ts = .error fault → fault.IsPlain) ∧
      ∀ a rest, p.run ts = .ok (a, rest) → ∀ t ∈ rest, t.IsPlain

theorem run_peek (ts : List Token) : peek.run ts =
    match ts.head? with
    | some (.broken fault) => .error fault
    | next => .ok (next, ts) := by
  unfold peek
  simp only [StateT.run_bind, StateT.run_get, pure_bind]
  cases ts.head? with
  | none => rfl
  | some next => cases next <;> rfl

variable {α β : Type}

namespace Plain

theorem pure (a : α) : Plain (Pure.pure a) := by
  intro ts hts
  refine ⟨fun fault h => ?_, fun b rest h => ?_⟩
  · cases h
  · cases h
    exact hts

theorem fail : Plain (Parser.fail : Parse α) := by
  intro ts hts
  refine ⟨fun fault h => ?_, fun a rest h => ?_⟩
  · cases h
    rfl
  · cases h

theorem bind {p : Parse α} {f : α → Parse β} (hp : Plain p) (hf : ∀ a, Plain (f a)) :
    Plain (p >>= f) := by
  intro ts hts
  obtain ⟨herror, hok⟩ := hp ts hts
  rw [StateT.run_bind]
  cases hrun : p.run ts with
  | error fault =>
    refine ⟨fun fault' h => ?_, fun b rest h => ?_⟩
    · cases h
      exact herror fault hrun
    · cases h
  | ok result => exact hf result.1 result.2 (hok result.1 result.2 hrun)

theorem discard {p : Parse α} (hp : Plain p) : Plain (discard p) := by
  show Plain ((fun _ => ()) <$> p)
  rw [map_eq_pure_bind]
  exact hp.bind fun _ => .pure ()

theorem peek : Plain Parser.peek := by
  intro ts hts
  rw [run_peek]
  split
  · rename_i fault hhead
    refine ⟨fun fault' h => ?_, fun a rest h => ?_⟩
    · cases h
      exact hts _ (List.mem_of_head? hhead) fault rfl
    · cases h
  · refine ⟨fun fault h => ?_, fun a rest h => ?_⟩
    · cases h
    · cases h
      exact hts

theorem skip : Plain Parser.skip := by
  intro ts hts
  refine ⟨fun fault h => ?_, fun a rest h => ?_⟩
  · cases h
  · cases h
    exact fun t ht => hts t (List.mem_of_mem_tail ht)

end Plain

attribute [grind ←] Plain.pure Plain.fail Plain.bind Plain.discard Plain.peek Plain.skip

/-! ### Single tokens -/

@[grind ←]
theorem plain_skipSymbol (symbol : String) : Plain (skipSymbol symbol) := by
  unfold skipSymbol
  grind

@[grind ←]
theorem plain_skipWord (word : String) : Plain (skipWord word) := by
  unfold skipWord
  grind

@[grind ←]
theorem plain_expectSymbol (symbol : String) : Plain (expectSymbol symbol) := by
  unfold expectSymbol
  grind

@[grind ←]
theorem plain_expectWord (word : String) : Plain (expectWord word) := by
  unfold expectWord
  grind

@[grind ←]
theorem plain_anyWord : Plain anyWord := by
  unfold anyWord
  grind

@[grind ←]
theorem plain_closeTag : Plain closeTag := by
  unfold closeTag
  grind

@[grind ←]
theorem plain_nextOperator? (find : String → Option BinaryOp) : Plain (nextOperator? find) := by
  unfold nextOperator?
  grind

@[grind ←]
theorem plain_argumentFollows : Plain argumentFollows := by
  unfold argumentFollows
  grind

@[grind ←]
theorem plain_assignableName : Plain assignableName := by
  unfold assignableName
  grind

@[grind ←]
theorem plain_targetEnds : Plain targetEnds := by
  unfold targetEnds
  grind

/-! ### Expressions, targets and statements -/

/-- The parsers of expressions with this fuel are plain. -/
structure PlainExprs (fuel : Nat) : Prop where
  expr : Plain (expr fuel)
  choices : ∀ yes, Plain (choices fuel yes)
  either : Plain (either fuel)
  eitherMore : ∀ left, Plain (eitherMore fuel left)
  both : Plain (both fuel)
  bothMore : ∀ left, Plain (bothMore fuel left)
  negated : Plain (negated fuel)
  comparisons : ∀ left, Plain (comparisons fuel left)
  binary : ∀ level, Plain (binary fuel level)
  binaryMore : ∀ level left, Plain (binaryMore fuel level left)
  signed : Plain (signed fuel)
  powers : ∀ left, Plain (powers fuel left)
  filters : ∀ operand, Plain (filters fuel operand)
  suffixes : ∀ container, Plain (suffixes fuel container)
  arguments : ∀ before, Plain (arguments fuel before)
  primary : Plain (primary fuel)
  items : ∀ close before, Plain (items fuel close before)
  entries : ∀ before, Plain (entries fuel before)

attribute [grind ←] PlainExprs.expr PlainExprs.choices PlainExprs.either PlainExprs.eitherMore
  PlainExprs.both PlainExprs.bothMore PlainExprs.negated PlainExprs.comparisons PlainExprs.binary
  PlainExprs.binaryMore PlainExprs.signed PlainExprs.powers PlainExprs.filters PlainExprs.suffixes
  PlainExprs.arguments PlainExprs.primary PlainExprs.items PlainExprs.entries

@[grind .]
theorem plainExprs (fuel : Nat) : PlainExprs fuel := by
  induction fuel with
  | zero => constructor <;> intros <;> exact .fail
  | succ fuel ih =>
    constructor
    case expr => grind [expr]
    case choices => grind [choices]
    case either => grind [either]
    case eitherMore => grind [eitherMore]
    case both => grind [both]
    case bothMore => grind [bothMore]
    case negated => grind [negated]
    case comparisons => grind [comparisons]
    case binary => grind [binary]
    case binaryMore => grind [binaryMore]
    case signed => grind [signed]
    case powers => grind [powers]
    case filters =>
      intro operand
      rw [filters]
      refine (plain_skipSymbol "|").bind fun isFilter => ?_
      split
      · grind
      refine (plain_skipWord "is").bind fun isTest => ?_
      split
      · refine (plain_skipWord "not").bind fun isNegated => plain_anyWord.bind fun name => ?_
        grind
      · exact .pure operand
    case suffixes => grind [suffixes]
    case arguments =>
      intro before
      rw [arguments]
      refine (plain_skipSymbol ")").bind fun closed => ?_
      split
      · exact .pure _
      extract_lets rest
      have hrest : ∀ u, Plain (rest u) := by
        intro u
        refine ih.expr.bind fun value => ?_
        grind
      clear_value rest
      grind
    case primary =>
      rw [primary]
      grind
    case items => grind [items]
    case entries => grind [entries]

/-- The parsers of targets with this fuel are plain. -/
structure PlainTargets (fuel : Nat) : Prop where
  target : Plain (target fuel)
  targetNames : ∀ before, Plain (targetNames fuel before)

attribute [grind ←] PlainTargets.target PlainTargets.targetNames

@[grind .]
theorem plainTargets (fuel : Nat) : PlainTargets fuel := by
  induction fuel with
  | zero => constructor <;> intros <;> exact .fail
  | succ fuel ih =>
    constructor
    case target => grind [target]
    case targetNames =>
      intro before
      rw [targetNames]
      extract_lets next
      have hnext : ∀ one, Plain (next one) := by
        intro one
        refine Plain.peek.bind fun t => ?_
        grind
      clear_value next
      grind

@[grind ←]
theorem plain_parameters (fuel : Nat) (before : List (String × Option Expr)) :
    Plain (parameters fuel before) := by
  induction fuel generalizing before with
  | zero => exact .fail
  | succ fuel ih =>
    rw [parameters]
    refine (plain_skipSymbol ")").bind fun closed => ?_
    split
    · exact .pure _
    extract_lets rest
    have hrest : ∀ u, Plain (rest u) := by
      intro u
      refine plain_assignableName.bind fun name => ?_
      grind
    clear_value rest
    grind

/-- The parsers of statements with this fuel are plain. -/
structure PlainStatements (fuel : Nat) : Prop where
  body : ∀ ends, Plain (body fuel ends)
  statement : ∀ word, Plain (statement fuel word)
  conditional : Plain (conditional fuel)

attribute [grind ←] PlainStatements.body PlainStatements.statement PlainStatements.conditional

theorem plainStatements (fuel : Nat) : PlainStatements fuel := by
  induction fuel with
  | zero => constructor <;> intros <;> exact .fail
  | succ fuel ih =>
    constructor
    case body =>
      intro ends
      rw [body]
      refine Plain.peek.bind fun next => ?_
      split
      · exact .pure []
      · grind
      · refine Plain.skip.bind fun _ => (plainExprs fuel).expr.bind fun value => ?_
        grind
      · refine Plain.skip.bind fun _ => Plain.peek.bind fun word => ?_
        split
        · grind
        · exact .fail
      · exact .fail
    case statement =>
      intro word
      rw [statement.eq_def]
      dsimp -zeta only
      split
      · exact ih.conditional
      · refine (plainTargets fuel).target.bind fun t => (plain_expectWord "in").bind fun _ =>
          (plainExprs fuel).either.bind fun source => (plain_skipWord "if").bind fun hasFilter => ?_
        extract_lets rest
        have hrest : ∀ filter, Plain (rest filter) := by
          intro filter
          refine (plain_skipWord "recursive").discard.bind fun _ => plain_closeTag.bind fun _ =>
            (ih.body _).bind fun inside => ?_
          grind
        clear_value rest
        grind
      · grind
      · refine (plain_skipSymbol "(").bind fun hasParameters => ?_
        extract_lets rest
        have hrest : ∀ ps, Plain (rest ps) := by
          intro ps
          refine (plainExprs fuel).expr.bind fun value => ?_
          grind
        clear_value rest
        grind
      · grind
      · exact .fail
    case conditional =>
      rw [conditional]
      refine (plainExprs fuel).expr.bind fun test => plain_closeTag.bind fun _ =>
        (ih.body _).bind fun yes => ?_
      grind

/-- A text that is no template has a fault that its kind describes. -/
theorem detail_of_parse_error {source : String} {fault : Fault} (h : parse source = .error fault) :
    fault.detail = none := by
  have htokens : ∀ t ∈ Lexer.tokens source, t.IsPlain := Lexer.isPlain_scan _ _ _
  have hbody := (plainStatements (24 * (Lexer.tokens source).length + 24)).body [] _ htokens
  simp only [parse, bind_eq_error] at h
  rcases h with h | ⟨⟨tree, rest⟩, -, h⟩
  · exact hbody.1 fault h
  · split at h
    · cases h
    · cases h
      rfl

end Parser

end ContractPress.Template
