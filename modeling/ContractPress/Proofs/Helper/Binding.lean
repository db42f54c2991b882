import ContractPress.Helper.Set
import ContractPress.Proofs.Helper.Branching

/-!
What templates get from the built-in helpers.

A helper that is called with its number of arguments and with a block does what it does apart from
templates, the block being called for the versions of it (`Application.runWith`). In any other call
it fails, and the block is not called (`builtin_agrees`).
-/

namespace ContractPress.Helper

open Template

/-- A built-in helper with its arguments. -/
inductive Application where
  | choice (choice : Choice)
  | change (change : Change)

namespace Application

/-- What helpers make of their arguments: names, operators and joiners are the texts of values, and
the context for the alternate version is undefined unless it is the reference that is not found. -/
def ofArguments? : String → List Value → Option Application
  | "arrayContains", [array, value] => some (.choice (.arrayContains array value .undefined))
  | "compare", [l, operator, r] => some (.choice (.compare l operator.print r .undefined))
  | "property", [context, name, newName] =>
    some (.choice (.property context name.print newName.print))
  | "withContext", [value] => some (.choice (.withContext value))
  | "withDef", [reference, definitions] =>
    some (.choice (.withDefinition reference definitions reference))
  | "lowerFirst", [] => some (.change .lowerFirst)
  | "upperFirst", [] => some (.change .upperFirst)
  | "lowercase", [] => some (.change .lowercase)
  | "uppercase", [] => some (.change .uppercase)
  | "capsplit", [joiner] => some (.change (.capsplit joiner.print))
  | _, _ => none

/-- The text of what a block gives for some values. -/
def called (call : Call) (block : Value) (args : List Value) : Except Fault String :=
  (call block ⟨args, []⟩).map Value.print

/-- A branching helper calls its block with a context and with whether its choice is the primary
version; a helper that changes a text calls it with nothing. -/
def runWith (call : Call) (block : Value) : Application → Except Fault String
  | .choice c => c.run
    ⟨fun context => called call block [context, .bool true],
      fun context => called call block [context, .bool false]⟩
  | .change c => c.run ⟨fun _ => called call block [], fun _ => called call block []⟩

end Application

/-- The names of the built-in helpers, with the numbers of their arguments. -/
def signatures : List (String × Nat) :=
  [("arrayContains", 2), ("compare", 3), ("lowerFirst", 0), ("upperFirst", 0), ("lowercase", 0),
    ("uppercase", 0), ("capsplit", 1), ("property", 3), ("withContext", 1), ("withDef", 2)]

/-- The keywords of a call are the block and nothing else. -/
def OnlyBlock (args : Arguments) (block : Value) : Prop :=
  args.keywords.get? "caller" = some block ∧ ∀ k ∈ args.keywords, k.1 = "caller"

/-- A helper does in templates what the helper of a name does apart from them. If it is not called
with its number of arguments and a block, it fails in one way whatever a call would give, so that
its block is not called. -/
def Agrees (name : String) (arity : Nat) (helper : Template.Helper) : Prop :=
  ∀ args,
    (∀ block, args.positional.length = arity → OnlyBlock args block →
      ∃ application, Application.ofArguments? name args.positional = some application ∧
        ∀ call, helper call args = (application.runWith call block).map .string) ∧
    (¬(args.positional.length = arity ∧ ∃ block, OnlyBlock args block) →
      ∃ kind, (kind = .missingArgument ∨ kind = .tooManyArguments) ∧
        ∀ call, helper call args = .error (.of kind))

/-! ### Arguments -/

theorem caller_of_onlyBlock {args : Arguments} {block : Value} (h : OnlyBlock args block) :
    caller args.keywords = .ok block := by
  have hany : ¬(args.keywords.any fun k => k.1 ≠ "caller") = true := by
    rw [List.any_eq_true]
    rintro ⟨k, hk, hne⟩
    exact of_decide_eq_true hne (h.2 k hk)
  rw [caller, h.1]
  exact if_neg hany

theorem caller_of_not_onlyBlock {args : Arguments} (h : ¬∃ block, OnlyBlock args block) :
    ∃ kind, (kind = .missingArgument ∨ kind = .tooManyArguments) ∧
      caller args.keywords = .error (.of kind) := by
  cases hblock : args.keywords.get? "caller" with
  | none => exact ⟨_, .inl rfl, by rw [caller, hblock]⟩
  | some block =>
    have hany : (args.keywords.any fun k => k.1 ≠ "caller") = true := by
      by_contra hnone
      refine h ⟨block, hblock, fun k hk => ?_⟩
      by_contra hne
      exact hnone (List.any_eq_true.mpr ⟨k, hk, decide_eq_true hne⟩)
    refine ⟨_, .inr rfl, ?_⟩
    rw [caller, hblock]
    exact if_pos hany

theorem exists_arityFault (arity : Nat) (args : List Value) :
    ∃ kind, (kind = .missingArgument ∨ kind = .tooManyArguments) ∧
      arityFault arity args = .of kind := by
  rw [arityFault]
  split
  · exact ⟨_, .inl rfl, rfl⟩
  · exact ⟨_, .inr rfl, rfl⟩

/-! ### Bindings -/

theorem branchingBlocks_eq (call : Call) (block : Value) : branchingBlocks call block =
    ⟨fun context => Application.called call block [context, .bool true],
      fun context => Application.called call block [context, .bool false]⟩ := by
  refine congrArg₂ Blocks.mk (funext fun context => ?_) (funext fun context => ?_) <;>
    exact (map_eq_pure_bind Value.print (call block _)).symm

theorem textBlocks_eq (call : Call) (block : Value) : textBlocks call block =
    ⟨fun _ => Application.called call block [], fun _ => Application.called call block []⟩ := by
  refine congrArg₂ Blocks.mk (funext fun context => ?_) (funext fun context => ?_) <;>
    exact (map_eq_pure_bind Value.print (call block _)).symm

theorem agrees_of_apply {name : String} {arity : Nat} {helper : Template.Helper}
    (happly : ∀ args : Arguments, args.positional.length = arity → ∃ application,
      Application.ofArguments? name args.positional = some application ∧
      ∀ call, helper call args = caller args.keywords >>= fun block =>
        (application.runWith call block).map .string)
    (hfail : ∀ args : Arguments, args.positional.length ≠ arity →
      ∀ call, helper call args = .error (arityFault arity args.positional)) :
    Agrees name arity helper := by
  intro args
  constructor
  · intro block hlength hblock
    obtain ⟨application, happlication, hrun⟩ := happly args hlength
    refine ⟨application, happlication, fun call => ?_⟩
    rw [hrun, caller_of_onlyBlock hblock]
    rfl
  · intro hbad
    by_cases hlength : args.positional.length = arity
    · obtain ⟨application, -, hrun⟩ := happly args hlength
      obtain ⟨kind, hkind, hcaller⟩ := caller_of_not_onlyBlock fun h => hbad ⟨hlength, h⟩
      refine ⟨kind, hkind, fun call => ?_⟩
      rw [hrun, hcaller]
      rfl
    · obtain ⟨kind, hkind, hfault⟩ := exists_arityFault arity args.positional
      refine ⟨kind, hkind, fun call => ?_⟩
      rw [hfail args hlength, hfault]

theorem agrees_branching {name : String} {arity : Nat} {choose : List Value → Option Choice}
    (hsome : ∀ args, args.length = arity → ∃ choice, choose args = some choice ∧
      Application.ofArguments? name args = some (.choice choice))
    (hnone : ∀ args, args.length ≠ arity → choose args = none) :
    Agrees name arity (branching arity choose) := by
  refine agrees_of_apply (fun args hlength => ?_) fun args hlength call => ?_
  · obtain ⟨choice, hchoose, happlication⟩ := hsome _ hlength
    refine ⟨_, happlication, fun call => ?_⟩
    simp only [branching, hchoose, branchingBlocks_eq, Application.runWith]
    refine congrArg _ (funext fun block => ?_)
    exact (map_eq_pure_bind Value.string (Choice.run choice _)).symm
  · simp only [branching, hnone _ hlength]

theorem agrees_textual {name : String} {arity : Nat} {change? : List Value → Option Change}
    (hsome : ∀ args, args.length = arity → ∃ change, change? args = some change ∧
      Application.ofArguments? name args = some (.change change))
    (hnone : ∀ args, args.length ≠ arity → change? args = none) :
    Agrees name arity (textual arity change?) := by
  refine agrees_of_apply (fun args hlength => ?_) fun args hlength call => ?_
  · obtain ⟨change, hchange, happlication⟩ := hsome _ hlength
    refine ⟨_, happlication, fun call => ?_⟩
    simp only [textual, hchange, textBlocks_eq, Application.runWith]
    refine congrArg _ (funext fun block => ?_)
    exact (map_eq_pure_bind Value.string (Change.run change _)).symm
  · simp only [textual, hnone _ hlength]

/-! ### The built-in helpers -/

theorem agrees_arrayContains : Agrees "arrayContains" 2 arrayContainsBinding := by
  refine agrees_branching (fun args hlength => ?_) fun args hlength => ?_
  · obtain ⟨array, value, rfl⟩ := List.length_eq_two.mp hlength
    exact ⟨.arrayContains array value .undefined, rfl, rfl⟩
  · split
    · exact absurd rfl hlength
    · rfl

theorem agrees_compare : Agrees "compare" 3 compareBinding := by
  refine agrees_branching (fun args hlength => ?_) fun args hlength => ?_
  · obtain ⟨l, operator, r, rfl⟩ := List.length_eq_three.mp hlength
    exact ⟨.compare l operator.print r .undefined, rfl, rfl⟩
  · split
    · exact absurd rfl hlength
    · rfl

theorem agrees_property : Agrees "property" 3 propertyBinding := by
  refine agrees_branching (fun args hlength => ?_) fun args hlength => ?_
  · obtain ⟨context, name, newName, rfl⟩ := List.length_eq_three.mp hlength
    exact ⟨.property context name.print newName.print, rfl, rfl⟩
  · split
    · exact absurd rfl hlength
    · rfl

theorem agrees_withContext : Agrees "withContext" 1 withContextBinding := by
  refine agrees_branching (fun args hlength => ?_) fun args hlength => ?_
  · obtain ⟨value, rfl⟩ := List.length_eq_one_iff.mp hlength
    exact ⟨.withContext value, rfl, rfl⟩
  · split
    · exact absurd rfl hlength
    · rfl

theorem agrees_withDefinition : Agrees "withDef" 2 withDefinitionBinding := by
  refine agrees_branching (fun args hlength => ?_) fun args hlength => ?_
  · obtain ⟨reference, definitions, rfl⟩ := List.length_eq_two.mp hlength
    exact ⟨.withDefinition reference definitions reference, rfl, rfl⟩
  · split
    · exact absurd rfl hlength
    · rfl

theorem agrees_capsplit : Agrees "capsplit" 1 capsplitBinding := by
  refine agrees_textual (fun args hlength => ?_) fun args hlength => ?_
  · obtain ⟨joiner, rfl⟩ := List.length_eq_one_iff.mp hlength
    exact ⟨.capsplit joiner.print, rfl, rfl⟩
  · split
    · exact absurd rfl hlength
    · rfl

/-- A helper without arguments. -/
theorem agrees_change {name : String} (c : Change) {helper : Template.Helper}
    (hhelper : helper = textual 0 fun
      | [] => some c
      | _ => none)
    (happlication : Application.ofArguments? name [] = some (.change c)) :
    Agrees name 0 helper := by
  subst hhelper
  refine agrees_textual (fun args hlength => ?_) fun args hlength => ?_
  · obtain rfl := List.length_eq_zero_iff.mp hlength
    exact ⟨c, rfl, happlication⟩
  · split
    · exact absurd rfl hlength
    · rfl

/-- Each built-in helper agrees with what it is apart from templates. -/
theorem builtin_agrees :
    HelperSet.builtin.keys = signatures.map Prod.fst ∧
    ∀ s ∈ signatures, ∃ helper, HelperSet.builtin.get? s.1 = some helper ∧
      Agrees s.1 s.2 helper := by
  refine ⟨rfl, ?_⟩
  simp only [signatures, List.forall_mem_cons]
  refine ⟨⟨_, rfl, agrees_arrayContains⟩, ⟨_, rfl, agrees_compare⟩,
    ⟨_, rfl, agrees_change .lowerFirst rfl rfl⟩,
    ⟨_, rfl, agrees_change .upperFirst rfl rfl⟩,
    ⟨_, rfl, agrees_change .lowercase rfl rfl⟩,
    ⟨_, rfl, agrees_change .uppercase rfl rfl⟩,
    ⟨_, rfl, agrees_capsplit⟩, ⟨_, rfl, agrees_property⟩, ⟨_, rfl, agrees_withContext⟩,
    ⟨_, rfl, agrees_withDefinition⟩, ?_⟩
  exact fun s hs => absurd hs List.not_mem_nil

end ContractPress.Helper
