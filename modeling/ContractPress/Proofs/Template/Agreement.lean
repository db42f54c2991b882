import ContractPress.Template.Rendering

/-!
What a rendering reads of what is around it.

Templates are only ever looked up by their identifiers, so surroundings that give the same answers
give the same texts (`render_agree`). In which order the templates were compiled makes no
difference.
-/

namespace ContractPress.Template

/-- Surroundings with the same helpers and the same context, and under every identifier the same
template. -/
structure Surroundings.Agree (around around' : Surroundings) : Prop where
  helpers : around.helpers = around'.helpers
  context : around.context = around'.context
  template : ∀ id, around.templates.get? id = around'.templates.get? id

variable {around around' : Surroundings}

theorem Scope.lookup?_agree (h : around.Agree around') (s : Scope) (name : String) :
    s.lookup? around name = s.lookup? around' name := by
  unfold lookup?
  rw [h.helpers, h.context]

theorem invoke_agree (h : around.Agree around') (engine : Engine) (s : Scope) :
    invoke around engine s = invoke around' engine s := by
  funext f args
  unfold invoke
  split
  · rw [s.lookup?_agree h]
  all_goals rfl

/-! ### Expressions -/

/-- What is called is found before the arguments. -/
theorem eval_call (engine : Engine) (s : Scope) (callee : Expr)
    (args : List (Option String × Expr)) :
    eval around engine s (.call callee args) =
      evalCallee around engine s callee >>= fun f =>
        evalArguments around engine s args >>= invoke around engine s f := by
  unfold evalCallee
  split
  · rw [eval]
    rfl
  · rw [eval, bind_assoc]
    rfl
  · rename_i hvariable hfield
    rw [eval, bind_assoc]
    · rfl
    · exact hvariable
    · exact hfield

mutual

theorem eval_agree (h : around.Agree around') (engine : Engine) (s : Scope) :
    ∀ e : Expr, eval around engine s e = eval around' engine s e
  | .constant _ => by rw [eval, eval]
  | .variable name => by rw [eval, eval, s.lookup?_agree h]
  | .list items => by rw [eval, eval, evalItems_agree h engine s items]
  | .map entries => by rw [eval, eval, evalEntries_agree h engine s entries]
  | .negate e | .not e | .attribute e _ => by rw [eval, eval, eval_agree h engine s e]
  | .binary _ a b | .both a b | .either a b | .item a b => by
    rw [eval, eval, eval_agree h engine s a, eval_agree h engine s b]
  | .choice test yes (some no) => by
    rw [eval, eval, eval_agree h engine s test, eval_agree h engine s yes,
      eval_agree h engine s no]
  | .choice test yes none => by
    rw [eval, eval, eval_agree h engine s test, eval_agree h engine s yes]
  | .filter _ e args | .test _ e args => by
    rw [eval, eval, eval_agree h engine s e, evalArguments_agree h engine s args]
  | .call callee args => by
    have hcallee : evalCallee around engine s callee = evalCallee around' engine s callee := by
      unfold evalCallee
      split
      · rfl
      · rename_i e name
        rw [eval_agree h engine s e]
      · rw [eval_agree h engine s callee]
    rw [eval_call, eval_call, hcallee, invoke_agree h, evalArguments_agree h engine s args]

theorem evalItems_agree (h : around.Agree around') (engine : Engine) (s : Scope) :
    ∀ items, evalItems around engine s items = evalItems around' engine s items
  | [] => rfl
  | e :: rest => by
    rw [evalItems, evalItems, eval_agree h engine s e, evalItems_agree h engine s rest]

theorem evalEntries_agree (h : around.Agree around') (engine : Engine) (s : Scope) :
    ∀ entries, evalEntries around engine s entries = evalEntries around' engine s entries
  | [] => rfl
  | (k, e) :: rest => by
    rw [evalEntries, evalEntries, eval_agree h engine s k, eval_agree h engine s e,
      evalEntries_agree h engine s rest]

theorem evalArguments_agree (h : around.Agree around') (engine : Engine) (s : Scope) :
    ∀ args, evalArguments around engine s args = evalArguments around' engine s args
  | [] => rfl
  | (_, e) :: rest => by
    rw [evalArguments, evalArguments, eval_agree h engine s e,
      evalArguments_agree h engine s rest]

end

theorem evalCallee_agree (h : around.Agree around') (engine : Engine) (s : Scope) (e : Expr) :
    evalCallee around engine s e = evalCallee around' engine s e := by
  unfold evalCallee
  split
  · rfl
  · rw [eval_agree h]
  · rw [eval_agree h]

theorem capture_agree (h : around.Agree around') (s : Scope)
    (parameters : List (String × Option Expr)) (body : List Statement) :
    capture around s parameters body = capture around' s parameters body := by
  unfold capture
  simp only [s.lookup?_agree h]

/-! ### Statements -/

mutual

theorem run_agree (h : around.Agree around') (engine : Engine) (s : Scope) :
    ∀ st : Statement, run around engine s st = run around' engine s st
  | .text _ => by rw [run, run]
  | .print e | .assign _ e | .inclusion e _ => by rw [run, run, eval_agree h]
  | .conditional test yes no => by
    rw [run, run, eval_agree h, runAll_agree h engine s yes, runAll_agree h engine s no]
  | .loop target source filter body otherwise => by
    have hbody := fun inner => runAll_agree h engine inner body
    rw [run, run, eval_agree h, runAll_agree h engine s otherwise]
    simp only [eval_agree h, hbody]
  | .callBlock callee args parameters body => by
    rw [run, run, evalCallee_agree h, evalArguments_agree h, capture_agree h, invoke_agree h]

theorem runAll_agree (h : around.Agree around') (engine : Engine) (s : Scope) :
    ∀ body, runAll around engine s body = runAll around' engine s body
  | [] => rfl
  | st :: rest => by
    have hrest := fun after => runAll_agree h engine after rest
    rw [runAll, runAll, run_agree h engine s st]
    simp only [hrest]

end

/-! ### Calls and inclusions -/

theorem applyDefaults_agree (h : around.Agree around') (engine : Engine) (s : Scope)
    (parameters : List (String × Option Expr)) :
    applyDefaults around engine s parameters = applyDefaults around' engine s parameters := by
  induction parameters with
  | nil => rfl
  | cons p rest ih =>
    rw [applyDefaults, applyDefaults, ih]
    simp only [eval_agree h]

theorem callBlock_agree (h : around.Agree around') (engine : Engine) (height : Nat)
    (parameters : List (String × Option Expr)) (body : List Statement)
    (captured : Entries String Value) (args : Arguments) :
    callBlock around engine height parameters body captured args =
      callBlock around' engine height parameters body captured args := by
  unfold callBlock
  simp only [applyDefaults_agree h, runAll_agree h]

theorem callValue_agree (h : around.Agree around') (engine : Engine) (height : Nat) (f : Value)
    (args : Arguments) :
    callValue around engine height f args = callValue around' engine height f args := by
  unfold callValue
  split
  · rw [h.helpers]
  · exact callBlock_agree h engine height _ _ _ args
  · rfl

theorem embedTemplate_agree (h : around.Agree around') (engine : Engine) (s : Scope)
    (name : String) :
    embedTemplate around engine s name = embedTemplate around' engine s name := by
  unfold embedTemplate
  rw [h.template]
  simp only [runAll_agree h]

theorem Engine.within_agree (h : around.Agree around') (allowance : Nat) :
    within around allowance = within around' allowance := by
  induction allowance with
  | zero => rfl
  | succ n ih =>
    rw [within, within, ih, Engine.mk.injEq]
    constructor
    · funext height f args
      exact callValue_agree h _ height f args
    · funext s name
      exact embedTemplate_agree h _ s name

/-- A template gives the same text wherever the same is found. -/
theorem render_agree (h : around.Agree around') (tree : Tree) :
    render around tree = render around' tree := by
  rw [render, render, Engine.within_agree h, runAll_agree h]

end ContractPress.Template
