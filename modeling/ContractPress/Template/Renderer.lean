import ContractPress.Helper.Set
import ContractPress.Template.Parser
import ContractPress.Failure

/-!
Compiled templates under their identifiers.

The first source that compiles under an identifier stays: compiling under it again changes nothing.
-/

namespace ContractPress

structure Renderer where
  helpers : HelperSet
  templates : OrderedMap Template.Tree

namespace Renderer

def new (helpers : HelperSet) : Renderer :=
  ⟨helpers, .empty⟩

def isCompiled (r : Renderer) (id : String) : Bool :=
  r.templates.contains id

/-- The renderer with one more tree. -/
def keep (r : Renderer) (id : String) (tree : Template.Tree) : Renderer :=
  { r with templates := r.templates.insert id tree }

def compile (r : Renderer) (id source : String) : Except Failure Renderer :=
  if r.isCompiled id then .ok r
  else match Template.Parser.parse source with
    | .ok tree => .ok (r.keep id tree)
    | .error fault => .error (.templateCompile id fault)

/-- What a call of `compile` answers, and the renderer from then on. -/
def attempt (r : Renderer) (id source : String) : Except Failure Unit × Renderer :=
  match r.compile id source with
  | .ok compiled => (.ok (), compiled)
  | .error failure => (.error failure, r)

/-- The renderer after calls for these templates with these sources. -/
def attemptAll (r : Renderer) (calls : List (String × String)) : Renderer :=
  calls.foldl (fun r call => (r.attempt call.1 call.2).2) r

/-- The tree compiled under an identifier. -/
def template (r : Renderer) (id : String) : Except Failure Template.Tree :=
  match r.templates.get? id with
  | some tree => .ok tree
  | none => .error (.templateCompile id ⟨.templateNotFound, some "template was not compiled"⟩)

/-- Renders the tree of the template `id`; `item` is what a failure names. -/
def renderTree (r : Renderer) (id : String) (tree : Template.Tree) (context : Template.Value)
    (item : String) : Except Failure String :=
  (Template.render ⟨r.helpers, r.templates, context⟩ tree).mapError (.templateRender id item)

def render (r : Renderer) (id : String) (context : Template.Value) (item : String) :
    Except Failure String := do
  r.renderTree id (← r.template id) context item

def debugText (r : Renderer) : String :=
  "TemplateRenderer \x7b helpers: " ++ r.helpers.namesText ++ ", .. \x7d"

end Renderer

end ContractPress
