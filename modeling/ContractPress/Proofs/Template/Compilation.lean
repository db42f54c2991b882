import ContractPress.Proofs.Generator.Emission
import ContractPress.Proofs.Generator.Preparation

/-!
Templates that are given one source after the other.

A renderer is asked to compile sources, valid ones and others, for any templates and in any order.
The first valid source of a template stays (`Renderer.get?_attemptAll`), and the calls with all
others might as well not have been made (`Renderer.attemptAll_of_ineffective`).
-/

namespace ContractPress

open Template (Tree)

/-- A text that is a template. -/
def Template.Valid (source : String) : Prop :=
  ∃ tree, Parser.parse source = .ok tree

/-- The source is the first valid one that the calls give for the template. -/
def FirstValid (calls : List (String × String)) (id source : String) : Prop :=
  ∃ before after, calls = before ++ (id, source) :: after ∧ Template.Valid source ∧
    ∀ earlier, (id, earlier) ∈ before → ¬Template.Valid earlier

namespace FirstValid

variable {calls : List (String × String)} {id id' source source' : String}

theorem not_nil : ¬FirstValid [] id source := by
  rintro ⟨before, after, hnil, -⟩
  cases before <;> cases hnil

theorem mem (h : FirstValid calls id source) : (id, source) ∈ calls ∧ Template.Valid source := by
  obtain ⟨before, after, rfl, hvalid, -⟩ := h
  exact ⟨List.mem_append_right before List.mem_cons_self, hvalid⟩

/-- A call for the template with a valid source settles which one counts. -/
theorem cons_of_valid (h : Template.Valid source') :
    FirstValid ((id, source') :: calls) id source ↔ source = source' := by
  constructor
  · rintro ⟨before, after, hcalls, -, hbefore⟩
    cases before with
    | nil =>
      cases hcalls
      rfl
    | cons call before =>
      obtain ⟨rfl, -⟩ := List.cons.inj hcalls
      exact absurd h (hbefore source' List.mem_cons_self)
  · rintro rfl
    exact ⟨[], calls, rfl, h, fun _ hmem => absurd hmem List.not_mem_nil⟩

/-- A call for another template does not count, nor does one with a source that is not valid. -/
theorem cons_of_not_valid (h : id' = id → ¬Template.Valid source') :
    FirstValid ((id', source') :: calls) id source ↔ FirstValid calls id source := by
  constructor
  · rintro ⟨before, after, hcalls, hvalid, hbefore⟩
    cases before with
    | nil =>
      cases hcalls
      exact absurd hvalid (h rfl)
    | cons call before =>
      obtain ⟨-, rfl⟩ := List.cons.inj hcalls
      exact ⟨before, after, rfl, hvalid, fun s hs => hbefore s (List.mem_cons_of_mem call hs)⟩
  · rintro ⟨before, after, rfl, hvalid, hbefore⟩
    refine ⟨(id', source') :: before, after, rfl, hvalid, fun earlier hmem => ?_⟩
    cases hmem with
    | head => exact h rfl
    | tail _ hmem => exact hbefore earlier hmem

/-- There is a first valid source if there is a valid one. -/
theorem exists_iff :
    (∃ source, FirstValid calls id source) ↔
      ∃ source, (id, source) ∈ calls ∧ Template.Valid source := by
  constructor
  · rintro ⟨source, h⟩
    exact ⟨source, h.mem⟩
  · rintro ⟨source, hmem, hvalid⟩
    induction calls with
    | nil => cases hmem
    | cons call calls ih =>
      obtain ⟨id', source'⟩ := call
      by_cases hcounts : id' = id ∧ Template.Valid source'
      · obtain ⟨rfl, hvalid'⟩ := hcounts
        exact ⟨source', (cons_of_valid hvalid').mpr rfl⟩
      · rw [not_and] at hcounts
        simp only [cons_of_not_valid hcounts]
        cases hmem with
        | head => exact absurd hvalid (hcounts rfl)
        | tail _ hmem => exact ih hmem

end FirstValid

namespace Renderer

variable {r : Renderer} {id source : String} {calls : List (String × String)}

theorem isCompiled_iff_exists : r.isCompiled id = true ↔ ∃ tree, r.templates.get? id = some tree :=
  Option.isSome_iff_exists

/-! ### A call -/

/-- What a call comes to. -/
structure Answers (r : Renderer) (id source : String) : Prop where
  /-- A template that is compiled stays as it is, be the source valid or not. -/
  again : r.isCompiled id = true → r.attempt id source = (.ok (), r)
  fails : ∀ failure, (r.attempt id source).1 = .error failure ↔ r.isCompiled id = false ∧
    ∃ fault, Template.Parser.parse source = .error fault ∧ failure = .templateCompile id fault
  /-- A call that fails leaves every template as it was, its own included. -/
  unchanged : ∀ failure, (r.attempt id source).1 = .error failure → (r.attempt id source).2 = r
  compiles : ∀ tree, r.isCompiled id = false → Template.Parser.parse source = .ok tree →
    (r.attempt id source).1 = .ok () ∧ ∀ id', (r.attempt id source).2.templates.get? id' =
      if id = id' then some tree else r.templates.get? id'

theorem answers (r : Renderer) (id source : String) : r.Answers id source := by
  refine ⟨fun h => attempt_of_compiled h source, fun failure => ?_, fun failure => ?_, ?_⟩
  · rcases attempt_cases r id source with
      ⟨hcompiled, he⟩ | ⟨hcompiled, fault, hparse, he⟩ | ⟨hcompiled, tree, hparse, he⟩
    · simp [he, hcompiled]
    · simp [he, hcompiled, hparse, eq_comm]
    · simp [he, hcompiled, hparse]
  · rcases attempt_cases r id source with
      ⟨-, he⟩ | ⟨-, fault, -, he⟩ | ⟨-, tree, -, he⟩
    · exact fun _ => congrArg Prod.snd he
    · exact fun _ => congrArg Prod.snd he
    · rw [he]
      exact nofun
  · intro tree hcompiled hparse
    rw [attempt_of_parse_ok hcompiled hparse]
    exact ⟨rfl, fun id' => OrderedMap.get?_insert r.templates id id' tree⟩

/-! ### Many calls -/

theorem attemptAll_cons (r : Renderer) (call : String × String) (calls : List (String × String)) :
    r.attemptAll (call :: calls) = (r.attempt call.1 call.2).2.attemptAll calls :=
  List.foldl_cons ..

theorem attemptAll_append (r : Renderer) (before after : List (String × String)) :
    r.attemptAll (before ++ after) = (r.attemptAll before).attemptAll after :=
  List.foldl_append

theorem helpers_attemptAll (r : Renderer) (calls : List (String × String)) :
    (r.attemptAll calls).helpers = r.helpers := by
  induction calls generalizing r with
  | nil => rfl
  | cons call calls ih =>
    rw [attemptAll_cons, ih]
    rcases attempt_cases r call.1 call.2 with ⟨-, he⟩ | ⟨-, _, -, he⟩ | ⟨-, _, -, he⟩ <;> rw [he]
    rfl

/-- A template has the tree that it had, or else that of its first valid source. -/
theorem get?_attemptAll (r : Renderer) (calls : List (String × String)) (id : String)
    (tree : Tree) : (r.attemptAll calls).templates.get? id = some tree ↔
      r.templates.get? id = some tree ∨ r.isCompiled id = false ∧
        ∃ source, FirstValid calls id source ∧ Template.Parser.parse source = .ok tree := by
  induction calls generalizing r with
  | nil => simp [attemptAll, FirstValid.not_nil]
  | cons call calls ih =>
    obtain ⟨id', source'⟩ := call
    rw [attemptAll_cons, ih]
    -- only a first valid source has a part in the trees; before and after it the calls add nothing
    rcases attempt_cases r id' source' with
      ⟨hcompiled, he⟩ | ⟨hcompiled, fault, hparse, he⟩ | ⟨hcompiled, tree', hparse, he⟩
    · rw [he]
      refine or_congr_right (and_congr_right fun hid => ?_)
      have hne : id' = id → ¬Template.Valid source' := by
        rintro rfl
        cases hcompiled.symm.trans hid
      simp only [FirstValid.cons_of_not_valid hne]
    · rw [he]
      have hinvalid : id' = id → ¬Template.Valid source' := by
        rintro - ⟨tree, htree⟩
        cases hparse.symm.trans htree
      simp only [FirstValid.cons_of_not_valid hinvalid]
    · rw [he, keep, OrderedMap.get?_insert]
      by_cases hid : id' = id
      · subst hid
        have hkept := (isCompiled_keep (r := r) id' id' tree').mpr (.inl rfl)
        rw [keep] at hkept
        simp [hkept, hcompiled, get?_of_not_compiled hcompiled,
          FirstValid.cons_of_valid ⟨tree', hparse⟩, hparse]
      · have hkept : (r.keep id' tree').isCompiled id = r.isCompiled id := by
          rw [Bool.eq_iff_iff, isCompiled_keep, or_iff_right (Ne.symm hid)]
        rw [keep] at hkept
        simp only [if_neg hid, hkept, FirstValid.cons_of_not_valid fun h => absurd h hid]

/-- A call for a template that has been compiled, or with a source that is not valid, makes no
difference to what comes of the others. -/
theorem attemptAll_of_ineffective {before : List (String × String)}
    (h : (r.attemptAll before).isCompiled id = true ∨ ¬Template.Valid source)
    (after : List (String × String)) :
    r.attemptAll (before ++ (id, source) :: after) = r.attemptAll (before ++ after) := by
  have hsame : ((r.attemptAll before).attempt id source).2 = r.attemptAll before := by
    rcases attempt_cases (r.attemptAll before) id source with
      ⟨-, he⟩ | ⟨-, fault, -, he⟩ | ⟨hcompiled, tree, hparse, -⟩
    · rw [he]
    · rw [he]
    · cases h with
      | inl h => cases hcompiled.symm.trans h
      | inr h => exact absurd ⟨tree, hparse⟩ h
  rw [attemptAll_append, attemptAll_cons, hsame, attemptAll_append]

/-- What a renderer knows from the calls that were made. -/
structure Knows (r : Renderer) (set : HelperSet) (calls : List (String × String)) : Prop where
  helpers : r.helpers = set
  compiled : ∀ id, r.isCompiled id = true ↔
    ∃ source, (id, source) ∈ calls ∧ Template.Valid source
  found : ∀ id, (∃ tree, r.template id = .ok tree) ↔
    ∃ source, (id, source) ∈ calls ∧ Template.Valid source
  /-- The tree of a template is that of its first valid source. -/
  first : ∀ id tree, r.template id = .ok tree ↔
    ∃ source, FirstValid calls id source ∧ Template.Parser.parse source = .ok tree
  /-- The tree is rendered, and whatever it includes is the tree of a first valid source too. -/
  rendered : ∀ id source tree, FirstValid calls id source →
    Template.Parser.parse source = .ok tree → ∀ context item, r.render id context item =
      (Template.render ⟨set, r.templates, context⟩ tree).mapError (.templateRender id item)
  included : ∀ id tree, r.templates.get? id = some tree ↔
    ∃ source, FirstValid calls id source ∧ Template.Parser.parse source = .ok tree
  missing : ∀ id, (∀ source, (id, source) ∈ calls → ¬Template.Valid source) →
    let failure : Failure :=
      .templateCompile id ⟨.templateNotFound, some "template was not compiled"⟩
    r.template id = .error failure ∧ ∀ context item, r.render id context item = .error failure

theorem knows_attemptAll (helpers : HelperSet) (calls : List (String × String)) :
    ((new helpers).attemptAll calls).Knows helpers calls := by
  have hhelpers : ((new helpers).attemptAll calls).helpers = helpers := helpers_attemptAll _ calls
  have htrees : ∀ id tree, ((new helpers).attemptAll calls).templates.get? id = some tree ↔
      ∃ source, FirstValid calls id source ∧ Template.Parser.parse source = .ok tree := by
    intro id tree
    have hnew : (new helpers).templates.get? id = none := rfl
    have hcompiled : (new helpers).isCompiled id = false := rfl
    rw [get?_attemptAll, hnew, hcompiled]
    simp
  generalize (new helpers).attemptAll calls = r at hhelpers htrees
  have hvalid : ∀ id, (∃ tree, r.templates.get? id = some tree) ↔
      ∃ source, (id, source) ∈ calls ∧ Template.Valid source := by
    intro id
    rw [← FirstValid.exists_iff]
    constructor
    · rintro ⟨tree, htree⟩
      obtain ⟨source, hfirst, -⟩ := (htrees id tree).mp htree
      exact ⟨source, hfirst⟩
    · rintro ⟨source, hfirst⟩
      obtain ⟨tree, hparse⟩ := hfirst.mem.2
      exact ⟨tree, (htrees id tree).mpr ⟨source, hfirst, hparse⟩⟩
  refine ⟨hhelpers, fun id => ?_, fun id => ?_, fun id tree => ?_, ?_, htrees, ?_⟩
  · rw [isCompiled_iff_exists, hvalid]
  · simp only [Generator.template_eq_ok, hvalid]
  · rw [Generator.template_eq_ok, htrees]
  · intro id source tree hfirst hparse context item
    have htemplate : r.template id = .ok tree :=
      Generator.template_eq_ok.mpr ((htrees id tree).mpr ⟨source, hfirst, hparse⟩)
    rw [render, htemplate, ← hhelpers]
    rfl
  · intro id hnone failure
    have htree : r.templates.get? id = none := by
      by_contra hsome
      obtain ⟨source, hmem, hsource⟩ := (hvalid id).mp (Option.ne_none_iff_exists'.mp hsome)
      exact hnone source hmem hsource
    have htemplate : r.template id = .error failure := by rw [template, htree]
    refine ⟨htemplate, fun context item => ?_⟩
    rw [render, htemplate]
    rfl

/-- After any calls a new renderer has compiled the templates that were given a valid source, and it
renders the first one. A template that is compiled again stays as it is, and so do all templates if
a call fails; such calls make no difference to those after them. -/
theorem first_valid_source_stays :
    (∀ (helpers : HelperSet) (calls : List (String × String)),
      ((new helpers).attemptAll calls).Knows helpers calls) ∧
    (∀ (r : Renderer) (id source : String), r.Answers id source) ∧
    ∀ (r : Renderer) (before after : List (String × String)) (id source : String),
      (r.attemptAll before).isCompiled id = true ∨ ¬Template.Valid source →
      r.attemptAll (before ++ (id, source) :: after) = r.attemptAll (before ++ after) := by
  refine ⟨knows_attemptAll, answers, fun r before after id source h => ?_⟩
  exact attemptAll_of_ineffective h after

/-- Sources that are not valid may come before the first valid one, and others after it. -/
example :
    let r := (new .empty).attemptAll [("t", "\x7b% if %\x7d"), ("t", "first"), ("u", "\x7b\x7b"),
      ("t", "second"), ("t", "\x7b\x7b")]
    (r.isCompiled "t", r.isCompiled "u") = (true, false) ∧
      (r.render "t" (.map []) "x").toOption = some "first" := by
  decide +kernel

end Renderer

end ContractPress
