import ContractPress.Generator.Delivery
import ContractPress.Proofs.Generator.Emission
import ContractPress.Proofs.Generator.Preparation
import Mathlib

/-!
That a generator's past makes no difference.

Whatever has been asked of a generator before, and however it ended, the templates kept are none or
those that preparing once has left (`Cached`). Preparing again leaves the same and ends the same, so
a contract gives what it gives a new generator (`generate_after_history`). Sources may do what they
like as long as their answers stay the same, and so may sinks.
-/

namespace ContractPress

open Std.Do

variable {m : Type → Type} {p : PostShape.{0}} [Monad m] [WPMonad m p] {I : Assertion p}
  {α β : Type}

/-! ### Computations with known results -/

/-- A computation keeps an invariant and never fails to give a result, which is of this kind. -/
def Yields (I : Assertion p) (x : m α) (kind : α → Prop) : Prop :=
  ⦃I⦄ x ⦃⇓ a => spred(⌜kind a⌝ ∧ I)⦄

namespace Yields

theorem pure {kind : α → Prop} {a : α} (h : kind a) : Yields I (Pure.pure a : m α) kind :=
  Triple.pure a (SPred.and_intro (SPred.pure_intro h) .rfl)

theorem bind {x : m α} {f : α → m β} {kind : α → Prop} {kind' : β → Prop} (hx : Yields I x kind)
    (hf : ∀ a, kind a → Yields I (f a) kind') : Yields I (x >>= f) kind' :=
  Triple.bind x f hx fun a => SPred.pure_elim_l (hf a)

theorem mono {x : m α} {kind kind' : α → Prop} (hx : Yields I x kind)
    (h : ∀ a, kind a → kind' a) : Yields I x kind' :=
  Triple.of_entails_wp <| Triple.entails_wp_of_post hx <|
    PostCond.entails.mk (fun a => SPred.and_mono (SPred.pure_mono (h a)) .rfl) .rfl

end Yields

/-- For computations with a state: from each state that has the invariant. -/
theorem yields_stateM {σ : Type} {I : σ → Prop} {x : StateM σ α} {kind : α → Prop} :
    Yields (p := .arg σ .pure) (fun s => ⌜I s⌝) x kind ↔
      ∀ s, I s → kind (x.run s).1 ∧ I (x.run s).2 :=
  Iff.rfl

/-- The source of every template is always answered by the same text or fault. -/
def TemplateSource.Answers (I : Assertion p) (source : TemplateSource m)
    (texts : TemplateSource Id) : Prop :=
  ∀ id, Yields I (source id) (· = texts id)

def Sink.Keeps (I : Assertion p) (sink : Sink m) : Prop :=
  ∀ document artifacts, Yields I (sink document artifacts) fun _ => True

section

variable {source : TemplateSource m} {texts : TemplateSource Id}

theorem Renderer.prepare_yields (hsource : source.Answers I texts) (ids : List String)
    (r : Renderer) : Yields I (prepare source ids r) (· = prepare texts ids r) := by
  induction ids generalizing r with
  | nil => exact .pure rfl
  | cons id ids ih =>
    rw [prepare, prepare]
    split
    · exact ih r
    · apply Yields.bind (hsource id)
      intro answer h
      subst h
      cases texts id with
      | error fault => exact .pure rfl
      | ok text =>
        rcases hattempt : r.attempt id text with ⟨answer, r'⟩
        cases answer with
        | error failure =>
          simp only [hattempt]
          apply Yields.pure
          dsimp only [bind, pure]
          rw [hattempt]
        | ok _ =>
          simp only [hattempt]
          apply Yields.bind (ih r')
          intro prepared h
          subst h
          apply Yields.pure
          dsimp only [bind, pure]
          rw [hattempt]

namespace Generator

theorem generateContract_yields (hsource : source.Answers I texts) (g : Generator) (c : Contract) :
    Yields I (g.generateContract source c) (· = g.generateContract texts c) := by
  apply Yields.bind (Renderer.prepare_yields hsource g.config.templates g.renderer)
  intro prepared h
  subst h
  exact .pure rfl

/-- With steady sources a generator gives what it gives with the texts themselves. -/
theorem generate_yields (hsource : source.Answers I texts) (g : Generator) (name text : String) :
    Yields I (g.generate source name text) (· = g.generate texts name text) := by
  unfold generate
  cases Contract.parse text with
  | error failure => exact .pure rfl
  | ok c =>
    apply Yields.bind (generateContract_yields hsource g c)
    intro generated h
    subst h
    exact .pure rfl

/-! ### The templates that are kept -/

/-- The generator with the templates that preparing leaves. -/
def prepared (texts : TemplateSource Id) (g : Generator) : Generator :=
  { g with renderer := (Renderer.prepare texts g.config.templates g.renderer).1 }

/-- What a generator makes of a text. -/
def outcome (texts : TemplateSource Id) (g : Generator) (name text : String) :
    Except Failure (List Artifact) :=
  (g.generate texts name text).2.result

theorem prepared_prepared (texts : TemplateSource Id) (g : Generator) :
    (g.prepared texts).prepared texts = g.prepared texts := by
  have hagain := Renderer.prepare_prepare texts g.config.templates g.renderer
  rw [prepared, prepared, hagain.1]

theorem outcome_prepared (texts : TemplateSource Id) (g : Generator) (name text : String) :
    (g.prepared texts).outcome texts name text = g.outcome texts name text := by
  have hagain := Renderer.prepare_prepare texts g.config.templates g.renderer
  rw [outcome, outcome, result_generate, result_generate]
  cases Contract.parse text with
  | error failure => rfl
  | ok c =>
    dsimp only
    rw [result_generateContract, result_generateContract, prepared, hagain.1, hagain.2]

/-- A generator is as it was at first, or as preparing has left it. -/
def Cached (texts : TemplateSource Id) (first g : Generator) : Prop :=
  g = first ∨ g = first.prepared texts

variable {first g : Generator}

theorem Cached.prepared (h : Cached texts first g) : Cached texts first (g.prepared texts) := by
  rcases h with rfl | rfl
  · exact .inr rfl
  · exact .inr (first.prepared_prepared texts)

theorem Cached.outcome_eq (h : Cached texts first g) (name text : String) :
    g.outcome texts name text = first.outcome texts name text := by
  rcases h with rfl | rfl
  · rfl
  · exact first.outcome_prepared texts name text

theorem Cached.generate (h : Cached texts first g) (name text : String) :
    Cached texts first (g.generate texts name text).1 := by
  unfold Generator.generate
  cases Contract.parse text with
  | error failure => exact h
  | ok c => exact h.prepared

theorem generateAll_yields (hsource : source.Answers I texts) {sink : Sink m}
    (hsink : sink.Keeps I) (documents : List Document) (h : Cached texts first g) :
    Yields I (generateAll source sink documents g) fun generated =>
      Cached texts first generated.1 := by
  induction documents generalizing g with
  | nil => exact .pure h
  | cons d ds ih =>
    apply Yields.bind (generate_yields hsource g d.name d.text)
    intro generated h
    subst h
    have hgenerated := h.generate d.name d.text
    generalize g.generate texts d.name d.text = generated at hgenerated
    obtain ⟨g, events, result⟩ := generated
    cases result with
    | error failure => exact .pure hgenerated
    | ok artifacts =>
      apply Yields.bind (hsink d.name artifacts)
      rintro ⟨events', delivered⟩ -
      cases delivered with
      | error failure => exact .pure hgenerated
      | ok _ =>
        apply Yields.bind (ih hgenerated)
        rintro ⟨g', rest⟩ hrest
        exact .pure hrest

end Generator

/-! ### Histories -/

/-- What can be asked of a generator. -/
inductive Call (m : Type → Type) where
  | generate (name text : String)
  | generateContract (c : Contract)
  | generateAll (documents : List Document) (sink : Sink m)

namespace Call

/-- The generator after a call, however the call ends. -/
def perform (source : TemplateSource m) (g : Generator) : Call m → m Generator
  | .generate name text => do return (← g.generate source name text).1
  | .generateContract c => do return (← g.generateContract source c).1
  | .generateAll documents sink => do return (← Generator.generateAll source sink documents g).1

def performAll (source : TemplateSource m) : List (Call m) → Generator → m Generator
  | [], g => return g
  | call :: calls, g => do performAll source calls (← call.perform source g)

/-- The sinks of a call keep an invariant. -/
def Keeps (I : Assertion p) : Call m → Prop
  | .generate _ _ | .generateContract _ => True
  | .generateAll _ sink => sink.Keeps I

variable {first g : Generator}

/-- No call changes what is kept but by preparing. -/
theorem perform_yields (hsource : source.Answers I texts) {call : Call m} (hcall : call.Keeps I)
    (h : first.Cached texts g) : Yields I (call.perform source g) (first.Cached texts) := by
  cases call with
  | generate name text =>
    apply Yields.bind (g.generate_yields hsource name text)
    intro generated h
    subst h
    exact .pure (h.generate name text)
  | generateContract c =>
    apply Yields.bind (g.generateContract_yields hsource c)
    intro generated h
    subst h
    exact .pure h.prepared
  | generateAll documents sink =>
    apply Yields.bind (Generator.generateAll_yields hsource hcall documents h)
    intro generated hgenerated
    exact .pure hgenerated

theorem performAll_yields (hsource : source.Answers I texts) {calls : List (Call m)}
    (hcalls : ∀ call ∈ calls, call.Keeps I) (h : first.Cached texts g) :
    Yields I (performAll source calls g) (first.Cached texts) := by
  induction calls generalizing g with
  | nil => exact .pure h
  | cons call calls ih =>
    rw [List.forall_mem_cons] at hcalls
    apply Yields.bind (perform_yields hsource hcalls.1 h)
    intro g' h'
    exact ih hcalls.2 h'

end Call

/-- After any calls a generator makes of a text what it makes of it when it is new, which is what
the templates' texts make of it. -/
theorem generate_after_history (hsource : source.Answers I texts) (config : Config)
    (helpers : HelperSet) (post : Option PostProcessor) (history : List (Call m))
    (hhistory : ∀ call ∈ history, call.Keeps I) (name text : String) :
    Yields I ((Generator.fresh config helpers post).generate source name text)
        (fun generated => generated.2.result =
          (Generator.fresh config helpers post).outcome texts name text) ∧
      Yields I (Call.performAll source history (Generator.fresh config helpers post) >>=
          (·.generate source name text))
        (fun generated => generated.2.result =
          (Generator.fresh config helpers post).outcome texts name text) := by
  generalize Generator.fresh config helpers post = first
  have hgenerate : ∀ g, first.Cached texts g → Yields I (g.generate source name text)
      fun generated => generated.2.result = first.outcome texts name text := by
    intro g hg
    apply (g.generate_yields hsource name text).mono
    intro generated h
    subst h
    exact hg.outcome_eq name text
  have hfirst : first.Cached texts first := .inl rfl
  exact ⟨hgenerate first hfirst, .bind (Call.performAll_yields hsource hhistory hfirst) hgenerate⟩

/-- After a malformed text and a sink that takes nothing, with a source that counts how often it is
asked, a contract gives its file as if nothing had been. -/
theorem generate_after_failures :
    let source : TemplateSource (StateM Nat) := fun _ => modifyGet fun n => (.ok "x", n + 1)
    let sink : Sink (StateM Nat) := fun document _ => return .fail (.write document)
    let text := "paths:\n  /pets: 1\ndefinitions:\n  Pet: 1\n"
    let config : Config := ⟨.ofList [("t", ⟨"./definitions", ".js", .empty⟩)], .empty⟩
    let first := Generator.fresh config .empty none
    let history : List (Call (StateM Nat)) := [.generate "a" "[", .generateAll [⟨"b", text⟩] sink]
    ((Call.performAll source history first >>= (·.generate source "c" text)).run 0).1.2.result =
      .ok [⟨"definitions/pet.js", "x"⟩] := by
  intro source sink text config first history
  have hsource : source.Answers (p := .arg Nat .pure) (fun _ => ⌜True⌝) fun _ => .ok "x" :=
    fun id => yields_stateM.mpr fun n _ => ⟨rfl, trivial⟩
  have hsink : sink.Keeps (p := .arg Nat .pure) fun _ => ⌜True⌝ :=
    fun document artifacts => yields_stateM.mpr fun n _ => ⟨trivial, trivial⟩
  have hkeeps : ∀ call ∈ history, call.Keeps (p := .arg Nat .pure) fun _ => ⌜True⌝ := by
    simp [history, Call.Keeps, hsink]
  obtain ⟨-, hafter⟩ := generate_after_history hsource config .empty none history hkeeps "c" text
  rw [yields_stateM] at hafter
  obtain ⟨hresult, -⟩ := hafter 0 trivial
  rw [hresult]
  decide +kernel

end

end ContractPress
