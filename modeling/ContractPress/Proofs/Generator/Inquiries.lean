import ContractPress.Generator.Delivery
import ContractPress.Proofs.Generator.Preparation
import ContractPress.Proofs.Stages

/-!
What a source of templates is asked.

A journal takes down each inquiry with its answer, which may be another one every time. Preparing
asks for what has no tree yet, up to the first that fails (`prepare_asks`). The trees that a
renderer has can be told from its whole journal: they are those that were first compiled
(`Renderer.Remembers`).
-/

namespace ContractPress

variable {ρ τ : Type}

/-- The template a source was asked for, and its answer. -/
structure Inquiry where
  id : String
  answer : Except SourceFault String
deriving DecidableEq

namespace Inquiry

/-- The tree of the answer, or why there is none. -/
def compiled (q : Inquiry) : Except Failure Template.Tree :=
  match q.answer with
  | .ok text => (Template.Parser.parse text).mapError (.templateCompile q.id)
  | .error fault => .error (.templateLoad q.id fault)

theorem compiled_mk_ok (id text : String) : (Inquiry.mk id (.ok text)).compiled =
    (Template.Parser.parse text).mapError (.templateCompile id) := rfl

/-- What is done for a template: it is loaded, and then it is compiled. -/
def stages (q : Inquiry) : List Stage :=
  match q.answer with
  | .error fault => [⟨[.loadingTemplate q.id], .error (.templateLoad q.id fault)⟩]
  | .ok text => [⟨[.loadingTemplate q.id], .ok ()⟩,
      ⟨[.compilingTemplate q.id], match Template.Parser.parse text with
        | .ok _ => .ok ()
        | .error fault => .error (.templateCompile q.id fault)⟩]

/-- Both, with what is reported of them. -/
def traced (q : Inquiry) : Traced Unit := do
  .note (.loadingTemplate q.id)
  match q.answer with
  | .error fault => .fail (.templateLoad q.id fault)
  | .ok text =>
    .note (.compilingTemplate q.id)
    match Template.Parser.parse text with
    | .error fault => .fail (.templateCompile q.id fault)
    | .ok _ => pure ()

/-- The tree of the first answer for a template that has one. -/
def firstTree? (journal : List Inquiry) (id : String) : Option Template.Tree :=
  journal.findSome? fun q => if q.id = id then q.compiled.toOption else none

/-- The templates that have not been compiled, each once, in the order of their first occurrences.
-/
def missing (journal : List Inquiry) (ids : List String) : List String :=
  (ids.filter fun id => (firstTree? journal id).isNone).eraseDups

end Inquiry

open Inquiry (firstTree? missing)

/-- A source of which all that it is asked is taken down. -/
def TemplateSource.recorded (source : TemplateSource (StateM τ)) :
    TemplateSource (StateM (τ × List Inquiry)) := fun id world =>
  let answered := (source id).run world.1
  (answered.1, answered.2, world.2 ++ [⟨id, answered.1⟩])

/-- A sink that has nothing to do with the journal. -/
def Sink.unrecorded (sink : Sink (StateT ρ (StateM τ))) :
    Sink (StateT ρ (StateM (τ × List Inquiry))) := fun document artifacts kept world =>
  let accepted := ((sink document artifacts).run kept).run world.1
  (accepted.1, accepted.2, world.2)

/-- Templates have been asked for one after the other, up to the first that fails. -/
inductive Asked : List String → List Inquiry → Except Failure Unit → Prop where
  | nil : Asked [] [] (.ok ())
  | cons {q : Inquiry} {tree : Template.Tree} {ids : List String} {asked : List Inquiry}
    {answer : Except Failure Unit} (compiled : q.compiled = .ok tree)
    (rest : Asked ids asked answer) : Asked (q.id :: ids) (q :: asked) answer
  | failed {q : Inquiry} {failure : Failure} (failed : q.compiled = .error failure)
    (ids : List String) : Asked (q.id :: ids) [q] (.error failure)

/-- The trees are the first that were compiled, and after that a template was not asked for again.
-/
structure Renderer.Remembers (r : Renderer) (journal : List Inquiry) : Prop where
  trees : ∀ id, r.templates.get? id = firstTree? journal id
  once : journal.Pairwise fun q q' => q.id = q'.id → ∃ failure, q.compiled = .error failure

/-! ### Journals -/

namespace Inquiry

theorem performed_traced (q : Inquiry) : Performed q.stages q.traced := by
  obtain ⟨id, answer⟩ := q
  cases answer with
  | error fault => exact .failed rfl []
  | ok text =>
    simp only [stages, traced]
    cases Template.Parser.parse text with
    | error fault => exact .cons rfl (.failed rfl [])
    | ok tree => exact .cons rfl (.cons rfl (.done ()))

theorem result_traced (q : Inquiry) : q.traced.result = q.compiled.map fun _ => () := by
  obtain ⟨id, answer⟩ := q
  cases answer with
  | error fault => rfl
  | ok text =>
    rw [compiled_mk_ok, traced]
    simp only [Traced.result_bind, Traced.result_note]
    cases Template.Parser.parse text <;> rfl

theorem firstTree?_append (journal more : List Inquiry) (id : String) :
    firstTree? (journal ++ more) id = (firstTree? journal id).or (firstTree? more id) :=
  List.findSome?_append

theorem firstTree?_singleton_of_ok {q : Inquiry} {tree : Template.Tree} (h : q.compiled = .ok tree)
    (id : String) : firstTree? [q] id = if q.id = id then some tree else none := by
  simp [firstTree?, h, Except.toOption]

theorem firstTree?_singleton_of_error {q : Inquiry} {failure : Failure}
    (h : q.compiled = .error failure) (id : String) : firstTree? [q] id = none := by
  simp [firstTree?, h, Except.toOption]

theorem firstTree?_eq_none {journal : List Inquiry} {id : String} :
    firstTree? journal id = none ↔
      ∀ q ∈ journal, q.id = id → ∃ failure, q.compiled = .error failure := by
  rw [firstTree?, List.findSome?_eq_none_iff]
  refine forall₂_congr fun q _ => ?_
  cases q.compiled <;> simp [Except.toOption]

theorem missing_sublist (journal : List Inquiry) (ids : List String) :
    (missing journal ids).Sublist ids :=
  (eraseDups_sublist _).trans List.filter_sublist

theorem nodup_missing (journal : List Inquiry) (ids : List String) :
    (missing journal ids).Nodup :=
  nodup_eraseDups _

end Inquiry

namespace Asked

variable {ids : List String} {asked : List Inquiry} {answer : Except Failure Unit}

theorem isPrefix (h : Asked ids asked answer) : asked.map Inquiry.id <+: ids := by
  induction h with
  | nil => exact List.prefix_refl _
  | cons _ _ ih => exact List.cons_prefix_cons.mpr ⟨rfl, ih⟩
  | failed _ ids => exact List.cons_prefix_cons.mpr ⟨rfl, List.nil_prefix⟩

/-- If none fails, all have been asked for and have been compiled. -/
theorem exists_compiled (h : Asked ids asked (.ok ())) :
    ∀ id ∈ ids, ∃ q ∈ asked, q.id = id ∧ ∃ tree, q.compiled = .ok tree := by
  generalize hanswer : (.ok () : Except Failure Unit) = answer at h
  induction h with
  | nil => exact nofun
  | @cons q tree ids asked answer compiled _ ih =>
    rw [List.forall_mem_cons]
    refine ⟨⟨q, List.mem_cons_self, rfl, tree, compiled⟩, fun id hid => ?_⟩
    obtain ⟨q', hq', h⟩ := ih hanswer id hid
    exact ⟨q', List.mem_cons_of_mem q hq', h⟩
  | failed => cases hanswer

theorem exists_failed {failure : Failure} (h : Asked ids asked (.error failure)) :
    ∃ q ∈ asked, q.compiled = .error failure := by
  generalize hanswer : (.error failure : Except Failure Unit) = answer at h
  induction h with
  | nil => cases hanswer
  | cons _ _ ih =>
    obtain ⟨q, hq, h⟩ := ih hanswer
    exact ⟨q, List.mem_cons_of_mem _ hq, h⟩
  | failed failed =>
    cases hanswer
    exact ⟨_, List.mem_cons_self, failed⟩

/-- If none fails, there is a tree for each. -/
theorem isSome_firstTree?_asked (h : Asked ids asked (.ok ())) {id : String} (hid : id ∈ ids) :
    (firstTree? asked id).isSome = true := by
  obtain ⟨q, hq, rfl, tree, htree⟩ := h.exists_compiled id hid
  rw [Option.isSome_iff_ne_none]
  intro hnone
  obtain ⟨failure, hfailure⟩ := Inquiry.firstTree?_eq_none.mp hnone q hq rfl
  cases htree.symm.trans hfailure

/-- If none fails, none is missing any more. -/
theorem isSome_firstTree? {journal : List Inquiry} (h : Asked (missing journal ids) asked (.ok ()))
    {id : String} (hid : id ∈ ids) : (firstTree? (journal ++ asked) id).isSome = true := by
  rw [Inquiry.firstTree?_append, Option.isSome_or, Bool.or_eq_true]
  cases hjournal : firstTree? journal id with
  | some tree => exact .inl rfl
  | none =>
    have hmissing : id ∈ missing journal ids := by
      rw [missing, List.mem_eraseDups, List.mem_filter, hjournal]
      exact ⟨hid, rfl⟩
    exact .inr (h.isSome_firstTree?_asked hmissing)

end Asked

/-! ### Preparing -/

namespace Renderer

variable {r : Renderer} {journal : List Inquiry} {id text : String}

/-- The templates that have no tree, each once, in the order of their first occurrences. -/
def uncompiled (r : Renderer) (ids : List String) : List String :=
  (ids.filter fun id => !r.isCompiled id).eraseDups

theorem uncompiled_cons_of_compiled (h : r.isCompiled id = true) (ids : List String) :
    r.uncompiled (id :: ids) = r.uncompiled ids := by
  rw [uncompiled, List.filter_cons_of_neg (by simp [h])]
  rfl

theorem uncompiled_cons (h : r.isCompiled id = false) (ids : List String) :
    r.uncompiled (id :: ids) = id :: r.uncompiled (ids.filter fun id' => !id' == id) := by
  rw [uncompiled, List.filter_cons_of_pos (by simp [h]), List.eraseDups_cons, uncompiled,
    List.filter_filter, List.filter_filter]
  simp only [Bool.and_comm]

theorem uncompiled_keep (r : Renderer) (id : String) (tree : Template.Tree) (ids : List String) :
    (r.keep id tree).uncompiled ids = r.uncompiled (ids.filter fun id' => !id' == id) := by
  have hkeep : ∀ id', (r.keep id tree).isCompiled id' = (id' == id || r.isCompiled id') := by
    intro id'
    rw [Bool.eq_iff_iff, isCompiled_keep, Bool.or_eq_true, beq_iff_eq]
  simp only [uncompiled, List.filter_filter, hkeep, Bool.not_or, Bool.and_comm]

/-- What was asked to prepare a renderer, and what has become of it. -/
structure Prepared (r : Renderer) (ids : List String) (asked : List Inquiry)
    (answer : Except Failure Unit) (r' : Renderer) : Prop where
  helpers : r'.helpers = r.helpers
  trees : ∀ id, r'.templates.get? id = (r.templates.get? id).or (firstTree? asked id)
  asked : Asked (r.uncompiled ids) asked answer

/-- A first inquiry that fails, and no other. -/
theorem Prepared.failed (hcompiled : r.isCompiled id = false) {q : Inquiry} {failure : Failure}
    (hid : q.id = id) (hfailure : q.compiled = .error failure) (ids : List String) :
    r.Prepared (id :: ids) [q] (.error failure) r := by
  subst hid
  refine ⟨rfl, fun id => ?_, ?_⟩
  · rw [Inquiry.firstTree?_singleton_of_error hfailure, Option.or_none]
  · rw [uncompiled_cons hcompiled]
    exact .failed hfailure _

/-- A first inquiry that does not fail, and then the others. -/
theorem Prepared.cons (hcompiled : r.isCompiled id = false) {q : Inquiry} {tree : Template.Tree}
    (hid : q.id = id) (htree : q.compiled = .ok tree) {ids : List String} {asked : List Inquiry}
    {answer : Except Failure Unit} {r' : Renderer}
    (h : (r.keep id tree).Prepared ids asked answer r') :
    r.Prepared (id :: ids) (q :: asked) answer r' := by
  subst hid
  refine ⟨h.helpers, fun id => ?_, ?_⟩
  · rw [← List.singleton_append, Inquiry.firstTree?_append,
      Inquiry.firstTree?_singleton_of_ok htree, h.trees, keep, OrderedMap.get?_insert]
    by_cases hid : q.id = id
    · subst hid
      simp [get?_of_not_compiled hcompiled]
    · simp [hid]
  · rw [uncompiled_cons hcompiled, ← uncompiled_keep r q.id tree]
    exact .cons htree h.asked

/-- If no inquiry failed, there is a tree for each template. -/
theorem Prepared.isCompiled {ids : List String} {asked : List Inquiry} {r' : Renderer}
    (h : r.Prepared ids asked (.ok ()) r') (hid : id ∈ ids) : r'.isCompiled id = true := by
  rw [Renderer.isCompiled, OrderedMap.contains, h.trees, Option.isSome_or, Bool.or_eq_true]
  cases hcompiled : r.isCompiled id with
  | true => exact .inl hcompiled
  | false =>
    have huncompiled : id ∈ r.uncompiled ids := by
      rw [uncompiled, List.mem_eraseDups, List.mem_filter, hcompiled]
      exact ⟨hid, rfl⟩
    exact .inr (h.asked.isSome_firstTree?_asked huncompiled)

/-- A first template without a tree is asked for; the others come after it if it compiles. -/
theorem run_prepare_cons {source : TemplateSource (StateM τ)} {t t' : τ}
    {answer : Except SourceFault String} (hcompiled : r.isCompiled id = false)
    (hanswer : (source id).run t = (answer, t')) (ids : List String) :
    (prepare source (id :: ids) r).run t = match (Inquiry.mk id answer).compiled with
      | .error _ => ((r, Inquiry.traced ⟨id, answer⟩), t')
      | .ok tree =>
        let rest := (prepare source ids (r.keep id tree)).run t'
        ((rest.1.1, Inquiry.traced ⟨id, answer⟩ >>= fun _ => rest.1.2), rest.2) := by
  rw [prepare, hcompiled, if_neg Bool.false_ne_true, run_bind_of_run hanswer]
  cases answer with
  | error fault => rfl
  | ok text =>
    cases htree : Template.Parser.parse text with
    | error fault =>
      simp only [attempt_of_parse_error hcompiled htree, Inquiry.compiled_mk_ok, htree,
        Except.mapError, Inquiry.traced]
      rfl
    | ok tree =>
      simp only [attempt_of_parse_ok hcompiled htree, Inquiry.compiled_mk_ok, htree,
        Except.mapError, Inquiry.traced, bind_assoc, pure_bind]
      rfl

/-- Preparing asks for what has no tree, up to the first that fails, and goes through the stages of
these inquiries. -/
theorem prepare_asks (source : TemplateSource (StateM τ)) (ids : List String) (r : Renderer)
    (t : τ) (journal : List Inquiry) :
    ∃ r' prepared t' asked, (prepare source ids r).run t = ((r', prepared), t') ∧
      (prepare source.recorded ids r).run (t, journal) = ((r', prepared), t', journal ++ asked) ∧
      r.Prepared ids asked prepared.result r' ∧
      Performed (asked.flatMap Inquiry.stages) prepared := by
  induction ids generalizing r journal t with
  | nil =>
    refine ⟨r, pure (), t, [], rfl, ?_, ⟨rfl, fun id => ?_, .nil⟩, .done ()⟩
    · rw [List.append_nil]
      rfl
    · exact (Option.or_none).symm
  | cons id ids ih =>
    cases hcompiled : r.isCompiled id with
    | true =>
      rw [prepare, prepare, hcompiled, if_pos rfl, if_pos rfl]
      obtain ⟨r', prepared, t', asked, hrun, hrecorded, hprepared, hperformed⟩ := ih r t journal
      refine ⟨r', prepared, t', asked, hrun, hrecorded, ⟨hprepared.helpers, hprepared.trees, ?_⟩,
        hperformed⟩
      rw [uncompiled_cons_of_compiled hcompiled]
      exact hprepared.asked
    | false =>
      obtain ⟨answer, t', hanswer⟩ : ∃ answer t', (source id).run t = (answer, t') :=
        ⟨_, _, rfl⟩
      have hask : (source.recorded id).run (t, journal) =
          (answer, t', journal ++ [⟨id, answer⟩]) := by
        simp only [TemplateSource.recorded, StateT.run] at hanswer ⊢
        rw [hanswer]
      rw [run_prepare_cons hcompiled hanswer, run_prepare_cons hcompiled hask]
      have hfirst := Inquiry.performed_traced ⟨id, answer⟩
      cases hq : (Inquiry.mk id answer).compiled with
      | error failure =>
        refine ⟨r, _, t', [⟨id, answer⟩], rfl, rfl, ?_, ?_⟩
        · rw [Inquiry.result_traced, hq]
          exact .failed hcompiled rfl hq ids
        · rwa [List.flatMap_singleton]
      | ok tree =>
        obtain ⟨r', prepared, t'', asked, hrun, hrecorded, hprepared, hperformed⟩ :=
          ih (r.keep id tree) t' (journal ++ [⟨id, answer⟩])
        simp only [hrun, hrecorded, List.append_assoc]
        refine ⟨r', _, t'', ⟨id, answer⟩ :: asked, rfl, rfl, ?_, hfirst.bind fun _ _ => hperformed⟩
        rw [Traced.result_bind, Inquiry.result_traced, hq]
        exact .cons hcompiled rfl hq hprepared

/-! ### What a renderer remembers -/

theorem Remembers.new (helpers : HelperSet) : (new helpers).Remembers [] :=
  ⟨fun _ => rfl, .nil⟩

theorem Remembers.isCompiled (h : r.Remembers journal) (id : String) :
    r.isCompiled id = (firstTree? journal id).isSome := by
  rw [Renderer.isCompiled, OrderedMap.contains, h.trees]

/-- What has no tree is what is missing in the journal. -/
theorem Remembers.uncompiled_eq (h : r.Remembers journal) (ids : List String) :
    r.uncompiled ids = missing journal ids := by
  simp only [uncompiled, missing, h.isCompiled, Option.not_isSome]

/-- Only what is missing is asked for, and it is asked for once. -/
theorem Remembers.prepared (h : r.Remembers journal) {ids : List String} {asked : List Inquiry}
    {answer : Except Failure Unit} {r' : Renderer} (hprepared : r.Prepared ids asked answer r') :
    r'.Remembers (journal ++ asked) := by
  have hasked := hprepared.asked
  rw [h.uncompiled_eq] at hasked
  constructor
  · intro id
    rw [hprepared.trees, Inquiry.firstTree?_append, h.trees]
  · refine List.pairwise_append.mpr ⟨h.once, ?_, ?_⟩
    · have hnodup := hasked.isPrefix.sublist.nodup (Inquiry.nodup_missing journal ids)
      exact (List.pairwise_map.mp hnodup).imp fun hne heq => absurd heq hne
    · intro q hq q' hq' heq
      have hmissing := hasked.isPrefix.sublist.subset (List.mem_map_of_mem hq')
      rw [missing, List.mem_eraseDups, List.mem_filter, Option.isNone_iff_eq_none] at hmissing
      exact Inquiry.firstTree?_eq_none.mp hmissing.2 q hq heq

/-- Preparing asks for what is missing, up to the first that fails, and keeps what is compiled. -/
theorem prepare_recorded (source : TemplateSource (StateM τ)) (ids : List String)
    (h : r.Remembers journal) (t : τ) :
    ∃ trees prepared t' asked, (prepare source.recorded ids r).run (t, journal) =
        ((⟨r.helpers, trees⟩, prepared), t', journal ++ asked) ∧
      Remembers ⟨r.helpers, trees⟩ (journal ++ asked) ∧
      Asked (missing journal ids) asked prepared.result := by
  obtain ⟨⟨helpers, trees⟩, prepared, t', asked, -, hrecorded, hprepared, -⟩ :=
    prepare_asks source ids r t journal
  obtain rfl : helpers = r.helpers := hprepared.helpers
  refine ⟨trees, prepared, t', asked, hrecorded, h.prepared hprepared, ?_⟩
  rw [← h.uncompiled_eq]
  exact hprepared.asked

end Renderer

end ContractPress
