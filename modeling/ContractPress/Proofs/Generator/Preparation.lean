import ContractPress.Generator.Basic
import ContractPress.Proofs.Buckets
import ContractPress.Proofs.Entries

/-!
What it comes to that templates are compiled once and then kept.

While the sources stay the same, preparing gives a tree to each template, or stops at one that has
none (`prepare_spec`). What has been prepared makes no difference to preparing: it comes to the same
end as it did before (`prepare_prepare`).
-/

namespace ContractPress

variable {texts : TemplateSource Id}

/-- The source of a template is there, and this is its tree. -/
def Compiles (texts : TemplateSource Id) (id : String) (tree : Template.Tree) : Prop :=
  ∃ text, texts id = .ok text ∧ Template.Parser.parse text = .ok tree

theorem compiles_iff {id text : String} {tree : Template.Tree} (htext : texts id = .ok text) :
    Compiles texts id tree ↔ Template.Parser.parse text = .ok tree := by
  constructor
  · intro h
    obtain ⟨text', htext', htree⟩ := h
    obtain rfl := Except.ok.inj (htext.symm.trans htext')
    exact htree
  · exact fun htree => ⟨text, htext, htree⟩

theorem Compiles.unique {id : String} {tree tree' : Template.Tree} (h : Compiles texts id tree)
    (h' : Compiles texts id tree') : tree = tree' := by
  obtain ⟨text, htext, htree⟩ := h
  exact Except.ok.inj (htree.symm.trans ((compiles_iff htext).mp h'))

/-- The trees of these templates in the order of their first occurrences, and no others. -/
structure IsCompilation (texts : TemplateSource Id) (ids : List String)
    (trees : OrderedMap Template.Tree) : Prop where
  keys : trees.keys = ids.eraseDups
  compiles : ∀ e ∈ trees.entries, Compiles texts e.1 e.2

namespace IsCompilation

variable {ids : List String} {trees trees' : OrderedMap Template.Tree}

theorem empty : IsCompilation texts [] .empty :=
  ⟨rfl, fun _ h => absurd h List.not_mem_nil⟩

theorem mem_keys (h : IsCompilation texts ids trees) {id : String} :
    id ∈ trees.keys ↔ id ∈ ids := by
  rw [h.keys, List.mem_eraseDups]

theorem again (h : IsCompilation texts ids trees) {id : String} (hid : id ∈ ids) :
    IsCompilation texts (ids ++ [id]) trees := by
  refine ⟨?_, h.compiles⟩
  rw [eraseDups_append_singleton, if_pos hid]
  exact h.keys

theorem insert (h : IsCompilation texts ids trees) {id : String} {tree : Template.Tree}
    (hid : id ∉ ids) (htree : Compiles texts id tree) :
    IsCompilation texts (ids ++ [id]) (trees.insert id tree) := by
  have hentries : (trees.insert id tree).entries = trees.entries ++ [(id, tree)] :=
    Entries.insert_of_not_mem (fun hm => hid (h.mem_keys.mp hm)) tree
  constructor
  · rw [OrderedMap.keys, hentries, eraseDups_append_singleton, if_neg hid, ← h.keys]
    simp [OrderedMap.keys, Entries.keys]
  · rw [hentries]
    exact List.forall_mem_append.mpr ⟨h.compiles, by simpa using htree⟩

theorem unique (h : IsCompilation texts ids trees) (h' : IsCompilation texts ids trees') :
    trees = trees' :=
  OrderedMap.ext_entries <|
    Entries.eq_of_keys_eq (P := Compiles texts) Compiles.unique (h.keys.trans h'.keys.symm)
      h.compiles h'.compiles

theorem get?_eq_some_iff (h : IsCompilation texts ids trees) {id : String}
    {tree : Template.Tree} : trees.get? id = some tree ↔ id ∈ ids ∧ Compiles texts id tree := by
  rw [OrderedMap.get?, Entries.get?_eq_some_iff trees.nodup]
  constructor
  · intro hmem
    exact ⟨h.mem_keys.mp (List.mem_map_of_mem hmem), h.compiles _ hmem⟩
  · intro hid
    obtain ⟨hid, htree⟩ := hid
    obtain ⟨e, he, rfl⟩ := List.mem_map.mp (h.mem_keys.mpr hid)
    rwa [htree.unique (h.compiles e he)]

/-- Compilations of the same templates give the same trees, whatever the order. -/
theorem get?_eq {ids' : List String} (h : IsCompilation texts ids trees)
    (h' : IsCompilation texts ids' trees') (hids : ∀ id, id ∈ ids ↔ id ∈ ids') (id : String) :
    trees.get? id = trees'.get? id := by
  apply Option.ext
  intro tree
  rw [h.get?_eq_some_iff, h'.get?_eq_some_iff, hids]

end IsCompilation

namespace Renderer

variable {ids : List String} {r : Renderer}

theorem isCompiled_iff {id : String} : r.isCompiled id = true ↔ id ∈ r.templates.keys := by
  rw [isCompiled, OrderedMap.contains, OrderedMap.get?, Option.isSome_iff_ne_none, ne_eq,
    Entries.get?_eq_none_iff, not_not]
  rfl

section

variable {id text : String} (hcompiled : r.isCompiled id = false)
include hcompiled

theorem get?_of_not_compiled : r.templates.get? id = none := by
  rwa [isCompiled, OrderedMap.contains, Option.isSome_eq_false_iff,
    Option.isNone_iff_eq_none] at hcompiled

theorem attempt_of_parse_ok {tree : Template.Tree}
    (hparse : Template.Parser.parse text = .ok tree) :
    r.attempt id text = (.ok (), r.keep id tree) := by
  rw [attempt, compile, hcompiled, hparse]
  rfl

theorem attempt_of_parse_error {fault : Template.Fault}
    (hparse : Template.Parser.parse text = .error fault) :
    r.attempt id text = (.error (.templateCompile id fault), r) := by
  rw [attempt, compile, hcompiled, hparse]
  rfl

end

theorem attempt_of_compiled {id : String} (h : r.isCompiled id = true) (source : String) :
    r.attempt id source = (.ok (), r) := by
  rw [attempt, compile, if_pos h]

/-- A call does nothing, or it fails and does nothing, or it adds the tree of its source. -/
theorem attempt_cases (r : Renderer) (id source : String) :
    (r.isCompiled id = true ∧ r.attempt id source = (.ok (), r)) ∨
    (r.isCompiled id = false ∧ ∃ fault, Template.Parser.parse source = .error fault ∧
      r.attempt id source = (.error (.templateCompile id fault), r)) ∨
    (r.isCompiled id = false ∧ ∃ tree, Template.Parser.parse source = .ok tree ∧
      r.attempt id source = (.ok (), r.keep id tree)) := by
  cases h : r.isCompiled id with
  | true => exact .inl ⟨rfl, attempt_of_compiled h source⟩
  | false =>
    right
    cases hparse : Template.Parser.parse source with
    | error fault => exact .inl ⟨rfl, fault, rfl, attempt_of_parse_error h hparse⟩
    | ok tree => exact .inr ⟨rfl, tree, rfl, attempt_of_parse_ok h hparse⟩

/-- The first template is passed over, or nothing more is done, or its tree is kept. -/
theorem prepare_cases (texts : TemplateSource Id) (id : String) (ids : List String)
    (r : Renderer) :
    (r.isCompiled id = true ∧ prepare texts (id :: ids) r = prepare texts ids r) ∨
    (r.isCompiled id = false ∧ (∀ tree, ¬Compiles texts id tree) ∧
      (prepare texts (id :: ids) r).1 = r ∧
      ∃ failure, (prepare texts (id :: ids) r).2.result = .error failure) ∨
    (r.isCompiled id = false ∧ ∃ tree, Compiles texts id tree ∧
      (prepare texts (id :: ids) r).1 = (prepare texts ids (r.keep id tree)).1 ∧
      (prepare texts (id :: ids) r).2.result = (prepare texts ids (r.keep id tree)).2.result) := by
  rw [prepare]
  split
  · rename_i hcompiled
    exact .inl ⟨hcompiled, rfl⟩
  rename_i hcompiled
  rw [Bool.not_eq_true] at hcompiled
  right
  cases htext : texts id with
  | error fault =>
    left
    refine ⟨hcompiled, ?_, rfl, _, rfl⟩
    intro tree h
    obtain ⟨text, htext', -⟩ := h
    cases htext.symm.trans htext'
  | ok text =>
    rcases attempt_cases r id text with
      ⟨hcompiled', -⟩ | ⟨-, fault, hparse, he⟩ | ⟨-, tree, hparse, he⟩
    · cases hcompiled.symm.trans hcompiled'
    · left
      refine ⟨hcompiled, ?_, ?_⟩
      · intro tree h
        cases hparse.symm.trans ((compiles_iff htext).mp h)
      · dsimp only [bind, pure]
        rw [he]
        exact ⟨rfl, _, rfl⟩
    · right
      refine ⟨hcompiled, tree, (compiles_iff htext).mpr hparse, ?_⟩
      dsimp only [bind, pure]
      rw [he]
      exact ⟨rfl, rfl⟩

theorem isCompiled_keep (id id' : String) (tree : Template.Tree) :
    (r.keep id tree).isCompiled id' = true ↔ id' = id ∨ r.isCompiled id' = true := by
  rw [isCompiled_iff, isCompiled_iff]
  exact Entries.mem_keys_insert id id' tree r.templates.entries

/-- What is compiled stays so. -/
theorem isCompiled_prepare {id : String} (h : r.isCompiled id = true) :
    (prepare texts ids r).1.isCompiled id = true := by
  induction ids generalizing r with
  | nil => exact h
  | cons id' ids ih =>
    rcases prepare_cases texts id' ids r with
      ⟨-, he⟩ | ⟨-, -, he, -⟩ | ⟨-, tree, -, he, -⟩
    · rw [he]
      exact ih h
    · rwa [he]
    · rw [he]
      exact ih ((isCompiled_keep id' id tree).mpr (.inr h))

theorem isCompiled_of_prepare {id : String} (hid : id ∈ ids)
    (hok : (prepare texts ids r).2.result = .ok ()) :
    (prepare texts ids r).1.isCompiled id = true := by
  induction ids generalizing r with
  | nil => cases hid
  | cons id' ids ih =>
    rcases prepare_cases texts id' ids r with
      ⟨hcompiled, he⟩ | ⟨-, -, -, failure, he⟩ | ⟨-, tree, -, he, hresult⟩
    · rw [he] at hok ⊢
      cases hid with
      | head => exact isCompiled_prepare hcompiled
      | tail _ hid => exact ih hid hok
    · cases hok.symm.trans he
    · rw [hresult] at hok
      rw [he]
      cases hid with
      | head => exact isCompiled_prepare ((isCompiled_keep id id tree).mpr (.inl rfl))
      | tail _ hid => exact ih hid hok

@[simp]
theorem helpers_prepare (texts : TemplateSource Id) (ids : List String) (r : Renderer) :
    (prepare texts ids r).1.helpers = r.helpers := by
  induction ids generalizing r with
  | nil => rfl
  | cons id ids ih =>
    rcases prepare_cases texts id ids r with
      ⟨-, he⟩ | ⟨-, -, he, -⟩ | ⟨-, tree, -, he, -⟩
    · rw [he, ih]
    · rw [he]
    · rw [he, ih]
      rfl

/-- Preparing compiles the templates one after the other, or fails at one without a tree. -/
theorem prepare_spec {done : List String} (h : IsCompilation texts done r.templates)
    (ids : List String) :
    ((prepare texts ids r).2.result = .ok () ∧
      IsCompilation texts (done ++ ids) (prepare texts ids r).1.templates) ∨
    ∃ failure, (prepare texts ids r).2.result = .error failure ∧
      ∃ id ∈ ids, ∀ tree, ¬Compiles texts id tree := by
  induction ids generalizing r done with
  | nil => exact .inl ⟨rfl, by rwa [List.append_nil]⟩
  | cons id ids ih =>
    have hcons : done ++ id :: ids = done ++ [id] ++ ids := by simp
    rcases prepare_cases texts id ids r with
      ⟨hcompiled, he⟩ | ⟨-, htree, -, failure, he⟩ | ⟨hcompiled, tree, htree, he, hresult⟩
    · have hdone := h.again (h.mem_keys.mp (isCompiled_iff.mp hcompiled))
      rw [he, hcons]
      apply (ih hdone).imp_right
      intro h
      obtain ⟨failure, hfailure, id', hid', hnone⟩ := h
      exact ⟨failure, hfailure, id', List.mem_cons_of_mem id hid', hnone⟩
    · exact .inr ⟨failure, he, id, List.mem_cons_self, htree⟩
    · have hnew : id ∉ done := by
        rw [← h.mem_keys, ← isCompiled_iff, hcompiled]
        exact Bool.false_ne_true
      rw [he, hresult, hcons]
      apply (ih (r := r.keep id tree) (h.insert hnew htree)).imp_right
      intro h
      obtain ⟨failure, hfailure, id', hid', hnone⟩ := h
      exact ⟨failure, hfailure, id', List.mem_cons_of_mem id hid', hnone⟩

/-- From the beginning, preparing succeeds with these trees exactly if they are the compilation of
the templates. -/
theorem prepare_new_eq_ok (texts : TemplateSource Id) (ids : List String) (helpers : HelperSet)
    (trees : OrderedMap Template.Tree) :
    ((prepare texts ids (new helpers)).2.result = .ok () ∧
        (prepare texts ids (new helpers)).1 = ⟨helpers, trees⟩) ↔
      IsCompilation texts ids trees := by
  have hhelpers := helpers_prepare texts ids (new helpers)
  rcases prepare_spec (r := new helpers) IsCompilation.empty ids with
    ⟨hok, hcompilation⟩ | ⟨failure, herror, id, hid, hnone⟩
  · rw [List.nil_append] at hcompilation
    generalize prepare texts ids (new helpers) = prepared at *
    obtain ⟨⟨helpers', trees'⟩, x⟩ := prepared
    constructor
    · intro h
      obtain ⟨-, he⟩ := h
      cases he
      exact hcompilation
    · intro h
      refine ⟨hok, ?_⟩
      rw [Renderer.mk.injEq]
      exact ⟨hhelpers, hcompilation.unique h⟩
  · constructor
    · intro h
      obtain ⟨hok, -⟩ := h
      cases hok.symm.trans herror
    · intro h
      obtain ⟨e, he, rfl⟩ := List.mem_map.mp (h.mem_keys.mpr hid)
      exact absurd (h.compiles e he) (hnone e.2)

/-- Preparing again changes nothing, and it succeeds or fails as it did. -/
theorem prepare_prepare (texts : TemplateSource Id) (ids : List String) (r : Renderer) :
    (prepare texts ids (prepare texts ids r).1).1 = (prepare texts ids r).1 ∧
      (prepare texts ids (prepare texts ids r).1).2.result = (prepare texts ids r).2.result := by
  -- what the first run has kept the second passes over; where the first stopped the second stops
  induction ids generalizing r with
  | nil => exact ⟨rfl, rfl⟩
  | cons id ids ih =>
    have hskip : ∀ r : Renderer, r.isCompiled id = true →
        prepare texts (id :: ids) r = prepare texts ids r := fun r h => by
      rw [prepare, if_pos h]
    rcases prepare_cases texts id ids r with
      ⟨hcompiled, he⟩ | ⟨-, -, he, -⟩ | ⟨-, tree, -, he, hresult⟩
    · rw [he, hskip _ (isCompiled_prepare hcompiled)]
      exact ih r
    · rw [he]
      exact ⟨he, rfl⟩
    · have hcompiled := (isCompiled_keep (r := r) id id tree).mpr (.inl rfl)
      rw [he, hresult, hskip _ (isCompiled_prepare hcompiled)]
      exact ih (r.keep id tree)

end Renderer

end ContractPress
