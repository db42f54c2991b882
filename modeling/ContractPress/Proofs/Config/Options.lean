import ContractPress.Config.Reader
import ContractPress.Proofs.Entries
import ContractPress.Proofs.Results

/-!
The options of a rule, which are the rule again when they are read as one.

A rule's own fields come first in its options, and then the further ones. Both kinds of rules have
their fields in this form (`OwnThenFurther`), and a decoder finds in it what was put there, so that
nothing is lost or taken for something else (`options_round_trip`).
-/

namespace ContractPress

/-! ### Fields of an object -/

namespace Entries

theorem filter_eq_get? {α : Type} {es : Entries String α} (h : es.keys.Nodup) (name : String) :
    es.filter (·.1 = name) = ((es.get? name).map fun v => (name, v)).toList := by
  induction es with
  | nil => rfl
  | cons e rest ih =>
    obtain ⟨hnew, hrest⟩ := List.nodup_cons.mp h
    by_cases he : e.1 = name
    · have hnone : get? name rest = none := get?_eq_none_iff.mpr (he ▸ hnew)
      rw [List.filter_cons, if_pos (decide_eq_true he), ih hrest, hnone, get?, if_pos he, ← he]
      rfl
    · rw [List.filter_cons, if_neg (by simpa using he), ih hrest, get?, if_neg he]

end Entries

/-- A map is the one that its entries describe. -/
theorem OrderedMap.ofList_entries {α : Type} (m : OrderedMap α) : ofList m.entries = m :=
  ext_entries (Entries.ofList_eq_self m.nodup)

namespace Decoder

variable {ν α : Type} {d : Decoder ν}

theorem field?_of_nodup {entries : Entries String ν} (h : entries.keys.Nodup)
    (read : ν → Option α) (missing : Option α) (name : String) :
    field? read missing name entries = (entries.get? name).elim missing read := by
  rw [field?, Entries.filter_eq_get? h]
  cases entries.get? name <;> rfl

theorem field?_eq_some {read : ν → Option α} {missing : Option α} {name : String}
    {entries : List (String × ν)} {a : α} (h : field? read missing name entries = some a) :
    missing = some a ∨ ∃ v, read v = some a := by
  unfold field? at h
  split at h
  · exact .inl h
  · exact .inr ⟨_, h⟩
  · cases h

/-! ### What is read -/

/-- The further fields that are read have none of a rule's own names. -/
theorem not_mem_of_extra? {ownNames : List String} {entries : List (String × ν)}
    {extra : OrderedMap Json} (h : d.extra? ownNames entries = some extra) {name : String}
    (hname : name ∈ extra.keys) : name ∉ ownNames := by
  obtain ⟨further, hfurther, hextra⟩ := Option.bind_eq_some_iff.mp h
  obtain rfl := Option.some.inj hextra
  obtain ⟨f, hf, rfl⟩ := List.mem_map.mp hname
  obtain ⟨e, he, hread⟩ :=
    exists_of_mem_right (mapM_eq_some.mp hfurther) (Entries.mem_of_mem_ofList hf)
  obtain ⟨j, -, hj⟩ := Option.bind_eq_some_iff.mp hread
  obtain rfl := Option.some.inj hj
  simpa using (List.mem_filter.mp he).2

theorem exists_of_mem_rules? {rule? : ν → Option α} {value : ν} {rules : OrderedMap α}
    (h : d.rules? rule? value = some rules) {e : String × α} (he : e ∈ rules.entries) :
    ∃ v, rule? v = some e.2 := by
  obtain ⟨entries, -, hrules⟩ := Option.bind_eq_some_iff.mp h
  obtain ⟨read, hread, hrules⟩ := Option.bind_eq_some_iff.mp hrules
  obtain rfl := Option.some.inj hrules
  obtain ⟨f, -, hf⟩ := exists_of_mem_right (mapM_eq_some.mp hread) (Entries.mem_of_mem_ofList he)
  obtain ⟨rule, hrule, hf⟩ := Option.bind_eq_some_iff.mp hf
  obtain rfl := Option.some.inj hf
  exact ⟨f.2, hrule⟩

theorem apart_of_definitionRule? {value : ν} {rule : DefinitionRule}
    (h : d.definitionRule? value = some rule) :
    ∀ name ∈ rule.extra.keys, name ∉ DefinitionRule.ownNames := by
  simp only [definitionRule?, Option.bind_eq_bind, Option.bind_eq_some_iff] at h
  obtain ⟨entries, -, target, -, extension, -, extra, hextra, hrule⟩ := h
  obtain rfl := Option.some.inj hrule
  exact fun name => not_mem_of_extra? hextra

theorem apart_of_routeRule? {value : ν} {rule : RouteRule}
    (h : d.routeRule? value = some rule) :
    ∀ name ∈ rule.extra.keys, name ∉ RouteRule.ownNames := by
  simp only [routeRule?, Option.bind_eq_bind, Option.bind_eq_some_iff] at h
  obtain ⟨entries, -, target, -, extension, -, groupBy, -, operations, -, implementation, -,
    definitions, -, extra, hextra, hrule⟩ := h
  obtain rfl := Option.some.inj hrule
  exact fun name => not_mem_of_extra? hextra

/-- Rules of a table are read one by one; a table that is missing has none. -/
theorem exists_of_mem_table {rule? : ν → Option α} {name : String} {entries : List (String × ν)}
    {rules : OrderedMap α} (h : field? (d.rules? rule?) (some .empty) name entries = some rules)
    {rule : α} (hrule : rule ∈ rules.values) : ∃ v, rule? v = some rule := by
  obtain ⟨e, he, rfl⟩ := List.mem_map.mp hrule
  rcases field?_eq_some h with hempty | ⟨v, hv⟩
  · obtain rfl := Option.some.inj hempty
    cases he
  · exact exists_of_mem_rules? hv he

theorem rules_of_config? {value : ν} {c : Config} (h : d.config? value = some c) :
    (∀ rule ∈ c.perDefinition.values, ∃ v, d.definitionRule? v = some rule) ∧
      ∀ rule ∈ c.perPath.values, ∃ v, d.routeRule? v = some rule := by
  simp only [config?, Option.bind_eq_bind, Option.bind_eq_some_iff] at h
  obtain ⟨entries, -, perDefinition, hdefinitions, perPath, hpaths, hc⟩ := h
  obtain rfl := Option.some.inj hc
  exact ⟨fun _ => exists_of_mem_table hdefinitions, fun _ => exists_of_mem_table hpaths⟩

end Decoder

/-! ### What is written -/

/-- Fields of a rule's own, and further ones that have none of its names. -/
structure OwnThenFurther (ownNames : List String) (own : Entries String Json)
    (further : OrderedMap Json) : Prop where
  distinct : ownNames.Nodup
  /-- The rule has fields of its own names, each once, but it need not have them all. -/
  named : own.keys.Sublist ownNames
  apart : ∀ name ∈ further.keys, name ∉ ownNames

namespace OwnThenFurther

variable {ownNames : List String} {own : Entries String Json} {further : OrderedMap Json}

theorem nodup (h : OwnThenFurther ownNames own further) :
    Entries.keys (own ++ further.entries) |>.Nodup := by
  rw [Entries.keys, List.map_append, List.nodup_append]
  refine ⟨h.distinct.sublist h.named, further.nodup, ?_⟩
  rintro name hname _ hname' rfl
  exact h.apart name hname' (h.named.subset hname)

theorem ofList_eq (h : OwnThenFurther ownNames own further) :
    Entries.ofList (own ++ further.entries) = own ++ further.entries :=
  Entries.ofList_eq_self h.nodup

/-- A field of one of the rule's own names is read from its own fields. -/
theorem field? {α : Type} (h : OwnThenFurther ownNames own further) (read : Json → Option α)
    (missing : Option α) (name : String) (hname : name ∈ ownNames) :
    Decoder.field? read missing name (own ++ further.entries) =
      (own.get? name).elim missing read := by
  have hfurther : further.entries.get? name = none :=
    Entries.get?_eq_none_iff.mpr fun hmem => h.apart name hmem hname
  rw [Decoder.field?_of_nodup h.nodup, Entries.get?_append, hfurther, Option.or_none]

/-- The further fields are read as they are. -/
theorem extra? (h : OwnThenFurther ownNames own further) :
    Json.decoder.extra? ownNames (own ++ further.entries) = some further := by
  have hown : own.filter (fun e => !ownNames.contains e.1) = [] := by
    rw [List.filter_eq_nil_iff]
    intro e he
    simpa using h.named.subset (List.mem_map_of_mem he)
  have hfurther : further.entries.filter (fun e => !ownNames.contains e.1) = further.entries := by
    rw [List.filter_eq_self]
    intro e he
    simpa using h.apart e.1 (List.mem_map_of_mem he)
  have hread : further.entries.mapM (fun e => do return (e.1, ← Json.decoder.json? e.2)) =
      some further.entries := by
    rw [mapM_eq_some, List.forall₂_same]
    exact fun e _ => rfl
  rw [Decoder.extra?, List.filter_append, hown, hfurther, List.nil_append, hread]
  exact congrArg some further.ofList_entries

end OwnThenFurther

theorem Json.texts?_array (texts : List String) :
    texts? (.array (texts.map .string)) = some texts := by
  rw [texts?, mapM_eq_some, List.forall₂_map_left_iff, List.forall₂_same]
  exact fun text _ => rfl

/-! ### Rules -/

theorem DefinitionRule.ownThenFurther {rule : DefinitionRule}
    (h : ∀ name ∈ rule.extra.keys, name ∉ ownNames) :
    OwnThenFurther ownNames rule.ownFields rule.extra :=
  ⟨by decide, .refl _, h⟩

theorem DefinitionRule.options_eq {rule : DefinitionRule}
    (h : ∀ name ∈ rule.extra.keys, name ∉ ownNames) :
    rule.options = .object (rule.ownFields ++ rule.extra.entries) :=
  congrArg Json.object (ownThenFurther h).ofList_eq

theorem DefinitionRule.definitionRule?_options {rule : DefinitionRule}
    (h : ∀ name ∈ rule.extra.keys, name ∉ ownNames) :
    Json.decoder.definitionRule? rule.options = some rule := by
  have hfields := ownThenFurther h
  have htarget := hfields.field? Json.text? (some "") "target" (by decide)
  have hextension := hfields.field? Json.text? (some "") "extension" (by decide)
  simp only [options_eq h, Decoder.definitionRule?, Option.bind_eq_bind, Option.bind_eq_some_iff]
  exact ⟨_, rfl, _, htarget, _, hextension, _, hfields.extra?, rfl⟩

/-- A field that is left out if there is no value takes no more than its name. -/
theorem keys_optionalField (name : String) (value : Option String) :
    (Entries.keys (optionalField name value)).Sublist [name] := by
  cases value with
  | none => exact List.nil_sublist [name]
  | some text => exact .refl [name]

theorem RouteRule.ownThenFurther {rule : RouteRule}
    (h : ∀ name ∈ rule.extra.keys, name ∉ ownNames) :
    OwnThenFurther ownNames rule.ownFields rule.extra where
  distinct := by decide
  named := by
    rw [ownFields, Entries.keys, List.map_append, List.map_append]
    exact ((List.Sublist.refl _).append (keys_optionalField _ _)).append (keys_optionalField _ _)
  apart := h

theorem RouteRule.options_eq {rule : RouteRule}
    (h : ∀ name ∈ rule.extra.keys, name ∉ ownNames) :
    rule.options = .object (rule.ownFields ++ rule.extra.entries) :=
  congrArg Json.object (ownThenFurther h).ofList_eq

theorem RouteRule.routeRule?_options {rule : RouteRule}
    (h : ∀ name ∈ rule.extra.keys, name ∉ ownNames) :
    Json.decoder.routeRule? rule.options = some rule := by
  have hfields := ownThenFurther h
  have htarget := hfields.field? Json.text? (some "") "target" (by decide)
  have hextension := hfields.field? Json.text? (some "") "extension" (by decide)
  have hgroupBy := hfields.field? Json.text? none "groupBy" (by decide)
  have hoperations : Decoder.field? Json.texts? (some defaultVerbs) "operations"
      (rule.ownFields ++ rule.extra.entries) = some rule.operations :=
    (hfields.field? _ _ _ (by decide)).trans (Json.texts?_array rule.operations)
  have himplementation : Decoder.field? Json.optionalText? (some none) "implementationPath"
      (rule.ownFields ++ rule.extra.entries) = some rule.implementationPath := by
    rw [hfields.field? _ _ _ (by decide), ownFields]
    cases rule.implementationPath <;> cases rule.defsRelativeToController <;> rfl
  have hdefinitions : Decoder.field? Json.optionalText? (some none) "defsRelativeToController"
      (rule.ownFields ++ rule.extra.entries) = some rule.defsRelativeToController := by
    rw [hfields.field? _ _ _ (by decide), ownFields]
    cases rule.implementationPath <;> cases rule.defsRelativeToController <;> rfl
  simp only [options_eq h, Decoder.routeRule?, Option.bind_eq_bind, Option.bind_eq_some_iff]
  exact ⟨_, rfl, _, htarget, _, hextension, _, hgroupBy, _, hoperations, _, himplementation, _,
    hdefinitions, _, hfields.extra?, rfl⟩

/-! ### Rules that are given -/

/-- The configuration has been read from a text. -/
def Config.IsRead (c : Config) : Prop :=
  ∃ text, ofYaml text = .ok c ∨ ofToml text = .ok c

/-- The rule has been read from a text, or its further fields have none of its own names. -/
def DefinitionRule.IsGiven (rule : DefinitionRule) : Prop :=
  (∃ c : Config, c.IsRead ∧ rule ∈ c.perDefinition.values) ∨
    ∀ name ∈ rule.extra.keys, name ∉ ownNames

def RouteRule.IsGiven (rule : RouteRule) : Prop :=
  (∃ c : Config, c.IsRead ∧ rule ∈ c.perPath.values) ∨
    ∀ name ∈ rule.extra.keys, name ∉ ownNames

theorem Config.eq_some_of_checked {read : Option Config} {c : Config} (h : checked read = .ok c) :
    read = some c := by
  cases read with
  | none => cases h
  | some c' =>
    obtain ⟨-, -, hc⟩ := bind_eq_ok.mp h
    rw [pure_eq_ok.mp hc]

theorem Config.IsRead.exists_decoded {c : Config} (h : c.IsRead) :
    ∃ (ν : Type) (d : Decoder ν) (value : ν), d.config? value = some c := by
  obtain ⟨text, hyaml | htoml⟩ := h
  · have hread := eq_some_of_checked hyaml
    split at hread
    · exact ⟨_, _, _, hread⟩
    · cases hread
  · obtain ⟨value, -, hvalue⟩ := Option.bind_eq_some_iff.mp (eq_some_of_checked htoml)
    exact ⟨_, _, _, hvalue⟩

theorem DefinitionRule.IsGiven.apart {rule : DefinitionRule} (h : rule.IsGiven) :
    ∀ name ∈ rule.extra.keys, name ∉ ownNames := by
  rcases h with ⟨c, hread, hrule⟩ | h
  · obtain ⟨ν, d, value, hvalue⟩ := hread.exists_decoded
    obtain ⟨v, hv⟩ := (Decoder.rules_of_config? hvalue).1 rule hrule
    exact Decoder.apart_of_definitionRule? hv
  · exact h

theorem RouteRule.IsGiven.apart {rule : RouteRule} (h : rule.IsGiven) :
    ∀ name ∈ rule.extra.keys, name ∉ ownNames := by
  rcases h with ⟨c, hread, hrule⟩ | h
  · obtain ⟨ν, d, value, hvalue⟩ := hread.exists_decoded
    obtain ⟨v, hv⟩ := (Decoder.rules_of_config? hvalue).2 rule hrule
    exact Decoder.apart_of_routeRule? hv
  · exact h

theorem optionalField_eq (name : String) (value : Option String) :
    optionalField name value = (value.map fun text => (name, .string text)).toList := by
  cases value <;> rfl

/-- The options of a rule are its own fields, those without a value left out, and then the further
ones as they are; no two have one name. Read as a rule of the same kind they are that rule. -/
theorem options_round_trip :
    (∀ rule : DefinitionRule, rule.IsGiven → ∃ fields : Entries String Json,
      rule.options = .object fields ∧
      fields = [("target", .string rule.target), ("extension", .string rule.extension)] ++
        rule.extra.entries ∧
      fields.keys.Nodup ∧ Json.decoder.definitionRule? rule.options = some rule) ∧
    ∀ rule : RouteRule, rule.IsGiven → ∃ fields : Entries String Json,
      rule.options = .object fields ∧
      fields = [("target", .string rule.target), ("extension", .string rule.extension),
          ("groupBy", .string rule.groupBy),
          ("operations", .array (rule.operations.map .string))] ++
        (rule.implementationPath.map fun path => ("implementationPath", .string path)).toList ++
        (rule.defsRelativeToController.map fun path =>
          ("defsRelativeToController", .string path)).toList ++
        rule.extra.entries ∧
      fields.keys.Nodup ∧ Json.decoder.routeRule? rule.options = some rule := by
  refine ⟨fun rule h => ?_, fun rule h => ?_⟩
  · exact ⟨_, DefinitionRule.options_eq h.apart, rfl, (DefinitionRule.ownThenFurther h.apart).nodup,
      DefinitionRule.definitionRule?_options h.apart⟩
  · refine ⟨_, RouteRule.options_eq h.apart, ?_, (RouteRule.ownThenFurther h.apart).nodup,
      RouteRule.routeRule?_options h.apart⟩
    rw [RouteRule.ownFields, optionalField_eq, optionalField_eq]

/-- A rule without operations that has been read from a text. -/
theorem options_of_rule_without_operations :
    let text := "perPath:\n  t:\n    note: 1\n    groupBy: g\n    operations: []\n"
    ∃ (c : Config) (rule : RouteRule), Config.ofYaml text = .ok c ∧
      c.perPath.values = [rule] ∧ rule.operations = [] ∧ rule.extra.keys = ["note"] ∧
      (∃ fields : Entries String Json, rule.options = .object fields ∧
        fields.keys = ["target", "extension", "groupBy", "operations", "note"]) ∧
      Json.decoder.routeRule? rule.options = some rule := by
  intro text
  have hread : (Config.ofYaml text).map (fun c =>
      c.perPath.values.map fun rule => (rule.operations, rule.extra.keys,
        rule.implementationPath, rule.defsRelativeToController)) =
      .ok [([], ["note"], none, none)] := by
    decide +kernel
  obtain ⟨c, hc, hrules⟩ := map_eq_ok.mp hread
  obtain ⟨rule, hvalues, hrule⟩ := List.map_eq_singleton_iff.mp hrules
  simp only [Prod.mk.injEq] at hrule
  obtain ⟨hoperations, hextra, himplementation, hdefinitions⟩ := hrule
  have hgiven : rule.IsGiven := .inl ⟨c, ⟨_, .inl hc⟩, hvalues ▸ List.mem_singleton_self rule⟩
  obtain ⟨fields, hfields, hlisted, -, hsame⟩ := options_round_trip.2 rule hgiven
  refine ⟨c, rule, hc, hvalues, hoperations, hextra, ⟨fields, hfields, ?_⟩, hsame⟩
  rw [hlisted, himplementation, hdefinitions]
  exact congrArg (["target", "extension", "groupBy", "operations"] ++ ·) hextra

end ContractPress
