import ContractPress.Proofs.CommandLine.Generation
import ContractPress.Proofs.Generator.Batches
import ContractPress.Proofs.Generator.Requests

/-!
That the command that generates reads everything before it writes.

What is written may lie where the configuration, a template or a later document was read. It makes
no difference: the command hands over what the texts in the state before it give
(`generate_reads_before_writing`), and as long as some input cannot be read nothing is written.
-/

namespace ContractPress

variable {ρ τ : Type}

namespace Generator

/-- Without one of its templates a generator makes nothing of any text. -/
theorem exists_error_of_missing {texts : TemplateSource Id} {config : Config} {id : String}
    (hid : id ∈ config.templates) {fault : SourceFault} (h : texts id = .error fault)
    (helpers : HelperSet) (name text : String) :
    ∃ failure, (new config helpers).outcome texts name text = .error failure := by
  cases houtcome : (new config helpers).outcome texts name text with
  | error failure => exact ⟨failure, rfl⟩
  | ok artifacts =>
    rw [outcome, result_generate] at houtcome
    cases hparse : Contract.parse text with
    | error failure =>
      rw [hparse] at houtcome
      cases houtcome
    | ok c =>
      rw [hparse, mapError_eq_ok] at houtcome
      obtain ⟨trees, groups, hcompilation, -⟩ :=
        (generateContract_eq_ok_iff config helpers none texts c artifacts).mp houtcome
      obtain ⟨e, he, rfl⟩ := List.mem_map.mp (hcompilation.mem_keys.mpr hid)
      obtain ⟨text', htext, -⟩ := hcompilation.compiles e he
      cases h.symm.trans htext

end Generator

/-- Where no batch could be made nothing is handed over. -/
theorem handOver_of_errors (sink : Sink (StateT ρ (StateM τ))) (kept : ρ) (t : τ)
    {batches : List (String × Except Failure (List Artifact))}
    (h : ∀ b ∈ batches, ∃ failure, b.2 = .error failure) :
    ∃ result, ((handOver sink batches).run kept).run t = ((result, kept), t) ∧
      (batches ≠ [] → ∃ failure, result = .error failure) := by
  cases batches with
  | nil => exact ⟨.ok 0, rfl, fun h => absurd rfl h⟩
  | cons b rest =>
    obtain ⟨document, made⟩ := b
    obtain ⟨failure, rfl⟩ := h _ List.mem_cons_self
    exact ⟨.error failure, rfl, fun _ => ⟨failure, rfl⟩⟩

namespace FileSystem

variable (fs : FileSystem τ)

theorem generateAll_eq_handOver (c : Config) (root : String) (sink : FileSink) (t : τ)
    (documents : List Document) :
    let run := fs.generateAll c root sink t documents
    ((run.1, run.2.kept), run.2.world) =
      ((handOver (sink.sink fs.access)
        ((Generator.new c .builtin).batches (fs.templates root t) documents)).run .empty).run t :=
  DeliveryState.generateAll_of_settled (.refl (fs.templates root) t _) documents

/-- An input of the command is not there, or it is no text. -/
def InputMissing (t : τ) (specs : List String) (config : String) : Prop :=
  fs.text? t config = none ∨
    (∃ c, fs.readConfig t config = .ok c ∧
      ∃ id ∈ c.templates, fs.text? t (Path.join (templateRoot config) id) = none) ∨
    ∃ spec ∈ specs, fs.text? t spec = none

theorem state_conclude (sink : FileSink) (run : (Except Failure Nat × WriteReport) × τ) :
    (conclude sink run).2.2 = run.2 := by
  unfold conclude
  split <;> rfl

theorem exists_error_conclude {sink : FileSink} {run : (Except Failure Nat × WriteReport) × τ}
    (h : ∃ failure, run.1.1 = .error failure) :
    ∃ failure, (conclude sink run).1 = .error failure := by
  obtain ⟨failure, h⟩ := h
  rw [conclude, h]
  exact ⟨_, rfl⟩

variable {fs} {t : τ}

/-- A run that succeeds has read all inputs and delivered all documents. -/
theorem exists_delivered {specs : List String} {config : String} {sink : FileSink}
    (h : ((runGenerate fs.access specs config sink).run t).1.result = .ok ()) :
    ∃ c done s, fs.readConfig t config = .ok c ∧
      specs.mapM (fs.readDocument t) = .ok (done.map Prod.fst) ∧
      DeliveryState.Delivered (.reading (fs.templates (templateRoot config)))
        (sink.sink fs.access) ⟨.new c .builtin, .empty, t⟩ done s := by
  have hrun := congrArg Prod.fst (fs.run_runGenerate t specs config sink)
  rw [h] at hrun
  cases hconfig : fs.readConfig t config with
  | error failure =>
    rw [hconfig] at hrun
    cases hrun
  | ok c =>
    cases hdocuments : specs.mapM (fs.readDocument t) with
    | error failure =>
      rw [hconfig, hdocuments] at hrun
      cases hrun
    | ok documents =>
      rw [hconfig, hdocuments] at hrun
      dsimp only [conclude] at hrun
      cases hresult : (fs.generateAll c (templateRoot config) sink t documents).1 with
      | error failure =>
        rw [hresult] at hrun
        cases hrun
      | ok total =>
        obtain ⟨done, hdone, hdelivered, -⟩ :=
          DeliveryState.generateAll_eq_ok_iff.mp (Prod.ext hresult rfl)
        exact ⟨c, done, _, rfl, congrArg Except.ok hdone, hdelivered⟩

theorem readConfig_of_missing {config : String} (h : fs.text? t config = none) :
    fs.readConfig t config = .error (.config (.unreadable config)) := by
  rw [readConfig, h]
  rfl

theorem exists_error_of_missing_document {specs : List String}
    (h : ∃ spec ∈ specs, fs.text? t spec = none) :
    ∃ failure, specs.mapM (fs.readDocument t) = .error failure := by
  cases hdocuments : specs.mapM (fs.readDocument t) with
  | error failure => exact ⟨failure, rfl⟩
  | ok documents =>
    obtain ⟨spec, hspec, hmissing⟩ := h
    obtain ⟨d, -, hd⟩ : ∃ d ∈ documents, fs.readDocument t spec = .ok d :=
      exists_of_mem_right (mapM_eq_ok.mp hdocuments).flip hspec
    rw [readDocument, hmissing] at hd
    cases hd

theorem batches_of_missing_template {c : Config} {root id : String} (hid : id ∈ c.templates)
    (h : fs.text? t (Path.join root id) = none) (documents : List Document) :
    ∀ b ∈ (Generator.new c .builtin).batches (fs.templates root t) documents,
      ∃ failure, b.2 = .error failure := by
  have hmissing : fs.templates root t id = .error .unreadable := by
    rw [templates, h]
  intro b hb
  obtain ⟨d, -, rfl⟩ := List.mem_map.mp hb
  exact Generator.exists_error_of_missing hid hmissing .builtin d.name d.text

end FileSystem

open FileSystem (conclude)

/-- What is written is never read again. The command comes to the same as handing over what a new
generator makes of each document with the texts that are there before anything is written; so each
document gives the artifacts that it gives by itself in the state before the run.

If the configuration, one of its templates or one of the documents is missing, nothing is written,
whatever the others give. -/
theorem generate_reads_before_writing (fs : FileSystem τ) (t : τ) (specs : List String)
    (config output : String) (force dryRun : Bool) :
    let sink : FileSink := ⟨output, force, dryRun⟩
    let texts := fs.templates (templateRoot config)
    let run := ((Command.generate specs config output force dryRun).run fs.access).run t
    (match fs.readConfig t config, specs.mapM (fs.readDocument t) with
      | .error failure, _ => (run.1.result, run.1.output, run.2) =
          (.error ⟨some ("failed to load configuration " ++ config), .failure failure⟩, "", t)
      | .ok _, .error failure =>
        (run.1.result, run.1.output, run.2) = (.error ⟨none, .failure failure⟩, "", t)
      | .ok c, .ok documents =>
        let first := Generator.new c .builtin
        (run.1.result, run.1.output, run.2) = conclude sink (((handOver (sink.sink fs.access)
          (first.batches (texts t) documents)).run .empty).run t) ∧
        ∀ done s, DeliveryState.Delivered (.reading texts) (sink.sink fs.access)
            ⟨first, .empty, t⟩ done s →
          (∀ e ∈ done, first.outcome (texts t) e.1.name e.1.text = .ok e.2) ∧
          ∀ d, (s.generate (.reading texts) d).1 = first.outcome (texts t) d.name d.text) ∧
    (fs.InputMissing t specs config →
      run.2 = t ∧ (specs ≠ [] → ∃ failure, run.1.result = .error failure)) := by
  intro sink texts run
  have hrun : (run.1.result, run.1.output, run.2) = _ := fs.run_runGenerate t specs config sink
  cases hconfig : fs.readConfig t config with
  | error failure =>
    rw [hconfig] at hrun
    obtain ⟨hresult, hrest⟩ := Prod.mk.inj hrun
    exact ⟨hrun, fun _ => ⟨congrArg Prod.snd hrest, fun _ => ⟨_, hresult⟩⟩⟩
  | ok c =>
    cases hdocuments : specs.mapM (fs.readDocument t) with
    | error failure =>
      rw [hconfig, hdocuments] at hrun
      obtain ⟨hresult, hrest⟩ := Prod.mk.inj hrun
      exact ⟨hrun, fun _ => ⟨congrArg Prod.snd hrest, fun _ => ⟨_, hresult⟩⟩⟩
    | ok documents =>
      rw [hconfig, hdocuments] at hrun
      dsimp only at hrun ⊢
      rw [fs.generateAll_eq_handOver] at hrun
      refine ⟨⟨hrun, fun done s hdone => ?_⟩, fun hmissing => ?_⟩
      · exact DeliveryState.outcome_of_delivered hdone (.refl texts t _)
      · obtain hnone | ⟨c', hc', id, hid, hnone⟩ | hnone := hmissing
        · cases hconfig.symm.trans (FileSystem.readConfig_of_missing hnone)
        · obtain rfl := Except.ok.inj (hconfig.symm.trans hc')
          obtain ⟨result, hhanded, hresult⟩ := handOver_of_errors (sink.sink fs.access) .empty t
            (FileSystem.batches_of_missing_template hid hnone documents)
          rw [hhanded] at hrun
          obtain ⟨hconcluded, hrest⟩ := Prod.mk.inj hrun
          refine ⟨(congrArg Prod.snd hrest).trans (FileSystem.state_conclude _ _), fun hspecs => ?_⟩
          rw [hconcluded]
          refine FileSystem.exists_error_conclude (hresult fun hempty => hspecs ?_)
          have hlength := (mapM_eq_ok.mp hdocuments).length_eq
          rw [List.map_eq_nil_iff.mp hempty] at hlength
          exact List.length_eq_zero_iff.mp hlength
        · obtain ⟨failure, hfailure⟩ := FileSystem.exists_error_of_missing_document hnone
          cases hdocuments.symm.trans hfailure

/-- The files of the first document lie where the configuration, the template and the second
document are, and the second document gives what it would have given alone. Without the template
nothing is written. -/
theorem inputs_overwritten :
    let fs := FileTree.system
    let config : Location × FileEntry :=
      (["c.yaml"], .file (Text.toUtf8 "perDefinition: {t.yaml: {extension: .yaml}}\n"))
    let documents : List (Location × FileEntry) := [
      (["a.yaml"], .file (Text.toUtf8 "paths: {}\ndefinitions: {B: {k: 1}, C: {k: 1}, T: {k: 1}}")),
      (["b.yaml"], .file (Text.toUtf8 "paths: {}\ndefinitions: {D: {k: 2}}"))]
    let t : FileTree :=
      ⟨[], config :: (["t.yaml"], .file (Text.toUtf8 "[{{ definition.k }}]")) :: documents⟩
    let t' : FileTree := ⟨[], config :: documents⟩
    let specs := ["a.yaml", "b.yaml"]
    let run := fun t => ((Command.generate specs "c.yaml" "." true false).run fs.access).run t
    (run t).1.result = .ok () ∧
      ["b.yaml", "c.yaml", "t.yaml", "d.yaml"].map (run t).2.readText? =
        [some "[1]", some "[1]", some "[1]", some "[2]"] ∧
      (∃ c, ∃ done : List (Document × List Artifact), fs.readConfig t "c.yaml" = .ok c ∧
        specs.mapM (fs.readDocument t) = .ok (done.map Prod.fst) ∧
        ∀ e ∈ done, (Generator.new c .builtin).outcome (fs.templates "." t) e.1.name e.1.text =
          .ok e.2) ∧
      fs.InputMissing t' specs "c.yaml" ∧ (run t').2 = t' := by
  intro fs config documents t t' specs run
  have hfiles : (run t).1.result = .ok () ∧
      ["b.yaml", "c.yaml", "t.yaml", "d.yaml"].map (run t).2.readText? =
        [some "[1]", some "[1]", some "[1]", some "[2]"] := by decide +kernel
  obtain ⟨c, done, s, hc, hdocuments, hdelivered⟩ := FileSystem.exists_delivered hfiles.1
  obtain ⟨hrun, -⟩ := generate_reads_before_writing fs t specs "c.yaml" "." true false
  rw [hc, hdocuments] at hrun
  have htemplates : (fs.readConfig t' "c.yaml").map Config.templates = .ok ["t.yaml"] := by
    decide +kernel
  obtain ⟨c', hc', hids⟩ := map_eq_ok.mp htemplates
  have hmissing : fs.InputMissing t' specs "c.yaml" :=
    .inr (.inl ⟨c', hc', "t.yaml", by rw [hids]; decide, by decide +kernel⟩)
  obtain ⟨-, hunchanged⟩ := generate_reads_before_writing fs t' specs "c.yaml" "." true false
  exact ⟨hfiles.1, hfiles.2, ⟨c, done, hc, hdocuments, (hrun.2 done s hdelivered).1⟩, hmissing,
    (hunchanged hmissing).1⟩

end ContractPress
