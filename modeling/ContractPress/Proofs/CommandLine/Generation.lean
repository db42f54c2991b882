import ContractPress.CommandLine.Run
import ContractPress.File.Tree
import ContractPress.Proofs.Generator.Reading

/-!
What the command that generates does with files.

It reads the configuration and all documents, which leaves the files as they are, and then it is a
run over these documents with the templates that are found (`FileSystem.state_runGenerate`).
-/

namespace ContractPress

variable {τ : Type}

/-- Files of which reading depends on their state and does not change it. -/
structure FileSystem (τ : Type) where
  access : FileAccess (StateM τ)
  text? : τ → String → Option String
  readText?_run : ∀ t path, (access.readText? path).run t = (text? t path, t)

/-- The texts of templates that are found from a directory. -/
def FileTree.templates (root : String) (t : FileTree) : TemplateSource Id := fun id =>
  match t.readText? (Path.join root id) with
  | some text => .ok text
  | none => .error .unreadable

def FileTree.system : FileSystem FileTree :=
  ⟨access, readText?, fun _ _ => rfl⟩

namespace FileSystem

variable (fs : FileSystem τ)

/-- The texts of templates that are found from a directory. -/
def templates (root : String) (t : τ) : TemplateSource Id := fun id =>
  match fs.text? t (Path.join root id) with
  | some text => .ok text
  | none => .error .unreadable

def readDocument (t : τ) (path : String) : Except Failure Document :=
  match fs.text? t path with
  | some text => .ok ⟨path, text⟩
  | none => .error (.document path (.parse .unreadableDocument))

def readConfig (t : τ) (path : String) : Except Failure Config :=
  (Config.ofFile path (fs.text? t path)).mapError .config

theorem templates_access (root : String) :
    fs.access.templates root = .reading (fs.templates root) := by
  funext id
  apply StateT.ext
  intro t
  show ((fs.access.templates root id).run t) = (fs.templates root t id, t)
  unfold FileAccess.templates templates
  apply (run_bind_of_run (fs.readText?_run t _)).trans
  cases fs.text? t (Path.join root id) <;> rfl

theorem readConfig_run (t : τ) (path : String) :
    (fs.access.readConfig path).run t = (fs.readConfig t path, t) :=
  run_bind_of_run (fs.readText?_run t path)

theorem readDocument_run (t : τ) (path : String) :
    (fs.access.readDocument path).run t = (fs.readDocument t path, t) := by
  unfold FileAccess.readDocument readDocument
  apply (run_bind_of_run (fs.readText?_run t path)).trans
  cases fs.text? t path <;> rfl

theorem readDocuments_run (t : τ) (paths : List String) :
    (fs.access.readDocuments paths).run t = (paths.mapM (fs.readDocument t), t) := by
  induction paths with
  | nil => rfl
  | cons path paths ih =>
    rw [FileAccess.readDocuments, List.mapM_cons]
    apply (run_bind_of_run (fs.readDocument_run t path)).trans
    cases fs.readDocument t path with
    | error failure => rfl
    | ok document =>
      apply (run_bind_of_run ih).trans
      cases paths.mapM (fs.readDocument t) <;> rfl

/-- The run over documents that have been read. -/
def generateAll (c : Config) (root : String) (sink : FileSink) (t : τ)
    (documents : List Document) : Except Failure Nat × DeliveryState WriteReport τ :=
  DeliveryState.generateAll (.reading (fs.templates root)) (sink.sink fs.access)
    ⟨.new c .builtin, .empty, t⟩ documents

/-- What the count of artifacts, the report and the files come to. -/
def conclude (sink : FileSink) (run : (Except Failure Nat × WriteReport) × τ) :
    Except RunFailure Unit × String × τ :=
  match run.1.1 with
  | .error failure => (.error ⟨none, .failure failure⟩, "", run.2)
  | .ok _ => (.ok (), Overview.text (generationSummary run.1.2 sink.root sink.dryRun), run.2)

theorem run_generateFiles (t : τ) (c : Config) (root : String) (specs : List String)
    (sink : FileSink) :
    let run := (generateFiles fs.access c root specs sink).run t
    ((run.1.1.result, run.1.2), run.2) =
      match specs.mapM (fs.readDocument t) with
      | .error failure => ((.error failure, .empty), t)
      | .ok documents =>
        let run := fs.generateAll c root sink t documents
        ((run.1, run.2.kept), run.2.world) := by
  have hsource : (fun id => StateT.lift (fs.access.templates root id)) =
      (TemplateSource.reading (fs.templates root)).lifted (StateT WriteReport (StateM τ)) := by
    rw [fs.templates_access]
    rfl
  unfold generateFiles
  rw [run_bind_of_run (fs.readDocuments_run t specs)]
  cases specs.mapM (fs.readDocument t) with
  | error failure => rfl
  | ok documents =>
    dsimp only
    rw [hsource]
    rfl

/-- What the command comes to, what it says, and the files that it leaves. -/
theorem run_runGenerate (t : τ) (specs : List String) (config : String) (sink : FileSink) :
    let run := (runGenerate fs.access specs config sink).run t
    (run.1.result, run.1.output, run.2) =
      match fs.readConfig t config, specs.mapM (fs.readDocument t) with
      | .error failure, _ =>
        (.error ⟨some ("failed to load configuration " ++ config), .failure failure⟩, "", t)
      | .ok _, .error failure => (.error ⟨none, .failure failure⟩, "", t)
      | .ok c, .ok documents =>
        let run := fs.generateAll c (templateRoot config) sink t documents
        conclude sink ((run.1, run.2.kept), run.2.world) := by
  unfold runGenerate
  rw [run_bind_of_run (fs.readConfig_run t config)]
  cases fs.readConfig t config with
  | error failure => rfl
  | ok c =>
    have hfiles := fs.run_generateFiles t c (templateRoot config) specs sink
    dsimp only at hfiles ⊢
    obtain ⟨⟨⟨events, result⟩, report⟩, t', hrun⟩ :
        ∃ x t', (generateFiles fs.access c (templateRoot config) specs sink).run t = (x, t') :=
      ⟨_, _, rfl⟩
    rw [hrun] at hfiles
    rw [run_bind_of_run hrun]
    -- what is said at the end does not touch the files
    have hconclude : conclude sink ((result, report), t') =
        match specs.mapM (fs.readDocument t) with
        | .error failure => (.error ⟨none, .failure failure⟩, "", t)
        | .ok documents =>
          let run := fs.generateAll c (templateRoot config) sink t documents
          conclude sink ((run.1, run.2.kept), run.2.world) := by
      rw [hfiles]
      cases specs.mapM (fs.readDocument t) <;> rfl
    refine Eq.trans ?_ (hconclude.trans ?_)
    · cases result <;> rfl
    · cases specs.mapM (fs.readDocument t) <;> rfl

end FileSystem

/-- The tree that the command leaves, whatever it comes to. -/
theorem tree_runGenerate (t : FileTree) (specs : List String) (config : String) (sink : FileSink) :
    ((runGenerate FileTree.access specs config sink).run t).2 =
      match FileTree.system.readConfig t config, specs.mapM (FileTree.system.readDocument t) with
      | .ok c, .ok documents =>
        (DeliveryState.generateAll (.reading (FileTree.templates (templateRoot config)))
          (sink.sink FileTree.access) ⟨.new c .builtin, .empty, t⟩ documents).2.world
      | _, _ => t := by
  have hrun := congrArg (fun x => x.2.2) (FileTree.system.run_runGenerate t specs config sink)
  refine hrun.trans ?_
  cases FileTree.system.readConfig t config with
  | error failure => rfl
  | ok c =>
    cases specs.mapM (FileTree.system.readDocument t) with
    | error failure => rfl
    | ok documents =>
      dsimp only [FileSystem.conclude]
      split <;> rfl

end ContractPress
