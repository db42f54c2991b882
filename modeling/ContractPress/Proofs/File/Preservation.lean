import ContractPress.Proofs.CommandLine.Generation
import ContractPress.Proofs.File.Containment
import ContractPress.Proofs.File.Persistence
import ContractPress.Proofs.Generator.Reading

/-!
What a sink without force leaves as it was.

Such a sink takes nothing away, and it writes over a file only where the way to it is a detour
(`settle_preserves`): it looks for something at a destination before it makes the directories that
are missing on the way. Hence files stay as they are in all calls of a sink and in all runs of the
program (`files_kept_unless_detour`), as long as no path leads through a missing directory and up
again.
-/

namespace ContractPress

namespace FileSink

open FileTree (Keeps Closed Detours)

variable {s : FileSink}

theorem settle_closed {t : FileTree} (h : t.Closed) (a : Artifact) : (s.settle t a).2.Closed := by
  unfold settle
  split
  · exact h
  split
  · exact h
  · exact h.writeFile (s.destination a) (Text.toUtf8 a.contents)

theorem settle_dryRun (h : s.dryRun = true) (t : FileTree) (a : Artifact) :
    (s.settle t a).2 = t := by
  rw [settle, h]
  split <;> rfl

/-- One artifact takes nothing away, with force or without it. -/
theorem settle_keeps_entries (s : FileSink) (t : FileTree) (a : Artifact) :
    Keeps (· = t.place (s.destination a)) t (s.settle t a).2 := by
  unfold settle
  split
  · exact .refl t
  split
  · exact .refl t
  · exact t.writeFile_keeps (s.destination a) (Text.toUtf8 a.contents)

/-- An artifact is written over a file only by way of a detour. -/
theorem settle_keeps (hforce : s.force = false) {t : FileTree} (h : t.Closed) (a : Artifact) :
    Keeps (fun place => place = t.place (s.destination a) ∧ t.Detours (s.destination a)) t
      (s.settle t a).2 := by
  unfold settle
  split
  · exact .refl t
  rename_i hfree
  split
  · exact .refl t
  have hfind : t.find? (s.destination a) = none := by simpa [hforce] using hfree
  obtain ⟨made, hgrows, hwrite | ⟨hdir, hwrite⟩⟩ :=
    t.writeFile_cases (s.destination a) (Text.toUtf8 a.contents)
  · rw [hwrite]
    exact hgrows.keeps
  · have hkeeps := t.writeFile_keeps (s.destination a) (Text.toUtf8 a.contents)
    refine ⟨hkeeps.workingDirectory, hkeeps.directory, fun place octets hfile => ?_⟩
    refine (hkeeps.file place octets hfile).imp_right fun hchanged => ?_
    obtain ⟨rfl, hafter⟩ := hchanged
    refine ⟨⟨rfl, ?_⟩, hafter⟩
    refine h.detours_of_overwritten hfind ?_ (by rw [hwrite])
    rw [hfile]
    exact Option.some_ne_none _

/-- From a tree that has kept what another held, one artifact leads to such a tree again. -/
theorem settle_preserves (hforce : s.force = false) {changed : Location → Prop}
    {t t' : FileTree} {a : Artifact}
    (hchanged : s.dryRun = false → t.Detours (s.destination a) →
      changed (t.place (s.destination a)))
    (h : t'.Closed ∧ Keeps changed t t') :
    (s.settle t' a).2.Closed ∧ Keeps changed t (s.settle t' a).2 := by
  obtain ⟨hclosed, hkeeps⟩ := h
  refine ⟨settle_closed hclosed a, ?_⟩
  cases hdry : s.dryRun with
  | true => rwa [settle_dryRun hdry]
  | false =>
    refine hkeeps.trans ((settle_keeps hforce hclosed a).mono fun place hplace => ?_)
    obtain ⟨rfl, hdetours⟩ := hplace
    rw [hkeeps.place_eq]
    exact hchanged hdry (hkeeps.detours_of_detours hdetours)

/-! ### Calls -/

/-- What every artifact keeps true of the tree a run of them does. -/
theorem putAll_invariant {P : FileTree → Prop} (document : String) {artifacts : List Artifact}
    (hstep : ∀ a ∈ artifacts, ∀ t, P t → P (s.settle t a).2) (r : WriteReport) {t : FileTree}
    (h : P t) : P (((s.putAll FileTree.access document artifacts).run r).run t).2 := by
  induction artifacts generalizing r t with
  | nil => exact h
  | cons a rest ih =>
    rw [List.forall_mem_cons] at hstep
    have hfirst := hstep.1 t h
    rw [putAll_cons]
    dsimp only
    split
    · exact hfirst
    · exact ih hstep.2 _ hfirst

theorem sink_invariant {P : FileTree → Prop} (document : String) {artifacts : List Artifact}
    (hstep : ∀ a ∈ artifacts, ∀ t, P t → P (s.settle t a).2) (r : WriteReport) {t : FileTree}
    (h : P t) : P (((s.sink FileTree.access document artifacts).run r).run t).2 := by
  rcases s.sink_cases document artifacts r t with ⟨a, -, -, hrun⟩ | ⟨-, hsink⟩
  · rw [hrun]
    exact h
  · rw [hsink]
    exact putAll_invariant document hstep r h

/-- The report and the tree after a document's artifacts have been handed over, accepted or not. -/
def afterCall (s : FileSink) (x : WriteReport × FileTree) (call : String × List Artifact) :
    WriteReport × FileTree :=
  let run := ((s.sink FileTree.access call.1 call.2).run x.1).run x.2
  (run.1.2, run.2)

def afterCalls (s : FileSink) (x : WriteReport × FileTree)
    (calls : List (String × List Artifact)) : WriteReport × FileTree :=
  calls.foldl s.afterCall x

theorem afterCalls_invariant {P : FileTree → Prop} {calls : List (String × List Artifact)}
    (hstep : ∀ call ∈ calls, ∀ a ∈ call.2, ∀ t, P t → P (s.settle t a).2)
    {x : WriteReport × FileTree} (h : P x.2) : P (s.afterCalls x calls).2 := by
  induction calls generalizing x with
  | nil => exact h
  | cons call calls ih =>
    rw [List.forall_mem_cons] at hstep
    exact ih hstep.2 (sink_invariant call.1 hstep.1 x.1 h)

/-- The place of one of these artifacts, to which the way is a detour. -/
def DetourTarget (s : FileSink) (t : FileTree) (artifacts : List Artifact) (place : Location) :
    Prop :=
  ∃ a ∈ artifacts, place = t.place (s.destination a) ∧ t.Detours (s.destination a)

theorem afterCalls_closed {x : WriteReport × FileTree} (h : x.2.Closed)
    (calls : List (String × List Artifact)) : (s.afterCalls x calls).2.Closed :=
  afterCalls_invariant (P := FileTree.Closed) (fun _ _ a _ _ h => settle_closed h a) h

theorem afterCalls_keeps (hforce : s.force = false) {x : WriteReport × FileTree}
    (h : x.2.Closed) (calls : List (String × List Artifact)) :
    Keeps (fun place => s.dryRun = false ∧ ∃ call ∈ calls, s.DetourTarget x.2 call.2 place) x.2
      (s.afterCalls x calls).2 := by
  refine (afterCalls_invariant (P := fun t => t.Closed ∧ Keeps _ x.2 t) ?_ ⟨h, .refl x.2⟩).2
  intro call hcall a ha t
  exact settle_preserves hforce fun hdry hdetours => ⟨hdry, call, hcall, a, ha, rfl, hdetours⟩

end FileSink

/-! ### The command that generates -/

/-- What comes without a post-processor is written below the root, by way of a detour only if the
root itself is one. -/
theorem generateAll_keeps {s : FileSink} (hforce : s.force = false)
    (texts : FileTree → TemplateSource Id) {g : Generator} (hpost : g.postProcessor = none)
    (r : WriteReport) {t : FileTree} (h : t.Closed) (documents : List Document) :
    FileTree.Keeps (fun place => s.dryRun = false ∧ t.Detours s.root ∧ t.place s.root <+: place) t
      (DeliveryState.generateAll (.reading texts) (s.sink FileTree.access) ⟨g, r, t⟩
        documents).2.world := by
  refine (DeliveryState.generateAll_invariant (P := fun x => x.generator.postProcessor = none ∧
    x.world.Closed ∧ FileTree.Keeps _ t x.world) ?_ ?_ ⟨hpost, h, .refl t⟩ documents).2.2
  · intro x d hx
    rw [DeliveryState.generate_reading]
    exact ⟨(Generator.postProcessor_generate _ _ _ _).trans hx.1, hx.2⟩
  · intro x x₁ d artifacts hx hgenerate
    rw [DeliveryState.generate_reading] at hgenerate
    obtain ⟨houtcome, rfl⟩ := Prod.mk.inj hgenerate
    have hpost' := (Generator.postProcessor_generate (texts x.world) x.generator d.name
      d.text).trans hx.1
    obtain ⟨c, hrender⟩ := Generator.exists_render_of_outcome houtcome
    refine ⟨hpost', FileSink.sink_invariant (P := fun t' => t'.Closed ∧ FileTree.Keeps _ t t')
      d.name ?_ x.kept hx.2⟩
    intro a ha t'
    refine FileSink.settle_preserves hforce fun hdry hdetours => ⟨hdry, ?_, ?_⟩
    · obtain ⟨names, hnames⟩ := Generator.render_names hpost' hrender a ha
      exact FileTree.detours_of_detours_join hnames hdetours
    · obtain ⟨names, hnames⟩ := Generator.render_names hpost' hrender a ha
      rw [FileSink.destination, FileTree.place_join_names hnames]
      exact List.prefix_append _ names

theorem generate_command_keeps {t : FileTree} (h : t.Closed) (specs : List String)
    (config output : String) (dryRun : Bool) :
    FileTree.Keeps (fun place => dryRun = false ∧ t.Detours output ∧ t.place output <+: place) t
      (((Command.generate specs config output false dryRun).run FileTree.access).run t).2 := by
  show FileTree.Keeps _ t
    ((runGenerate FileTree.access specs config ⟨output, false, dryRun⟩).run t).2
  rw [tree_runGenerate]
  split
  · rename_i c documents _ _
    exact generateAll_keeps (s := ⟨output, false, dryRun⟩) rfl _ rfl .empty h documents
  · exact .refl t

/-- Without force nothing is taken away, and a file is written over only by way of a detour: where a
path leads through a place at which nothing is and up again.

So it is in any calls of a sink, after any calls before them, and in any run of the program, where
the detour is one of the output root; with a root that is there nothing is written over. -/
theorem files_kept_unless_detour (s : FileSink) (hforce : s.force = false) (t : FileTree)
    (ht : t.Closed) (r : WriteReport) (earlier calls : List (String × List Artifact))
    (specs : List String) (config output : String) (dryRun : Bool) :
    let before := s.afterCalls (r, t) earlier
    let after := (((Command.generate specs config output false dryRun).run FileTree.access).run t).2
    FileTree.Keeps
      (fun place => s.dryRun = false ∧ ∃ call ∈ calls, s.DetourTarget before.2 call.2 place)
      before.2 (s.afterCalls before calls).2 ∧
    FileTree.Keeps (fun place => dryRun = false ∧ t.Detours output ∧ t.place output <+: place) t
      after ∧
    (∀ (climbs : Nat) (names : List String), (t.find? output).isSome = true ∨
        Path.steps output = List.replicate climbs .up ++ names.map .name →
      FileTree.Keeps (fun _ => False) t after) := by
  refine ⟨?_, ?_, ?_⟩
  · exact FileSink.afterCalls_keeps hforce (FileSink.afterCalls_closed ht earlier) calls
  · exact generate_command_keeps ht specs config output dryRun
  · intro climbs names houtput
    refine (generate_command_keeps ht specs config output dryRun).mono fun place hplace => ?_
    rcases houtput with hroot | hsteps
    · exact FileTree.not_detours_of_find? hroot hplace.2.1
    · exact ht.not_detours hsteps hplace.2.1

/-- A file below a root is kept by a sink that is given its path and by the program. -/
theorem file_kept_in_root :
    let s : FileSink := ⟨"out", false, false⟩
    let t : FileTree := ⟨[], [(["out"], .directory), (["out", "a.js"], .file [111]),
      (["c.yaml"], .file (Text.toUtf8 "perDefinition: {t: {extension: .js}}\n")),
      (["t"], .file [120]), (["d.yaml"], .file (Text.toUtf8 "paths: {}\n"))]⟩
    let calls : List (String × List Artifact) := [("d", [⟨"a.js", "x"⟩, ⟨"b/c.js", "y"⟩])]
    let after :=
      (((Command.generate ["d.yaml"] "c.yaml" "out" false false).run FileTree.access).run t).2
    s.force = false ∧ t.Closed ∧ (t.find? "out").isSome = true ∧
      (s.afterCalls (.empty, t) calls).2.fileAt? ["out", "a.js"] = some [111] ∧
      after.fileAt? ["out", "a.js"] = some [111] := by
  intro s t calls after
  have hclosed : t.Closed := .of_entries rfl (by decide)
  have hfound : (t.find? "out").isSome = true := by decide +kernel
  have hfile : t.fileAt? ["out", "a.js"] = some [111] := by decide
  obtain ⟨hcalls, -, hcommand⟩ := files_kept_unless_detour s rfl t hclosed .empty [] calls
    ["d.yaml"] "c.yaml" "out" false
  refine ⟨rfl, hclosed, hfound, ?_, ?_⟩
  · rcases hcalls.fileAt?_eq hfile with he | ⟨-, call, hcall, a, ha, -, hdetours⟩
    · exact he
    · obtain rfl := List.mem_singleton.mp hcall
      obtain ⟨names, hnames⟩ : ∃ names : List String, Path.segments a.path = names.map .name := by
        rcases List.mem_cons.mp ha with rfl | ha
        · exact ⟨["a.js"], by decide +kernel⟩
        · obtain rfl := List.mem_singleton.mp ha
          exact ⟨["b", "c.js"], by decide +kernel⟩
      exact absurd (FileTree.detours_of_detours_join hnames hdetours)
        (FileTree.not_detours_of_find? hfound)
  · exact ((hcommand 0 [] (.inl hfound)).fileAt?_eq hfile).resolve_right id

/-- A file is written over by way of a missing directory, by a sink and by the program. -/
theorem file_not_kept_from_detour :
    let s : FileSink := ⟨"new/..", false, false⟩
    let t : FileTree := ⟨[], [(["a.js"], .file [111]),
      (["c.yaml"], .file (Text.toUtf8 "perDefinition: {t: {extension: .js}}\n")),
      (["t"], .file [120]), (["d.yaml"], .file (Text.toUtf8 "paths: {}\ndefinitions: {A: 1}\n"))]⟩
    let calls : List (String × List Artifact) := [("d", [⟨"a.js", "x"⟩])]
    let after :=
      (((Command.generate ["d.yaml"] "c.yaml" "new/.." false false).run FileTree.access).run t).2
    s.force = false ∧ t.Closed ∧ t.fileAt? ["a.js"] = some [111] ∧
      (s.afterCalls (.empty, t) calls).2.fileAt? ["a.js"] = some [120] ∧
      after.fileAt? ["a.js"] = some [120] := by
  intro s t calls after
  exact ⟨rfl, .of_entries rfl (by decide), by decide, by decide +kernel, by decide +kernel⟩

end ContractPress
