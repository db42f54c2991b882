import ContractPress.Proofs.File.Delivery
import ContractPress.Proofs.Generator.Paths

/-!
How far artifacts stay below an output root.

A sink alters nothing but the places of the artifacts and directories on the ways to them
(`putAll_alters`). So the root is kept as long as no path climbs late, which the paths that a
generator makes never do.
-/

namespace ContractPress

namespace FileTree

/-- Between two trees only places of these kinds differ: on the ways directories appear where there
was nothing, and the targets may hold anything. -/
structure Alters (way target : Location → Prop) (t t' : FileTree) : Prop where
  workingDirectory : t'.workingDirectory = t.workingDirectory
  entry : ∀ place, t'.entry? place = t.entry? place ∨ target place ∨
    t.entry? place = none ∧ t'.entry? place = some .directory ∧ way place

theorem Grows.alters {kind target : Location → Prop} {t t' : FileTree} (h : Grows kind t t') :
    Alters kind target t t' :=
  ⟨h.workingDirectory, fun place => (h.entry place).imp_right .inr⟩

namespace Alters

variable {way way' target target' : Location → Prop} {t t' t'' : FileTree}

theorem refl (t : FileTree) : Alters way target t t :=
  ⟨rfl, fun _ => .inl rfl⟩

theorem trans (h : Alters way target t t') (h' : Alters way target t' t'') :
    Alters way target t t'' := by
  refine ⟨h'.workingDirectory.trans h.workingDirectory, fun place => ?_⟩
  rcases h'.entry place with e' | htarget | ⟨hnone', hdir', hway⟩
  · rw [e']
    exact h.entry place
  · exact .inr (.inl htarget)
  · rcases h.entry place with e | htarget | ⟨-, hdir, -⟩
    · exact .inr (.inr ⟨e ▸ hnone', hdir', hway⟩)
    · exact .inr (.inl htarget)
    · cases hdir.symm.trans hnone'

/-- Ways may be taken for what they are within another kind of places. -/
theorem mono (h : Alters way target t t') (hway : ∀ place, way place → way' place ∨ target' place)
    (htarget : ∀ place, target place → target' place) : Alters way' target' t t' := by
  refine ⟨h.workingDirectory, fun place => ?_⟩
  rcases h.entry place with e | hplace | ⟨hnone, hdir, hplace⟩
  · exact .inl e
  · exact .inr (.inl (htarget place hplace))
  · rcases hway place hplace with hplace | hplace
    · exact .inr (.inr ⟨hnone, hdir, hplace⟩)
    · exact .inr (.inl hplace)

theorem start_eq (h : Alters way target t t') (path : String) : t'.start path = t.start path := by
  rw [start, start, h.workingDirectory]

theorem place_eq (h : Alters way target t t') (path : String) : t'.place path = t.place path :=
  place_congr h.workingDirectory path

/-- Files are altered at targets only. -/
theorem fileAt?_eq (h : Alters way target t t') {place : Location} (hplace : ¬target place) :
    t'.fileAt? place = t.fileAt? place := by
  rcases h.entry place with e | htarget | ⟨hnone, hdir, -⟩
  · rw [fileAt?, e, fileAt?]
  · exact absurd htarget hplace
  · rw [fileAt?, hdir, fileAt?, hnone]

end Alters

theorem insert_alters {way : Location → Prop} {t : FileTree} {place : Location}
    (h : t.isDirectory place = false) (entry : FileEntry) :
    Alters way (· = place) t (t.insert place entry) := by
  refine ⟨rfl, fun place' => ?_⟩
  rw [entry_insert t (ne_nil_of_not_isDirectory h)]
  split
  · rename_i he
    exact .inr (.inl he.symm)
  · exact .inl rfl

theorem writeFile_alters (t : FileTree) (path : String) (octets : List UInt8) :
    Alters (OnWay (t.start path) (Path.segments path)) (· = t.place path) t
      (t.writeFile path octets).1 := by
  obtain ⟨made, hgrows, hwrite⟩ := t.writeFile_cases path octets
  have halters : Alters (OnWay (t.start path) (Path.segments path)) (· = t.place path) t made :=
    (hgrows.mono fun place h => h.of_prefix (List.dropLast_prefix _)).alters
  rcases hwrite with hwrite | ⟨hdir, hwrite⟩
  · rw [hwrite]
    exact halters
  · rw [hwrite]
    exact halters.trans (insert_alters hdir _)

/-- Outside a root no file differs, and directories appear on the way to the root only. -/
def Confined (root : String) (t t' : FileTree) : Prop :=
  Alters (OnWay (t.start root) (Path.segments root)) (t.place root <+: ·) t t'

end FileTree

namespace FileSink

open FileTree (Alters OnWay Confined)

/-- Where an artifact's way leads on. -/
def OnWayTo (s : FileSink) (t : FileTree) (a : Artifact) (place : Location) : Prop :=
  OnWay (t.start (s.destination a)) (Path.segments (s.destination a)) place

variable {s : FileSink}

theorem settle_alters (s : FileSink) (t : FileTree) (a : Artifact) :
    Alters (s.OnWayTo t a) (· = t.place (s.destination a)) t (s.settle t a).2 := by
  unfold settle
  split
  · exact .refl t
  split
  · exact .refl t
  · exact t.writeFile_alters (s.destination a) _

/-- A run alters places of the artifacts and on the ways to them, whether it fails or not. -/
theorem putAll_alters (s : FileSink) (document : String) (artifacts : List Artifact)
    (r : WriteReport) (t : FileTree) :
    Alters (fun place => ∃ a ∈ artifacts, s.OnWayTo t a place)
      (fun place => ∃ a ∈ artifacts, place = t.place (s.destination a)) t
      (((s.putAll FileTree.access document artifacts).run r).run t).2 := by
  induction artifacts generalizing r t with
  | nil => exact .refl t
  | cons a rest ih =>
    have hfirst := s.settle_alters t a
    have hhead : Alters (fun place => ∃ b ∈ a :: rest, s.OnWayTo t b place)
        (fun place => ∃ b ∈ a :: rest, place = t.place (s.destination b)) t (s.settle t a).2 :=
      hfirst.mono (fun place h => .inl ⟨a, List.mem_cons_self, h⟩)
        fun place h => ⟨a, List.mem_cons_self, h⟩
    rw [putAll_cons]
    dsimp only
    split
    · exact hhead
    -- the rest goes on in another tree, where the same paths lead to the same places
    · refine hhead.trans ((ih _ (s.settle t a).2).mono ?_ ?_)
      · intro place h
        obtain ⟨b, hb, hplace⟩ := h
        rw [OnWayTo, hfirst.start_eq] at hplace
        exact .inl ⟨b, List.mem_cons_of_mem a hb, hplace⟩
      · intro place h
        obtain ⟨b, hb, hplace⟩ := h
        rw [hfirst.place_eq] at hplace
        exact ⟨b, List.mem_cons_of_mem a hb, hplace⟩

/-- Nothing fails in a run but writing. -/
theorem putAll_result (s : FileSink) (document : String) (artifacts : List Artifact)
    (r : WriteReport) (t : FileTree) :
    (((s.putAll FileTree.access document artifacts).run r).run t).1.1.result = .ok () ∨
      ∃ path, (((s.putAll FileTree.access document artifacts).run r).run t).1.1.result =
        .error (.write path) := by
  induction artifacts generalizing r t with
  | nil => exact .inl rfl
  | cons a rest ih =>
    rw [putAll_cons]
    dsimp only
    split
    · rename_i hfailed
      rw [hfailed]
      exact .inr ⟨_, rfl⟩
    · rename_i hfirst
      rw [Traced.result_bind, Disposition.result_traced hfirst]
      exact ih _ _

/-- An artifact that begins by climbing is refused before anything is done. -/
theorem sink_cases (s : FileSink) (document : String) (artifacts : List Artifact)
    (r : WriteReport) (t : FileTree) :
    (∃ a ∈ artifacts, Path.escapesRoot a.path = true ∧
      ((s.sink FileTree.access document artifacts).run r).run t =
        ((.fail (.outputPath document a.path), r), t)) ∨
    (∀ a ∈ artifacts, Path.escapesRoot a.path = false) ∧
      s.sink FileTree.access document artifacts = s.putAll FileTree.access document artifacts := by
  unfold sink
  split
  · rename_i a hfind
    have hescapes := List.find?_some hfind
    exact .inl ⟨a, List.mem_of_find?_eq_some hfind, hescapes, rfl⟩
  · rename_i hfind
    exact .inr ⟨fun a ha => by simpa using List.find?_eq_none.mp hfind a ha, rfl⟩

/-- The places of artifacts that do not climb are below the root, and so are the ways to them. -/
theorem confined_of_alters {artifacts : List Artifact} {t t' : FileTree}
    (hclimbs : ∀ a ∈ artifacts, ¬Path.Climbs a.path)
    (h : Alters (fun place => ∃ a ∈ artifacts, s.OnWayTo t a place)
      (fun place => ∃ a ∈ artifacts, place = t.place (s.destination a)) t t') :
    Confined s.root t t' := by
  apply h.mono
  · intro place h
    obtain ⟨a, ha, hplace⟩ := h
    exact FileTree.onWay_join (hclimbs a ha) hplace
  · intro place h
    obtain ⟨a, ha, rfl⟩ := h
    exact FileTree.prefix_place_join (hclimbs a ha)

section

variable (s : FileSink) (document : String) (artifacts : List Artifact) (r : WriteReport)
  (t : FileTree)

/-- Artifacts are refused, and nothing is done, exactly if one climbs at once. -/
theorem refused_iff :
    (∃ a ∈ artifacts, Path.Climbs a.path ∧ ¬Path.ClimbsLate a.path) ↔
      ∃ a ∈ artifacts, Path.Climbs a.path ∧
        ((s.sink FileTree.access document artifacts).run r).run t =
          ((.fail (.outputPath document a.path), r), t) := by
  rcases s.sink_cases document artifacts r t with ⟨a, ha, hup, hrun⟩ | ⟨hnone, hsink⟩
  · have hclimbs := (Path.escapesRoot_iff_not_climbsLate a.path).mp hup
    exact ⟨fun _ => ⟨a, ha, hclimbs.1, hrun⟩, fun _ => ⟨a, ha, hclimbs⟩⟩
  · rw [hsink]
    constructor
    · intro h
      obtain ⟨a, ha, hclimbs⟩ := h
      rw [← Path.escapesRoot_iff_not_climbsLate, hnone a ha] at hclimbs
      cases hclimbs
    · intro h
      obtain ⟨a, ha, -, hrun⟩ := h
      have hresult := congrArg (fun run => run.1.1.result) hrun
      rcases s.putAll_result document artifacts r t with hok | ⟨path, hfailed⟩
      · cases hok.symm.trans hresult
      · cases hfailed.symm.trans hresult

/-- A file outside the root comes to differ only as the place of an artifact that climbs late. -/
theorem climbsLate_of_differs_outside {place : Location} (hout : ¬t.place s.root <+: place)
    (hdiffers : (((s.sink FileTree.access document artifacts).run r).run t).2.fileAt? place ≠
      t.fileAt? place) :
    ∃ a ∈ artifacts, Path.ClimbsLate a.path ∧ place = t.place (s.destination a) := by
  rcases s.sink_cases document artifacts r t with ⟨a, ha, -, hrun⟩ | ⟨hnone, hsink⟩
  · rw [hrun] at hdiffers
    exact absurd rfl hdiffers
  · rw [hsink] at hdiffers
    obtain ⟨a, ha, rfl⟩ : ∃ a ∈ artifacts, place = t.place (s.destination a) := by
      by_contra hnot
      exact hdiffers ((s.putAll_alters document artifacts r t).fileAt?_eq hnot)
    have hclimbs : Path.Climbs a.path := by
      by_contra hnot
      exact hout (FileTree.prefix_place_join hnot)
    exact ⟨a, ha, (Path.climbsLate_iff a.path).mpr ⟨hclimbs, hnone a ha⟩, rfl⟩

theorem confined_of_not_climbsLate (h : ∀ a ∈ artifacts, ¬Path.ClimbsLate a.path) :
    Confined s.root t (((s.sink FileTree.access document artifacts).run r).run t).2 := by
  rcases s.sink_cases document artifacts r t with ⟨a, ha, -, hrun⟩ | ⟨hnone, hsink⟩
  · rw [hrun]
    exact .refl t
  · rw [hsink]
    refine confined_of_alters (fun a ha hclimbs => h a ha ?_) (s.putAll_alters _ _ r t)
    exact (Path.climbsLate_iff a.path).mpr ⟨hclimbs, hnone a ha⟩

end

end FileSink

/-- Looking at the first segment of each path keeps a root as long as no path climbs late.

It is right about exactly the other paths. A sink refuses artifacts, and then does nothing, exactly
if one that climbs does not do so late; if a file outside the root comes to differ, it is at the
place of one that climbs late; and if there are none of these, nothing outside differs but
directories on the way to the root. Generated paths never begin by climbing, and climb late only if
a post-processor makes them. -/
theorem root_kept_unless_climbsLate (path : String) (s : FileSink) (document : String)
    (artifacts : List Artifact) (r : WriteReport) (t : FileTree) {σ : Type} (g : Generator)
    (source : TemplateSource (StateM σ)) (name text : String) (state : σ) :
    let after := ((s.sink FileTree.access document artifacts).run r).run t
    ((Path.escapesRoot path = true ↔ Path.Climbs path) ↔ ¬Path.ClimbsLate path) ∧
    ((∃ a ∈ artifacts, Path.Climbs a.path ∧ ¬Path.ClimbsLate a.path) ↔
      ∃ a ∈ artifacts, Path.Climbs a.path ∧
        after = ((.fail (.outputPath document a.path), r), t)) ∧
    (∀ place, ¬t.place s.root <+: place → after.2.fileAt? place ≠ t.fileAt? place →
      ∃ a ∈ artifacts, Path.ClimbsLate a.path ∧ place = t.place (s.destination a)) ∧
    ((∀ a ∈ artifacts, ¬Path.ClimbsLate a.path) → FileTree.Confined s.root t after.2) ∧
    (((g.generate source name text).run state).1.2.result = .ok artifacts →
      ∀ a ∈ artifacts, Path.escapesRoot a.path = false ∧
        (g.postProcessor = none → ¬Path.Climbs a.path)) := by
  refine ⟨Path.escapesRoot_iff_climbs_iff path, ?_, ?_, ?_, ?_⟩
  · exact s.refused_iff document artifacts r t
  · exact fun place hout => s.climbsLate_of_differs_outside document artifacts r t hout
  · exact s.confined_of_not_climbsLate document artifacts r t
  · intro h
    obtain ⟨renderer, c, hrender⟩ := Generator.exists_render_of_generate h
    exact Generator.render_paths (g := { g with renderer }) hrender

/-- A definition's file, generated and then written below a root in an empty tree. -/
theorem root_kept_by_generated_file :
    let g : Generator := .new ⟨.ofList [("t", ⟨"./definitions", ".js", .empty⟩)], .empty⟩ .empty
    let source : TemplateSource (StateM Unit) := fun _ => return .ok "x"
    let text := "paths:\n  /pets: 1\ndefinitions:\n  Pet: 1\n"
    let s : FileSink := ⟨"out", true, false⟩
    let a : Artifact := ⟨"definitions/pet.js", "x"⟩
    let t : FileTree := ⟨[], []⟩
    let after := ((s.sink FileTree.access "d" [a]).run .empty).run t
    ((g.generate source "d" text).run ()).1.2.result = .ok [a] ∧ ¬Path.Climbs a.path ∧
      FileTree.Confined "out" t after.2 ∧
      after.2.fileAt? ["out", "definitions", "pet.js"] = some [120] := by
  intro g source text s a t after
  have hgenerated : ((g.generate source "d" text).run ()).1.2.result = .ok [a] := by
    decide +kernel
  obtain ⟨-, -, -, hconfined, hpaths⟩ :=
    root_kept_unless_climbsLate a.path s "d" [a] .empty t g source "d" text ()
  have hclimbs : ¬Path.Climbs a.path := (hpaths hgenerated a List.mem_cons_self).2 rfl
  have hlate : ∀ b ∈ [a], ¬Path.ClimbsLate b.path := by
    intro b hb
    rw [List.mem_singleton.mp hb, Path.climbsLate_iff]
    exact fun h => hclimbs h.1
  exact ⟨hgenerated, hclimbs, hconfined hlate, by decide +kernel⟩

/-- A path that climbs late is let through, and a file outside the root is made. -/
theorem root_not_kept_from_late_climb :
    let a : Artifact := ⟨"a/../../b.js", "x"⟩
    let s : FileSink := ⟨"out", false, false⟩
    let t : FileTree := ⟨[], []⟩
    let after := ((s.sink FileTree.access "d" [a]).run .empty).run t
    Path.Climbs a.path ∧ Path.escapesRoot a.path = false ∧ Generator.checkPath "d" a = .ok a ∧
      after.1.1.result = .ok () ∧ ¬t.place s.root <+: ["b.js"] ∧
      t.fileAt? ["b.js"] = none ∧ after.2.fileAt? ["b.js"] = some [120] := by
  intro a s t after
  have hclimbs : Path.Overclimbs 0 ((Path.segments a.path).filter (· ≠ .here)) :=
    ⟨[.name "a", .up, .up], by decide +kernel, by decide⟩
  exact ⟨.inr hclimbs, by decide +kernel, by decide +kernel, by decide +kernel, by decide +kernel,
    by decide +kernel, by decide +kernel⟩

end ContractPress
