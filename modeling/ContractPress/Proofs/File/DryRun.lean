import ContractPress.Proofs.File.Containment
import ContractPress.Proofs.File.Preservation

/-!
A dry run beside the run that writes.

Both settle the same artifacts, the one in the tree from which they start, the other in the tree
that it changes. What is found at the start is found at any time later, so the two come to different
reports only where the run that writes has itself put something at a later destination: that
artifact it keeps back, and the dry run reports it as one to write (`dry_run_report`).
-/

namespace ContractPress

open FileTree (Keeps Alters)

/-! ### Reports -/

/-- What a dry run in a tree reports, where a run from that tree reports the second. -/
structure WriteReport.Foretells (t : FileTree) (dry real : WriteReport) : Prop where
  skipped : dry.skipped = real.skipped.filter fun path => (t.find? path).isSome
  written : real.written.Sublist dry.written
  agree : (∀ path ∈ real.skipped, (t.find? path).isSome = true) → dry = real

namespace WriteReport.Foretells

variable {t : FileTree} {dry real : WriteReport} {path : String}

theorem refl_empty (t : FileTree) : Foretells t .empty .empty :=
  ⟨rfl, List.Sublist.refl [], fun _ => rfl⟩

theorem addWritten (h : Foretells t dry real) (path : String) :
    Foretells t (dry.addWritten path) (real.addWritten path) := by
  refine ⟨h.skipped, ?_, fun hfound => ?_⟩
  · exact h.written.append_right [path]
  · rw [h.agree hfound]

theorem addSkipped (h : Foretells t dry real) (hpath : (t.find? path).isSome = true) :
    Foretells t (dry.addSkipped path) (real.addSkipped path) := by
  refine ⟨?_, h.written, fun hfound => ?_⟩
  · show dry.skipped ++ [path] = (real.skipped ++ [path]).filter _
    have hkept : [path].filter (fun path => (t.find? path).isSome) = [path] := by simp [hpath]
    rw [List.filter_append, hkept, h.skipped]
  · rw [h.agree fun path' hpath' => hfound path' (List.mem_append_left [path] hpath')]

/-- A path at which there was nothing at the start is reported as one to write. -/
theorem addMissed (h : Foretells t dry real) (hpath : t.find? path = none) :
    Foretells t (dry.addWritten path) (real.addSkipped path) := by
  refine ⟨?_, ?_, fun hfound => ?_⟩
  · show dry.skipped = (real.skipped ++ [path]).filter _
    have hdropped : [path].filter (fun path => (t.find? path).isSome) = [] := by simp [hpath]
    rw [List.filter_append, hdropped, h.skipped, List.append_nil]
  · exact h.written.trans (List.sublist_append_left dry.written [path])
  · have := hfound path (List.mem_append_right real.skipped List.mem_cons_self)
    rw [hpath] at this
    cases this

/-- The reports agree exactly if nothing was skipped but what was there at the start. -/
theorem eq_iff (h : Foretells t dry real) :
    dry = real ↔ ∀ path ∈ real.skipped, (t.find? path).isSome = true := by
  refine ⟨?_, h.agree⟩
  intro he path hpath
  have hskipped := h.skipped
  rw [he] at hskipped
  exact List.filter_eq_self.mp hskipped.symm path hpath

end WriteReport.Foretells

namespace FileSink

/-- The same sink, which only reports. -/
def rehearsal (s : FileSink) : FileSink :=
  { s with dryRun := true }

theorem settle_rehearsal_of_free {s : FileSink} {t : FileTree} {a : Artifact}
    (hfree : ((t.find? (s.destination a)).isSome && !s.force) = false) :
    s.rehearsal.settle t a = (.planned, t) := by
  show (if ((t.find? (s.destination a)).isSome && !s.force) = true then _ else _) = _
  rw [hfree]
  rfl

/-- One of these artifacts belongs at a path, and the path detours or is on the way to an artifact
before it. -/
def Contested (s : FileSink) (t : FileTree) (artifacts : List Artifact) (path : String) : Prop :=
  ∃ b ∈ artifacts, path = s.destination b ∧
    (t.Detours path ∨ ∃ a, [a, b].Sublist artifacts ∧ s.OnWayTo t a (t.place path))

theorem Contested.append {s : FileSink} {t : FileTree} {artifacts : List Artifact} {path : String}
    (h : s.Contested t artifacts path) (more : List Artifact) :
    s.Contested t (artifacts ++ more) path := by
  obtain ⟨b, hb, he, hpath⟩ := h
  refine ⟨b, List.mem_append_left more hb, he, hpath.imp_right fun hbefore => ?_⟩
  obtain ⟨a, hsub, hway⟩ := hbefore
  exact ⟨a, hsub.trans (List.sublist_append_left artifacts more), hway⟩

/-- What both runs have come to after the same artifacts from the same tree. -/
structure Rehearsed (s : FileSink) (t : FileTree) (seen : List Artifact) (dry real : WriteReport)
    (t' : FileTree) : Prop where
  foretells : WriteReport.Foretells t dry real
  keeps : Keeps (fun _ => True) t t'
  alters : Alters (fun place => ∃ a ∈ seen, s.OnWayTo t a place)
    (fun place => ∃ a ∈ seen, place = t.place (s.destination a)) t t'
  force : s.force = true → real.skipped = []
  contested : t.Closed → ∀ path ∈ real.skipped, t.find? path = none → s.Contested t seen path

namespace Rehearsed

variable {s : FileSink} {t t' : FileTree} {seen : List Artifact} {dry real : WriteReport}

theorem start (s : FileSink) (t : FileTree) : s.Rehearsed t [] .empty .empty t where
  foretells := .refl_empty t
  keeps := .refl t
  alters := .refl t
  force _ := rfl
  contested _ _ hpath := absurd hpath List.not_mem_nil

/-- What is missed at the start and found later is on the way of an artifact seen between. -/
theorem onWay_of_missed (h : s.Rehearsed t seen dry real t') (ht : t.Closed) {path : String}
    (hmissed : t.find? path = none) (hfound : (t'.find? path).isSome = true)
    (hdetours : ¬t.Detours path) : ∃ a ∈ seen, s.OnWayTo t a (t.place path) := by
  obtain ⟨hnone, hsome⟩ := ht.entry_of_appeared h.keeps hmissed hfound hdetours
  rcases h.alters.entry (t.place path) with he | ⟨a, ha, he⟩ | ⟨-, -, hway⟩
  · exact absurd (he.trans hnone) hsome
  · exact ⟨a, ha, he ▸ FileTree.onWay_end _ _⟩
  · exact hway

theorem alters_settle (h : s.Rehearsed t seen dry real t') (a : Artifact) :
    Alters (fun place => ∃ b ∈ seen ++ [a], s.OnWayTo t b place)
      (fun place => ∃ b ∈ seen ++ [a], place = t.place (s.destination b)) t
      (s.settle t' a).2 := by
  have hmem := List.mem_append_right seen (List.mem_singleton_self a)
  refine (h.alters.mono ?_ ?_).trans ((s.settle_alters t' a).mono ?_ ?_)
  · intro place hplace
    obtain ⟨b, hb, hplace⟩ := hplace
    exact .inl ⟨b, List.mem_append_left [a] hb, hplace⟩
  · intro place hplace
    obtain ⟨b, hb, hplace⟩ := hplace
    exact ⟨b, List.mem_append_left [a] hb, hplace⟩
  · intro place hplace
    rw [OnWayTo, h.keeps.start_eq] at hplace
    exact .inl ⟨a, hmem, hplace⟩
  · intro place hplace
    rw [h.keeps.place_eq] at hplace
    exact ⟨a, hmem, hplace⟩

/-- If an artifact does not fail, both runs go on. -/
theorem settle (h : s.Rehearsed t seen dry real t') (hreal : s.dryRun = false) {a : Artifact}
    (hsettled : (s.settle t' a).1 ≠ .failed) :
    (s.rehearsal.settle t a).1 ≠ .failed ∧ (s.rehearsal.settle t a).2 = t ∧
      s.Rehearsed t (seen ++ [a]) ((s.rehearsal.settle t a).1.record (s.destination a) dry)
        ((s.settle t' a).1.record (s.destination a) real) (s.settle t' a).2 := by
  have hkeeps := h.keeps.trans ((s.settle_keeps_entries t' a).mono fun _ _ => trivial)
  have halters := h.alters_settle a
  have hcontested : t.Closed → ∀ path ∈ real.skipped, t.find? path = none →
      s.Contested t (seen ++ [a]) path :=
    fun ht path hpath hfree => (h.contested ht path hpath hfree).append [a]
  cases hlater : (t'.find? (s.destination a)).isSome && !s.force with
  | false =>
    -- not found later, and so not found at the start
    have hfree : ((t.find? (s.destination a)).isSome && !s.force) = false := by
      rw [Bool.and_eq_false_iff] at hlater ⊢
      refine hlater.imp_left fun hnone => ?_
      rw [← Bool.not_eq_true] at hnone ⊢
      exact fun hfound => hnone (h.keeps.isSome_find? hfound)
    rw [settle_rehearsal_of_free hfree, settle_of_free hreal hlater hsettled]
    exact ⟨nofun, rfl, h.foretells.addWritten _, hkeeps, halters, h.force, hcontested⟩
  | true =>
    obtain ⟨hfound, hforce⟩ := Bool.and_eq_true_iff.mp hlater
    rw [settle_of_found hlater] at hkeeps halters ⊢
    have hnoforce : s.force = true → (real.addSkipped (s.destination a)).skipped = [] := by
      intro he
      rw [he] at hforce
      cases hforce
    cases hfind : t.find? (s.destination a) with
    | some entry =>
      have hstart : ((t.find? (s.destination a)).isSome && !s.force) = true := by
        rw [hfind, hforce]
        rfl
      rw [show s.rehearsal.settle t a = (.kept, t) from settle_of_found hstart]
      refine ⟨nofun, rfl, h.foretells.addSkipped ?_, hkeeps, halters, hnoforce, ?_⟩
      · rw [hfind]
        rfl
      · intro ht path hpath hfree
        rcases List.mem_append.mp hpath with hpath | hpath
        · exact hcontested ht path hpath hfree
        · obtain rfl := List.mem_singleton.mp hpath
          cases hfind.symm.trans hfree
    | none =>
      rw [settle_rehearsal_of_free (by rw [hfind]; rfl)]
      refine ⟨nofun, rfl, h.foretells.addMissed hfind, hkeeps, halters, hnoforce, ?_⟩
      intro ht path hpath hfree
      rcases List.mem_append.mp hpath with hpath | hpath
      · exact hcontested ht path hpath hfree
      · obtain rfl := List.mem_singleton.mp hpath
        refine ⟨a, List.mem_append_right seen List.mem_cons_self, rfl, ?_⟩
        by_cases hdetours : t.Detours (s.destination a)
        · exact .inl hdetours
        · obtain ⟨b, hb, hway⟩ := h.onWay_of_missed ht hfree hfound hdetours
          exact .inr ⟨b, (List.singleton_sublist.mpr hb).append_right [a], hway⟩

theorem putAll (h : s.Rehearsed t seen dry real t') (hreal : s.dryRun = false) (document : String)
    {artifacts : List Artifact}
    (hok : (((s.putAll FileTree.access document artifacts).run real).run t').1.1.result = .ok ()) :
    let written := ((s.putAll FileTree.access document artifacts).run real).run t'
    let reported := ((s.rehearsal.putAll FileTree.access document artifacts).run dry).run t
    reported.1.1.result = .ok () ∧ reported.2 = t ∧
      s.Rehearsed t (seen ++ artifacts) reported.1.2 written.1.2 written.2 := by
  induction artifacts generalizing seen dry real t' with
  | nil =>
    rw [List.append_nil]
    exact ⟨rfl, rfl, h⟩
  | cons a rest ih =>
    rw [putAll_cons] at hok
    rw [putAll_cons, putAll_cons]
    have hsettled : (s.settle t' a).1 ≠ .failed := by
      intro hfailed
      rw [hfailed] at hok
      cases hok
    obtain ⟨hgoes, htree, hnext⟩ := h.settle hreal hsettled
    rw [if_neg hsettled] at hok
    dsimp only at hok ⊢
    rw [Traced.result_bind, bind_eq_ok] at hok
    obtain ⟨-, -, hrest⟩ := hok
    obtain ⟨hresult, hsame, hlast⟩ := ih hnext hrest
    rw [if_neg hsettled, if_neg hgoes, show (s.rehearsal.settle t a).2 = t from htree]
    refine ⟨?_, hsame, ?_⟩
    · rw [Traced.result_bind, Disposition.result_traced hgoes]
      exact hresult
    · rw [List.append_cons]
      exact hlast

theorem sink (h : s.Rehearsed t seen dry real t') (hreal : s.dryRun = false) (document : String)
    {artifacts : List Artifact}
    (hok : (((s.sink FileTree.access document artifacts).run real).run t').1.1.result = .ok ()) :
    let written := ((s.sink FileTree.access document artifacts).run real).run t'
    let reported := ((s.rehearsal.sink FileTree.access document artifacts).run dry).run t
    reported.1.1.result = .ok () ∧ reported.2 = t ∧
      s.Rehearsed t (seen ++ artifacts) reported.1.2 written.1.2 written.2 := by
  rcases s.sink_cases document artifacts real t' with ⟨a, ha, -, hrun⟩ | ⟨hinside, hsink⟩
  · rw [hrun] at hok
    cases hok
  rcases s.rehearsal.sink_cases document artifacts dry t with ⟨a, ha, hout, -⟩ | ⟨-, hsink'⟩
  · rw [hinside a ha] at hout
    cases hout
  rw [hsink] at hok
  rw [hsink, hsink']
  exact h.putAll hreal document hok

end Rehearsed

end FileSink

/-! ### Runs -/

namespace DeliveryState

/-- Documents that a run delivers are delivered by the dry run from the same tree, with the same
artifacts. -/
theorem Delivered.rehearsed {texts : FileTree → TemplateSource Id} {s : FileSink}
    (hreal : s.dryRun = false) {t : FileTree} {x x' : DeliveryState WriteReport FileTree}
    {done : List (Document × List Artifact)}
    (h : Delivered (.reading texts) (s.sink FileTree.access) x done x')
    {seen : List Artifact} {dry : WriteReport} (hready : x.generator.Ready ∨ x.world = t)
    (hseen : s.Rehearsed t seen dry x.kept x.world) :
    ∃ dry', Delivered (.reading texts) (s.rehearsal.sink FileTree.access) ⟨x.generator, dry, t⟩ done
        ⟨x'.generator, dry', t⟩ ∧
      s.Rehearsed t (seen ++ done.flatMap Prod.snd) dry' x'.kept x'.world := by
  induction h generalizing seen dry with
  | nil x =>
    refine ⟨dry, .nil _, ?_⟩
    rwa [List.flatMap_nil, List.append_nil]
  | @cons x x₁ x₂ x₃ d artifacts done hgenerate haccept _ ih =>
    -- the templates are all there, or they are read from the same tree
    have hsame : x.generator.generate (texts x.world) d.name d.text =
        x.generator.generate (texts t) d.name d.text := by
      rcases hready with hready | rfl
      · exact Generator.generate_of_ready hready _ _ d.name d.text
      · rfl
    rw [generate_reading] at hgenerate
    obtain ⟨houtcome, rfl⟩ := Prod.mk.inj hgenerate
    have hready' := Generator.ready_of_outcome houtcome
    obtain ⟨hok, rfl⟩ := Prod.mk.inj haccept
    obtain ⟨hresult, htree, hnext⟩ := hseen.sink hreal d.name hok
    obtain ⟨dry', hrest, hlast⟩ := ih (.inl hready') hnext
    refine ⟨dry', ?_, ?_⟩
    · have hgenerate' : generate (.reading texts) ⟨x.generator, dry, t⟩ d =
          (.ok artifacts, ⟨(x.generator.generate (texts x.world) d.name d.text).1, dry, t⟩) := by
        rw [generate_reading, hsame]
        rw [Generator.outcome, hsame] at houtcome
        exact Prod.ext houtcome rfl
      refine .cons hgenerate' (Prod.ext hresult ?_) hrest
      exact congrArg (DeliveryState.mk _ _) htree
    · rw [List.flatMap_cons, ← List.append_assoc]
      exact hlast

end DeliveryState

/-- Where a run that writes succeeds, a dry run from the same tree succeeds with the same total, the
same artifacts and the tree as it was. It reports the same as skipped, but for what was not there at
the start, and as written at least what was written. So the reports are the same exactly if nothing
was skipped but what was there at the start, and always with force.

Without a detour they can differ only by an artifact that is placed on the way to one before it. -/
theorem dry_run_report (texts : FileTree → TemplateSource Id) (g : Generator) (root : String)
    (force : Bool) (t : FileTree) (documents : List Document) (total : Nat) :
    let s : FileSink := ⟨root, force, false⟩
    let source := TemplateSource.reading texts
    let start : DeliveryState WriteReport FileTree := ⟨g, .empty, t⟩
    let real := start.generateAll source (s.sink FileTree.access) documents
    let dry := start.generateAll source (s.rehearsal.sink FileTree.access) documents
    real.1 = .ok total →
      dry.1 = .ok total ∧ dry.2.world = t ∧
      dry.2.kept.skipped = real.2.kept.skipped.filter (fun path => (t.find? path).isSome) ∧
      real.2.kept.written.Sublist dry.2.kept.written ∧
      (dry.2.kept = real.2.kept ↔ ∀ path ∈ real.2.kept.skipped, (t.find? path).isSome = true) ∧
      (force = true → dry.2.kept = real.2.kept) ∧
      ∃ done, documents = done.map Prod.fst ∧
        DeliveryState.Delivered source (s.sink FileTree.access) start done real.2 ∧
        DeliveryState.Delivered source (s.rehearsal.sink FileTree.access) start done dry.2 ∧
        (t.Closed → (∀ a ∈ done.flatMap Prod.snd, ¬t.Detours (s.destination a)) →
          (done.flatMap Prod.snd).Pairwise
            (fun a b => ¬s.OnWayTo t a (t.place (s.destination b))) →
          dry.2.kept = real.2.kept) := by
  intro s source start real dry hok
  obtain ⟨done, rfl, hdelivered, rfl⟩ :=
    DeliveryState.generateAll_eq_ok_iff.mp (Prod.ext hok rfl : real = (.ok total, real.2))
  obtain ⟨kept, hdry, hlast⟩ := hdelivered.rehearsed rfl (.inr rfl) (.start s t)
  have hrun := DeliveryState.generateAll_eq_ok_iff.mpr ⟨done, rfl, hdry, rfl⟩
  have hdry_eq : dry = _ := hrun
  rw [List.nil_append] at hlast
  rw [hdry_eq]
  refine ⟨rfl, rfl, hlast.foretells.skipped, hlast.foretells.written, hlast.foretells.eq_iff, ?_,
    done, rfl, hdelivered, hdry, ?_⟩
  · intro hforce
    refine hlast.foretells.agree ?_
    rw [hlast.force hforce]
    exact nofun
  · intro ht hdetours hclash
    refine hlast.foretells.agree fun path hpath => ?_
    by_contra hmissed
    obtain ⟨b, hb, rfl, hdetour | ⟨a, hsub, hway⟩⟩ :=
      hlast.contested ht path hpath (by simpa using hmissed)
    · exact hdetours b hb hdetour
    · exact List.pairwise_iff_forall_sublist.mp hclash hsub hway

/-- One file that is there and one that is not, with the same report from both runs. -/
theorem dry_run_report_with_file :
    let g := Generator.fresh ⟨.ofList [("t", ⟨"d", ".js", .empty⟩)], .empty⟩ .empty none
    let s : FileSink := ⟨"out", false, false⟩
    let t : FileTree := ⟨[], [(["out"], .directory), (["out", "d"], .directory),
      (["out", "d", "pet.js"], .file [111]), (["t"], .file [120])]⟩
    let source := TemplateSource.reading (FileTree.templates "")
    let text := "paths:\n  /pets: 1\ndefinitions:\n  Pet: 1\n  Dog: 2\n"
    let start : DeliveryState WriteReport FileTree := ⟨g, .empty, t⟩
    let real := start.generateAll source (s.sink FileTree.access) [⟨"a", text⟩]
    let dry := start.generateAll source (s.rehearsal.sink FileTree.access) [⟨"a", text⟩]
    real.1 = .ok 2 ∧ real.2.kept = ⟨["out/d/dog.js"], ["out/d/pet.js"]⟩ ∧
      dry.1 = .ok 2 ∧ dry.2.world = t ∧ dry.2.kept = ⟨["out/d/dog.js"], ["out/d/pet.js"]⟩ := by
  intro g s t source text start real dry
  have hok : real.1 = .ok 2 := by decide +kernel
  obtain ⟨htotal, htree, -⟩ :=
    dry_run_report (FileTree.templates "") g "out" false t [⟨"a", text⟩] 2 hok
  exact ⟨hok, by decide +kernel, htotal, htree, by decide +kernel⟩

/-- Two definitions whose names differ in case only have one file, which the dry run reports twice.
-/
theorem dry_run_report_differs :
    let g := Generator.fresh ⟨.ofList [("t", ⟨"d", ".js", .empty⟩)], .empty⟩ .empty none
    let s : FileSink := ⟨"out", false, false⟩
    let t : FileTree := ⟨[], [(["t"], .file [120])]⟩
    let source := TemplateSource.reading (FileTree.templates "")
    let text := "paths:\n  /pets: 1\ndefinitions:\n  Pet: 1\n  pet: 2\n"
    let start : DeliveryState WriteReport FileTree := ⟨g, .empty, t⟩
    let real := start.generateAll source (s.sink FileTree.access) [⟨"a", text⟩]
    let dry := start.generateAll source (s.rehearsal.sink FileTree.access) [⟨"a", text⟩]
    real.1 = .ok 2 ∧ real.2.kept = ⟨["out/d/pet.js"], ["out/d/pet.js"]⟩ ∧
      dry.1 = .ok 2 ∧ dry.2.kept = ⟨["out/d/pet.js", "out/d/pet.js"], []⟩ := by
  intro g s t source text start real dry
  exact ⟨by decide +kernel, by decide +kernel, by decide +kernel, by decide +kernel⟩

end ContractPress
