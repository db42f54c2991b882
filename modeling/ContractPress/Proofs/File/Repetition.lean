import ContractPress.Proofs.File.Settling

/-!
Giving a sink the same artifacts once more.

What has been made for an artifact is found from then on, and nothing that is made later stands in
the way of making it again (`writeFile_again`). So a second call without force keeps every artifact
back, and one with force writes each file with the octets that it has in the end: of several
artifacts for one place the last one decides in both calls (`accepted_again`).
-/

namespace ContractPress

open ContractPress.Path (Segment)

namespace FileTree

variable {t t' : FileTree}

/-! ### Making again what is still there -/

/-- Directories that have been made are there for those who make them again. -/
theorem createAlong_again {ss : List Segment} {start : Location}
    (hmade : (createAlong ss start t).2 = true)
    (hkeeps : Keeps (fun _ => True) (createAlong ss start t).1 t') :
    createAlong ss start t' = (t', true) := by
  induction ss generalizing start t with
  | nil => rfl
  | cons s ss ih =>
    cases s with
    | root | here | up => exact ih hmade hkeeps
    | name text =>
      have henter : ∀ made : FileTree, made.entry? (start ++ [text]) = some .directory →
          (createAlong ss (start ++ [text]) made).2 = true →
          Keeps (fun _ => True) (createAlong ss (start ++ [text]) made).1 t' →
          createAlong (.name text :: ss) start t' = (t', true) := by
        intro made hdir hmade hkeeps
        have hthere := ((createAlong_grows ss _ made).keeps.trans hkeeps).directory _ hdir
        rw [createAlong, hthere]
        exact ih hmade hkeeps
      rw [createAlong] at hmade hkeeps
      cases hentry : t.entry? (start ++ [text]) with
      | none =>
        rw [hentry] at hmade hkeeps
        dsimp only at hmade hkeeps
        split at hmade
        · rename_i hfits
          rw [if_pos hfits] at hkeeps
          refine henter _ ?_ hmade hkeeps
          rw [entry_insert t (by simp), if_pos rfl]
        · cases hmade
      | some entry =>
        rw [hentry] at hmade hkeeps
        cases entry with
        | directory => exact henter t hentry hmade hkeeps
        | file octets => cases hmade

theorem createDirectories_again {path : String} (hmade : (t.createDirectories path).2 = true)
    (hkeeps : Keeps (fun _ => True) (t.createDirectories path).1 t') :
    t'.createDirectories path = (t', true) := by
  have hstart : t'.start path = t.start path :=
    ((t.createDirectories_grows path).keeps.trans hkeeps).start_eq path
  unfold createDirectories at hmade hkeeps ⊢
  rw [hstart]
  split at hmade
  · rename_i husable
    rw [if_pos husable] at hkeeps ⊢
    exact createAlong_again hmade hkeeps
  · cases hmade

theorem write_keeps (t : FileTree) (path : String) (octets : List UInt8) :
    Keeps (fun _ => True) t (t.write path octets).1 := by
  rcases t.write_cases path octets with hwrite | ⟨hdir, hwrite⟩
  · rw [hwrite]
    exact .refl t
  · rw [hwrite]
    exact (insert_keeps hdir octets).mono fun _ _ => trivial

/-- A file that has been written is found as long as it is kept, and can be written again. -/
theorem write_again {path : String} {octets : List UInt8} (hwrote : (t.write path octets).2 = true)
    (hkeeps : Keeps (fun _ => True) (t.write path octets).1 t') :
    (t'.find? path).isSome = true ∧
      ∀ octets', t'.write path octets' = (t'.insert (t'.place path) (.file octets'), true) := by
  have hkept := (t.write_keeps path octets).trans hkeeps
  obtain ⟨place, hlocate⟩ := exists_locate?_of_write hwrote
  obtain rfl := locate?_eq_place hlocate
  have hlocate' := hkept.locate?_eq hlocate
  obtain ⟨octets₁, hfile⟩ : ∃ octets₁, t'.entry? (t.place path) = some (.file octets₁) := by
    rcases t.write_cases path octets with hnot | ⟨hdir, hwrite⟩
    · rw [hnot] at hwrote
      cases hwrote
    rw [hwrite] at hkeeps
    have hinsert : entry? (t.insert (t.place path) (.file octets)) (t.place path) =
        some (.file octets) := by
      rw [entry_insert t (ne_nil_of_not_isDirectory hdir), if_pos rfl]
    rcases hkeeps.file _ _ hinsert with he | ⟨-, he⟩
    · exact ⟨octets, he⟩
    · exact he
  refine ⟨?_, fun octets' => ?_⟩
  · rw [find?, hlocate']
    show (t'.entry? (t.place path)).isSome = true
    rw [hfile]
    rfl
  · rw [write, hlocate', hkept.place_eq]
    have hdir : t'.isDirectory (t.place path) = false := by simp [isDirectory, hfile]
    show (if t'.isDirectory (t.place path) then _ else _) = _
    rw [hdir]
    rfl

theorem writeFile_again {path : String} {octets : List UInt8}
    (hwrote : (t.writeFile path octets).2 = true)
    (hkeeps : Keeps (fun _ => True) (t.writeFile path octets).1 t') :
    (t'.find? path).isSome = true ∧
      ∀ octets', t'.writeFile path octets' = (t'.insert (t'.place path) (.file octets'), true) := by
  unfold writeFile at hwrote hkeeps ⊢
  cases hparent : Path.parent? path with
  | none =>
    rw [hparent] at hwrote hkeeps
    exact write_again hwrote hkeeps
  | some directory =>
    rw [hparent] at hwrote hkeeps
    dsimp only at hwrote hkeeps ⊢
    split at hwrote
    · rename_i hmade
      rw [if_pos hmade] at hkeeps
      rw [createDirectories_again hmade ((write_keeps _ path octets).trans hkeeps)]
      exact write_again hwrote hkeeps
    · cases hwrote

theorem get?_entries_of_file {place : Location} {octets : List UInt8}
    (h : t.entry? place = some (.file octets)) : t.entries.get? place = some (.file octets) := by
  unfold entry? at h
  split at h
  · cases h
  · exact h

end FileTree

namespace FileSink

open FileTree (Keeps)

variable {s : FileSink} {x x' : WriteReport × FileTree} {artifacts : List Artifact}

/-! ### What a call leaves for the next one -/

/-- Something is at the path of an artifact, and stays there; with force the artifact can be written
again in any tree that keeps what is there. -/
structure Repeatable (s : FileSink) (t : FileTree) (a : Artifact) : Prop where
  found : (t.find? (s.destination a)).isSome = true
  writeFile : s.force = true → ∀ t', Keeps (fun _ => True) t t' → ∀ octets,
    t'.writeFile (s.destination a) octets =
      (t'.insert (t'.place (s.destination a)) (.file octets), true)

theorem repeatable_settle (hreal : s.dryRun = false) {t : FileTree} {a : Artifact}
    (hsettled : (s.settle t a).1 ≠ .failed) {t' : FileTree}
    (hkeeps : Keeps (fun _ => True) (s.settle t a).2 t') : s.Repeatable t' a := by
  cases hlater : (t.find? (s.destination a)).isSome && !s.force with
  | true =>
    obtain ⟨hfound, hforce⟩ := Bool.and_eq_true_iff.mp hlater
    rw [settle_of_found hlater] at hkeeps
    refine ⟨hkeeps.isSome_find? hfound, fun he => ?_⟩
    rw [he] at hforce
    cases hforce
  | false =>
    rw [settle_eq_writeFile hreal hlater] at hsettled hkeeps
    have hwrote : (t.writeFile (s.destination a) (Text.toUtf8 a.contents)).2 = true := by
      by_contra hnot
      exact hsettled (if_neg hnot)
    refine ⟨(FileTree.writeFile_again hwrote hkeeps).1, fun _ t'' hkeeps' => ?_⟩
    exact (FileTree.writeFile_again hwrote (hkeeps.trans hkeeps')).2

/-- With force an artifact that does not fail is there as a file. -/
theorem entry_settle_of_force (hreal : s.dryRun = false) (hforce : s.force = true) {t : FileTree}
    {a : Artifact} (hsettled : (s.settle t a).1 ≠ .failed) :
    FileTree.entry? (s.settle t a).2 (t.place (s.destination a)) =
      some (.file (Text.toUtf8 a.contents)) := by
  have hfree : ((t.find? (s.destination a)).isSome && !s.force) = false := by simp [hforce]
  rw [settle_eq_writeFile hreal hfree] at hsettled ⊢
  obtain ⟨made, -, hwrite | ⟨hdir, hwrite⟩⟩ :=
    t.writeFile_cases (s.destination a) (Text.toUtf8 a.contents)
  · rw [hwrite] at hsettled
    exact absurd rfl hsettled
  · rw [hwrite]
    show FileTree.entry? (made.insert _ _) _ = _
    rw [FileTree.entry_insert made (FileTree.ne_nil_of_not_isDirectory hdir), if_pos rfl]

namespace Settles

theorem keeps (h : s.Settles x artifacts x') :
    Keeps (fun place => ∃ a ∈ artifacts, place = x.2.place (s.destination a)) x.2 x'.2 := by
  induction h with
  | nil x => exact .refl x.2
  | @cons x x' a artifacts first _ ih =>
    have hfirst := s.settle_keeps_entries x.2 a
    refine (hfirst.mono fun place hplace => ?_).trans (ih.mono fun place hplace => ?_)
    · exact ⟨a, List.mem_cons_self, hplace⟩
    · obtain ⟨b, hb, hplace⟩ := hplace
      rw [settled, hfirst.place_eq] at hplace
      exact ⟨b, List.mem_cons_of_mem a hb, hplace⟩

theorem repeatable (h : s.Settles x artifacts x') (hreal : s.dryRun = false) :
    ∀ a ∈ artifacts, s.Repeatable x'.2 a := by
  induction h with
  | nil x => exact nofun
  | @cons x x' a artifacts first rest ih =>
    refine List.forall_mem_cons.mpr ⟨?_, ih⟩
    exact repeatable_settle hreal first (rest.keeps.mono fun _ _ => trivial)

end Settles

/-! ### The files in the end -/

/-- The files that artifacts become, if all are written. -/
def files (s : FileSink) (t : FileTree) (artifacts : List Artifact) :
    List (Location × FileEntry) :=
  artifacts.map fun a => (t.place (s.destination a), .file (Text.toUtf8 a.contents))

theorem files_congr {t t' : FileTree} (h : t'.workingDirectory = t.workingDirectory)
    (artifacts : List Artifact) : s.files t' artifacts = s.files t artifacts :=
  List.map_congr_left fun a _ => by rw [FileTree.place_congr h]

/-- With force, of the artifacts for one place the last one is there. -/
theorem Settles.get?_of_files (h : s.Settles x artifacts x') (hreal : s.dryRun = false)
    (hforce : s.force = true) :
    ∀ place ∈ (s.files x.2 artifacts).map Prod.fst,
      x'.2.entries.get? place = Entries.get? place (s.files x.2 artifacts).reverse := by
  induction h with
  | nil x => exact nofun
  | @cons x x' a artifacts first rest ih =>
    intro place hplace
    have hsame : s.files (s.settled x a).2 artifacts = s.files x.2 artifacts :=
      files_congr (s.settle_keeps_entries x.2 a).workingDirectory artifacts
    rw [hsame] at ih
    rw [files, List.map_cons, ← files, List.reverse_cons, Entries.get?_append]
    by_cases hlater : place ∈ (s.files x.2 artifacts).map Prod.fst
    · rw [ih place hlater]
      cases hget : Entries.get? place (s.files x.2 artifacts).reverse with
      | some entry => rfl
      | none => exact absurd hlater (Entries.get?_reverse_eq_none_iff.mp hget)
    · -- no later artifact belongs at the place, so the first one stays there
      obtain rfl := (List.mem_cons.mp hplace).resolve_right hlater
      rw [Entries.get?_reverse_eq_none_iff.mpr hlater]
      have hfirst := entry_settle_of_force hreal hforce first
      rcases rest.keeps.file _ _ hfirst with he | ⟨⟨b, hb, he⟩, -⟩
      · simp [FileTree.get?_entries_of_file he, Entries.get?]
      · rw [settled, (s.settle_keeps_entries x.2 a).place_eq] at he
        rw [files, List.map_map] at hlater
        exact absurd (List.mem_map.mpr ⟨b, hb, he.symm⟩) hlater

/-! ### The second call -/

/-- Where something is found at the path of each artifact, a sink without force keeps all back. -/
theorem settles_of_found (hforce : s.force = false)
    (hfound : ∀ a ∈ artifacts, (x.2.find? (s.destination a)).isSome = true) :
    s.Settles x artifacts
      (⟨x.1.written, x.1.skipped ++ artifacts.map s.destination⟩, x.2) := by
  induction artifacts generalizing x with
  | nil =>
    rw [List.map_nil, List.append_nil]
    exact .nil x
  | cons a artifacts ih =>
    rw [List.forall_mem_cons] at hfound
    have hkept : s.settle x.2 a = (.kept, x.2) := settle_of_found (by simp [hfound.1, hforce])
    have hsettled : s.settled x a = (x.1.addSkipped (s.destination a), x.2) := by
      rw [settled, hkept]
      rfl
    refine .cons (by simp [hkept]) ?_
    rw [hsettled, List.map_cons, List.append_cons]
    exact @ih (x.1.addSkipped (s.destination a), x.2) hfound.2

/-- Where each artifact can be written again, a sink with force writes all of them. -/
theorem settles_of_repeatable (hreal : s.dryRun = false) (hforce : s.force = true) {t : FileTree}
    (hkeeps : Keeps (fun _ => True) t x.2) (hagain : ∀ a ∈ artifacts, s.Repeatable t a) :
    s.Settles x artifacts
      (⟨x.1.written ++ artifacts.map s.destination, x.1.skipped⟩,
        { x.2 with entries := x.2.entries.insertAll (s.files x.2 artifacts) }) := by
  induction artifacts generalizing x with
  | nil =>
    rw [List.map_nil, List.append_nil]
    exact .nil x
  | cons a artifacts ih =>
    rw [List.forall_mem_cons] at hagain
    have hfree : ((x.2.find? (s.destination a)).isSome && !s.force) = false := by simp [hforce]
    have hwrite := hagain.1.writeFile hforce x.2 hkeeps (Text.toUtf8 a.contents)
    have hsettle := settle_eq_writeFile hreal hfree
    rw [hwrite] at hsettle
    have hkeeps' := hkeeps.trans ((s.settle_keeps_entries x.2 a).mono fun _ _ => trivial)
    have hsettled : s.settled x a = (x.1.addWritten (s.destination a),
        x.2.insert (x.2.place (s.destination a)) (.file (Text.toUtf8 a.contents))) := by
      rw [settled, hsettle]
      rfl
    refine .cons (by simp [hsettle]) ?_
    rw [hsettle] at hkeeps'
    rw [hsettled, List.map_cons, List.append_cons]
    exact @ih (x.1.addWritten (s.destination a), _) hkeeps' hagain.2

end FileSink

/-- Artifacts that a sink has accepted are accepted once more, and the tree stays as it is: a sink
without force keeps all of them back, and if both sinks write with force the second one writes all
of them. -/
theorem accepted_again (root : String) (force : Bool) (t : FileTree) (r : WriteReport)
    (document document' : String) (artifacts : List Artifact) :
    let first : FileSink := ⟨root, force, false⟩
    let once := first.afterCall (r, t) (document, artifacts)
    first.answer (r, t) (document, artifacts) = .ok () →
      (∀ dryRun,
        let second : FileSink := ⟨root, false, dryRun⟩
        let again : WriteReport × FileTree := (.empty, once.2)
        second.answer again (document', artifacts) = .ok () ∧
        second.afterCall again (document', artifacts) =
          (⟨[], artifacts.map second.destination⟩, once.2)) ∧
      (force = true →
        let again : WriteReport × FileTree := (.empty, once.2)
        first.answer again (document', artifacts) = .ok () ∧
        first.afterCall again (document', artifacts) =
          (⟨artifacts.map first.destination, []⟩, once.2)) := by
  intro first once haccepted
  have hinside := FileSink.inside_of_accepted haccepted
  have hsettles : first.Settles (r, t) artifacts once := FileSink.settles_of_accepted haccepted
  have hagain := hsettles.repeatable rfl
  refine ⟨fun dryRun => ?_, fun hforce => ?_⟩
  · have hfound : ∀ a ∈ artifacts,
        (once.2.find? (FileSink.destination ⟨root, false, dryRun⟩ a)).isSome = true :=
      fun a ha => (hagain a ha).found
    exact FileSink.accepted_of_settles document' hinside
      (FileSink.settles_of_found (x := (.empty, once.2)) rfl hfound)
  · have hsecond : first.Settles (.empty, once.2) artifacts _ :=
      FileSink.settles_of_repeatable rfl hforce (.refl once.2) hagain
    have hfiles : once.2.entries.insertAll (first.files once.2 artifacts) = once.2.entries := by
      rw [FileSink.files_congr hsettles.keeps.workingDirectory]
      exact Entries.insertAll_eq_self (hsettles.get?_of_files rfl hforce)
    rw [hfiles] at hsecond
    exact FileSink.accepted_of_settles document' hinside hsecond

/-- Two texts for one file, and a way through a directory that is made on the way. -/
theorem accepted_again_with_two_texts :
    let t : FileTree := ⟨[], [(["out"], .directory), (["out", "a.js"], .file [111])]⟩
    let artifacts : List Artifact := [⟨"a.js", "x"⟩, ⟨"new/../b.js", "y"⟩, ⟨"a.js", "z"⟩]
    let first : FileSink := ⟨"out", true, false⟩
    let second : FileSink := ⟨"out", false, false⟩
    let once := first.afterCall (.empty, t) ("d", artifacts)
    first.answer (.empty, t) ("d", artifacts) = .ok () ∧
      once.2.fileAt? ["out", "a.js"] = some [122] ∧
      artifacts.map first.destination = ["out/a.js", "out/new/../b.js", "out/a.js"] ∧
      (second.answer (.empty, once.2) ("e", artifacts) = .ok () ∧
        second.afterCall (.empty, once.2) ("e", artifacts) =
          (⟨[], artifacts.map second.destination⟩, once.2)) ∧
      first.answer (.empty, once.2) ("e", artifacts) = .ok () ∧
      first.afterCall (.empty, once.2) ("e", artifacts) =
        (⟨artifacts.map first.destination, []⟩, once.2) := by
  intro t artifacts first second once
  have haccepted : first.answer (.empty, t) ("d", artifacts) = .ok () := by decide +kernel
  have hagain := accepted_again "out" true t .empty "d" "e" artifacts haccepted
  exact ⟨haccepted, by decide +kernel, by decide +kernel, hagain.1 false, hagain.2 rfl⟩

end ContractPress
