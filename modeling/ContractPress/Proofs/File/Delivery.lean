import ContractPress.File.Sink
import ContractPress.Proofs.File.Places
import ContractPress.Proofs.Results

/-!
Artifacts delivered to a tree of files, artifact by artifact.

`settle` is what becomes of one artifact and of the tree; a sink's run is made of these steps
(`putAll_cons`). Whatever happens to an artifact, the tree gains at most directories on the way to
its destination and a file there (`writeFile_cases`).
-/

namespace ContractPress

namespace Path

theorem segments_of_parent? {path directory : String} (h : parent? path = some directory) :
    segments directory = (segments path).dropLast := by
  unfold parent? at h
  split at h
  · cases h
  · cases h
  · rename_i s rest _ hrev
    have hss : segments path = rest.reverse ++ [s] := by
      rw [← List.reverse_reverse (segments path), hrev, List.reverse_cons]
    have hw : WellFormed rest.reverse := by
      have := (wellFormed_segments path).dropLast
      rwa [hss, List.dropLast_concat] at this
    rw [← Option.some.inj h, segments_ofSegments hw, hss, List.dropLast_concat]

theorem isAbsolute_of_parent? {path directory : String} (h : parent? path = some directory) :
    isAbsolute directory = isAbsolute path := by
  rw [Bool.eq_iff_iff, isAbsolute_iff_segments, isAbsolute_iff_segments, segments_of_parent? h]
  match hss : segments path with
  | [] => rfl
  | [s] =>
    have hs : s ≠ .root := by
      rintro rfl
      simp [parent?, hss] at h
    simp [hs]
  | s :: s' :: rest => simp

end Path

namespace FileTree

/-- Makes the directories above a file and gives the file its octets. -/
def writeFile (t : FileTree) (path : String) (octets : List UInt8) : FileTree × Bool :=
  match Path.parent? path with
  | some directory =>
    if (t.createDirectories directory).2 then (t.createDirectories directory).1.write path octets
    else ((t.createDirectories directory).1, false)
  | none => t.write path octets

theorem createDirectories_parent_grows {t : FileTree} {path directory : String}
    (h : Path.parent? path = some directory) :
    Grows (OnWay (t.start path) (Path.segments path).dropLast) t
      (t.createDirectories directory).1 := by
  have hgrows := t.createDirectories_grows directory
  rwa [start, Path.isAbsolute_of_parent? h, ← start, Path.segments_of_parent? h] at hgrows

/-- After the directories on the way have been made, nothing else happens, or the path's place
becomes a file. -/
theorem writeFile_cases (t : FileTree) (path : String) (octets : List UInt8) :
    ∃ made, Grows (OnWay (t.start path) (Path.segments path).dropLast) t made ∧
      (t.writeFile path octets = (made, false) ∨
        made.isDirectory (t.place path) = false ∧
          t.writeFile path octets = (made.insert (t.place path) (.file octets), true)) := by
  unfold writeFile
  split
  · rename_i directory hparent
    have hgrows := createDirectories_parent_grows (t := t) hparent
    refine ⟨_, hgrows, ?_⟩
    split
    · rw [← hgrows.place_eq path]
      exact write_cases _ path octets
    · exact .inl rfl
  · exact ⟨t, .refl t, write_cases t path octets⟩

end FileTree

theorem Disposition.result_traced {d : Disposition} (h : d ≠ .failed)
    (document path contents : String) : (d.traced document path contents).result = .ok () := by
  cases d with
  | failed => exact absurd rfl h
  | kept | planned | written => rfl

namespace FileSink

/-- What becomes of an artifact, and the tree afterwards. -/
def settle (s : FileSink) (t : FileTree) (a : Artifact) : Disposition × FileTree :=
  if (t.find? (s.destination a)).isSome && !s.force then (.kept, t)
  else if s.dryRun then (.planned, t)
  else
    let r := t.writeFile (s.destination a) (Text.toUtf8 a.contents)
    (if r.2 then .written else .failed, r.1)

theorem settle_of_found {s : FileSink} {t : FileTree} {a : Artifact}
    (hfound : ((t.find? (s.destination a)).isSome && !s.force) = true) :
    s.settle t a = (.kept, t) := by
  rw [settle, if_pos hfound]

/-- An artifact that is not kept back is written, or that fails. -/
theorem settle_eq_writeFile {s : FileSink} (hreal : s.dryRun = false) {t : FileTree} {a : Artifact}
    (hfree : ((t.find? (s.destination a)).isSome && !s.force) = false) :
    s.settle t a =
      (if (t.writeFile (s.destination a) (Text.toUtf8 a.contents)).2 then .written else .failed,
        (t.writeFile (s.destination a) (Text.toUtf8 a.contents)).1) := by
  rw [settle, hfree, hreal]
  rfl

theorem settle_of_free {s : FileSink} (hreal : s.dryRun = false) {t : FileTree} {a : Artifact}
    (hfree : ((t.find? (s.destination a)).isSome && !s.force) = false)
    (hsettled : (s.settle t a).1 ≠ .failed) : (s.settle t a).1 = .written := by
  rw [settle_eq_writeFile hreal hfree] at hsettled ⊢
  dsimp only at hsettled ⊢
  split
  · rfl
  · rename_i hwrite
    exact absurd (if_neg hwrite) hsettled

theorem occupied_run (t : FileTree) (path : String) :
    (FileTree.access.occupied path).run t = ((t.find? path).isSome, t) := rfl

theorem createDirectories_run (t : FileTree) (path : String) :
    (FileTree.access.createDirectories path).run t =
      ((t.createDirectories path).2, (t.createDirectories path).1) := rfl

theorem write_run (t : FileTree) (path contents : String) :
    (FileTree.access.write path contents).run t =
      ((t.write path (Text.toUtf8 contents)).2, (t.write path (Text.toUtf8 contents)).1) := rfl

theorem writeFile_run (t : FileTree) (path contents : String) :
    (writeFile FileTree.access path contents).run t =
      ((t.writeFile path (Text.toUtf8 contents)).2,
        (t.writeFile path (Text.toUtf8 contents)).1) := by
  unfold writeFile FileTree.writeFile
  cases Path.parent? path with
  | none => exact write_run t path contents
  | some directory =>
    apply (run_bind_of_run (createDirectories_run t directory)).trans
    dsimp only
    split
    · exact write_run _ path contents
    · rfl

theorem put_run (s : FileSink) (t : FileTree) (a : Artifact) :
    (s.put FileTree.access (s.destination a) a.contents).run t = s.settle t a := by
  unfold put settle
  apply (run_bind_of_run (occupied_run t (s.destination a))).trans
  split
  · rfl
  split
  · rfl
  apply (run_bind_of_run (writeFile_run t (s.destination a) a.contents)).trans
  dsimp only
  split <;> rfl

/-- One artifact after the other, up to one that fails. -/
theorem putAll_cons (s : FileSink) (document : String) (a : Artifact) (rest : List Artifact)
    (r : WriteReport) (t : FileTree) :
    ((s.putAll FileTree.access document (a :: rest)).run r).run t =
      let first := (s.settle t a).1
      let report := first.record (s.destination a) r
      let events := first.traced document (s.destination a) a.contents
      if first = .failed then ((events, report), (s.settle t a).2)
      else
        let others := ((s.putAll FileTree.access document rest).run report).run (s.settle t a).2
        ((do events; others.1.1, others.1.2), others.2) := by
  have hput : ((StateT.lift (s.put FileTree.access (s.destination a) a.contents) :
      StateT WriteReport (StateM FileTree) Disposition).run r).run t =
      (((s.settle t a).1, r), (s.settle t a).2) := by
    rw [StateT.run_lift]
    exact run_bind_of_run (put_run s t a)
  rw [putAll, StateT.run_bind]
  apply (run_bind_of_run hput).trans
  cases (s.settle t a).1 <;> rfl

end FileSink

end ContractPress
