import ContractPress.Proofs.Entries
import ContractPress.Proofs.File.Delivery

/-!
What stays in a tree.

Writing takes nothing away: directories stay directories and files stay files (`writeFile_keeps`),
so a path that leads somewhere goes on leading there (`Keeps.locate?_eq`). A file that is there can
be written over without having been found only by a path that detours, through a place where nothing
is and up again (`detours_of_overwritten`); this takes a tree in which everything is in a directory.
-/

namespace ContractPress.FileTree

open ContractPress.Path (Segment)

/-! ### Following a path part by part -/

/-- Where a part of a path leads from a place, if its name is not too long. -/
def step? (place : Location) (part : List Char) : Option Location :=
  match Segment.ofPart? part with
  | none => some place
  | some (.name text) => if fitsName text then some (place ++ [text]) else none
  | some s => some (advance place s)

theorem step?_eq {place next : Location} {part : List Char} (h : step? place part = some next) :
    next = (Segment.ofPart? part).toList.foldl advance place := by
  unfold step? at h
  split at h
  · rename_i hpart
    rw [hpart]
    exact (Option.some.inj h).symm
  · rename_i text hpart
    split at h
    · rw [hpart]
      exact (Option.some.inj h).symm
    · cases h
  · rename_i s hpart
    rw [hpart]
    exact (Option.some.inj h).symm

/-- Only directories are left, and for the place that the next part leads to. -/
theorem follow_cons_eq_some {t : FileTree} {start place : Location} {part : List Char}
    {parts : List (List Char)} :
    t.follow start (part :: parts) = some place ↔ t.entry? start = some .directory ∧
      ∃ next, step? start part = some next ∧ t.follow next parts = some place := by
  have hcons : t.follow start (part :: parts) =
      if t.entry? start = some .directory then
        (step? start part).bind fun next => t.follow next parts
      else none := by
    rw [follow, step?, Segment.ofPart?, isDirectory]
    by_cases hdir : t.entry? start = some .directory
    · simp only [hdir, decide_true, Bool.not_true, Bool.false_eq_true, if_false, if_true]
      split
      · rfl
      split
      · rfl
      · dsimp only
        split <;> rfl
    · simp [hdir]
  rw [hcons]
  split
  · rename_i hdir
    simp [hdir, Option.bind_eq_some_iff]
  · rename_i hdir
    simp [hdir]

/-! ### Trees that keep what they hold -/

/-- What is in one tree is in the other, a directory as a directory and a file as a file; only files
at places of a kind may hold other octets. -/
structure Keeps (changed : Location → Prop) (t t' : FileTree) : Prop where
  workingDirectory : t'.workingDirectory = t.workingDirectory
  directory : ∀ place, t.entry? place = some .directory → t'.entry? place = some .directory
  file : ∀ place octets, t.entry? place = some (.file octets) →
    t'.entry? place = some (.file octets) ∨
      changed place ∧ ∃ octets', t'.entry? place = some (.file octets')

namespace Keeps

variable {changed changed' : Location → Prop} {t t' t'' : FileTree}

theorem refl (t : FileTree) : Keeps changed t t :=
  ⟨rfl, fun _ h => h, fun _ _ h => .inl h⟩

theorem trans (h : Keeps changed t t') (h' : Keeps changed t' t'') : Keeps changed t t'' := by
  refine ⟨h'.workingDirectory.trans h.workingDirectory, fun place hdir => ?_,
    fun place octets hfile => ?_⟩
  · exact h'.directory place (h.directory place hdir)
  · rcases h.file place octets hfile with he | ⟨hchanged, octets', he⟩
    · exact h'.file place octets he
    · rcases h'.file place octets' he with he' | ⟨-, he'⟩
      · exact .inr ⟨hchanged, octets', he'⟩
      · exact .inr ⟨hchanged, he'⟩

theorem mono (h : Keeps changed t t') (hchanged : ∀ place, changed place → changed' place) :
    Keeps changed' t t' :=
  ⟨h.workingDirectory, h.directory, fun place octets hfile =>
    (h.file place octets hfile).imp_right fun ⟨hplace, he⟩ => ⟨hchanged place hplace, he⟩⟩

theorem entry_ne_none (h : Keeps changed t t') {place : Location} (hplace : t.entry? place ≠ none) :
    t'.entry? place ≠ none := by
  cases hentry : t.entry? place with
  | none => exact absurd hentry hplace
  | some entry =>
    cases entry with
    | directory => simp [h.directory place hentry]
    | file octets =>
      rcases h.file place octets hentry with he | ⟨-, octets', he⟩ <;> simp [he]

theorem fileAt?_eq (h : Keeps changed t t') {place : Location} {octets : List UInt8}
    (hfile : t.fileAt? place = some octets) :
    t'.fileAt? place = some octets ∨ changed place := by
  rw [fileAt?_eq_some] at hfile ⊢
  exact (h.file place octets hfile).imp_right And.left

theorem start_eq (h : Keeps changed t t') (path : String) : t'.start path = t.start path := by
  rw [start, start, h.workingDirectory]

theorem place_eq (h : Keeps changed t t') (path : String) : t'.place path = t.place path :=
  place_congr h.workingDirectory path

theorem follow_eq (h : Keeps changed t t') {start place : Location} {parts : List (List Char)}
    (hfollow : t.follow start parts = some place) : t'.follow start parts = some place := by
  induction parts generalizing start with
  | nil => exact hfollow
  | cons part parts ih =>
    obtain ⟨hdir, next, hnext, hfollow⟩ := follow_cons_eq_some.mp hfollow
    exact follow_cons_eq_some.mpr ⟨h.directory start hdir, next, hnext, ih hfollow⟩

/-- What a path leads to it goes on leading to. -/
theorem locate?_eq (h : Keeps changed t t') {path : String} {place : Location}
    (hlocate : t.locate? path = some place) : t'.locate? path = some place := by
  unfold locate? at hlocate ⊢
  split at hlocate
  · rename_i husable
    rw [if_pos husable, h.start_eq]
    exact h.follow_eq hlocate
  · cases hlocate

theorem isSome_find? (h : Keeps changed t t') {path : String}
    (hfind : (t.find? path).isSome = true) : (t'.find? path).isSome = true := by
  obtain ⟨entry, hentry⟩ := Option.isSome_iff_exists.mp hfind
  obtain ⟨place, hlocate, hplace⟩ := Option.bind_eq_some_iff.mp hentry
  rw [find?, h.locate?_eq hlocate, Option.isSome_iff_ne_none]
  exact h.entry_ne_none (hplace ▸ Option.some_ne_none entry)

end Keeps

theorem Grows.keeps {kind changed : Location → Prop} {t t' : FileTree} (h : Grows kind t t') :
    Keeps changed t t' := by
  have hentry : ∀ place entry, t.entry? place = some entry → t'.entry? place = some entry := by
    intro place entry he
    rcases h.entry place with e | ⟨hnone, -, -⟩
    · rw [e, he]
    · cases he.symm.trans hnone
  exact ⟨h.workingDirectory, fun place => hentry place .directory,
    fun place octets he => .inl (hentry place _ he)⟩

theorem insert_keeps {t : FileTree} {place : Location} (h : t.isDirectory place = false)
    (octets : List UInt8) : Keeps (· = place) t (t.insert place (.file octets)) := by
  have hinsert := entry_insert t (ne_nil_of_not_isDirectory h) (.file octets)
  refine ⟨rfl, fun place' hdir => ?_, fun place' octets' hfile => ?_⟩
  · rw [hinsert, if_neg]
    · exact hdir
    · rintro rfl
      simp [isDirectory, hdir] at h
  · rw [hinsert]
    split
    · rename_i he
      exact .inr ⟨he.symm, octets, rfl⟩
    · exact .inl hfile

/-- Writing changes the octets of one file at most, and takes nothing away. -/
theorem writeFile_keeps (t : FileTree) (path : String) (octets : List UInt8) :
    Keeps (· = t.place path) t (t.writeFile path octets).1 := by
  obtain ⟨made, hgrows, hwrite | ⟨hdir, hwrite⟩⟩ := t.writeFile_cases path octets
  · rw [hwrite]
    exact hgrows.keeps
  · rw [hwrite]
    exact hgrows.keeps.trans (insert_keeps hdir octets)

/-! ### Trees in which everything is in a directory -/

/-- Everything is in a directory, and relative paths start from one. -/
structure Closed (t : FileTree) : Prop where
  workingDirectory : t.entry? t.workingDirectory = some .directory
  parent : ∀ place name, t.entry? (place ++ [name]) ≠ none → t.entry? place = some .directory

namespace Closed

variable {t : FileTree}

theorem of_entries (hstart : t.entry? t.workingDirectory = some .directory)
    (h : ∀ e ∈ t.entries, t.entry? e.1.dropLast = some .directory) : t.Closed := by
  refine ⟨hstart, fun place name hentry => ?_⟩
  have hne : place ++ [name] ≠ [] :=
    List.append_ne_nil_of_right_ne_nil place (List.cons_ne_nil name [])
  unfold entry? at hentry
  rw [if_neg hne, ne_eq, Entries.get?_eq_none_iff, not_not] at hentry
  obtain ⟨e, he, hkey⟩ := List.mem_map.mp hentry
  have hparent := h e he
  rwa [hkey, List.dropLast_concat] at hparent

theorem entry_start (h : t.Closed) (path : String) : t.entry? (t.start path) = some .directory := by
  unfold start
  split
  · rfl
  · exact h.workingDirectory

theorem entry_dropLast (h : t.Closed) {place : Location}
    (hplace : t.entry? place = some .directory) : t.entry? place.dropLast = some .directory := by
  rcases List.eq_nil_or_concat place with rfl | ⟨init, name, rfl⟩
  · rfl
  · rw [List.concat_eq_append] at hplace ⊢
    rw [List.dropLast_concat]
    exact h.parent init name (by simp [hplace])

/-- Below a place where nothing is there is nothing. -/
theorem entry_of_names (h : t.Closed) {place : Location} (names : List String)
    (hentry : t.entry? (place ++ names) ≠ none) : t.entry? place ≠ none := by
  induction names generalizing place with
  | nil => simpa using hentry
  | cons name names ih =>
    rw [List.append_cons] at hentry
    rw [h.parent place name (ih hentry)]
    exact Option.some_ne_none _

theorem insert_closed (h : t.Closed) {place : Location}
    (hparent : t.entry? place.dropLast = some .directory) (hplace : t.isDirectory place = false)
    (entry : FileEntry) : (t.insert place entry).Closed := by
  have hne := ne_nil_of_not_isDirectory hplace
  have hinsert := entry_insert t hne entry
  have hdirectory : ∀ place', t.entry? place' = some .directory →
      entry? (t.insert place entry) place' = some .directory := by
    intro place' hdir
    rw [hinsert, if_neg]
    · exact hdir
    · rintro rfl
      simp [isDirectory, hdir] at hplace
  refine ⟨hdirectory _ h.workingDirectory, fun parent name hentry => hdirectory parent ?_⟩
  rw [hinsert] at hentry
  split at hentry
  · rename_i he
    rwa [he, List.dropLast_concat] at hparent
  · exact h.parent parent name hentry

theorem createAlong (h : t.Closed) (ss : List Segment) {start : Location}
    (hstart : t.entry? start = some .directory) : (createAlong ss start t).1.Closed := by
  induction ss generalizing start t with
  | nil => exact h
  | cons s ss ih =>
    cases s with
    | root | here => exact ih h hstart
    | up => exact ih h (h.entry_dropLast hstart)
    | name text =>
      rw [FileTree.createAlong]
      split
      · rename_i hdir
        exact ih h hdir
      · exact h
      · rename_i hnone
        split
        · have hfree : t.isDirectory (start ++ [text]) = false := by simp [isDirectory, hnone]
          refine ih (h.insert_closed ?_ hfree .directory) ?_
          · rwa [List.dropLast_concat]
          · rw [entry_insert t (by simp), if_pos rfl]
        · exact h

theorem createDirectories (h : t.Closed) (path : String) : (t.createDirectories path).1.Closed := by
  unfold FileTree.createDirectories
  split
  · exact h.createAlong _ (h.entry_start path)
  · exact h

theorem entry_dropLast_of_step? (h : t.Closed) {place next : Location} {part : List Char}
    (hplace : t.entry? place = some .directory) (hnext : step? place part = some next) :
    t.entry? next.dropLast = some .directory := by
  obtain rfl := step?_eq hnext
  cases Segment.ofPart? part with
  | none => exact h.entry_dropLast hplace
  | some s =>
    cases s with
    | root | here => exact h.entry_dropLast hplace
    | up => exact h.entry_dropLast (h.entry_dropLast hplace)
    | name text =>
      show t.entry? (place ++ [text]).dropLast = _
      rwa [List.dropLast_concat]

theorem entry_dropLast_of_follow (h : t.Closed) {start place : Location}
    {parts : List (List Char)} (hstart : t.entry? start.dropLast = some .directory)
    (hfollow : t.follow start parts = some place) : t.entry? place.dropLast = some .directory := by
  induction parts generalizing start with
  | nil => exact Option.some.inj hfollow ▸ hstart
  | cons part parts ih =>
    obtain ⟨hdir, next, hnext, hfollow⟩ := follow_cons_eq_some.mp hfollow
    exact ih (h.entry_dropLast_of_step? hdir hnext) hfollow

theorem write (h : t.Closed) (path : String) (octets : List UInt8) :
    (t.write path octets).1.Closed := by
  unfold FileTree.write locate?
  split
  · rename_i place hlocate
    split
    · exact h
    · rename_i hdir
      split at hlocate
      · refine h.insert_closed ?_ (by simpa using hdir) (.file octets)
        exact h.entry_dropLast_of_follow (h.entry_dropLast (h.entry_start path)) hlocate
      · cases hlocate
  · exact h

theorem writeFile (h : t.Closed) (path : String) (octets : List UInt8) :
    (t.writeFile path octets).1.Closed := by
  unfold FileTree.writeFile
  split
  · rename_i directory _
    split
    · exact (h.createDirectories directory).write path octets
    · exact h.createDirectories directory
  · exact h.write path octets

end Closed

/-! ### Detours -/

/-- A path enters a place where nothing is and climbs after that. -/
def Detours (t : FileTree) (path : String) : Prop :=
  ∃ way rest, Path.steps path = way ++ rest ∧
    t.entry? (way.foldl advance (t.start path)) = none ∧ .up ∈ rest

theorem Keeps.detours_of_detours {changed : Location → Prop} {t t' : FileTree}
    (h : Keeps changed t t') {path : String} (hdetours : t'.Detours path) : t.Detours path := by
  obtain ⟨way, rest, hsteps, hnone, hup⟩ := hdetours
  refine ⟨way, rest, hsteps, ?_, hup⟩
  by_contra hentry
  rw [h.start_eq] at hnone
  exact h.entry_ne_none hentry hnone

/-- On the way to what a path leads to there are only directories. -/
theorem entry_of_way {t : FileTree} {start place : Location} {parts : List (List Char)}
    {way rest : List Segment} {s : Segment} (h : t.follow start parts = some place)
    (hparts : parts.filterMap Segment.ofPart? = way ++ s :: rest) :
    t.entry? (way.foldl advance start) = some .directory := by
  induction parts generalizing start way with
  | nil =>
    exact absurd hparts.symm (List.append_ne_nil_of_right_ne_nil way (List.cons_ne_nil s rest))
  | cons part parts ih =>
    obtain ⟨hdir, next, hnext, hfollow⟩ := follow_cons_eq_some.mp h
    obtain rfl := step?_eq hnext
    rw [List.filterMap_cons] at hparts
    cases hpart : Segment.ofPart? part with
    | none =>
      rw [hpart] at hparts hfollow
      exact ih hfollow hparts
    | some first =>
      rw [hpart] at hparts hfollow
      cases way with
      | nil => exact hdir
      | cons s' way =>
        obtain ⟨rfl, hrest⟩ := List.cons.inj hparts
        show t.entry? (way.foldl advance (advance start first)) = some .directory
        exact ih hfollow hrest

/-- Climbs at the front and names after them do not make a detour. -/
theorem Closed.not_detours {t : FileTree} (h : t.Closed) {path : String} {climbs : Nat}
    {names : List String}
    (hsteps : Path.steps path = List.replicate climbs .up ++ names.map .name) :
    ¬t.Detours path := by
  have hclimbs : ∀ (count : Nat) (place : Location), t.entry? place = some .directory →
      t.entry? ((List.replicate count Segment.up).foldl advance place) = some .directory := by
    intro count
    induction count with
    | zero => exact fun _ hplace => hplace
    | succ count ih => exact fun place hplace => ih place.dropLast (h.entry_dropLast hplace)
  intro hdetours
  obtain ⟨way, rest, hway, hnone, hup⟩ := hdetours
  rw [hsteps] at hway
  rcases List.append_eq_append_iff.mp hway with ⟨more, -, hrest⟩ | ⟨more, hfront, -⟩
  · -- the names begin on the way, and there is no climb among them
    exact Path.up_not_mem_names names (hrest ▸ List.mem_append_right more hup)
  · have hcount : way = List.replicate way.length .up :=
      List.eq_replicate_of_mem fun s hs =>
        List.eq_of_mem_replicate (hfront ▸ List.mem_append_left more hs)
    have hdir := hclimbs way.length (t.start path) (h.entry_start path)
    rw [← hcount, hnone] at hdir
    cases hdir

theorem not_detours_of_find? {t : FileTree} {path : String} (h : (t.find? path).isSome = true) :
    ¬t.Detours path := by
  intro hdetours
  obtain ⟨way, rest, hsteps, hnone, hup⟩ := hdetours
  obtain ⟨before, after, rfl⟩ := List.append_of_mem hup
  obtain ⟨entry, hentry⟩ := Option.isSome_iff_exists.mp h
  obtain ⟨place, hlocate, -⟩ := Option.bind_eq_some_iff.mp hentry
  unfold locate? at hlocate
  split at hlocate
  · cases before with
    | nil => cases hnone.symm.trans (entry_of_way hlocate hsteps)
    | cons s before => cases hnone.symm.trans (entry_of_way hlocate hsteps)
  · cases hlocate

theorem foldl_advance_names (place : Location) (names : List String) :
    (names.map Segment.name).foldl advance place = place ++ names := by
  induction names generalizing place with
  | nil => exact (List.append_nil place).symm
  | cons name names ih =>
    rw [List.map_cons, List.foldl_cons, ih, advance, List.append_assoc]
    rfl

/-- Names lead on below the place of the path that they continue. -/
theorem place_join_names {t : FileTree} {root path : String} {names : List String}
    (hpath : Path.segments path = names.map .name) :
    t.place (Path.join root path) = t.place root ++ names := by
  rw [place_join (Path.isAbsolute_of_segments_names hpath),
    Path.steps_of_segments_names hpath, foldl_advance_names]

/-- Names after a path do not make a detour. -/
theorem detours_of_detours_join {t : FileTree} {root path : String} {names : List String}
    (hpath : Path.segments path = names.map .name) (h : t.Detours (Path.join root path)) :
    t.Detours root := by
  have hrelative := Path.isAbsolute_of_segments_names hpath
  obtain ⟨way, rest, hsteps, hnone, hup⟩ := h
  rw [Path.steps_join hrelative, Path.steps_of_segments_names hpath] at hsteps
  rw [start, Path.isAbsolute_join hrelative, ← start] at hnone
  rcases List.append_eq_append_iff.mp hsteps with ⟨more, rfl, hrest⟩ | ⟨more, hway, rfl⟩
  · exact absurd (hrest ▸ List.mem_append_right more hup) (Path.up_not_mem_names names)
  · refine ⟨way, more, hway, hnone, ?_⟩
    exact (List.mem_append.mp hup).resolve_right (Path.up_not_mem_names names)

/-- There is a place on the way of a path where there is nothing if the path leads nowhere and would
do so only in a tree with more in it. -/
theorem exists_missing_of_follow {changed : Location → Prop} {t made : FileTree}
    (h : Keeps changed t made) {start place : Location} {parts : List (List Char)}
    (hfollow : t.follow start parts = none) (hmade : made.follow start parts = some place) :
    ∃ way rest, parts.filterMap Segment.ofPart? = way ++ rest ∧
      t.entry? (way.foldl advance start) = none := by
  induction parts generalizing start with
  | nil => cases hfollow
  | cons part parts ih =>
    obtain ⟨hmadeDir, next, hnext, hmade⟩ := follow_cons_eq_some.mp hmade
    cases hentry : t.entry? start with
    | none => exact ⟨[], _, rfl, hentry⟩
    | some entry =>
      cases entry with
      | file octets =>
        rcases h.file start octets hentry with he | ⟨-, octets', he⟩ <;>
          cases hmadeDir.symm.trans he
      | directory =>
        have hrest : t.follow next parts = none := by
          rw [Option.eq_none_iff_forall_ne_some]
          intro place' hplace'
          have hsome := follow_cons_eq_some.mpr ⟨hentry, next, hnext, hplace'⟩
          cases hfollow.symm.trans hsome
        obtain ⟨way, rest, hparts, hmissing⟩ := ih hrest hmade
        obtain rfl := step?_eq hnext
        refine ⟨(Segment.ofPart? part).toList ++ way, rest, ?_, ?_⟩
        · rw [List.filterMap_cons, List.append_assoc, ← hparts]
          cases Segment.ofPart? part <;> rfl
        · rwa [List.foldl_append]

/-- Where nothing is found at a path that leads somewhere with more in the tree, there is nothing at
its place, unless it is a detour. -/
theorem Closed.entry_eq_none_of_find? {t made : FileTree} (h : t.Closed)
    {changed : Location → Prop} (hkeeps : Keeps changed t made) {path : String} {place : Location}
    (hfind : t.find? path = none) (hmade : made.locate? path = some place)
    (hdetours : ¬t.Detours path) : t.entry? (t.place path) = none := by
  cases hlocate : t.locate? path with
  | some place' =>
    obtain rfl := locate?_eq_place hlocate
    rwa [find?, hlocate] at hfind
  | none =>
    by_contra hplace
    unfold locate? at hlocate hmade
    split at hmade
    · rename_i husable
      rw [if_pos husable] at hlocate
      rw [hkeeps.start_eq] at hmade
      obtain ⟨way, rest, hsteps, hmissing⟩ := exists_missing_of_follow hkeeps hlocate hmade
      refine hdetours ⟨way, rest, hsteps, hmissing, ?_⟩
      by_contra hup
      obtain ⟨names, rfl⟩ := Path.exists_names_of_up_not_mem
        (fun s hs => Path.isStep_of_mem_steps (hsteps ▸ List.mem_append_right way hs)) hup
      rw [FileTree.place, foldl_advance_segments, Path.steps, hsteps, List.foldl_append,
        foldl_advance_names] at hplace
      exact h.entry_of_names names hplace hmissing
    · cases hmade

/-- What is found with more in the tree, and not before, has come to a place where nothing was. -/
theorem Closed.entry_of_appeared {t made : FileTree} (h : t.Closed) {changed : Location → Prop}
    (hkeeps : Keeps changed t made) {path : String} (hmissed : t.find? path = none)
    (hfound : (made.find? path).isSome = true) (hdetours : ¬t.Detours path) :
    t.entry? (t.place path) = none ∧ made.entry? (t.place path) ≠ none := by
  obtain ⟨entry, hentry⟩ := Option.isSome_iff_exists.mp hfound
  obtain ⟨place, hlocate, hplace⟩ := Option.bind_eq_some_iff.mp hentry
  refine ⟨h.entry_eq_none_of_find? hkeeps hmissed hlocate hdetours, ?_⟩
  obtain rfl := locate?_eq_place hlocate
  rw [← hkeeps.place_eq, hplace]
  exact Option.some_ne_none entry

theorem exists_locate?_of_write {t : FileTree} {path : String} {octets : List UInt8}
    (h : (t.write path octets).2 = true) : ∃ place, t.locate? path = some place := by
  unfold write at h
  split at h
  · rename_i place hlocate
    exact ⟨place, hlocate⟩
  · cases h

/-- A file can be there without being found, and yet be written over, only by way of a detour. -/
theorem Closed.detours_of_overwritten {t : FileTree} (h : t.Closed) {path : String}
    {octets : List UInt8} (hfind : t.find? path = none) (hplace : t.entry? (t.place path) ≠ none)
    (hwrite : (t.writeFile path octets).2 = true) : t.Detours path := by
  obtain ⟨made, hkeeps, place, hmade⟩ : ∃ made, Keeps (fun _ => False) t made ∧
      ∃ place, made.locate? path = some place := by
    unfold FileTree.writeFile at hwrite
    split at hwrite
    · rename_i directory hparent
      refine ⟨_, (createDirectories_parent_grows hparent).keeps, ?_⟩
      split at hwrite
      · exact exists_locate?_of_write hwrite
      · cases hwrite
    · exact ⟨t, .refl t, exists_locate?_of_write hwrite⟩
  by_contra hdetours
  exact hplace (h.entry_eq_none_of_find? hkeeps hfind hmade hdetours)

end ContractPress.FileTree
