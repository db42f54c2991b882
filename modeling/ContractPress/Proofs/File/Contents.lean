import ContractPress.Proofs.File.Settling

/-!
What is in a tree after artifacts have been accepted.

With force the last artifact for a place decides what is there (`FileSink.Overwrites`). Without
force everything stays as it is, and where there was nothing the first artifact whose path leads to
a place or through it decides: it makes a file there, or a directory (`FileSink.FillsIn`). Both are
kept up by each artifact that is settled.
-/

namespace ContractPress

open ContractPress.Path (Segment)

/-! ### Places in lists -/

/-- An item of two lists one after the other is one of the first or one of the second. -/
theorem split_append {α : Type} {xs ys before after : List α} {a : α}
    (h : xs ++ ys = before ++ a :: after) :
    (∃ mid, before = xs ++ mid ∧ ys = mid ++ a :: after) ∨
      ∃ mid, xs = before ++ a :: mid ∧ after = mid ++ ys := by
  rcases List.append_eq_append_iff.mp h with ⟨mid, hbefore, hys⟩ | ⟨mid, hxs, hafter⟩
  · exact .inl ⟨mid, hbefore, hys⟩
  · cases mid with
    | nil =>
      rw [List.append_nil] at hxs
      exact .inl ⟨[], by rw [List.append_nil, hxs], hafter.symm⟩
    | cons b mid =>
      obtain ⟨rfl, hrest⟩ := List.cons.inj hafter
      exact .inr ⟨mid, hxs, hrest⟩

theorem split_singleton {α : Type} {before after : List α} {a b : α}
    (h : [a] = before ++ b :: after) : b = a := by
  have hmem : b ∈ [a] := by
    rw [h]
    exact List.mem_append_right before List.mem_cons_self
  exact List.mem_singleton.mp hmem

/-! ### Trees -/

namespace FileTree

theorem onWay_names {start place : Location} {names : List String}
    (h : OnWay start (names.map .name) place) :
    ∃ above, above <+: names ∧ place = start ++ above := by
  obtain ⟨way, hway, rfl⟩ := h
  refine ⟨names.take way.length, List.take_prefix _ _, ?_⟩
  have hnames : way = (names.take way.length).map .name := by
    rw [List.map_take]
    exact List.prefix_iff_eq_take.mp hway
  rw [hnames, foldl_advance_names, List.length_map, List.length_take]
  congr 1
  simp

theorem Keeps.find?_directory {changed : Location → Prop} {t t' : FileTree}
    (h : Keeps changed t t') {path : String} (hfind : t.find? path = some .directory) :
    t'.find? path = some .directory := by
  obtain ⟨place, hlocate, hplace⟩ := Option.bind_eq_some_iff.mp hfind
  rw [find?, h.locate?_eq hlocate]
  exact h.directory place hplace

/-- Above what is there, there are directories. -/
theorem Closed.entry_above {t : FileTree} (h : t.Closed) {above place : Location}
    (hplace : t.entry? place ≠ none) (habove : above <+: place) (hne : above ≠ place) :
    t.entry? above = some .directory := by
  obtain ⟨names, rfl⟩ := habove
  cases names with
  | nil => exact absurd (List.append_nil above).symm hne
  | cons name names =>
    rw [List.append_cons] at hplace
    exact h.parent above name (h.entry_of_names names hplace)

/-- A file has come to its place, and the directories above it that were missing. -/
structure Gains (t : FileTree) (place : Location) (octets : List UInt8) (t' : FileTree) : Prop where
  workingDirectory : t'.workingDirectory = t.workingDirectory
  file : t'.entry? place = some (.file octets)
  others : ∀ other, other ≠ place → t'.entry? other = t.entry? other ∨
    t.entry? other = none ∧ t'.entry? other = some .directory ∧ other <+: place

theorem Grows.gains {t made : FileTree} {place : Location}
    (h : Grows (fun other => other <+: place ∧ other ≠ place) t made)
    (hplace : made.isDirectory place = false) (octets : List UInt8) :
    t.Gains place octets (made.insert place (.file octets)) := by
  have hinsert := entry_insert made (ne_nil_of_not_isDirectory hplace) (.file octets)
  refine ⟨h.workingDirectory, ?_, fun other hother => ?_⟩
  · rw [hinsert, if_pos rfl]
  · rw [hinsert, if_neg hother.symm]
    refine (h.entry other).imp_right fun hnew => ?_
    obtain ⟨hmissing, hdir, habove, -⟩ := hnew
    exact ⟨hmissing, hdir, habove⟩

end FileTree

namespace FileSink

open FileTree (Closed Gains Grows Keeps OnWay)

variable {s : FileSink}

/-- The root of a sink is there as a directory. -/
structure HasRoot (s : FileSink) (t : FileTree) : Prop where
  closed : t.Closed
  root : t.find? s.root = some .directory

namespace HasRoot

variable {t : FileTree} {a : Artifact} {names : List String}

theorem settle (h : s.HasRoot t) (a : Artifact) : s.HasRoot (s.settle t a).2 :=
  ⟨settle_closed h.closed a, (s.settle_keeps_entries t a).find?_directory h.root⟩

theorem entry_of_onWay (h : s.HasRoot t) {place : Location}
    (hway : OnWay (t.start s.root) (Path.steps s.root) place) :
    t.entry? place = some .directory := by
  obtain ⟨way, ⟨rest, hsteps⟩, rfl⟩ := hway
  obtain ⟨place, hlocate, hplace⟩ := Option.bind_eq_some_iff.mp h.root
  cases rest with
  | nil =>
    rw [List.append_nil] at hsteps
    rwa [hsteps, ← FileTree.foldl_advance_segments, ← FileTree.place,
      ← FileTree.locate?_eq_place hlocate]
  | cons s rest =>
    unfold FileTree.locate? at hlocate
    split at hlocate
    · exact FileTree.entry_of_way hlocate hsteps.symm
    · cases hlocate

/-- What is missing above an artifact is between the root and the artifact. -/
theorem above_of_missing (h : s.HasRoot t) (hnames : Path.segments a.path = names.map .name)
    {place : Location} (hmissing : t.entry? place = none)
    (hway : OnWay (t.start (s.destination a)) (Path.segments (s.destination a)).dropLast place) :
    place <+: t.place (s.destination a) ∧ place ≠ t.place (s.destination a) := by
  have hrelative := Path.isAbsolute_of_segments_names hnames
  have hsteps : Path.steps (s.destination a) = Path.steps s.root ++ names.map .name := by
    rw [destination, Path.steps_join hrelative, Path.steps_of_segments_names hnames]
  have hstart : t.start (s.destination a) = t.start s.root := by
    rw [destination, FileTree.start, Path.isAbsolute_join hrelative, FileTree.start]
  have hroot : ¬OnWay (t.start s.root) (Path.steps s.root) place := by
    intro hroot
    cases hmissing.symm.trans (h.entry_of_onWay hroot)
  have hway := FileTree.onWay_dropLast_segments hway
  rw [hstart, hsteps] at hway
  rw [destination, FileTree.place_join_names hnames]
  rcases List.eq_nil_or_concat names with rfl | ⟨init, name, rfl⟩
  · rw [List.map_nil, List.append_nil] at hway
    exact absurd (hway.of_prefix (List.dropLast_prefix _)) hroot
  · rw [List.concat_eq_append, List.map_append, ← List.append_assoc, List.map_singleton,
      List.dropLast_concat, FileTree.onWay_append] at hway
    obtain ⟨above, habove, rfl⟩ := FileTree.onWay_names (hway.resolve_left hroot)
    rw [← FileTree.foldl_advance_segments, ← FileTree.place, List.concat_eq_append]
    constructor
    · exact (List.prefix_append_right_inj _).mpr (habove.trans (List.prefix_append init [name]))
    · rw [ne_eq, List.append_cancel_left_eq]
      rintro rfl
      have hlength := habove.length_le
      rw [List.length_append, List.length_singleton] at hlength
      omega

/-- What becomes of an artifact whose path is made of names: without force it is kept back where
something is; or it fails, and then there are no more than directories above it; or its file is
there. -/
theorem settle_cases (h : s.HasRoot t) (hreal : s.dryRun = false)
    (hnames : Path.segments a.path = names.map .name) :
    (s.force = false ∧ t.entry? (t.place (s.destination a)) ≠ none ∧ s.settle t a = (.kept, t)) ∨
    ((s.settle t a).1 = .failed ∧ Grows (fun place => place <+: t.place (s.destination a) ∧
      place ≠ t.place (s.destination a)) t (s.settle t a).2) ∨
    ((s.settle t a).1 = .written ∧
      (s.force = false → t.entry? (t.place (s.destination a)) = none) ∧
      t.Gains (t.place (s.destination a)) (Text.toUtf8 a.contents) (s.settle t a).2) := by
  cases hlater : (t.find? (s.destination a)).isSome && !s.force with
  | true =>
    left
    obtain ⟨hfound, hforce⟩ := Bool.and_eq_true_iff.mp hlater
    refine ⟨by simpa using hforce, ?_, settle_of_found hlater⟩
    obtain ⟨entry, hentry⟩ := Option.isSome_iff_exists.mp hfound
    obtain ⟨place, hlocate, hplace⟩ := Option.bind_eq_some_iff.mp hentry
    rw [← FileTree.locate?_eq_place hlocate, hplace]
    exact Option.some_ne_none entry
  | false =>
    right
    have hsettle := settle_eq_writeFile hreal hlater
    obtain ⟨made, hgrows, hwrite⟩ :=
      t.writeFile_cases (s.destination a) (Text.toUtf8 a.contents)
    have habove : Grows (fun place => place <+: t.place (s.destination a) ∧
        place ≠ t.place (s.destination a)) t made := by
      refine ⟨hgrows.workingDirectory, fun place => (hgrows.entry place).imp_right fun hnew => ?_⟩
      obtain ⟨hmissing, hdir, hway⟩ := hnew
      exact ⟨hmissing, hdir, h.above_of_missing hnames hmissing hway⟩
    rcases hwrite with hwrite | ⟨hdir, hwrite⟩
    · rw [hsettle, hwrite]
      exact .inl ⟨rfl, habove⟩
    · rw [hsettle, hwrite]
      refine .inr ⟨rfl, fun hforce => ?_, habove.gains hdir _⟩
      have hfind : t.find? (s.destination a) = none := by simpa [hforce] using hlater
      by_contra hplace
      have hdetours := h.closed.detours_of_overwritten hfind hplace (by rw [hwrite])
      refine FileTree.not_detours_of_find? ?_ (FileTree.detours_of_detours_join hnames hdetours)
      rw [h.root]
      rfl

end HasRoot

/-! ### The trees that come of it -/

/-- The last artifact for a place is there, and else there is what was there before; what is new
besides are directories above artifacts. -/
structure Overwrites (s : FileSink) (t : FileTree) (artifacts : List Artifact) (t' : FileTree) :
    Prop where
  workingDirectory : t'.workingDirectory = t.workingDirectory
  last : ∀ before a after, artifacts = before ++ a :: after →
    (∀ b ∈ after, t.place (s.destination b) ≠ t.place (s.destination a)) →
      t'.entry? (t.place (s.destination a)) = some (.file (Text.toUtf8 a.contents))
  others : ∀ place, (∀ a ∈ artifacts, place ≠ t.place (s.destination a)) →
    t'.entry? place = t.entry? place ∨ t.entry? place = none ∧
      t'.entry? place = some .directory ∧ ∃ a ∈ artifacts, place <+: t.place (s.destination a)

/-- What was there is there as it was. Where nothing was, the first artifact that leads to a place
is there, or a directory if the first that has to do with the place leads through it. -/
structure FillsIn (s : FileSink) (t : FileTree) (artifacts : List Artifact) (t' : FileTree) :
    Prop where
  workingDirectory : t'.workingDirectory = t.workingDirectory
  kept : ∀ place, t.entry? place ≠ none → t'.entry? place = t.entry? place
  first : ∀ before a after place, artifacts = before ++ a :: after →
    (∀ b ∈ before, ¬place <+: t.place (s.destination b)) →
    place <+: t.place (s.destination a) → t.entry? place = none →
      t'.entry? place = some (if place = t.place (s.destination a)
        then .file (Text.toUtf8 a.contents) else .directory)
  others : ∀ place, (∀ a ∈ artifacts, ¬place <+: t.place (s.destination a)) →
    t'.entry? place = t.entry? place

section

variable {t t' t'' : FileTree} {artifacts more : List Artifact}

namespace Overwrites

theorem refl (s : FileSink) (t : FileTree) : s.Overwrites t [] t where
  workingDirectory := rfl
  last _ _ _ h := absurd h.symm (List.append_ne_nil_of_right_ne_nil _ (List.cons_ne_nil _ _))
  others _ _ := .inl rfl

theorem append (h : s.Overwrites t artifacts t') (h' : s.Overwrites t' more t'') :
    s.Overwrites t (artifacts ++ more) t'' := by
  have hplace := FileTree.place_congr h.workingDirectory
  refine ⟨h'.workingDirectory.trans h.workingDirectory, ?_, fun place hother => ?_⟩
  · intro before a after hsplit hlast
    rcases split_append hsplit with ⟨mid, rfl, hmore⟩ | ⟨mid, hartifacts, rfl⟩
    · have hthere := h'.last mid a after hmore fun b hb => by
        rw [hplace, hplace]
        exact hlast b hb
      rwa [hplace] at hthere
    · have hthere := h.last before a mid hartifacts fun b hb =>
        hlast b (List.mem_append_left more hb)
      -- it stays, because no later artifact belongs at this place
      rcases h'.others (t.place (s.destination a)) fun b hb => by
        rw [hplace]
        exact (hlast b (List.mem_append_right mid hb)).symm with he | ⟨hmissing, -⟩
      · exact he.trans hthere
      · cases hthere.symm.trans hmissing
  · rw [List.forall_mem_append] at hother
    have hsecond := h'.others place fun a ha => by
      rw [hplace]
      exact hother.2 a ha
    rcases hsecond with he | ⟨hmissing, hdir, a, ha, habove⟩
    · rw [he]
      refine (h.others place hother.1).imp_right fun hnew => ?_
      obtain ⟨hmissing, hdir, a, ha, habove⟩ := hnew
      exact ⟨hmissing, hdir, a, List.mem_append_left more ha, habove⟩
    · rw [hplace] at habove
      rcases h.others place hother.1 with he | ⟨-, hdir', -⟩
      · exact .inr ⟨he ▸ hmissing, hdir, a, List.mem_append_right artifacts ha, habove⟩
      · cases hmissing.symm.trans hdir'

end Overwrites

namespace FillsIn

theorem refl (s : FileSink) (t : FileTree) : s.FillsIn t [] t where
  workingDirectory := rfl
  kept _ _ := rfl
  first _ _ _ _ h := absurd h.symm (List.append_ne_nil_of_right_ne_nil _ (List.cons_ne_nil _ _))
  others _ _ := rfl

theorem append (h : s.FillsIn t artifacts t') (h' : s.FillsIn t' more t'') :
    s.FillsIn t (artifacts ++ more) t'' := by
  have hplace := FileTree.place_congr h.workingDirectory
  refine ⟨h'.workingDirectory.trans h.workingDirectory, fun place hthere => ?_, ?_,
    fun place hother => ?_⟩
  · have he := h.kept place hthere
    rw [← he] at hthere
    exact (h'.kept place hthere).trans he
  · intro before a after place hsplit hfirst habove hmissing
    rcases split_append hsplit with ⟨mid, rfl, hmore⟩ | ⟨mid, hartifacts, rfl⟩
    · rw [List.forall_mem_append] at hfirst
      have hmissing' := (h.others place hfirst.1).trans hmissing
      have hthere := h'.first mid a after place hmore (fun b hb => by
        rw [hplace]
        exact hfirst.2 b hb) (by rwa [hplace]) hmissing'
      rwa [hplace] at hthere
    · have hthere := h.first before a mid place hartifacts hfirst habove hmissing
      exact (h'.kept place (hthere ▸ Option.some_ne_none _)).trans hthere
  · rw [List.forall_mem_append] at hother
    have hsecond := h'.others place fun a ha => by
      rw [hplace]
      exact hother.2 a ha
    exact hsecond.trans (h.others place hother.1)

/-- There is something at a place if there was before, or if an artifact has to do with it. -/
theorem entry_ne_none_iff (h : s.FillsIn t artifacts t') (place : Location) :
    t'.entry? place ≠ none ↔
      t.entry? place ≠ none ∨ ∃ a ∈ artifacts, place <+: t.place (s.destination a) := by
  by_cases hmissing : t.entry? place = none
  · rw [or_iff_right (not_not.mpr hmissing)]
    constructor
    · intro hthere
      by_contra hnone
      refine hthere ((h.others place fun a ha habove => hnone ⟨a, ha, habove⟩).trans hmissing)
    · intro hsome
      obtain ⟨a, ha, habove⟩ := hsome
      obtain ⟨b, hfind⟩ : ∃ b, artifacts.find?
          (fun a => decide (place <+: t.place (s.destination a))) = some b := by
        rw [← Option.isSome_iff_exists, List.find?_isSome]
        exact ⟨a, ha, decide_eq_true habove⟩
      obtain ⟨hb, before, after, hsplit, hbefore⟩ := List.find?_eq_some_iff_append.mp hfind
      rw [h.first before b after place hsplit (fun c hc => by simpa using hbefore c hc)
        (of_decide_eq_true hb) hmissing]
      exact Option.some_ne_none _
  · rw [h.kept place hmissing]
    exact ⟨.inl, fun _ => hmissing⟩

end FillsIn

/-! ### One artifact after the other -/

variable {a : Artifact} {names : List String}

theorem settle_overwrites (h : s.HasRoot t) (hreal : s.dryRun = false) (hforce : s.force = true)
    (hnames : Path.segments a.path = names.map .name) (hsettled : (s.settle t a).1 ≠ .failed) :
    s.Overwrites t [a] (s.settle t a).2 := by
  rcases h.settle_cases hreal hnames with ⟨hforce', -⟩ | ⟨hfailed, -⟩ | ⟨-, -, hgains⟩
  · cases hforce.symm.trans hforce'
  · exact absurd hfailed hsettled
  refine ⟨hgains.workingDirectory, ?_, fun place hother => ?_⟩
  · intro before b after hsplit _
    obtain rfl := split_singleton hsplit
    exact hgains.file
  · rw [List.forall_mem_singleton] at hother
    refine (hgains.others place hother).imp_right fun hnew => ?_
    obtain ⟨hmissing, hdir, habove⟩ := hnew
    exact ⟨hmissing, hdir, a, List.mem_singleton_self a, habove⟩

theorem settle_fillsIn (h : s.HasRoot t) (hreal : s.dryRun = false) (hforce : s.force = false)
    (hnames : Path.segments a.path = names.map .name) (hsettled : (s.settle t a).1 ≠ .failed) :
    s.FillsIn t [a] (s.settle t a).2 := by
  rcases h.settle_cases hreal hnames with
    ⟨-, hthere, hkept⟩ | ⟨hfailed, -⟩ | ⟨-, hfree, hgains⟩
  · rw [hkept]
    refine ⟨rfl, fun _ _ => rfl, ?_, fun _ _ => rfl⟩
    intro before b after place hsplit _ habove hmissing
    obtain rfl := split_singleton hsplit
    -- something is at the artifact's place, so the places above it are not missing
    by_cases he : place = t.place (s.destination b)
    · exact absurd (he ▸ hmissing) hthere
    · cases hmissing.symm.trans (h.closed.entry_above hthere habove he)
  · exact absurd hfailed hsettled
  have hmissing := hfree hforce
  refine ⟨hgains.workingDirectory, fun place hplace => ?_, ?_, fun place hother => ?_⟩
  · rcases hgains.others place (fun he => hplace (he ▸ hmissing)) with he | ⟨hnone, -⟩
    · exact he
    · exact absurd hnone hplace
  · intro before b after place hsplit _ habove _
    obtain rfl := split_singleton hsplit
    split
    · rename_i he
      rw [he]
      exact hgains.file
    · rename_i he
      refine (h.settle b).closed.entry_above ?_ habove he
      rw [hgains.file]
      exact Option.some_ne_none _
  · rw [List.forall_mem_singleton] at hother
    rcases hgains.others place (fun he => hother (he ▸ List.prefix_rfl)) with
      he | ⟨-, -, habove⟩
    · exact he
    · exact absurd habove hother

end

/-- The paths of these artifacts are made of names. -/
def Named (artifacts : List Artifact) : Prop :=
  ∀ a ∈ artifacts, ∃ names : List String, Path.segments a.path = names.map .name

namespace Settles

variable {x x' : WriteReport × FileTree} {artifacts : List Artifact}

theorem hasRoot (h : s.Settles x artifacts x') (hroot : s.HasRoot x.2) : s.HasRoot x'.2 := by
  induction h with
  | nil x => exact hroot
  | cons first _ ih => exact ih (hroot.settle _)

/-- Files change at the places of artifacts only. -/
theorem fileAt?_eq (h : s.Settles x artifacts x') {place : Location}
    (hother : ∀ a ∈ artifacts, place ≠ x.2.place (s.destination a)) :
    x'.2.fileAt? place = x.2.fileAt? place := by
  induction h with
  | nil x => rfl
  | @cons x x' a artifacts first _ ih =>
    rw [List.forall_mem_cons] at hother
    have halters := s.settle_alters x.2 a
    refine (ih fun b hb => ?_).trans (halters.fileAt?_eq hother.1)
    rw [settled, halters.place_eq]
    exact hother.2 b hb

theorem overwrites (h : s.Settles x artifacts x') (hroot : s.HasRoot x.2)
    (hreal : s.dryRun = false) (hforce : s.force = true) (hnames : Named artifacts) :
    s.Overwrites x.2 artifacts x'.2 := by
  induction h with
  | nil x => exact .refl s x.2
  | @cons x x' a artifacts first _ ih =>
    obtain ⟨⟨names, ha⟩, hrest⟩ := List.forall_mem_cons.mp hnames
    have hfirst := settle_overwrites hroot hreal hforce ha first
    exact hfirst.append (ih (hroot.settle a) hrest)

theorem fillsIn (h : s.Settles x artifacts x') (hroot : s.HasRoot x.2) (hreal : s.dryRun = false)
    (hforce : s.force = false) (hnames : Named artifacts) : s.FillsIn x.2 artifacts x'.2 := by
  induction h with
  | nil x => exact .refl s x.2
  | @cons x x' a artifacts first _ ih =>
    obtain ⟨⟨names, ha⟩, hrest⟩ := List.forall_mem_cons.mp hnames
    have hfirst := settle_fillsIn hroot hreal hforce ha first
    exact hfirst.append (ih (hroot.settle a) hrest)

end Settles

/-! ### Reports -/

/-- Without force an artifact finds its place taken, by what was there or for one seen before. -/
def Taken (s : FileSink) (t : FileTree) (seen : List Artifact) (a : Artifact) : Prop :=
  s.force = false ∧ (t.entry? (t.place (s.destination a)) ≠ none ∨
    ∃ b ∈ seen, t.place (s.destination a) <+: t.place (s.destination b))

/-- One path after the other has been reported: as skipped if its place was taken, else as written.
-/
inductive Reports (s : FileSink) (t : FileTree) :
    List Artifact → List Artifact → WriteReport → WriteReport → Prop where
  | nil (seen : List Artifact) (r : WriteReport) : Reports s t seen [] r r
  | skipped {seen artifacts : List Artifact} {a : Artifact} {r r' : WriteReport}
    (taken : s.Taken t seen a)
    (rest : Reports s t (seen ++ [a]) artifacts (r.addSkipped (s.destination a)) r') :
    Reports s t seen (a :: artifacts) r r'
  | written {seen artifacts : List Artifact} {a : Artifact} {r r' : WriteReport}
    (free : ¬s.Taken t seen a)
    (rest : Reports s t (seen ++ [a]) artifacts (r.addWritten (s.destination a)) r') :
    Reports s t seen (a :: artifacts) r r'

theorem Settles.reports {t : FileTree} {seen artifacts : List Artifact}
    {x x' : WriteReport × FileTree} (h : s.Settles x artifacts x') (hroot : s.HasRoot x.2)
    (hreal : s.dryRun = false) (hnames : Named artifacts)
    (hseen : s.force = false → s.FillsIn t seen x.2)
    (hplace : x.2.workingDirectory = t.workingDirectory) :
    s.Reports t seen artifacts x.1 x'.1 := by
  induction h generalizing seen with
  | nil x => exact .nil seen x.1
  | @cons x x' a artifacts first _ ih =>
    obtain ⟨⟨names, ha⟩, hrest⟩ := List.forall_mem_cons.mp hnames
    have hsame := FileTree.place_congr hplace (s.destination a)
    have htaken : s.force = false →
        (FileTree.entry? x.2 (x.2.place (s.destination a)) ≠ none ↔ s.Taken t seen a) := by
      intro hforce
      rw [hsame, (hseen hforce).entry_ne_none_iff, Taken, and_iff_right hforce]
    have hafter := @ih (seen ++ [a]) (hroot.settle a) hrest
      (fun hforce => (hseen hforce).append (settle_fillsIn hroot hreal hforce ha first))
      ((s.settle_keeps_entries x.2 a).workingDirectory.trans hplace)
    rcases hroot.settle_cases hreal ha with
      ⟨hforce, hthere, hkept⟩ | ⟨hfailed, -⟩ | ⟨hwritten, hfree, -⟩
    · rw [settled, hkept] at hafter
      exact .skipped ((htaken hforce).mp hthere) hafter
    · exact absurd hfailed first
    · rw [settled, hwritten] at hafter
      refine .written (fun htaken' => ?_) hafter
      exact (htaken htaken'.1).mpr htaken' (hfree htaken'.1)

/-! ### Calls and runs -/

theorem HasRoot.afterCalls {x : WriteReport × FileTree} (h : s.HasRoot x.2)
    (calls : List (String × List Artifact)) : s.HasRoot (s.afterCalls x calls).2 :=
  afterCalls_invariant (P := s.HasRoot) (fun _ _ a _ _ h => h.settle a) h

/-- A call that fails while it writes adds to what those before the failing artifact have made only
directories above the place of that one. -/
theorem failed_call_grows {x : WriteReport × FileTree} {document path : String}
    {artifacts : List Artifact} (h : s.HasRoot x.2) (hreal : s.dryRun = false)
    (hnames : Named artifacts) (hfails : s.answer x (document, artifacts) = .error (.write path)) :
    ∃ before a after x', artifacts = before ++ a :: after ∧ path = s.destination a ∧
      s.Accepts x [(document, before)] x' ∧ (s.afterCall x (document, artifacts)).1 = x'.1 ∧
      FileTree.Grows (fun place => place <+: x'.2.place path ∧ place ≠ x'.2.place path)
        x'.2 (s.afterCall x (document, artifacts)).2 := by
  obtain ⟨before, a, after, x', rfl, rfl, haccepts, hfailed, hafter⟩ := write_fails hfails
  obtain ⟨names, ha⟩ := hnames a (List.mem_append_right before List.mem_cons_self)
  refine ⟨before, a, after, x', rfl, rfl, haccepts, by rw [hafter], ?_⟩
  rw [hafter]
  rcases (haccepts.settles.hasRoot h).settle_cases hreal ha with
    ⟨-, -, hkept⟩ | ⟨-, hgrows⟩ | ⟨hwritten, -⟩
  · rw [hkept] at hfailed
    cases hfailed
  · exact hgrows
  · cases hfailed.symm.trans hwritten

end FileSink

namespace DeliveryState

/-- The documents have been accepted with what was generated of each. -/
theorem Delivered.accepts {texts : FileTree → TemplateSource Id} {s : FileSink}
    {x x' : DeliveryState WriteReport FileTree} {done : List (Document × List Artifact)}
    (h : Delivered (.reading texts) (s.sink FileTree.access) x done x')
    (hpost : x.generator.postProcessor = none) :
    s.Accepts (x.kept, x.world) (done.map fun e => (e.1.name, e.2)) (x'.kept, x'.world) ∧
      ∀ e ∈ done, FileSink.Named e.2 := by
  induction h with
  | nil x => exact ⟨.nil _, nofun⟩
  | @cons x x₁ x₂ x₃ d artifacts done hgenerate haccept _ ih =>
    rw [generate_reading] at hgenerate
    obtain ⟨houtcome, rfl⟩ := Prod.mk.inj hgenerate
    obtain ⟨hok, rfl⟩ := Prod.mk.inj haccept
    have hpost' := (Generator.postProcessor_generate (texts x.world) x.generator d.name
      d.text).trans hpost
    obtain ⟨c, hrender⟩ := Generator.exists_render_of_outcome houtcome
    obtain ⟨hrest, hnames⟩ := ih hpost'
    exact ⟨.cons hok hrest,
      List.forall_mem_cons.mpr ⟨Generator.render_names hpost' hrender, hnames⟩⟩

/-- Whatever the source does, a run reports as many files as it counts. -/
theorem Delivered.length_report {source : TemplateSource (StateM FileTree)} {s : FileSink}
    {x x' : DeliveryState WriteReport FileTree} {done : List (Document × List Artifact)}
    (h : Delivered source (s.sink FileTree.access) x done x') :
    x'.kept.written.length + x'.kept.skipped.length =
      x.kept.written.length + x.kept.skipped.length + (done.map fun e => e.2.length).sum := by
  induction h with
  | nil x => rfl
  | @cons x x₁ x₂ x₃ d artifacts done hgenerate haccept _ ih =>
    obtain ⟨hok, rfl⟩ := Prod.mk.inj haccept
    have haccepted : s.answer (x₁.kept, x₁.world) (d.name, artifacts) = .ok () := hok
    have hsettles := FileSink.settles_of_accepted haccepted
    rw [ih, List.map_cons, List.sum_cons, ← Nat.add_assoc, ← kept_of_generate hgenerate]
    exact congrArg (· + _) hsettles.length_report

end DeliveryState

/-- What a sink that writes makes of a tree in which its root is a directory, if the paths of the
artifacts are made of names, as those of a generator without a post-processor are.

Calls that are accepted report each artifact once and in order, as skipped if its place was taken
and as written else. With force the last artifact for a place is what the place holds; without force
all that was there stays, and where nothing was the first artifact that leads to the place or
through it decides. No file changes that is not at the place of an artifact. A call that fails at an
artifact leaves what the call with the artifacts before it would have left, and perhaps directories
above that artifact. A run over documents is such calls, and it counts what is written and what is
skipped. -/
theorem accepted_calls (s : FileSink) (hreal : s.dryRun = false) (t : FileTree) (ht : t.Closed)
    (hroot : t.find? s.root = some .directory) (r : WriteReport)
    (earlier calls : List (String × List Artifact))
    (hnames : ∀ call ∈ calls, FileSink.Named call.2) :
    let before := s.afterCalls (r, t) earlier
    let artifacts := calls.flatMap Prod.snd
    (∀ after, s.Accepts before calls after →
      s.Reports before.2 [] artifacts before.1 after.1 ∧
      (s.force = true → s.Overwrites before.2 artifacts after.2) ∧
      (s.force = false → s.FillsIn before.2 artifacts after.2) ∧
      ∀ place, (∀ a ∈ artifacts, place ≠ before.2.place (s.destination a)) →
        after.2.fileAt? place = before.2.fileAt? place) ∧
    (∀ document artifacts path, FileSink.Named artifacts →
      s.answer before (document, artifacts) = .error (.write path) →
      let after := s.afterCall before (document, artifacts)
      ∃ first a rest accepted, artifacts = first ++ a :: rest ∧ path = s.destination a ∧
        s.Accepts before [(document, first)] accepted ∧ after.1 = accepted.1 ∧
        FileTree.Grows (fun place =>
          place <+: accepted.2.place path ∧ place ≠ accepted.2.place path) accepted.2 after.2) ∧
    ∀ (g : Generator) (documents : List Document) (total : Nat)
      (x : DeliveryState WriteReport FileTree),
      (∀ source, (⟨g, .empty, t⟩ : DeliveryState WriteReport FileTree).generateAll source
          (s.sink FileTree.access) documents = (.ok total, x) →
        total = x.kept.written.length + x.kept.skipped.length) ∧
      ∀ texts, g.postProcessor = none →
        (⟨g, .empty, t⟩ : DeliveryState WriteReport FileTree).generateAll (.reading texts)
          (s.sink FileTree.access) documents = (.ok total, x) →
        ∃ delivered : List (String × List Artifact),
          delivered.map Prod.fst = documents.map Document.name ∧
          (∀ call ∈ delivered, FileSink.Named call.2) ∧
          s.Accepts (.empty, t) delivered (x.kept, x.world) := by
  intro before artifacts
  have hbefore : s.HasRoot before.2 := FileSink.HasRoot.afterCalls (x := (r, t)) ⟨ht, hroot⟩ earlier
  refine ⟨fun after haccepts => ?_, fun document artifacts path hnamed hfails => ?_,
    fun g documents total x => ⟨fun source hrun => ?_, fun texts hpost hrun => ?_⟩⟩
  · have hsettles := haccepts.settles
    have hnamed : FileSink.Named artifacts := by
      intro a ha
      obtain ⟨call, hcall, ha⟩ := List.mem_flatMap.mp ha
      exact hnames call hcall a ha
    refine ⟨hsettles.reports hbefore hreal hnamed (fun _ => .refl s before.2) rfl,
      fun hforce => hsettles.overwrites hbefore hreal hforce hnamed,
      fun hforce => hsettles.fillsIn hbefore hreal hforce hnamed, fun place hother => ?_⟩
    exact hsettles.fileAt?_eq hother
  · exact FileSink.failed_call_grows hbefore hreal hnamed hfails
  · obtain ⟨done, -, hdelivered, rfl⟩ := DeliveryState.generateAll_eq_ok_iff.mp hrun
    have hcount := hdelivered.length_report
    exact (hcount.trans (Nat.zero_add _)).symm
  · obtain ⟨done, rfl, hdelivered, rfl⟩ := DeliveryState.generateAll_eq_ok_iff.mp hrun
    obtain ⟨haccepts, hnamed⟩ := hdelivered.accepts hpost
    refine ⟨done.map fun e => (e.1.name, e.2), ?_, ?_, haccepts⟩
    · rw [List.map_map, List.map_map]
      rfl
    · intro call hcall
      obtain ⟨e, he, rfl⟩ := List.mem_map.mp hcall
      exact hnamed e he

/-- Two documents in a tree that holds a file: it is kept, and so is the first text of another. -/
theorem accepted_calls_beside_file :
    let s : FileSink := ⟨"out", false, false⟩
    let t : FileTree := ⟨[], [(["out"], .directory), (["out", "a.js"], .file [111])]⟩
    let calls : List (String × List Artifact) :=
      [("d", [⟨"a.js", "x"⟩, ⟨"b/c.js", "y"⟩]), ("e", [⟨"b/c.js", "z"⟩])]
    let after := s.afterCalls (.empty, t) calls
    s.dryRun = false ∧ t.Closed ∧ t.find? s.root = some .directory ∧
      (∀ call ∈ calls, FileSink.Named call.2) ∧ s.Accepts (.empty, t) calls after ∧
      after.2.fileAt? ["out", "a.js"] = some [111] ∧
      after.2.fileAt? ["out", "b", "c.js"] = some [121] ∧
      after.1 = ⟨["out/b/c.js"], ["out/a.js", "out/b/c.js"]⟩ := by
  intro s t calls after
  have hclosed : t.Closed := .of_entries rfl (by decide)
  have hroot : t.find? s.root = some .directory := by decide +kernel
  have hfirst : Path.segments "a.js" = ["a.js"].map .name := by decide +kernel
  have hsecond : Path.segments "b/c.js" = ["b", "c.js"].map .name := by decide +kernel
  have hnamed : ∀ call ∈ calls, FileSink.Named call.2 := by
    simp only [calls, FileSink.Named, List.forall_mem_cons]
    exact ⟨⟨⟨_, hfirst⟩, ⟨_, hsecond⟩, nofun⟩, ⟨⟨_, hsecond⟩, nofun⟩, nofun⟩
  have haccepts : s.Accepts (.empty, t) calls after :=
    .cons (by decide +kernel) (.cons (by decide +kernel) (.nil _))
  obtain ⟨hcalls, -⟩ := accepted_calls s rfl t hclosed hroot .empty [] calls hnamed
  obtain ⟨-, -, hfills, -⟩ := hcalls after haccepts
  have hfills := hfills rfl
  refine ⟨rfl, hclosed, hroot, hnamed, haccepts, ?_, ?_, by decide +kernel⟩
  · rw [FileTree.fileAt?_eq_some, hfills.kept ["out", "a.js"] (by decide)]
    rfl
  · rw [FileTree.fileAt?_eq_some, hfills.first [⟨"a.js", "x"⟩] ⟨"b/c.js", "y"⟩ [⟨"b/c.js", "z"⟩] _
      rfl (by decide +kernel) (by decide +kernel) (by decide)]
    decide +kernel

/-- Nothing is at the place of the second artifact before the call, and the call is accepted, but
the file is not there afterwards: a directory made for the first artifact stands in its place. -/
theorem directory_in_place_of_file :
    let s : FileSink := ⟨"out", false, false⟩
    let t : FileTree := ⟨[], [(["out"], .directory)]⟩
    let call : String × List Artifact := ("d", [⟨"a/b", "x"⟩, ⟨"a", "y"⟩])
    let after := s.afterCall (.empty, t) call
    s.dryRun = false ∧ t.Closed ∧ t.find? s.root = some .directory ∧ FileSink.Named call.2 ∧
      s.answer (.empty, t) call = .ok () ∧ t.entry? ["out", "a"] = none ∧
      after.2.fileAt? ["out", "a"] ≠ some (Text.toUtf8 "y") ∧
      FileTree.entry? after.2 ["out", "a"] = some .directory ∧
      after.1 = ⟨["out/a/b"], ["out/a"]⟩ := by
  intro s t call after
  have hfirst : Path.segments "a/b" = ["a", "b"].map .name := by decide +kernel
  have hsecond : Path.segments "a" = ["a"].map .name := by decide +kernel
  have hnamed : FileSink.Named call.2 := by
    simp only [call, FileSink.Named, List.forall_mem_cons]
    exact ⟨⟨_, hfirst⟩, ⟨_, hsecond⟩, nofun⟩
  exact ⟨rfl, .of_entries rfl (by decide), by decide +kernel, hnamed, by decide +kernel, by decide,
    by decide +kernel, by decide +kernel, by decide +kernel⟩

end ContractPress
