import ContractPress.File.Tree
import ContractPress.Proofs.Path.Climbing

/-!
The places that paths lead to.

Without links a path leads to the place that its steps spell (`locate?_eq_place`). What the
operations of a tree change is said in terms of these places: making directories adds directories on
the way (`createDirectories_grows`), and writing changes one place (`write_cases`).
-/

namespace ContractPress.FileTree

open ContractPress.Path (Segment)

/-- One step from a place. -/
def advance (place : Location) : Segment → Location
  | .root | .here => place
  | .up => place.dropLast
  | .name text => place ++ [text]

/-- The place that a path spells, whether there is something or not. -/
def place (t : FileTree) (path : String) : Location :=
  (Path.segments path).foldl advance (t.start path)

theorem place_congr {t t' : FileTree} (h : t'.workingDirectory = t.workingDirectory)
    (path : String) : t'.place path = t.place path := by
  rw [place, place, start, start, h]

/-- A place that some beginning of the way leads to. -/
def OnWay (start : Location) (ss : List Segment) (place : Location) : Prop :=
  ∃ way, way <+: ss ∧ place = way.foldl advance start

/-- The octets of the file at a place. -/
def fileAt? (t : FileTree) (place : Location) : Option (List UInt8) :=
  match t.entry? place with
  | some (.file octets) => some octets
  | _ => none

theorem fileAt?_eq_some {t : FileTree} {place : Location} {octets : List UInt8} :
    t.fileAt? place = some octets ↔ t.entry? place = some (.file octets) := by
  unfold fileAt?
  split
  · rename_i octets' h
    simp [h]
  · rename_i h
    simpa using h octets

/-! ### Ways -/

theorem onWay_nil {start place : Location} : OnWay start [] place ↔ place = start := by
  constructor
  · intro h
    obtain ⟨way, hway, rfl⟩ := h
    rw [List.prefix_nil.mp hway]
    rfl
  · rintro rfl
    exact ⟨[], List.nil_prefix, rfl⟩

theorem onWay_cons {start place : Location} {s : Segment} {ss : List Segment} :
    OnWay start (s :: ss) place ↔ place = start ∨ OnWay (advance start s) ss place := by
  constructor
  · intro h
    obtain ⟨way, hway, rfl⟩ := h
    rcases List.prefix_cons_iff.mp hway with rfl | ⟨rest, rfl, hrest⟩
    · exact .inl rfl
    · exact .inr ⟨rest, hrest, rfl⟩
  · rintro (rfl | ⟨way, hway, rfl⟩)
    · exact ⟨[], List.nil_prefix, rfl⟩
    · exact ⟨s :: way, (List.prefix_cons_inj s).mpr hway, rfl⟩

theorem onWay_end (start : Location) (ss : List Segment) :
    OnWay start ss (ss.foldl advance start) :=
  ⟨ss, List.prefix_rfl, rfl⟩

theorem OnWay.of_prefix {start place : Location} {ss ss' : List Segment} (h : OnWay start ss place)
    (hss : ss <+: ss') : OnWay start ss' place :=
  let ⟨way, hway, he⟩ := h
  ⟨way, hway.trans hss, he⟩

theorem onWay_append {start place : Location} {ss ss' : List Segment} :
    OnWay start (ss ++ ss') place ↔
      OnWay start ss place ∨ OnWay (ss.foldl advance start) ss' place := by
  induction ss generalizing start with
  | nil =>
    simp only [List.nil_append, onWay_nil, List.foldl_nil]
    exact ⟨.inr, fun h => h.elim (fun e => e ▸ ⟨[], List.nil_prefix, rfl⟩) id⟩
  | cons s ss ih => rw [List.cons_append, onWay_cons, ih, onWay_cons, or_assoc, List.foldl_cons]

theorem foldl_advance_lead (path : String) (start : Location) :
    (Path.lead path).foldl advance start = start := by
  unfold Path.lead
  split
  · rfl
  · split <;> rfl

theorem foldl_advance_segments (path : String) (start : Location) :
    (Path.segments path).foldl advance start = (Path.steps path).foldl advance start := by
  rw [Path.segments_eq, List.foldl_append, foldl_advance_lead]

theorem onWay_lead {path : String} {start place : Location} :
    OnWay start (Path.lead path) place ↔ place = start := by
  unfold Path.lead
  split
  · simp [onWay_cons, onWay_nil, advance]
  · split
    · simp [onWay_cons, onWay_nil, advance]
    · exact onWay_nil

theorem onWay_start (start : Location) (ss : List Segment) : OnWay start ss start :=
  ⟨[], List.nil_prefix, rfl⟩

theorem onWay_segments {path : String} {start place : Location} :
    OnWay start (Path.segments path) place ↔ OnWay start (Path.steps path) place := by
  rw [Path.segments_eq, onWay_append, onWay_lead, foldl_advance_lead, or_iff_right_of_imp]
  rintro rfl
  exact onWay_start place (Path.steps path)

/-- What stands above a path is on the way of its steps but the last. -/
theorem onWay_dropLast_segments {path : String} {start place : Location}
    (h : OnWay start (Path.segments path).dropLast place) :
    OnWay start (Path.steps path).dropLast place := by
  by_cases hsteps : Path.steps path = []
  · rw [Path.segments_eq, hsteps, List.append_nil] at h
    obtain rfl := onWay_lead.mp (h.of_prefix (List.dropLast_prefix _))
    exact onWay_start place _
  · rw [Path.segments_eq, List.dropLast_append_of_ne_nil hsteps, onWay_append, onWay_lead,
      foldl_advance_lead] at h
    rcases h with rfl | h
    · exact onWay_start place _
    · exact h

/-- What has been walked leads where the way leads. -/
theorem foldl_advance_walk (walked ss : List Segment) (start : Location) :
    (ss.foldl Path.walk walked).reverse.foldl advance start =
      ss.foldl advance (walked.reverse.foldl advance start) := by
  have hstep : ∀ (walked : List Segment) (s : Segment),
      (Path.walk walked s).reverse.foldl advance start =
        advance (walked.reverse.foldl advance start) s := by
    intro walked s
    cases s with
    | root | name text => rw [Path.walk, List.reverse_cons, List.foldl_concat] <;> simp
    | here => rfl
    | up =>
      cases walked with
      | nil => rfl
      | cons last rest =>
        cases last with
        | root | here | up => simp [Path.walk]
        | name text =>
          -- the climb takes back the name that was walked last
          rw [List.reverse_cons, List.foldl_concat]
          exact List.dropLast_concat.symm
  induction ss generalizing walked with
  | nil => rfl
  | cons s ss ih => rw [List.foldl_cons, ih, hstep, List.foldl_cons]

theorem place_artifactPath (t : FileTree) (target fileName : String) :
    t.place (artifactPath target fileName) = t.place (Path.join target fileName) := by
  have habsolute : Path.isAbsolute (artifactPath target fileName) =
      Path.isAbsolute (Path.join target fileName) := by
    obtain ⟨k, names, hn, -, -⟩ := Path.normalise_segments (Path.join target fileName)
    rw [Bool.eq_iff_iff, Path.isAbsolute_iff_segments, Path.segments_artifactPath, hn]
    cases Path.isAbsolute (Path.join target fileName) with
    | true => simp
    | false => cases k <;> cases names <;> simp [List.replicate_succ]
  rw [place, place, start, habsolute, ← start, Path.segments_artifactPath]
  exact foldl_advance_walk [] _ _

/-- A way that does not climb more often than it descends stays below the place it is about. -/
theorem prefix_of_onWay {place : Location} {ss : List Segment} (base below : Location)
    (hss : ∀ s ∈ ss, s.IsStep) (hclimb : ¬Path.Overclimbs below.length ss)
    (h : OnWay (base ++ below) ss place) : base <+: place := by
  -- the way is at `base ++ below`, and the climbs still to come are fewer than it is deep
  induction ss generalizing below with
  | nil => exact onWay_nil.mp h ▸ List.prefix_append base below
  | cons s ss ih =>
    rw [List.forall_mem_cons] at hss
    rcases onWay_cons.mp h with rfl | h
    · exact List.prefix_append base below
    cases s with
    | name text =>
      rw [Path.overclimbs_name] at hclimb
      apply ih (below ++ [text]) hss.2 (by simpa using hclimb)
      rwa [← List.append_assoc]
    | up =>
      have hne : below ≠ [] := by
        rintro rfl
        exact hclimb (Path.overclimbs_up_zero ss)
      refine ih below.dropLast hss.2 (fun ho => hclimb ?_) ?_
      · rw [List.length_dropLast] at ho
        have hlen : below.length = below.length - 1 + 1 := by
          have := List.length_pos_iff.mpr hne
          omega
        rw [hlen]
        exact Path.overclimbs_up_succ.mpr ho
      · rwa [advance, List.dropLast_append_of_ne_nil hne] at h
    | root | here => exact hss.1.elim

/-! ### Following a path -/

theorem follow_eq {t : FileTree} {start place : Location} {parts : List (List Char)}
    (h : t.follow start parts = some place) :
    place = (parts.filterMap Segment.ofPart?).foldl advance start := by
  induction parts generalizing start with
  | nil => exact (Option.some.inj h).symm
  | cons part parts ih =>
    simp only [follow] at h
    split at h
    · cases h
    split at h
    · rename_i hblank
      rw [ih h, List.filterMap_cons_none]
      simp [Segment.ofPart?, hblank]
    split at h
    · rename_i hblank hup
      rw [ih h, List.filterMap_cons_some (b := .up), List.foldl_cons]
      · rfl
      · simp [Segment.ofPart?, hup]
    split at h
    · rename_i hblank hup hfits
      rw [ih h, List.filterMap_cons_some (b := .name (String.ofList part)), List.foldl_cons]
      · rfl
      · simp [Segment.ofPart?, hblank, hup]
    · cases h

/-- A path leads nowhere but to the place that it spells. -/
theorem locate?_eq_place {t : FileTree} {path : String} {place : Location}
    (h : t.locate? path = some place) : place = t.place path := by
  unfold locate? at h
  split at h
  · rw [FileTree.place, foldl_advance_segments]
    exact follow_eq h
  · cases h

theorem place_join {t : FileTree} {path : String} (h : Path.isAbsolute path = false)
    (root : String) :
    t.place (Path.join root path) = (Path.steps path).foldl advance (t.place root) := by
  rw [place, place, foldl_advance_segments, foldl_advance_segments, Path.steps_join h,
    List.foldl_append, start, Path.isAbsolute_join h, start]

/-- On the way of a path that continues a root without climbing out of it there are only the places
on the way of the root and places below it. -/
theorem onWay_join {t : FileTree} {root path : String} {place : Location}
    (hclimb : ¬Path.Climbs path)
    (h : OnWay (t.start (Path.join root path)) (Path.segments (Path.join root path)) place) :
    OnWay (t.start root) (Path.segments root) place ∨ t.place root <+: place := by
  rw [Path.climbs_iff, not_or, Bool.not_eq_true] at hclimb
  rw [onWay_segments, Path.steps_join hclimb.1, onWay_append, start,
    Path.isAbsolute_join hclimb.1] at h
  rcases h with h | h
  · exact .inl (onWay_segments.mpr h)
  · refine .inr (prefix_of_onWay _ [] (fun s => Path.isStep_of_mem_steps) hclimb.2 ?_)
    rwa [List.append_nil, FileTree.place, foldl_advance_segments]

theorem prefix_place_join {t : FileTree} {root path : String} (hclimb : ¬Path.Climbs path) :
    t.place root <+: t.place (Path.join root path) := by
  rw [Path.climbs_iff, not_or, Bool.not_eq_true] at hclimb
  rw [place_join hclimb.1]
  refine prefix_of_onWay _ [] (fun s => Path.isStep_of_mem_steps) hclimb.2 ?_
  rw [List.append_nil]
  exact onWay_end _ _

/-! ### What the operations change -/

/-- A tree with further directories, all of them in places of a kind. -/
structure Grows (kind : Location → Prop) (t t' : FileTree) : Prop where
  workingDirectory : t'.workingDirectory = t.workingDirectory
  entry : ∀ place, t'.entry? place = t.entry? place ∨
    t.entry? place = none ∧ t'.entry? place = some .directory ∧ kind place

namespace Grows

variable {kind kind' : Location → Prop} {t t' t'' : FileTree}

theorem refl (t : FileTree) : Grows kind t t :=
  ⟨rfl, fun _ => .inl rfl⟩

theorem mono (h : Grows kind t t') (hkind : ∀ place, kind place → kind' place) :
    Grows kind' t t' :=
  ⟨h.workingDirectory, fun place => (h.entry place).imp_right fun ⟨h1, h2, h3⟩ =>
    ⟨h1, h2, hkind place h3⟩⟩

theorem trans (h : Grows kind t t') (h' : Grows kind t' t'') : Grows kind t t'' := by
  refine ⟨h'.workingDirectory.trans h.workingDirectory, fun place => ?_⟩
  rcases h.entry place with e | ⟨hnone, hdir, hk⟩
  · rcases h'.entry place with e' | ⟨hnone, hdir, hk⟩
    · exact .inl (e'.trans e)
    · exact .inr ⟨e ▸ hnone, hdir, hk⟩
  · rcases h'.entry place with e' | ⟨hnone', -, -⟩
    · exact .inr ⟨hnone, e'.trans hdir, hk⟩
    · rw [hdir] at hnone'
      cases hnone'

theorem place_eq (h : Grows kind t t') (path : String) : t'.place path = t.place path :=
  place_congr h.workingDirectory path

end Grows

theorem entry_insert (t : FileTree) {place : Location} (hplace : place ≠ [])
    (entry : FileEntry) (place' : Location) :
    entry? (t.insert place entry) place' =
      if place = place' then some entry else t.entry? place' := by
  unfold entry?
  by_cases h : place' = []
  · subst h
    simp [hplace]
  · simp only [h, if_false, insert]
    exact Entries.get?_insert place place' entry t.entries

theorem createAlong_grows (ss : List Segment) (start : Location) (t : FileTree) :
    Grows (OnWay start ss) t (createAlong ss start t).1 := by
  induction ss generalizing start t with
  | nil => exact .refl t
  | cons s ss ih =>
    have hstep : ∀ place, OnWay (advance start s) ss place → OnWay start (s :: ss) place :=
      fun place h => onWay_cons.mpr (.inr h)
    cases s with
    | root | here | up => exact (ih _ t).mono hstep
    | name text =>
      rw [createAlong]
      split
      · exact (ih _ t).mono hstep
      · exact .refl t
      · rename_i hnone
        split
        · have hinsert : Grows (OnWay start (.name text :: ss)) t
              (t.insert (start ++ [text]) .directory) := by
            refine ⟨rfl, fun place => ?_⟩
            rw [entry_insert t (by simp)]
            split
            · rename_i he
              subst he
              exact .inr ⟨hnone, rfl, onWay_cons.mpr (.inr ⟨[], List.nil_prefix, rfl⟩)⟩
            · exact .inl rfl
          exact hinsert.trans ((ih _ _).mono hstep)
        · exact .refl t

theorem createDirectories_grows (t : FileTree) (path : String) :
    Grows (OnWay (t.start path) (Path.segments path)) t (t.createDirectories path).1 := by
  unfold createDirectories
  split
  · exact createAlong_grows _ _ t
  · exact .refl t

/-- Writing changes nothing, or makes a file at the path's place where no directory is. -/
theorem write_cases (t : FileTree) (path : String) (octets : List UInt8) :
    t.write path octets = (t, false) ∨
      t.isDirectory (t.place path) = false ∧
        t.write path octets = (t.insert (t.place path) (.file octets), true) := by
  unfold write
  split
  · rename_i place hlocate
    obtain rfl := locate?_eq_place hlocate
    split
    · exact .inl rfl
    · rename_i hdir
      exact .inr ⟨by simpa using hdir, rfl⟩
  · exact .inl rfl

theorem ne_nil_of_not_isDirectory {t : FileTree} {place : Location}
    (h : t.isDirectory place = false) : place ≠ [] := by
  rintro rfl
  simp [isDirectory, entry?] at h

end ContractPress.FileTree
