import ContractPress.Proofs.Path.Segments

/-!
Paths that climb out of the directory they start from.

`Climbs` says it of the whole way, while `escapesRoot` looks at the first segment. The two part
exactly on the paths of `ClimbsLate` (`escapesRoot_iff_climbs_iff`); normalising brings all climbs
to the front, so no normalised path is one of these (`not_climbsLate_artifactPath`).
-/

namespace ContractPress.Path

namespace Segment

def isName : Segment → Bool
  | .name _ => true
  | _ => false

@[simp]
theorem isName_name (text : String) : (Segment.name text).isName = true := rfl

@[simp]
theorem isName_up : Segment.up.isName = false := rfl

end Segment

/-- `depth` names deep, some beginning of the way holds more climbs than there are names. -/
def Overclimbs (depth : Nat) (ss : List Segment) : Prop :=
  ∃ way, way <+: ss ∧ depth + way.countP Segment.isName < way.count .up

/-- A path that is absolute, or on which some beginning holds more climbs than names. -/
def Climbs (path : String) : Prop :=
  isAbsolute path = true ∨ Overclimbs 0 ((segments path).filter (· ≠ .here))

/-- A relative path that climbs out, but not with its first segment. -/
def ClimbsLate (path : String) : Prop :=
  isAbsolute path = false ∧ (segments path).head? ≠ some .up ∧ Climbs path

theorem not_overclimbs_nil (depth : Nat) : ¬Overclimbs depth [] := by
  intro h
  obtain ⟨way, hway, h⟩ := h
  rw [List.prefix_nil.mp hway] at h
  exact absurd h (Nat.not_lt_zero _)

theorem overclimbs_name {depth : Nat} {text : String} {ss : List Segment} :
    Overclimbs depth (.name text :: ss) ↔ Overclimbs (depth + 1) ss := by
  constructor
  · intro h
    obtain ⟨way, hway, h⟩ := h
    rcases List.prefix_cons_iff.mp hway with rfl | ⟨way', rfl, hway'⟩
    · exact absurd h (Nat.not_lt_zero _)
    · refine ⟨way', hway', ?_⟩
      simp [List.countP_cons] at h
      omega
  · intro h
    obtain ⟨way, hway, h⟩ := h
    refine ⟨.name text :: way, (List.prefix_cons_inj _).mpr hway, ?_⟩
    simp [List.countP_cons]
    omega

theorem overclimbs_up_zero (ss : List Segment) : Overclimbs 0 (.up :: ss) :=
  ⟨[.up], ⟨ss, rfl⟩, by decide⟩

theorem overclimbs_up_succ {depth : Nat} {ss : List Segment} :
    Overclimbs (depth + 1) (.up :: ss) ↔ Overclimbs depth ss := by
  constructor
  · intro h
    obtain ⟨way, hway, h⟩ := h
    rcases List.prefix_cons_iff.mp hway with rfl | ⟨way', rfl, hway'⟩
    · exact absurd h (Nat.not_lt_zero _)
    · refine ⟨way', hway', ?_⟩
      simp at h
      omega
  · intro h
    obtain ⟨way, hway, h⟩ := h
    refine ⟨.up :: way, (List.prefix_cons_inj _).mpr hway, ?_⟩
    simp
    omega

theorem not_overclimbs_names (depth : Nat) (names : List String) :
    ¬Overclimbs depth (names.map .name) := by
  induction names generalizing depth with
  | nil => exact not_overclimbs_nil depth
  | cons text names ih => exact fun h => ih (depth + 1) (overclimbs_name.mp h)

theorem filter_segments {path : String} (h : isAbsolute path = false) :
    (segments path).filter (· ≠ .here) = steps path := by
  have hsteps : (steps path).filter (· ≠ .here) = steps path := by
    refine List.filter_eq_self.mpr fun s hs => decide_eq_true fun e => ?_
    exact (e ▸ isStep_of_mem_steps hs : Segment.here.IsStep)
  rw [segments_eq, List.filter_append, hsteps, lead, h]
  split
  · contradiction
  · split <;> rfl

theorem climbs_iff (path : String) :
    Climbs path ↔ isAbsolute path = true ∨ Overclimbs 0 (steps path) := by
  unfold Climbs
  cases h : isAbsolute path with
  | true => simp
  | false => rw [filter_segments h]

theorem escapesRoot_iff (path : String) :
    escapesRoot path = true ↔ isAbsolute path = true ∨ (segments path).head? = some .up := by
  rw [isAbsolute_iff_segments]
  unfold escapesRoot
  split
  · simp_all
  · simp_all
  · rename_i hroot hup
    simp only [Bool.false_eq_true, List.head?_eq_some_iff, false_iff, not_or, not_exists]
    exact ⟨hroot, hup⟩

theorem steps_of_head_up {path : String} (h : (segments path).head? = some .up) :
    (steps path).head? = some .up := by
  rw [segments_eq] at h
  unfold lead at h
  split at h
  · cases h
  · split at h
    · cases h
    · exact h

theorem climbs_of_escapesRoot {path : String} (h : escapesRoot path = true) : Climbs path := by
  rw [climbs_iff]
  refine ((escapesRoot_iff path).mp h).imp_right fun hup => ?_
  obtain ⟨ss, hss⟩ := List.head?_eq_some_iff.mp (steps_of_head_up hup)
  exact hss ▸ overclimbs_up_zero ss

theorem climbsLate_iff (path : String) :
    ClimbsLate path ↔ Climbs path ∧ escapesRoot path = false := by
  rw [← Bool.not_eq_true, escapesRoot_iff, not_or, Bool.not_eq_true]
  exact ⟨fun ⟨ha, hup, hc⟩ => ⟨hc, ha, hup⟩, fun ⟨hc, ha, hup⟩ => ⟨ha, hup, hc⟩⟩

theorem escapesRoot_iff_not_climbsLate (path : String) :
    escapesRoot path = true ↔ Climbs path ∧ ¬ClimbsLate path := by
  rw [climbsLate_iff, not_and, Bool.not_eq_false]
  exact ⟨fun h => ⟨climbs_of_escapesRoot h, fun _ => h⟩, fun ⟨hc, h⟩ => h hc⟩

/-- Looking at the first segment gives the right answer on all paths but those that climb late. -/
theorem escapesRoot_iff_climbs_iff (path : String) :
    (escapesRoot path = true ↔ Climbs path) ↔ ¬ClimbsLate path := by
  rw [climbsLate_iff]
  constructor
  · intro h h
    obtain ⟨hc, he⟩ := h
    exact absurd (h.mpr hc) (by simp [he])
  · intro h
    refine ⟨climbs_of_escapesRoot, fun hc => ?_⟩
    by_contra he
    exact h ⟨hc, by simpa using he⟩

/-! ### Normalised paths -/

/-- A climb is kept where there is no name to cancel. -/
theorem walk_up {base : List Segment} (hbase : ∀ text, base.head? ≠ some (.name text)) :
    walk base .up = .up :: base := by
  cases base with
  | nil => rfl
  | cons s base =>
    cases s with
    | name text => exact absurd rfl (hbase text)
    | _ => rfl

/-- On a stack of names above something else, a walk leaves names above as many new climbs as the
way lacks names. -/
theorem foldl_walk {ss : List Segment} (hss : ∀ s ∈ ss, s.IsStep) (names : List String)
    (base : List Segment) (hbase : ∀ text, base.head? ≠ some (.name text))
    (hnames : ∀ text ∈ names, Segment.PlainName text) :
    ∃ (k : Nat) (left : List String), ss.foldl walk (names.map .name ++ base) =
        left.map .name ++ (List.replicate k .up ++ base) ∧
      (∀ text ∈ left, Segment.PlainName text) ∧ (0 < k ↔ Overclimbs names.length ss) := by
  -- a climb takes one of the names off the stack, or becomes part of what is below them
  induction ss generalizing names base with
  | nil =>
    exact ⟨0, names, rfl, hnames, by simp [not_overclimbs_nil]⟩
  | cons s ss ih =>
    rw [List.forall_mem_cons] at hss
    cases s with
    | name text =>
      obtain ⟨k, left, hfold, hleft, hk⟩ := ih hss.2 (text :: names) base hbase
        (List.forall_mem_cons.mpr ⟨hss.1, hnames⟩)
      exact ⟨k, left, hfold, hleft, by rw [hk, overclimbs_name]; rfl⟩
    | up =>
      cases names with
      | cons text names =>
        obtain ⟨k, left, hfold, hleft, hk⟩ := ih hss.2 names base hbase
          (List.forall_mem_cons.mp hnames).2
        exact ⟨k, left, hfold, hleft, by rw [hk, List.length_cons, overclimbs_up_succ]⟩
      | nil =>
        obtain ⟨k, left, hfold, hleft, -⟩ := ih hss.2 [] (.up :: base) (by simp) (by simp)
        refine ⟨k + 1, left, ?_, hleft, by simp [overclimbs_up_zero]⟩
        rw [List.map_nil, List.nil_append] at hfold ⊢
        rw [List.foldl_cons, walk_up hbase, hfold, List.replicate_succ']
        simp
    | root | here => exact hss.1.elim

theorem foldl_walk_lead (path : String) :
    (lead path).foldl walk [] = if isAbsolute path then [.root] else [] := by
  unfold lead
  split
  · rfl
  · split <;> rfl

/-- A normalised path: perhaps a root, then climbs, then names. -/
theorem normalise_segments (path : String) :
    ∃ (k : Nat) (names : List String), normalise (segments path) =
        (if isAbsolute path then [.root] else []) ++ (List.replicate k .up ++ names.map .name) ∧
      (∀ text ∈ names, Segment.PlainName text) ∧ (0 < k ↔ Overclimbs 0 (steps path)) := by
  obtain ⟨k, left, hfold, hleft, hk⟩ := foldl_walk
    (fun s (hs : s ∈ steps path) => isStep_of_mem_steps hs) []
    (if isAbsolute path then [.root] else []) (by split <;> simp) (by simp)
  refine ⟨k, left.reverse, ?_, by simpa using hleft, hk⟩
  rw [List.map_nil, List.nil_append] at hfold
  rw [normalise, segments_eq, List.foldl_append, foldl_walk_lead, hfold]
  split <;> simp

theorem isStep_of_climbs_names {k : Nat} {names : List String}
    (hnames : ∀ text ∈ names, Segment.PlainName text) :
    ∀ s ∈ List.replicate k Segment.up ++ names.map .name, s.IsStep := by
  intro s hs
  rcases List.mem_append.mp hs with hs | hs
  · rw [List.eq_of_mem_replicate hs]
    trivial
  · obtain ⟨text, htext, rfl⟩ := List.mem_map.mp hs
    exact hnames text htext

theorem segments_artifactPath (target fileName : String) :
    segments (artifactPath target fileName) = normalise (segments (join target fileName)) := by
  obtain ⟨k, names, hn, hnames, -⟩ := normalise_segments (join target fileName)
  refine segments_ofSegments ⟨_, _, hn, ?_, isStep_of_climbs_names hnames⟩
  split
  · exact .inr (.inl rfl)
  · exact .inl rfl

/-- An artifact's path begins by climbing, or is absolute, exactly if target and file name
together climb out. -/
theorem escapesRoot_artifactPath (target fileName : String) :
    escapesRoot (artifactPath target fileName) = true ↔ Climbs (join target fileName) := by
  obtain ⟨k, names, hn, -, hk⟩ := normalise_segments (join target fileName)
  rw [escapesRoot_iff, isAbsolute_iff_segments, segments_artifactPath, hn, climbs_iff]
  cases isAbsolute (join target fileName) with
  | true => simp
  | false =>
    rw [← hk]
    cases k with
    | zero => cases names <;> simp
    | succ k => simp [List.replicate_succ]

/-- Normalising brings all climbs to the front. -/
theorem not_climbsLate_artifactPath (target fileName : String) :
    ¬ClimbsLate (artifactPath target fileName) := by
  rw [climbsLate_iff]
  intro h
  obtain ⟨hclimbs, hescapes⟩ := h
  obtain ⟨k, names, hn, -, -⟩ := normalise_segments (join target fileName)
  rw [← Bool.not_eq_true, escapesRoot_iff, not_or, isAbsolute_iff_segments,
    segments_artifactPath, hn] at hescapes
  rw [Climbs, isAbsolute_iff_segments, segments_artifactPath, hn] at hclimbs
  obtain ⟨hroot, hup⟩ := hescapes
  cases habs : isAbsolute (join target fileName) with
  | true => exact hroot (by rw [habs]; rfl)
  | false =>
    rw [habs] at hclimbs hroot hup
    cases k with
    | succ k => exact hup (by simp [List.replicate_succ])
    | zero =>
      have hfilter : (names.map Segment.name).filter (· ≠ .here) = names.map .name :=
        List.filter_eq_self.mpr fun s hs => by
          obtain ⟨text, -, rfl⟩ := List.mem_map.mp hs
          rfl
      simp only [Bool.false_eq_true, if_false, List.replicate_zero, List.nil_append,
        hfilter] at hclimbs hroot
      exact hclimbs.elim hroot (not_overclimbs_names 0 names)

theorem steps_of_segments_names {path : String} {names : List String}
    (h : segments path = names.map .name) : steps path = names.map .name := by
  rw [segments_eq] at h
  unfold lead at h
  split at h
  · cases names <;> simp at h
  · split at h
    · cases names <;> simp at h
    · exact h

theorem isAbsolute_of_segments_names {path : String} {names : List String}
    (h : segments path = names.map .name) : isAbsolute path = false := by
  rw [← Bool.not_eq_true, isAbsolute_iff_segments, h]
  cases names <;> simp

/-- A normalised path that does not lead out is made of names. -/
theorem segments_artifactPath_names {target fileName : String}
    (h : escapesRoot (artifactPath target fileName) = false) :
    ∃ names : List String, (∀ text ∈ names, Segment.PlainName text) ∧
      segments (artifactPath target fileName) = names.map .name := by
  obtain ⟨k, names, hn, hnames, -⟩ := normalise_segments (join target fileName)
  refine ⟨names, hnames, ?_⟩
  rw [← Bool.not_eq_true, escapesRoot_iff, not_or, isAbsolute_iff_segments,
    segments_artifactPath, hn] at h
  rw [segments_artifactPath, hn]
  obtain ⟨hroot, hup⟩ := h
  cases habs : isAbsolute (join target fileName) with
  | true => exact absurd (by rw [habs]; rfl) hroot
  | false =>
    rw [habs] at hup
    cases k with
    | zero => rfl
    | succ k => exact absurd (by simp [List.replicate_succ]) hup

end ContractPress.Path
