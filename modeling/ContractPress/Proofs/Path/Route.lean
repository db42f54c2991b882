import ContractPress.Proofs.Path.Climbing

/-!
Where a path leads by its text alone.

A route is read part by part, without regard to what there is on the way: `..` takes back the last
name, and is kept where there is none. The path of an artifact is its route written out
(`artifactPath_eq_text`), and it has the route of target and file name (`ofPath_artifactPath`).
-/

namespace ContractPress.Path

open Segment (PlainName)

/-- From the root or from where one stands, up so many times and then down by these names. -/
structure Route where
  absolute : Bool
  climbs : Nat
  names : List String
deriving DecidableEq

namespace Route

/-- Goes on by what stands between two slashes. -/
def advance (r : Route) (part : String) : Route :=
  if part = "" ∨ part = "." then r
  else if part = ".." then
    if r.names = [] then { r with climbs := r.climbs + 1 }
    else { r with names := r.names.dropLast }
  else { r with names := r.names ++ [part] }

def ofPath (path : String) : Route :=
  ((parts path.toList).map String.ofList).foldl advance ⟨isAbsolute path, 0, []⟩

def text (r : Route) : String :=
  (if r.absolute then "/" else "") ++
    "/".intercalate (List.replicate r.climbs ".." ++ r.names)

/-- The segments of the text. -/
def segments (r : Route) : List Segment :=
  (if r.absolute then [.root] else []) ++ (List.replicate r.climbs .up ++ r.names.map .name)

theorem ofSegments_segments (r : Route) : ofSegments r.segments = r.text := by
  have htexts : (List.replicate r.climbs Segment.up ++ r.names.map Segment.name).map Segment.text =
      List.replicate r.climbs ".." ++ r.names := by
    have hnames : Segment.text ∘ Segment.name = id := rfl
    rw [List.map_append, List.map_replicate, List.map_map, hnames, List.map_id]
    rfl
  unfold segments text
  rw [← htexts]
  cases r.absolute with
  | false =>
    simp only [Bool.false_eq_true, if_false, List.nil_append, String.empty_append]
    unfold ofSegments
    split
    · rename_i h
      have hroot : Segment.root ∈ List.replicate r.climbs .up ++ r.names.map .name := by
        rw [h]
        exact List.mem_singleton_self _
      simp [List.mem_replicate] at hroot
    · rfl
  | true =>
    cases List.replicate r.climbs Segment.up ++ r.names.map Segment.name with
    | nil => rfl
    | cons s rest =>
      simp only [if_true, List.singleton_append, ofSegments, List.map_cons,
        String.intercalate_cons_cons]
      rfl

theorem root_mem_segments {r : Route} : .root ∈ r.segments ↔ r.absolute = true := by
  unfold segments
  cases r.absolute <;> simp [List.mem_replicate]

/-- Routes with the same segments are the same. -/
theorem segments_injective : Function.Injective segments := by
  intro r r' h
  have hroot : ∀ b : Bool, (if b then [Segment.root] else []).count .up = 0 := by decide
  have hnames : ∀ names : List String, (names.map Segment.name).count .up = 0 :=
    fun names => List.count_eq_zero.mpr (up_not_mem_names names)
  have hclimbs : r.climbs = r'.climbs := by
    have h := congrArg (List.count .up) h
    simpa only [segments, List.count_append, hroot, hnames, List.count_replicate_self, Nat.zero_add,
      Nat.add_zero] using h
  have habsolute : r.absolute = r'.absolute := by
    rw [Bool.eq_iff_iff, ← root_mem_segments, ← root_mem_segments, h]
  obtain ⟨absolute, climbs, names⟩ := r
  obtain ⟨absolute', climbs', names'⟩ := r'
  obtain rfl : absolute = absolute' := habsolute
  obtain rfl : climbs = climbs' := hclimbs
  rw [segments, segments, List.append_cancel_left_eq, List.append_cancel_left_eq] at h
  obtain rfl : names = names' := names_inj h
  rfl

/-! ### Reading a path as its segments are walked -/

/-- What a walk has left of the route, the last name first. -/
def stack (r : Route) : List Segment :=
  r.names.reverse.map .name ++ (List.replicate r.climbs .up ++ if r.absolute then [.root] else [])

theorem reverse_stack (r : Route) : r.stack.reverse = r.segments := by
  unfold stack segments
  cases r.absolute <;> simp

theorem ofPart?_toList (part : String) : Segment.ofPart? part.toList =
    if part = "" ∨ part = "." then none
    else if part = ".." then some .up
    else some (.name part) := by
  have hempty : part.toList = [] ↔ part = "" := @String.toList_inj part ""
  have hdot : part.toList = ['.'] ↔ part = "." := @String.toList_inj part "."
  have hup : part.toList = ['.', '.'] ↔ part = ".." := @String.toList_inj part ".."
  simp only [Segment.ofPart?, Bool.or_eq_true, decide_eq_true_eq, hempty, hdot, hup,
    String.ofList_toList]

/-- A climb takes the name before it away, or it is put on what is left. -/
theorem stack_climb (r : Route) : walk r.stack .up =
    if r.names = [] then stack { r with climbs := r.climbs + 1 }
    else stack { r with names := r.names.dropLast } := by
  obtain ⟨absolute, climbs, names⟩ := r
  rcases List.eq_nil_or_concat names with rfl | ⟨before, name, rfl⟩
  · cases climbs with
    | zero => cases absolute <;> rfl
    | succ climbs => rfl
  · simp [stack, walk]

/-- A part is walked as the segment that it is. -/
theorem stack_advance (r : Route) (part : String) :
    (r.advance part).stack = match Segment.ofPart? part.toList with
      | some s => walk r.stack s
      | none => r.stack := by
  rw [ofPart?_toList, advance]
  split
  · rfl
  split
  · dsimp only
    rw [stack_climb]
    split <;> rfl
  · simp [stack, walk]

theorem stack_foldl_advance (ps : List (List Char)) (r : Route) :
    ((ps.map String.ofList).foldl advance r).stack =
      (ps.filterMap Segment.ofPart?).foldl walk r.stack := by
  induction ps generalizing r with
  | nil => rfl
  | cons part ps ih =>
    rw [List.map_cons, List.foldl_cons, ih, stack_advance, String.toList_ofList,
      List.filterMap_cons]
    cases Segment.ofPart? part <;> rfl

/-- To normalise the segments of a path is to read its route. -/
theorem normalise_segments_path (path : String) :
    normalise (Path.segments path) = (ofPath path).segments := by
  rw [normalise, segments_eq, List.foldl_append, foldl_walk_lead, ← reverse_stack, ofPath,
    stack_foldl_advance]
  rfl

theorem foldl_walk_climbs {base : List Segment} (hbase : ∀ name, base.head? ≠ some (.name name))
    (k : Nat) : (List.replicate k .up).foldl walk base = List.replicate k .up ++ base := by
  induction k generalizing base with
  | zero => rfl
  | succ k ih =>
    rw [List.replicate_succ, List.foldl_cons, walk_up hbase, ih (by simp), ← List.replicate_succ,
      List.replicate_succ', List.append_assoc]
    rfl

theorem foldl_walk_names (base : List Segment) (names : List String) :
    (names.map Segment.name).foldl walk base = names.reverse.map .name ++ base := by
  induction names generalizing base with
  | nil => rfl
  | cons name names ih =>
    rw [List.map_cons, List.foldl_cons, ih]
    simp [walk]

/-- What is normal already stays as it is. -/
theorem normalise_segments_route (r : Route) : normalise r.segments = r.segments := by
  have hroot : (if r.absolute then [Segment.root] else []).foldl walk [] =
      if r.absolute then [.root] else [] := by
    split <;> rfl
  rw [normalise, segments, List.foldl_append, List.foldl_append, hroot, foldl_walk_climbs,
    foldl_walk_names, ← segments, ← reverse_stack]
  · rfl
  · intro name
    split <;> simp

/-- The names of a route are plain, and it climbs exactly if some beginning of the path holds more
climbs than names. -/
theorem ofPath_spec (path : String) :
    (ofPath path).absolute = isAbsolute path ∧ (∀ name ∈ (ofPath path).names, PlainName name) ∧
      (0 < (ofPath path).climbs ↔ Overclimbs 0 (steps path)) := by
  obtain ⟨k, names, hn, hnames, hk⟩ := normalise_segments path
  have hroute : ofPath path = ⟨isAbsolute path, k, names⟩ := by
    apply segments_injective
    rw [← normalise_segments_path, hn]
    rfl
  rw [hroute]
  exact ⟨rfl, hnames, hk⟩

end Route

/-! ### The route of an artifact -/

variable (target fileName : String)

/-- The path of an artifact is the route of target and file name, written out. -/
theorem artifactPath_eq_text :
    artifactPath target fileName = (Route.ofPath (join target fileName)).text := by
  rw [artifactPath, Route.normalise_segments_path, Route.ofSegments_segments]

/-- Normalising a path does not change where it leads. -/
theorem ofPath_artifactPath :
    Route.ofPath (artifactPath target fileName) = Route.ofPath (join target fileName) := by
  apply Route.segments_injective
  rw [← Route.normalise_segments_path, segments_artifactPath, Route.normalise_segments_path,
    Route.normalise_segments_route]

theorem join_empty (path : String) : join "" path = path := by
  unfold join
  split
  · rfl
  · exact String.empty_append

theorem artifactPath_artifactPath :
    artifactPath "" (artifactPath target fileName) = artifactPath target fileName := by
  rw [artifactPath_eq_text "", join_empty, ofPath_artifactPath, ← artifactPath_eq_text]

/-- A relative path, written as ordinary names with slashes between them. -/
def OfNames (path : String) : Prop :=
  isAbsolute path = false ∧ ∃ names : List String,
    (∀ name ∈ names, PlainName name) ∧ path = "/".intercalate names

variable {target fileName : String}

/-- What does not lead out of the output root is made of names. -/
theorem ofNames_artifactPath (h : escapesRoot (artifactPath target fileName) = false) :
    OfNames (artifactPath target fileName) := by
  obtain ⟨habsolute, hnames, hclimbs⟩ := Route.ofPath_spec (join target fileName)
  rw [← Bool.not_eq_true, escapesRoot_artifactPath, climbs_iff, not_or, ← habsolute, ← hclimbs,
    Bool.not_eq_true, Nat.pos_iff_ne_zero, not_not] at h
  obtain ⟨hrelative, hzero⟩ := h
  constructor
  · rw [← (Route.ofPath_spec _).1, ofPath_artifactPath, hrelative]
  · refine ⟨_, hnames, ?_⟩
    rw [artifactPath_eq_text, Route.text, hrelative, hzero]
    exact String.empty_append

end ContractPress.Path
