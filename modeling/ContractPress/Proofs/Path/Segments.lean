import ContractPress.Artifact
import Mathlib.Data.List.Basic

/-!
Paths and their segments.

The segments of a path stand in a fixed form: at most one root or dot at the beginning, after it
climbs and names only. Writing segments in that form and reading them again gives them back
(`segments_ofSegments`), and joining paths appends their steps (`steps_join`).
-/

namespace ContractPress

theorem Text.split_eq_splitOn (separator : Char) (cs : List Char) :
    Text.split separator cs = cs.splitOn separator := by
  induction cs with
  | nil => rfl
  | cons c rest ih =>
    rw [List.splitOn_cons_eq_if_modifyHead, ← ih]
    by_cases hc : c = separator
    · simp [Text.split, hc]
    · cases hs : Text.split separator rest with
      | nil => exact absurd hs (Text.split_ne_nil separator rest)
      | cons part others => simp [Text.split, hc, hs]

namespace Path

theorem parts_append_slash (xs ys : List Char) :
    parts (xs ++ '/' :: ys) = parts xs ++ parts ys := by
  simp only [parts, Text.split_eq_splitOn, List.splitOn_append_cons_self]

theorem slash_not_mem_part {cs part : List Char} (h : part ∈ parts cs) : '/' ∉ part := by
  induction cs generalizing part with
  | nil => simp_all [parts, Text.split]
  | cons c rest ih =>
    simp only [parts, Text.split] at h ih
    split at h
    · rcases List.mem_cons.mp h with rfl | h
      · exact List.not_mem_nil
      · exact ih h
    · rename_i hc
      cases hs : Text.split '/' rest with
      | nil => exact absurd hs (Text.split_ne_nil '/' rest)
      | cons first others =>
        simp only [hs, List.mem_cons] at h ih
        rcases h with rfl | h
        · exact fun hm => (List.mem_cons.mp hm).elim (fun e => hc e.symm) (ih (.inl rfl))
        · exact ih (.inr h)

namespace Segment

/-- A name that is read as itself: not empty, no dots that mean something else, no slash. -/
def PlainName (text : String) : Prop :=
  text ≠ "" ∧ text ≠ "." ∧ text ≠ ".." ∧ '/' ∉ text.toList

/-- What can stand anywhere in a path: a climb or a name. -/
def IsStep : Segment → Prop
  | .up => True
  | .name text => PlainName text
  | .root | .here => False

theorem isStep_of_ofPart? {cs part : List Char} {s : Segment} (hpart : part ∈ parts cs)
    (h : ofPart? part = some s) : s.IsStep := by
  simp only [ofPart?, Bool.or_eq_true, decide_eq_true_eq] at h
  split at h
  · cases h
  · rename_i hblank
    split at h <;> cases h
    · trivial
    · rename_i hup
      rw [not_or] at hblank
      refine ⟨fun e => hblank.1 ?_, fun e => hblank.2 ?_, fun e => hup ?_, ?_⟩
      · simpa using congrArg String.toList e
      · simpa using congrArg String.toList e
      · simpa using congrArg String.toList e
      · simpa using slash_not_mem_part hpart

theorem ofPart?_text {s : Segment} (h : s.IsStep) : ofPart? s.text.toList = some s := by
  cases s with
  | up => rfl
  | name n =>
    obtain ⟨h1, h2, h3, -⟩ := h
    have e1 : n.toList ≠ [] := fun e => h1 (String.toList_inj.mp e)
    have e2 : n.toList ≠ ['.'] := fun e => h2 (String.toList_inj.mp e)
    have e3 : n.toList ≠ ['.', '.'] := fun e => h3 (String.toList_inj.mp e)
    simp [ofPart?, text, h1, e2, e3]
  | root | here => exact h.elim

end Segment

/-- The climbs and names of a path, from left to right. -/
def steps (path : String) : List Segment :=
  (parts path.toList).filterMap Segment.ofPart?

theorem isStep_of_mem_steps {path : String} {s : Segment} (h : s ∈ steps path) : s.IsStep := by
  obtain ⟨part, hpart, hs⟩ := List.mem_filterMap.mp h
  exact Segment.isStep_of_ofPart? hpart hs

/-- Without climbs there are names only. -/
theorem exists_names_of_up_not_mem {ss : List Segment} (hss : ∀ s ∈ ss, s.IsStep)
    (hup : .up ∉ ss) : ∃ names : List String, ss = names.map .name := by
  induction ss with
  | nil => exact ⟨[], rfl⟩
  | cons s ss ih =>
    rw [List.forall_mem_cons] at hss
    rw [List.mem_cons, not_or] at hup
    obtain ⟨names, rfl⟩ := ih hss.2 hup.2
    cases s with
    | name text => exact ⟨text :: names, rfl⟩
    | up => exact absurd rfl hup.1
    | root | here => exact hss.1.elim

theorem names_inj {names names' : List String}
    (h : names.map Segment.name = names'.map .name) : names = names' :=
  List.map_injective_iff.mpr (fun _ _ he => Segment.name.inj he) h

theorem up_not_mem_names (names : List String) : Segment.up ∉ names.map .name := by
  intro hmem
  obtain ⟨name, -, he⟩ := List.mem_map.mp hmem
  cases he

/-- What a path begins with before its steps. -/
def lead (path : String) : List Segment :=
  if isAbsolute path then [.root]
  else if (parts path.toList).head? = some ['.'] then [.here]
  else []

theorem segments_eq (path : String) : segments path = lead path ++ steps path := by
  simp only [segments, lead, steps]
  split
  · rfl
  · split <;> rfl

/-- The form of the segments of a path: nothing but steps after the first of them, which may as well
be a root or a dot. -/
def WellFormed (ss : List Segment) : Prop :=
  ∃ first rest, ss = first ++ rest ∧ (first = [] ∨ first = [.root] ∨ first = [.here]) ∧
    ∀ s ∈ rest, s.IsStep

theorem wellFormed_segments (path : String) : WellFormed (segments path) := by
  refine ⟨lead path, steps path, segments_eq path, ?_, fun s => isStep_of_mem_steps⟩
  unfold lead
  split
  · exact .inr (.inl rfl)
  · split
    · exact .inr (.inr rfl)
    · exact .inl rfl

theorem WellFormed.dropLast {ss : List Segment} (h : WellFormed ss) : WellFormed ss.dropLast := by
  obtain ⟨first, rest, rfl, hfirst, hrest⟩ := h
  cases rest with
  | nil => rcases hfirst with rfl | rfl | rfl <;> exact ⟨[], [], rfl, .inl rfl, by simp⟩
  | cons s rest =>
    refine ⟨first, (s :: rest).dropLast, by simp, hfirst, fun t ht => hrest t ?_⟩
    exact List.dropLast_subset _ ht

/-! ### Writing segments and reading them again -/

theorem slash_not_mem_text {s : Segment} (h : s = .here ∨ s = .root ∨ s.IsStep) :
    '/' ∉ s.text.toList := by
  rcases h with rfl | rfl | h
  · decide
  · decide
  · cases s with
    | name n => exact h.2.2.2
    | _ => decide

theorem parts_ofSegments {ss : List Segment} (hne : ss ≠ []) (hroot : ss ≠ [.root])
    (h : ∀ s ∈ ss, s = .here ∨ s = .root ∨ s.IsStep) :
    parts (ofSegments ss).toList = ss.map fun s => s.text.toList := by
  have hof : ofSegments ss = "/".intercalate (ss.map Segment.text) := by
    unfold ofSegments
    split
    · exact absurd rfl hroot
    · rfl
  rw [hof, parts, Text.split_eq_splitOn, String.toList_intercalate, List.map_map]
  refine List.splitOn_intercalate '/' ?_ (by simpa using hne)
  intro part hpart
  obtain ⟨s, hs, rfl⟩ := List.mem_map.mp hpart
  exact slash_not_mem_text (h s hs)

theorem filterMap_ofPart?_texts {ss : List Segment} (h : ∀ s ∈ ss, s.IsStep) :
    (ss.map fun s => s.text.toList).filterMap Segment.ofPart? = ss := by
  rw [List.filterMap_map]
  refine (List.filterMap_congr fun s hs => ?_).trans List.filterMap_some
  exact Segment.ofPart?_text (h s hs)

theorem text_toList_ne_nil {s : Segment} (h : s.IsStep) : s.text.toList ≠ [] := by
  cases s with
  | name n => exact fun e => h.1 (String.toList_inj.mp e)
  | up => decide
  | root | here => exact h.elim

theorem isAbsolute_iff_head_parts (path : String) :
    isAbsolute path = true ↔ ∃ others, parts path.toList = [] :: others ∧ others ≠ [] := by
  simp only [isAbsolute, decide_eq_true_eq]
  cases path.toList with
  | nil => simp [parts, Text.split]
  | cons c rest =>
    by_cases hc : c = '/'
    · simp [hc, parts, Text.split, Text.split_ne_nil]
    · cases hs : Text.split '/' rest with
      | nil => exact absurd hs (Text.split_ne_nil '/' rest)
      | cons part others => simp [hc, parts, Text.split, hs]

theorem isAbsolute_eq_of_parts {path : String} {first : List Char} {others : List (List Char)}
    (h : parts path.toList = first :: others) (hfirst : first = [] → others ≠ []) :
    isAbsolute path = decide (first = []) := by
  rw [Bool.eq_iff_iff, isAbsolute_iff_head_parts, h, decide_eq_true_eq]
  constructor
  · intro h
    obtain ⟨_, he, -⟩ := h
    exact (List.cons.inj he).1
  · rintro rfl
    exact ⟨others, rfl, hfirst rfl⟩

theorem segments_of_parts {path : String} {ss : List Segment}
    (h : parts path.toList = ss.map fun s => s.text.toList) (hne : ss ≠ []) (hroot : ss ≠ [.root])
    (hw : WellFormed ss) : segments path = ss := by
  obtain ⟨first, rest, rfl, hfirst, hrest⟩ := hw
  rw [segments_eq, lead, steps, h, List.map_append, List.filterMap_append,
    filterMap_ofPart?_texts hrest]
  rcases hfirst with rfl | rfl | rfl
  · cases rest with
    | nil => exact absurd rfl hne
    | cons s rest =>
      have hs := hrest s List.mem_cons_self
      rw [isAbsolute_eq_of_parts h fun e => absurd e (text_toList_ne_nil hs)]
      have hdot : s.text.toList ≠ ['.'] := by
        cases s with
        | name n => exact fun e => hs.2.1 (String.toList_inj.mp e)
        | up => decide
        | root | here => exact hs.elim
      simp [text_toList_ne_nil hs, hdot]
  · have hrest' : rest ≠ [] := fun e => hroot (by simp [e])
    rw [isAbsolute_eq_of_parts h fun _ => by simpa using hrest']
    rfl
  · rw [isAbsolute_eq_of_parts h fun e => absurd e (by decide)]
    rfl

/-- Segments in their form are read from what they are written as. -/
theorem segments_ofSegments {ss : List Segment} (hw : WellFormed ss) :
    segments (ofSegments ss) = ss := by
  by_cases hne : ss = []
  · subst hne
    decide
  by_cases hroot : ss = [.root]
  · subst hroot
    decide
  refine segments_of_parts (parts_ofSegments hne hroot fun s hs => ?_) hne hroot hw
  obtain ⟨first, rest, rfl, hfirst, hrest⟩ := hw
  rcases List.mem_append.mp hs with hs | hs
  · rcases hfirst with rfl | rfl | rfl <;> simp_all
  · exact .inr (.inr (hrest s hs))

theorem isAbsolute_iff_segments (path : String) :
    isAbsolute path = true ↔ (segments path).head? = some .root := by
  rw [segments_eq, lead]
  split
  · simpa
  · rename_i h
    split
    · simpa using h
    · simp only [h, Bool.false_eq_true, List.nil_append, false_iff]
      intro hroot
      exact isStep_of_mem_steps (List.mem_of_mem_head? hroot)

/-! ### Joining paths -/

theorem steps_append_slash (base path : String) :
    steps (base ++ "/" ++ path) = steps base ++ steps path := by
  have h : (base ++ "/" ++ path).toList = base.toList ++ '/' :: path.toList := by simp
  simp only [steps, h, parts_append_slash, List.filterMap_append]

theorem steps_append_of_slash {base : String} (h : base.toList.getLast? = some '/')
    (path : String) : steps (base ++ path) = steps base ++ steps path := by
  obtain ⟨init, hinit⟩ := List.getLast?_eq_some_iff.mp h
  have hb : parts base.toList = parts init ++ [[]] := by
    rw [hinit, parts_append_slash]
    rfl
  have hp : (base ++ path).toList = init ++ '/' :: path.toList := by simp [hinit]
  simp [steps, hp, hb, parts_append_slash, Segment.ofPart?]

/-- The steps of a path that continues another are those of both. -/
theorem steps_join {path : String} (h : isAbsolute path = false) (base : String) :
    steps (join base path) = steps base ++ steps path := by
  unfold join
  rw [if_neg (by simp [h])]
  split
  · rename_i hb
    rcases Bool.or_eq_true _ _ ▸ hb with hb | hb
    · have he : base = "" := by simpa using hb
      subst he
      simp [steps, parts, Text.split, Segment.ofPart?]
    · exact steps_append_of_slash (by simpa using hb) path
  · exact steps_append_slash base path

theorem isAbsolute_join {path : String} (h : isAbsolute path = false) (base : String) :
    isAbsolute (join base path) = isAbsolute base := by
  unfold join
  rw [if_neg (by simp [h])]
  by_cases hb : base = ""
  · subst hb
    simpa [isAbsolute] using h
  · have hne : base.toList ≠ [] := fun e => hb (String.toList_inj.mp e)
    obtain ⟨c, rest, hcs⟩ := List.exists_cons_of_ne_nil hne
    split <;> simp [isAbsolute, hcs]

end Path

end ContractPress
