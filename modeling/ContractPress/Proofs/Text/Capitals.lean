import ContractPress.Proofs.Helper.Branching
import Mathlib.Data.List.SplitBy

/-!
Segments of a text that begin at its capitals.

`Divides` says how a text is cut before its capitals. There is one way to cut it, and what splitting
on capitals gives is the segments with the joiner between them (`capitals_split`).
-/

namespace ContractPress

namespace Text

variable {text joiner : String} {segments : List String}

/-- A text is the segments in a row. None of them is empty, each but the first begins with a
capital, and none has a capital after its first character. -/
structure Divides (segments : List String) (text : String) : Prop where
  whole : String.join segments = text
  inhabited : "" ∉ segments
  opened : ∀ s ∈ segments.tail, ∃ c ∈ s.toList.head?, c.isUpper = true
  plain : ∀ s ∈ segments, ∀ c ∈ s.toList.tail, c.isUpper = false

/-! ### The one division -/

/-- A chain whose links look at their right ends only. -/
theorem isChain_right_iff {α : Type} {R : α → α → Prop} {P : α → Prop} {items : List α}
    (h : ∀ a ∈ items, ∀ b ∈ items, R a b ↔ P b) : items.IsChain R ↔ ∀ b ∈ items.tail, P b := by
  induction items with
  | nil => simp
  | cons a items ih =>
    have hrest : ∀ b ∈ items, ∀ c ∈ items, R b c ↔ P c := fun b hb c hc =>
      h b (List.mem_cons_of_mem a hb) c (List.mem_cons_of_mem a hc)
    rw [List.isChain_cons, ih hrest, List.tail_cons]
    cases items with
    | nil => simp
    | cons b items =>
      have hb := h a List.mem_cons_self b (List.mem_cons_of_mem a List.mem_cons_self)
      simp [hb]

/-- A text is divided where a capital follows. -/
theorem divides_iff : Divides segments text ↔
    text.toList.splitBy (fun _ c => !c.isUpper) = segments.map String.toList := by
  have hjoin : text.toList = (segments.map String.toList).flatten ↔
      String.join segments = text := by
    rw [← String.toList_inj, String.toList_join, ← List.flatMap_def, eq_comm]
  have hempty : [] ∉ segments.map String.toList ↔ "" ∉ segments := by
    rw [← String.toList_empty, List.mem_map_of_injective fun s t => String.toList_inj.mp]
  have hplain : (∀ s ∈ segments.map String.toList,
      s.IsChain fun _ c => (!c.isUpper) = true) ↔
        ∀ s ∈ segments, ∀ c ∈ s.toList.tail, c.isUpper = false := by
    rw [List.forall_mem_map]
    refine forall₂_congr fun s _ => isChain_right_iff fun _ _ c _ => ?_
    rw [Bool.not_eq_true']
  have hopened : "" ∉ segments →
      ((segments.map String.toList).IsChain (fun a b =>
        ∃ (_ : a ≠ []) (hb : b ≠ []), (!(b.head hb).isUpper) = false) ↔
      ∀ s ∈ segments.tail, ∃ c ∈ s.toList.head?, c.isUpper = true) := by
    intro h
    rw [isChain_right_iff (P := fun s => ∃ c ∈ s.head?, c.isUpper = true), ← List.map_tail,
      List.forall_mem_map]
    intro s hs t ht
    have hs : s ≠ [] := fun hs' => hempty.mpr h (hs' ▸ hs)
    cases t <;> simp [hs]
  rw [List.splitBy_eq_iff, hjoin, hempty, hplain]
  constructor
  · rintro ⟨whole, inhabited, opened, plain⟩
    exact ⟨whole, inhabited, plain, (hopened inhabited).mpr opened⟩
  · rintro ⟨whole, inhabited, plain, opened⟩
    exact ⟨whole, inhabited, (hopened inhabited).mp opened, plain⟩

theorem existsUnique_divides (text : String) : ∃! segments, Divides segments text := by
  have hlists : ((text.toList.splitBy fun _ c => !c.isUpper).map String.ofList).map String.toList =
      text.toList.splitBy fun _ c => !c.isUpper := by
    simp
  refine ⟨_, divides_iff.mpr hlists.symm, fun segments h => ?_⟩
  apply List.map_injective_iff.mpr fun s t => String.toList_inj.mp
  rw [hlists, divides_iff.mp h]

/-! ### Joining the segments -/

theorem isCapital_eq_isUpper (c : Char) : isCapital c = c.isUpper := by
  have hupper : c.isUpper = decide ('A' ≤ c ∧ c ≤ 'Z') := rfl
  rw [isCapital, hupper, Bool.decide_and]

/-- A segment that begins with a capital and has no other. -/
def Opened (s : List Char) : Prop :=
  ∃ c rest, s = c :: rest ∧ c.isUpper = true ∧ ∀ d ∈ rest, d.isUpper = false

/-- A division cuts off a first segment with whatever it begins, and then segments with capitals. -/
theorem Divides.cases (h : Divides segments text) : (segments = [] ∧ text.toList = []) ∨
    ∃ c first others, segments.map String.toList = (c :: first) :: others ∧
      text.toList = c :: (first ++ others.flatten) ∧ (∀ d ∈ first, d.isUpper = false) ∧
      ∀ s ∈ others, Opened s := by
  obtain ⟨rfl, inhabited, opened, plain⟩ := h
  cases segments with
  | nil => exact .inl ⟨rfl, rfl⟩
  | cons s segments =>
    right
    rw [List.forall_mem_cons] at plain
    rw [List.tail_cons] at opened
    rw [String.join_cons, String.toList_append, String.toList_join, List.flatMap_def,
      List.map_cons]
    cases hs : s.toList with
    | nil =>
      rw [String.toList_eq_nil_iff] at hs
      exact absurd (hs ▸ List.mem_cons_self) inhabited
    | cons c first =>
      rw [hs, List.tail_cons] at plain
      refine ⟨c, first, _, rfl, rfl, plain.1, fun t' ht' => ?_⟩
      obtain ⟨t, ht, rfl⟩ := List.mem_map.mp ht'
      obtain ⟨d, hd, hcapital⟩ := opened t ht
      obtain ⟨rest, hrest⟩ := List.head?_eq_some_iff.mp hd
      have hplain := plain.2 t ht
      rw [hrest, List.tail_cons] at hplain
      exact ⟨d, rest, hrest, hcapital, hplain⟩

section

variable (joiner : List Char)

theorem joinBeforeCapitals_append (xs ys : List Char) : joinBeforeCapitals joiner (xs ++ ys) =
    joinBeforeCapitals joiner xs ++ joinBeforeCapitals joiner ys := by
  induction xs with
  | nil => rfl
  | cons c xs ih =>
    rw [List.cons_append, joinBeforeCapitals, joinBeforeCapitals, ih, List.append_assoc]

theorem joinBeforeCapitals_of_plain {cs : List Char} (h : ∀ c ∈ cs, c.isUpper = false) :
    joinBeforeCapitals joiner cs = cs := by
  induction cs with
  | nil => rfl
  | cons c cs ih =>
    rw [List.forall_mem_cons] at h
    rw [joinBeforeCapitals, isCapital_eq_isUpper, h.1, ih h.2]
    rfl

theorem joinBeforeCapitals_of_opened {s : List Char} (h : Opened s) :
    joinBeforeCapitals joiner s = joiner ++ s := by
  obtain ⟨c, rest, rfl, hc, hrest⟩ := h
  rw [joinBeforeCapitals, isCapital_eq_isUpper, hc, joinBeforeCapitals_of_plain joiner hrest,
    if_pos rfl, List.append_assoc]
  rfl

theorem joinBeforeCapitals_flatten {segments : List (List Char)} (h : ∀ s ∈ segments, Opened s) :
    joinBeforeCapitals joiner segments.flatten = segments.flatMap (joiner ++ ·) := by
  induction segments with
  | nil => rfl
  | cons s segments ih =>
    rw [List.forall_mem_cons] at h
    rw [List.flatten_cons, joinBeforeCapitals_append, joinBeforeCapitals_of_opened joiner h.1,
      ih h.2, List.flatMap_cons]

theorem intercalate_cons_eq_flatMap (s : List Char) (segments : List (List Char)) :
    joiner.intercalate (s :: segments) = s ++ segments.flatMap (joiner ++ ·) := by
  induction segments generalizing s with
  | nil => simp
  | cons t segments ih => simp [ih]

end

theorem splitOnCapitals_eq_intercalate (h : Divides segments text) (joiner : String) :
    splitOnCapitals text joiner = joiner.intercalate segments := by
  rw [splitOnCapitals]
  rcases h.cases with ⟨rfl, htext⟩ | ⟨c, first, others, hsegments, htext, hfirst, hothers⟩
  · rw [htext]
    rfl
  · rw [htext, ← String.toList_inj, String.toList_intercalate, hsegments,
      intercalate_cons_eq_flatMap, ← joinBeforeCapitals_flatten _ hothers]
    simp [joinBeforeCapitals_append, joinBeforeCapitals_of_plain _ hfirst]

/-- There is one segment more than there are capitals to put the joiner before. -/
theorem Divides.length_sub_one (h : Divides segments text) :
    segments.length - 1 = text.toList.tail.countP Char.isUpper := by
  have hothers : ∀ others : List (List Char), (∀ s ∈ others, Opened s) →
      others.flatten.countP Char.isUpper = others.length := by
    intro others h
    induction others with
    | nil => rfl
    | cons s others ih =>
      rw [List.forall_mem_cons] at h
      obtain ⟨⟨c, rest, rfl, hc, hrest⟩, hothers⟩ := h
      have hnone : rest.countP Char.isUpper = 0 := by simpa [List.countP_eq_zero] using hrest
      simp [hc, hnone, ih hothers]
  rcases h.cases with ⟨rfl, htext⟩ | ⟨c, first, others, hsegments, htext, hfirst, h⟩
  · rw [htext]
    rfl
  · have hlength : segments.length = others.length + 1 := by
      rw [← List.length_map String.toList, hsegments, List.length_cons]
    have hnone : first.countP Char.isUpper = 0 := by simpa [List.countP_eq_zero] using hfirst
    rw [htext, List.tail_cons, List.countP_append, hnone, hothers others h, hlength]
    omega

theorem splitOnCapitals_empty (text : String) : splitOnCapitals text "" = text := by
  obtain ⟨segments, h, -⟩ := existsUnique_divides text
  rw [splitOnCapitals_eq_intercalate h, ← h.whole, ← String.toList_inj, String.toList_intercalate,
    String.toList_join, List.flatMap_def]
  cases segments.map String.toList with
  | nil => rfl
  | cons s rest =>
    rw [intercalate_cons_eq_flatMap]
    simp [List.flatMap_def]

/-- There is one way to divide a text before its capitals. Splitting on capitals puts the joiner
between the segments, so as often as there is a capital that is not the first character, and changes
nothing if the joiner is empty. The text of a block is split in the same way. -/
theorem capitals_split (joiner : String) :
    (∀ text, ∃ segments, Divides segments text ∧
      (∀ other, Divides other text → other = segments) ∧
      splitOnCapitals text joiner = joiner.intercalate segments ∧
      segments.length - 1 = text.toList.tail.countP Char.isUpper) ∧
    (∀ text, splitOnCapitals text "" = text) ∧
    ∀ (blocks : Blocks (Except Template.Fault)) (noted : List Branch),
      (Helper.capsplit joiner blocks.recorded).run.run noted =
        ((blocks.primary .undefined).map (splitOnCapitals · joiner),
          noted ++ [.primary .undefined]) := by
  refine ⟨fun text => ?_, splitOnCapitals_empty, fun blocks noted => ?_⟩
  · obtain ⟨segments, h, hunique⟩ := existsUnique_divides text
    exact ⟨segments, h, hunique, splitOnCapitals_eq_intercalate h joiner, h.length_sub_one⟩
  · exact (Helper.Change.capsplit joiner).run_recorded blocks noted

example : splitOnCapitals "ÄbHTTPRequest" "-X" = "Äb-XH-XT-XT-XP-XRequest" := by
  decide

end Text

end ContractPress
