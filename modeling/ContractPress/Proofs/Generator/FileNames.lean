import ContractPress.Proofs.File.Containment
import ContractPress.Proofs.File.Preservation
import ContractPress.Proofs.Generator.Requests

/-!
The file names that a rule gives to definitions and groups.

Names are written in small letters, and keys of groups are trimmed before, so what differs in case
or in blanks around it has one file. Beyond that a rule keeps its files apart: two paths are the
same only if they spell one place (`artifactPath_eq_iff`), and names without slashes are the same
path only if they are the same name. What has different paths is not written over.
-/

namespace ContractPress

open Path.Segment (PlainName)

namespace Path

theorem segments_of_plainName {name : String} (h : PlainName name) :
    segments name = [.name name] := by
  have hof : ofSegments [.name name] = name := by
    show "/".intercalate [name] = name
    simp
  have hw : WellFormed [.name name] :=
    ⟨[], [.name name], rfl, .inl rfl, fun s hs => List.mem_singleton.mp hs ▸ h⟩
  rw [← segments_ofSegments hw, hof]

/-- Normalised paths with the same segments are the same. -/
theorem artifactPath_inj {target fileName target' fileName' : String}
    (h : segments (artifactPath target fileName) = segments (artifactPath target' fileName')) :
    artifactPath target fileName = artifactPath target' fileName' := by
  rw [segments_artifactPath, segments_artifactPath] at h
  exact congrArg ofSegments h

end Path

/-! ### Places of generated paths -/

theorem FileTree.place_of_names {t : FileTree} {path : String} {names : List String}
    (h : Path.segments path = names.map .name) : t.place path = t.workingDirectory ++ names := by
  rw [place, h, foldl_advance_names, start, Path.isAbsolute_of_segments_names h]
  rfl

/-- Paths below a root are the same exactly if they spell the same place. -/
theorem artifactPath_eq_iff {target fileName fileName' : String}
    (h : Path.escapesRoot (artifactPath target fileName) = false)
    (h' : Path.escapesRoot (artifactPath target fileName') = false) (t : FileTree) :
    artifactPath target fileName = artifactPath target fileName' ↔
      t.place (Path.join target fileName) = t.place (Path.join target fileName') := by
  rw [← t.place_artifactPath, ← t.place_artifactPath]
  obtain ⟨names, -, hnames⟩ := Path.segments_artifactPath_names h
  obtain ⟨names', -, hnames'⟩ := Path.segments_artifactPath_names h'
  refine ⟨congrArg t.place, fun hplace => Path.artifactPath_inj ?_⟩
  rw [FileTree.place_of_names hnames, FileTree.place_of_names hnames',
    List.append_cancel_left_eq] at hplace
  rw [hnames, hnames', hplace]

/-- A plain name stands last in its path, below where the target leads. -/
theorem segments_artifactPath_plain {target fileName : String} (hplain : PlainName fileName)
    (h : Path.escapesRoot (artifactPath target fileName) = false) :
    Path.segments (artifactPath target fileName) =
      ((⟨[], []⟩ : FileTree).place target ++ [fileName]).map .name := by
  obtain ⟨names, -, hnames⟩ := Path.segments_artifactPath_names h
  have hplace : (⟨[], []⟩ : FileTree).place (artifactPath target fileName) = [] ++ names :=
    FileTree.place_of_names hnames
  have hfile : Path.segments fileName = [fileName].map .name := Path.segments_of_plainName hplain
  rw [FileTree.place_artifactPath, FileTree.place_join_names hfile, List.nil_append] at hplace
  rw [hnames, hplace]

namespace FileSink

variable {s : FileSink} {t : FileTree} {a b : Artifact} {names names' : List String}

theorem place_ne_of_names (ha : Path.segments a.path = names.map .name)
    (hb : Path.segments b.path = names'.map .name) (h : names ≠ names') :
    t.place (s.destination a) ≠ t.place (s.destination b) := by
  rw [destination, destination, FileTree.place_join_names ha, FileTree.place_join_names hb]
  exact fun he => h (List.append_cancel_left he)

/-- An artifact leaves a place alone that is not above its own, unless the root detours. -/
theorem entry_settle_of_apart (ha : Path.segments a.path = names.map .name)
    (hb : Path.segments b.path = names'.map .name) (h : ¬names' <+: names)
    (hroot : ¬t.Detours s.root) :
    FileTree.entry? (s.settle t a).2 (t.place (s.destination b)) =
      t.entry? (t.place (s.destination b)) := by
  have hrelative := Path.isAbsolute_of_segments_names ha
  have hplace : t.place (s.destination b) = t.place s.root ++ names' :=
    FileTree.place_join_names hb
  rcases (s.settle_alters t a).entry (t.place (s.destination b)) with he | he | ⟨hnone, -, hway⟩
  · exact he
  · refine absurd he (Ne.symm (place_ne_of_names ha hb ?_))
    rintro rfl
    exact h List.prefix_rfl
  rw [OnWayTo, destination, FileTree.onWay_segments, Path.steps_join hrelative,
    Path.steps_of_segments_names ha, FileTree.onWay_append, FileTree.start,
    Path.isAbsolute_join hrelative, ← FileTree.start] at hway
  rcases hway with ⟨way, ⟨rest, hsteps⟩, he⟩ | ⟨way, hbegins, he⟩
  · -- on the way to the root, where after something missing only names can come
    have hup : .up ∉ rest := fun hup => hroot ⟨way, rest, hsteps.symm, he ▸ hnone, hup⟩
    obtain ⟨below, rfl⟩ := Path.exists_names_of_up_not_mem
      (fun s hs => Path.isStep_of_mem_steps (hsteps ▸ List.mem_append_right way hs)) hup
    have hdeep : t.place s.root = t.place s.root ++ names' ++ below := by
      rw [← hplace, he, FileTree.place, FileTree.foldl_advance_segments, ← hsteps,
        List.foldl_append, FileTree.foldl_advance_names]
    rw [List.append_assoc, List.self_eq_append_right, List.append_eq_nil_iff] at hdeep
    exact absurd (hdeep.1 ▸ List.nil_prefix) h
  · -- below the root
    obtain ⟨above, habove, rfl⟩ := List.prefix_map_iff.mp hbegins
    rw [FileTree.foldl_advance_names, ← FileTree.foldl_advance_segments, ← FileTree.place, hplace,
      List.append_cancel_left_eq] at he
    exact absurd (he ▸ habove) h

/-- And what is found at its path before is found after. -/
theorem isSome_find?_settle (ht : t.Closed) (ha : Path.segments a.path = names.map .name)
    (hb : Path.segments b.path = names'.map .name) (h : ¬names' <+: names)
    (hroot : ¬t.Detours s.root) :
    ((s.settle t a).2.find? (s.destination b)).isSome = (t.find? (s.destination b)).isSome := by
  have hkeeps := s.settle_keeps_entries t a
  rw [Bool.eq_iff_iff]
  refine ⟨fun hfound => ?_, hkeeps.isSome_find?⟩
  by_contra hmissed
  have hdetours : ¬t.Detours (s.destination b) := fun hd =>
    hroot (FileTree.detours_of_detours_join hb hd)
  obtain ⟨hnone, hsome⟩ := ht.entry_of_appeared hkeeps (by simpa using hmissed) hfound hdetours
  exact hsome ((entry_settle_of_apart ha hb h hroot).trans hnone)

end FileSink

/-! ### The files of a rule -/

/-- Where a rule puts its files, and the names of these without their ending. -/
structure RuleFiles where
  target : String
  extension : String
  names : List String

namespace RuleFiles

def fileName (r : RuleFiles) (name : String) : String :=
  name ++ r.extension

def path (r : RuleFiles) (name : String) : String :=
  artifactPath r.target (r.fileName name)

/-- All file names are names without slashes that are read as themselves. -/
def Plain (r : RuleFiles) : Prop :=
  ∀ name ∈ r.names, PlainName (r.fileName name)

/-- Of the artifacts of a rule, one for each name: which have the same path, and that the others do
not touch one another. -/
structure Apart (r : RuleFiles) (artifacts : List Artifact) : Prop where
  paths : artifacts.map Artifact.path = r.names.map r.path
  same_iff : ∀ name ∈ r.names, ∀ name' ∈ r.names, ∀ t : FileTree, r.path name = r.path name' ↔
    t.place (Path.join r.target (r.fileName name)) = t.place (Path.join r.target (r.fileName name'))
  plain_same_iff : ∀ name ∈ r.names, ∀ name' ∈ r.names, PlainName (r.fileName name) →
    PlainName (r.fileName name') → (r.path name = r.path name' ↔ name = name')
  nodup_iff : r.Plain → ((artifacts.map Artifact.path).Nodup ↔ r.names.Nodup)
  /-- Under no root is an artifact written over another of a different path. -/
  place_ne : ∀ a ∈ artifacts, ∀ b ∈ artifacts, a.path ≠ b.path → ∀ (s : FileSink) (t : FileTree),
    t.place (s.destination a) ≠ t.place (s.destination b)
  /-- Nor is one that has a plain name kept back because of another. -/
  settled : r.Plain → ∀ a ∈ artifacts, ∀ b ∈ artifacts, a.path ≠ b.path →
    ∀ (s : FileSink) (t : FileTree), t.Closed → ¬t.Detours s.root →
      FileTree.entry? (s.settle t a).2 (t.place (s.destination b)) =
        t.entry? (t.place (s.destination b)) ∧
      ((s.settle t a).2.find? (s.destination b)).isSome = (t.find? (s.destination b)).isSome

variable {r : RuleFiles} {name name' : String}

theorem path_inj (hname : PlainName (r.fileName name)) (hname' : PlainName (r.fileName name'))
    (h : Path.escapesRoot (r.path name) = false) (h' : Path.escapesRoot (r.path name') = false) :
    r.path name = r.path name' ↔ name = name' := by
  refine ⟨fun he => ?_, congrArg r.path⟩
  have hsegments := congrArg Path.segments he
  rw [path, path, segments_artifactPath_plain hname h, segments_artifactPath_plain hname' h']
    at hsegments
  have hlast := List.append_cancel_left (Path.names_inj hsegments)
  exact (String.append_left_inj r.extension).mp (List.singleton_inj.mp hlast)

/-- Plain names of one rule that are different are not above one another. -/
theorem not_prefix_of_plain {above below : List String}
    (hname : PlainName (r.fileName name)) (hname' : PlainName (r.fileName name'))
    (h : Path.escapesRoot (r.path name) = false) (h' : Path.escapesRoot (r.path name') = false)
    (habove : Path.segments (r.path name) = above.map .name)
    (hbelow : Path.segments (r.path name') = below.map .name) (hne : r.path name ≠ r.path name') :
    ¬above <+: below := by
  rw [path, segments_artifactPath_plain hname h] at habove
  rw [path, segments_artifactPath_plain hname' h'] at hbelow
  obtain rfl := Path.names_inj habove
  obtain rfl := Path.names_inj hbelow
  intro hbegins
  have hlast := List.append_cancel_left (hbegins.eq_of_length (by simp))
  exact hne (congrArg (artifactPath r.target) (List.singleton_inj.mp hlast))

/-- Artifacts below the root with the paths of a rule, one for each name. -/
def Emitted (r : RuleFiles) (artifacts : List Artifact) : Prop :=
  List.Forall₂ (fun name a => a.path = r.path name ∧ Path.escapesRoot a.path = false) r.names
    artifacts

namespace Emitted

variable {artifacts : List Artifact} {a b : Artifact}

theorem paths (h : r.Emitted artifacts) : artifacts.map Artifact.path = r.names.map r.path := by
  rw [← List.forall₂_eq_eq_eq, List.forall₂_map_left_iff, List.forall₂_map_right_iff]
  exact h.flip.imp fun a name ha => ha.1

theorem escapesRoot_path (h : r.Emitted artifacts) (hname : name ∈ r.names) :
    Path.escapesRoot (r.path name) = false := by
  have hmem : r.path name ∈ artifacts.map Artifact.path := h.paths ▸ List.mem_map_of_mem hname
  obtain ⟨a, ha, he⟩ := List.mem_map.mp hmem
  obtain ⟨_, -, -, hescapes⟩ := exists_of_mem_right h ha
  rwa [← he]

theorem exists_name (h : r.Emitted artifacts) (ha : a ∈ artifacts) :
    ∃ name ∈ r.names, a.path = r.path name ∧
      ∃ names : List String, Path.segments a.path = names.map .name := by
  obtain ⟨name, hname, he, hescapes⟩ := exists_of_mem_right h ha
  rw [he] at hescapes ⊢
  obtain ⟨names, -, hsegments⟩ := Path.segments_artifactPath_names hescapes
  exact ⟨name, hname, rfl, names, hsegments⟩

theorem place_ne (h : r.Emitted artifacts) (ha : a ∈ artifacts) (hb : b ∈ artifacts)
    (hne : a.path ≠ b.path) (s : FileSink) (t : FileTree) :
    t.place (s.destination a) ≠ t.place (s.destination b) := by
  obtain ⟨name, -, he, names, hsegments⟩ := h.exists_name ha
  obtain ⟨name', -, he', names', hsegments'⟩ := h.exists_name hb
  refine FileSink.place_ne_of_names hsegments hsegments' ?_
  rintro rfl
  rw [he] at hsegments hne
  rw [he'] at hsegments' hne
  exact hne (Path.artifactPath_inj (hsegments.trans hsegments'.symm))

theorem settled (h : r.Emitted artifacts) (hplain : r.Plain) (ha : a ∈ artifacts)
    (hb : b ∈ artifacts) (hne : a.path ≠ b.path) (s : FileSink) {t : FileTree} (ht : t.Closed)
    (hroot : ¬t.Detours s.root) :
    FileTree.entry? (s.settle t a).2 (t.place (s.destination b)) =
        t.entry? (t.place (s.destination b)) ∧
      ((s.settle t a).2.find? (s.destination b)).isSome =
        (t.find? (s.destination b)).isSome := by
  obtain ⟨name, hn, he, names, hsegments⟩ := h.exists_name ha
  obtain ⟨name', hn', he', names', hsegments'⟩ := h.exists_name hb
  have hbeside : ¬names' <+: names := by
    refine not_prefix_of_plain (hplain name' hn') (hplain name hn) (h.escapesRoot_path hn')
      (h.escapesRoot_path hn) (he' ▸ hsegments') (he ▸ hsegments) ?_
    rw [← he, ← he']
    exact hne.symm
  exact ⟨FileSink.entry_settle_of_apart hsegments hsegments' hbeside hroot,
    FileSink.isSome_find?_settle ht hsegments hsegments' hbeside hroot⟩

theorem apart (h : r.Emitted artifacts) : r.Apart artifacts where
  paths := h.paths
  same_iff _ hn _ hn' t := artifactPath_eq_iff (h.escapesRoot_path hn) (h.escapesRoot_path hn') t
  plain_same_iff _ hn _ hn' hp hp' :=
    path_inj hp hp' (h.escapesRoot_path hn) (h.escapesRoot_path hn')
  nodup_iff hplain := by
    rw [h.paths]
    refine ⟨List.Nodup.of_map _, List.Nodup.map_on fun name hn name' hn' => ?_⟩
    exact (path_inj (hplain name hn) (hplain name' hn') (h.escapesRoot_path hn)
      (h.escapesRoot_path hn')).mp
  place_ne _ ha _ hb hne s t := h.place_ne ha hb hne s t
  settled hplain _ ha _ hb hne s _ ht hroot := h.settled hplain ha hb hne s ht hroot

end Emitted

end RuleFiles

namespace Contract

/-- The files of all rules: the names of definitions in small letters, and the keys of groups
trimmed and then in small letters. -/
def ruleFiles (c : Contract) (config : Config) (groups : List RouteGroups) : List RuleFiles :=
  (config.perDefinition.entries.map fun e =>
    ⟨e.2.target, e.2.extension, c.definitions.keys.map Text.lowercase⟩) ++
  (config.perPath.entries.zip groups).map fun e =>
    ⟨e.1.2.target, e.1.2.extension, e.2.keys.map fun key => Text.lowercase (Text.trim key)⟩

theorem map_path_requests (c : Contract) (config : Config) (groups : List RouteGroups) :
    (c.requests config groups).map Request.path =
      (c.ruleFiles config groups).flatMap fun r => r.names.map r.path := by
  have hdefinitions : ∀ (template : String) (rule : DefinitionRule),
      (c.definitionRequests template rule).map Request.path =
        (c.definitions.keys.map Text.lowercase).map (RuleFiles.path
          ⟨rule.target, rule.extension, c.definitions.keys.map Text.lowercase⟩) := by
    intro template rule
    rw [definitionRequests, List.map_map, OrderedMap.keys, Entries.keys, List.map_map, List.map_map]
    refine List.map_congr_left fun d _ => ?_
    simp only [Function.comp_apply, RuleFiles.path, RuleFiles.fileName]
  have hgroups : ∀ (template : String) (rule : RouteRule) (gs : RouteGroups),
      (c.groupRequests template rule gs).map Request.path =
        (gs.keys.map fun key => Text.lowercase (Text.trim key)).map
          (RuleFiles.path ⟨rule.target, rule.extension,
            gs.keys.map fun key => Text.lowercase (Text.trim key)⟩) := by
    intro template rule gs
    rw [groupRequests, List.map_map, OrderedMap.keys, Entries.keys, List.map_map, List.map_map]
    refine List.map_congr_left fun group _ => ?_
    simp only [Function.comp_apply, RuleFiles.path, RuleFiles.fileName]
  rw [requests, ruleFiles, List.map_append, List.map_flatMap, List.map_flatMap,
    List.flatMap_append, List.flatMap_map, List.flatMap_map]
  simp only [hdefinitions, hgroups]

end Contract

namespace Generator

/-- What is generated without a post-processor comes rule by rule, and of the artifacts of one rule
two have the same path exactly if their file names spell the same place, which for plain names means
that they are the same but for case, and for blanks around a key. All others are kept apart. -/
theorem generate_rules_apart (config : Config) (helpers : HelperSet) (texts : TemplateSource Id)
    (name text : String) (artifacts : List Artifact)
    (h : ((fresh config helpers none).generate texts name text).2.result = .ok artifacts) :
    ∃ c groups emitted, Contract.parse text = .ok c ∧
      List.Forall₂ (fun e gs => RouteGroups.ofContract c e.2.groupBy e.2.operations = .ok gs)
        config.perPath.entries groups ∧
      emitted.flatten = artifacts ∧
      List.Forall₂ RuleFiles.Apart (c.ruleFiles config groups) emitted := by
  rw [result_generate] at h
  cases hparse : Contract.parse text with
  | error failure =>
    rw [hparse] at h
    cases h
  | ok c =>
    rw [hparse, mapError_eq_ok, generateContract_eq_ok_iff] at h
    obtain ⟨trees, groups, -, hgroups, hmet⟩ := h
    have hpaths : List.Forall₂ (fun path a => a.path = path ∧ Path.escapesRoot a.path = false)
        ((c.requests config groups).map Request.path) artifacts := by
      rw [List.forall₂_map_left_iff]
      refine hmet.imp fun q a hq => ?_
      obtain ⟨tree, contents, -, -, hprocessed, hescapes⟩ := hq
      obtain rfl := Except.ok.inj hprocessed
      exact ⟨rfl, hescapes⟩
    rw [Contract.map_path_requests, forall₂_flatMap_left] at hpaths
    obtain ⟨emitted, hemitted, rfl⟩ := hpaths
    refine ⟨c, groups, emitted, rfl, hgroups, rfl, hemitted.imp fun r as hr => ?_⟩
    rw [List.forall₂_map_left_iff] at hr
    exact RuleFiles.Emitted.apart hr

/-- Two definitions and two groups with a file each. -/
theorem rules_apart_of_four_files :
    let config : Config := ⟨.ofList [("t", ⟨"d", ".js", .empty⟩)],
      .ofList [("u", ⟨"c", ".js", "g", ["get"], none, none, .empty⟩)]⟩
    let texts : TemplateSource Id := fun _ => .ok "x"
    let text := "paths:\n  /a:\n    get:\n      g: A\n  /b:\n    get:\n      g: B\n" ++
      "definitions:\n  Pet: 1\n  Dog: 2\n"
    let artifacts : List Artifact :=
      [⟨"d/pet.js", "x"⟩, ⟨"d/dog.js", "x"⟩, ⟨"c/a.js", "x"⟩, ⟨"c/b.js", "x"⟩]
    ((fresh config .empty none).generate texts "a" text).2.result = .ok artifacts ∧
      ∃ c groups emitted, Contract.parse text = .ok c ∧
        List.Forall₂ (fun e gs => RouteGroups.ofContract c e.2.groupBy e.2.operations = .ok gs)
          config.perPath.entries groups ∧
        emitted.flatten = artifacts ∧
        List.Forall₂ RuleFiles.Apart (c.ruleFiles config groups) emitted := by
  intro config texts text artifacts
  have h : ((fresh config .empty none).generate texts "a" text).2.result = .ok artifacts := by
    decide +kernel
  exact ⟨h, generate_rules_apart config .empty texts "a" text artifacts h⟩

/-- Definitions whose names differ in case have one path, and groups whose keys differ in blanks. -/
theorem rule_files_coincide :
    let definitions : Config := ⟨.ofList [("t", ⟨"d", ".js", .empty⟩)], .empty⟩
    let groups : Config := ⟨.empty, .ofList [("t", ⟨"c", ".js", "g", ["get"], none, none, .empty⟩)]⟩
    let generated (config : Config) (template text : String) :=
      ((fresh config .empty none).generate (m := Id) (fun _ => .ok template) "a" text).2.result
    generated definitions "\x7b\x7b definition.definitionName \x7d\x7d"
        "paths:\n  /a: 1\ndefinitions:\n  Pet: \x7b\x7d\n  pet: \x7b\x7d\n" =
      .ok [⟨"d/pet.js", "Pet"⟩, ⟨"d/pet.js", "pet"⟩] ∧
    generated groups "\x7b\x7b groupKey \x7d\x7d"
        "paths:\n  /a:\n    get:\n      g: 'A'\n  /b:\n    get:\n      g: ' A'\n" =
      .ok [⟨"c/a.js", "A"⟩, ⟨"c/a.js", " A"⟩] := by
  decide +kernel

end Generator

end ContractPress
