import ContractPress.Proofs.File.Preservation

/-!
How far a sink comes with its artifacts.

`Settles` says that artifacts have been settled one after the other and that none failed. A call
that is accepted has settled all of its artifacts (`settles_of_accepted`); one that fails while it
writes has settled those before the one that failed, and has left no trace of the others
(`write_fails`).
-/

namespace ContractPress.FileSink

variable {s : FileSink}

/-- The report and the tree after one more artifact. -/
def settled (s : FileSink) (x : WriteReport × FileTree) (a : Artifact) : WriteReport × FileTree :=
  ((s.settle x.2 a).1.record (s.destination a) x.1, (s.settle x.2 a).2)

/-- The artifacts have been settled in their order. -/
inductive Settles (s : FileSink) :
    WriteReport × FileTree → List Artifact → WriteReport × FileTree → Prop where
  | nil (x : WriteReport × FileTree) : Settles s x [] x
  | cons {x x' : WriteReport × FileTree} {a : Artifact} {artifacts : List Artifact}
    (first : (s.settle x.2 a).1 ≠ .failed) (rest : Settles s (s.settled x a) artifacts x') :
    Settles s x (a :: artifacts) x'

namespace Settles

variable {x x' x'' : WriteReport × FileTree} {artifacts more : List Artifact}

theorem append (h : s.Settles x artifacts x') (h' : s.Settles x' more x'') :
    s.Settles x (artifacts ++ more) x'' := by
  induction h with
  | nil x => exact h'
  | cons first _ ih => exact .cons first (ih h')

/-- Every artifact is reported, as written or as skipped. -/
theorem length_report (h : s.Settles x artifacts x') :
    x'.1.written.length + x'.1.skipped.length =
      x.1.written.length + x.1.skipped.length + artifacts.length := by
  induction h with
  | nil x => rfl
  | @cons x x' a artifacts first _ ih =>
    have hrecord : ∀ d : Disposition, d ≠ .failed → ∀ r : WriteReport,
        (d.record (s.destination a) r).written.length +
          (d.record (s.destination a) r).skipped.length =
          r.written.length + r.skipped.length + 1 := by
      intro d hd r
      cases d with
      | failed => exact absurd rfl hd
      | kept | planned | written =>
        simp only [Disposition.record, WriteReport.addSkipped, WriteReport.addWritten,
          List.length_append, List.length_singleton]
        omega
    rw [ih, settled, hrecord _ first, List.length_cons]
    omega

/-- What has been settled is what a run comes to. -/
theorem putAll (h : s.Settles x artifacts x') (document : String) :
    let run := ((s.putAll FileTree.access document artifacts).run x.1).run x.2
    run.1.1.result = .ok () ∧ (run.1.2, run.2) = x' := by
  induction h with
  | nil x => exact ⟨rfl, rfl⟩
  | cons first _ ih =>
    rw [putAll_cons]
    dsimp only
    rw [if_neg first, Traced.result_bind, Disposition.result_traced first]
    exact ih

end Settles

/-- A run settles all its artifacts, or it stops at one that fails. -/
theorem putAll_settles (s : FileSink) (document : String) (artifacts : List Artifact)
    (x : WriteReport × FileTree) :
    let run := ((s.putAll FileTree.access document artifacts).run x.1).run x.2
    (run.1.1.result = .ok () ∧ s.Settles x artifacts (run.1.2, run.2)) ∨
      ∃ before a after x', artifacts = before ++ a :: after ∧ s.Settles x before x' ∧
        (s.settle x'.2 a).1 = .failed ∧ run.1.1.result = .error (.write (s.destination a)) ∧
        (run.1.2, run.2) = (x'.1, (s.settle x'.2 a).2) := by
  induction artifacts generalizing x with
  | nil => exact .inl ⟨rfl, .nil x⟩
  | cons a rest ih =>
    rw [putAll_cons]
    dsimp only
    split
    · rename_i hfailed
      refine .inr ⟨[], a, rest, x, rfl, .nil x, hfailed, ?_, ?_⟩
      · rw [hfailed]
        rfl
      · rw [hfailed]
        rfl
    · rename_i hfirst
      rw [Traced.result_bind, Disposition.result_traced hfirst]
      rcases ih (s.settled x a) with ⟨hok, hrest⟩ | ⟨before, b, after, x', rfl, hbefore, hb, hrun⟩
      · exact .inl ⟨hok, .cons hfirst hrest⟩
      · exact .inr ⟨a :: before, b, after, x', rfl, .cons hfirst hbefore, hb, hrun⟩

/-! ### Calls -/

/-- What a sink says to the artifacts of a document. -/
def answer (s : FileSink) (x : WriteReport × FileTree) (call : String × List Artifact) :
    Except Failure Unit :=
  (((s.sink FileTree.access call.1 call.2).run x.1).run x.2).1.1.result

/-- All calls have been accepted, one after the other. -/
inductive Accepts (s : FileSink) : WriteReport × FileTree → List (String × List Artifact) →
    WriteReport × FileTree → Prop where
  | nil (x : WriteReport × FileTree) : Accepts s x [] x
  | cons {x x' : WriteReport × FileTree} {call : String × List Artifact}
    {calls : List (String × List Artifact)} (accepted : s.answer x call = .ok ())
    (rest : Accepts s (s.afterCall x call) calls x') : Accepts s x (call :: calls) x'

variable {x x' : WriteReport × FileTree}

theorem settles_of_accepted {call : String × List Artifact} (h : s.answer x call = .ok ()) :
    s.Settles x call.2 (s.afterCall x call) := by
  unfold answer at h
  unfold afterCall
  rcases s.sink_cases call.1 call.2 x.1 x.2 with ⟨a, -, -, hrun⟩ | ⟨-, hsink⟩
  · rw [hrun] at h
    cases h
  · rw [hsink] at h ⊢
    rcases s.putAll_settles call.1 call.2 x with ⟨-, hsettles⟩ | ⟨_, _, _, _, -, -, -, hfails, -⟩
    · exact hsettles
    · cases h.symm.trans hfails

theorem inside_of_accepted {call : String × List Artifact} (h : s.answer x call = .ok ()) :
    ∀ a ∈ call.2, Path.escapesRoot a.path = false := by
  unfold answer at h
  rcases s.sink_cases call.1 call.2 x.1 x.2 with ⟨a, -, -, hrun⟩ | ⟨hinside, -⟩
  · rw [hrun] at h
    cases h
  · exact hinside

/-- A sink takes artifacts within the root that can be settled. -/
theorem accepted_of_settles (document : String) {artifacts : List Artifact}
    (hinside : ∀ a ∈ artifacts, Path.escapesRoot a.path = false)
    (h : s.Settles x artifacts x') :
    s.answer x (document, artifacts) = .ok () ∧ s.afterCall x (document, artifacts) = x' := by
  unfold answer afterCall
  rcases s.sink_cases document artifacts x.1 x.2 with ⟨a, ha, hout, -⟩ | ⟨-, hsink⟩
  · rw [hinside a ha] at hout
    cases hout
  · rw [hsink]
    exact h.putAll document

theorem Accepts.settles {calls : List (String × List Artifact)} (h : s.Accepts x calls x') :
    s.Settles x (calls.flatMap Prod.snd) x' := by
  induction h with
  | nil x => exact .nil x
  | cons accepted _ ih => exact (settles_of_accepted accepted).append ih

/-- A call that fails while it writes does so at one artifact, after those before it would have been
accepted by themselves. -/
theorem write_fails {document path : String} {artifacts : List Artifact}
    (h : s.answer x (document, artifacts) = .error (.write path)) :
    ∃ before a after x', artifacts = before ++ a :: after ∧ path = s.destination a ∧
      s.Accepts x [(document, before)] x' ∧ (s.settle x'.2 a).1 = .failed ∧
      s.afterCall x (document, artifacts) = (x'.1, (s.settle x'.2 a).2) := by
  unfold answer at h
  unfold afterCall
  rcases s.sink_cases document artifacts x.1 x.2 with ⟨a, -, -, hrun⟩ | ⟨hinside, hsink⟩
  · rw [hrun] at h
    cases h
  rw [hsink] at h ⊢
  rcases s.putAll_settles document artifacts x with
    ⟨hok, -⟩ | ⟨before, a, after, x', rfl, hbefore, hfailed, hfails, hrun⟩
  · cases h.symm.trans hok
  refine ⟨before, a, after, x', rfl, ?_, ?_, hfailed, hrun⟩
  · cases h.symm.trans hfails
    rfl
  · -- those before are within the root as well, so the sink takes them
    obtain ⟨haccepted, hafter⟩ := accepted_of_settles document
      (fun b hb => hinside b (List.mem_append_left _ hb)) hbefore
    exact .cons haccepted (hafter ▸ .nil _)

end ContractPress.FileSink
