import TabularAudit.Run.Violations

/-!
Bringing the findings together keeps the first of each key. The keys that were seen are the keys of the
findings so far, from one finding to the next and from one rule to the next.
-/

namespace TabularAudit

namespace Finding

variable {f g : Finding} {fs gs : List Finding}

theorem mem_keys_firsts (fs : List Finding) (k : String × String) : k ∈ (firsts fs).map key ↔ k ∈ fs.map key := by
  induction fs with
  | nil => rfl
  | cons f fs ih =>
      rw [firsts, List.map_cons, List.map_cons, List.mem_cons, List.mem_cons, ← ih]
      by_cases same : k = f.key
      · simp only [same, true_or]
      · simp only [same, false_or, List.mem_map, List.mem_filter, decide_eq_true_eq]
        constructor
        · rintro ⟨g, ⟨member, -⟩, rfl⟩
          exact ⟨g, member, rfl⟩
        · rintro ⟨g, member, rfl⟩
          exact ⟨g, ⟨member, same⟩, rfl⟩

theorem firsts_append_singleton (fs : List Finding) (f : Finding) :
    firsts (fs ++ [f]) = if f.key ∈ fs.map key then firsts fs else firsts fs ++ [f] := by
  induction fs with
  | nil => rfl
  | cons g fs ih =>
      rw [List.cons_append, firsts, ih, firsts, List.map_cons]
      by_cases before : f.key ∈ fs.map key
      · rw [if_pos before, if_pos (List.mem_cons_of_mem _ before)]
      · rw [if_neg before, List.filter_append]
        by_cases same : f.key = g.key
        · simp [same]
        · simp [same, before]

theorem pairwise_firsts (fs : List Finding) : (firsts fs).Pairwise fun f g => f.key ≠ g.key := by
  induction fs with
  | nil => exact .nil
  | cons f fs ih =>
      refine .cons ?_ (ih.filter _)
      intro g member
      have differ := (List.mem_filter.1 member).2
      exact Ne.symm (of_decide_eq_true differ)

theorem firsts_sublist (fs : List Finding) : (firsts fs).Sublist fs := by
  induction fs with
  | nil => exact .slnil
  | cons f fs ih => exact .cons_cons f (List.filter_sublist.trans ih)

theorem split_of_mem_firsts (member : f ∈ firsts fs) :
    ∃ before behind, fs = before ++ f :: behind ∧ ∀ g ∈ before, g.key ≠ f.key := by
  induction fs with
  | nil => cases member
  | cons g fs ih =>
      rcases List.mem_cons.1 member with rfl | member
      · exact ⟨[], fs, rfl, nofun⟩
      · obtain ⟨inside, differ⟩ := List.mem_filter.1 member
        obtain ⟨before, behind, rfl, others⟩ := ih inside
        refine ⟨g :: before, behind, rfl, ?_⟩
        intro h present
        rcases List.mem_cons.1 present with rfl | present
        · exact Ne.symm (of_decide_eq_true differ)
        · exact others h present

/-- Findings of a run name their objects by texts. -/
def NamesObject (f : Finding) : Prop := ∃ s, f.affectedObject = .text s

theorem sameKey_eq (named : f.NamesObject) (named' : g.NamesObject) : f.sameKey g = decide (f.key = g.key) := by
  obtain ⟨s, object⟩ := named
  obtain ⟨t, object'⟩ := named'
  have objects : f.affectedObject.sameKey g.affectedObject = (s == t) := by
    rw [object, object']
    exact Value.same_text_text s t
  rw [sameKey, objects, key, key, object, object', Value.display_text, Value.display_text, Bool.eq_iff_iff]
  simp

end Finding

namespace Attempt

def found (a : Attempt) : List Finding := a.findings.toOption.getD []

def failed (a : Attempt) : Bool := a.findings.toOption.isNone

end Attempt

namespace Merge

/-- The merge has come as far as these attempts. -/
structure Tells (m : Merge) (attempts : List Attempt) : Prop where
  findings : m.run.findings = Finding.firsts (attempts.flatMap Attempt.found)
  seen : m.seen = m.run.findings.map fun f => (f.ruleId, f.affectedObject)
  skipped : m.run.skipped = (attempts.filter Attempt.failed).map Attempt.ruleId
  evaluated : m.run.evaluated = (attempts.filter fun a => !a.failed).length

theorem add_firsts {m : Merge} {fs : List Finding} {f : Finding} (findings : m.run.findings = Finding.firsts fs)
    (seen : m.seen = m.run.findings.map fun f => (f.ruleId, f.affectedObject))
    (named : ∀ g ∈ fs ++ [f], g.NamesObject) :
    (m.add f).run.findings = Finding.firsts (fs ++ [f]) ∧
      (m.add f).seen = (m.add f).run.findings.map (fun f => (f.ruleId, f.affectedObject)) ∧
      (m.add f).run.skipped = m.run.skipped ∧ (m.add f).run.evaluated = m.run.evaluated := by
  have asked : (m.seen.any fun k => k.1 == f.ruleId && k.2.sameKey f.affectedObject) =
      decide (f.key ∈ fs.map Finding.key) := by
    rw [seen, findings, List.any_map, Bool.eq_iff_iff, List.any_eq_true, decide_eq_true_iff,
      ← Finding.mem_keys_firsts, List.mem_map]
    have same : ∀ g ∈ Finding.firsts fs, (g.ruleId == f.ruleId && g.affectedObject.sameKey f.affectedObject) =
        decide (g.key = f.key) := by
      intro g member
      have kept : g ∈ fs := (Finding.firsts_sublist fs).subset member
      exact Finding.sameKey_eq (named g (List.mem_append_left _ kept))
        (named f (List.mem_append_right _ (List.mem_singleton_self f)))
    constructor
    · rintro ⟨g, member, keyed⟩
      exact ⟨g, member, of_decide_eq_true ((same g member).symm.trans keyed)⟩
    · rintro ⟨g, member, keyed⟩
      exact ⟨g, member, (same g member).trans (decide_eq_true keyed)⟩
  rw [add, asked, Finding.firsts_append_singleton]
  by_cases before : f.key ∈ fs.map Finding.key
  · rw [if_pos (decide_eq_true before), if_pos before]
    exact ⟨findings, seen, rfl, rfl⟩
  · rw [if_neg (by simpa using before), if_neg before]
    exact ⟨congrArg (· ++ [f]) findings, by rw [seen, List.map_append]; rfl, rfl, rfl⟩

theorem foldl_add_firsts {fs gs : List Finding} {m : Merge} (findings : m.run.findings = Finding.firsts fs)
    (seen : m.seen = m.run.findings.map fun f => (f.ruleId, f.affectedObject))
    (named : ∀ g ∈ fs ++ gs, g.NamesObject) :
    (gs.foldl add m).run.findings = Finding.firsts (fs ++ gs) ∧
      (gs.foldl add m).seen = (gs.foldl add m).run.findings.map (fun f => (f.ruleId, f.affectedObject)) ∧
      (gs.foldl add m).run.skipped = m.run.skipped ∧ (gs.foldl add m).run.evaluated = m.run.evaluated := by
  induction gs generalizing fs m with
  | nil => rw [List.append_nil]; exact ⟨findings, seen, rfl, rfl⟩
  | cons g gs ih =>
      rw [List.append_cons] at named ⊢
      obtain ⟨findings', seen', skipped, evaluated⟩ :=
        add_firsts findings seen fun h member => named h (List.mem_append_left gs member)
      obtain ⟨last, keys, skippedLast, evaluatedLast⟩ := ih findings' seen' named
      exact ⟨last, keys, skippedLast.trans skipped, evaluatedLast.trans evaluated⟩

theorem Tells.attempt {m : Merge} {attempts : List Attempt} {a : Attempt} (tells : m.Tells attempts)
    (named : ∀ f ∈ (attempts ++ [a]).flatMap Attempt.found, f.NamesObject) : (m.attempt a).Tells (attempts ++ [a]) := by
  rw [List.flatMap_append] at named
  obtain ⟨findings, seen, skipped, evaluated⟩ := tells
  rw [Merge.attempt]
  split
  · next fault failed =>
    have nothing : a.found = [] := by rw [Attempt.found, failed]; rfl
    have isFailed : a.failed = true := by rw [Attempt.failed, failed]; rfl
    refine ⟨?_, seen, ?_, ?_⟩
    · simpa [List.flatMap_append, nothing] using findings
    · simpa [List.filter_append, isFailed] using skipped
    · simpa [List.filter_append, isFailed] using evaluated
  · next found done =>
    have all : a.found = found := by rw [Attempt.found, done]; rfl
    have isDone : a.failed = false := by rw [Attempt.failed, done]; rfl
    simp only [List.flatMap_cons, List.flatMap_nil, List.append_nil, all] at named
    obtain ⟨last, keys, skippedLast, evaluatedLast⟩ :=
      foldl_add_firsts (m := ⟨{ m.run with evaluated := m.run.evaluated + 1 }, m.seen⟩) findings seen named
    refine ⟨?_, keys, ?_, ?_⟩
    · rw [last]
      simp [List.flatMap_append, all]
    · rw [skippedLast]
      simpa [List.filter_append, isDone] using skipped
    · rw [evaluatedLast]
      simpa [List.filter_append, isDone] using evaluated

theorem Tells.attempts {m : Merge} {before attempts : List Attempt} (tells : m.Tells before)
    (named : ∀ f ∈ (before ++ attempts).flatMap Attempt.found, f.NamesObject) :
    (attempts.foldl Merge.attempt m).Tells (before ++ attempts) := by
  induction attempts generalizing before m with
  | nil => rwa [List.append_nil]
  | cons a attempts ih =>
      rw [List.append_cons] at named ⊢
      refine ih (tells.attempt fun f member => named f ?_) named
      rw [List.flatMap_append]
      exact List.mem_append_left _ member

end Merge

theorem tells_ofAttempts (attempts : List Attempt) (named : ∀ f ∈ attempts.flatMap Attempt.found, f.NamesObject) :
    (attempts.foldl Merge.attempt {}).Tells attempts := by
  have start : Merge.Tells {} [] := ⟨rfl, rfl, rfl, rfl⟩
  exact start.attempts named

end TabularAudit
