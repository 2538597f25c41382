import TabularAudit.Model.Respelling
import TabularAudit.Proofs.Expr.Lookup
import TabularAudit.Proofs.Reordering.Sections
import TabularAudit.Proofs.Run.Summary

/-!
Where no two objects have one name, nothing tells in which order their records stand: a look-up finds one object at
most, counts are those of a multiset, and a report is sorted.
-/

namespace TabularAudit

section
variable {os ps : List ModelObject}

/-- The same objects, apart by their names, in an order that may differ among tables, columns and measures. -/
structure Rearranged (os ps : List ModelObject) : Prop where
  perm : os.Perm ps
  relationships : Index.ofKind os .relationship = Index.ofKind ps .relationship
  models : Index.ofKind os .model = Index.ofKind ps .model
  labelled : ∀ o ∈ os, o.IsLabelled
  distinct : (os.map ModelObject.name).Nodup

theorem Rearranged.filter_eq (moved : Rearranged os ps) {p : ModelObject → Bool}
    (one : ∀ o ∈ os, ∀ q ∈ os, p o = true → p q = true → o.name = q.name) : os.filter p = ps.filter p := by
  have perm := moved.perm.filter p
  have distinct : ((os.filter p).map ModelObject.name).Nodup := moved.distinct.sublist (List.filter_sublist.map _)
  cases found : os.filter p with
  | nil =>
      rw [found] at perm
      exact (List.nil_perm.1 perm).symm
  | cons o rest =>
      have first : o ∈ os.filter p := by simp [found]
      have alone : rest = [] := by
        apply List.eq_nil_iff_forall_not_mem.2
        intro q member
        have second : q ∈ os.filter p := by simp [found, member]
        have same := one o (List.mem_of_mem_filter first) q (List.mem_of_mem_filter second)
          (List.of_mem_filter first) (List.of_mem_filter second)
        rw [found, List.map_cons, List.nodup_cons] at distinct
        exact distinct.1 (same ▸ List.mem_map_of_mem member)
      rw [found, alone] at perm
      rw [alone]
      exact List.singleton_perm.1 perm

theorem Value.eq_of_names {v : Value} {s t : Option String} (first : v.names s = true) (second : v.names t = true) :
    s = t := by
  cases v <;> cases s <;> cases t <;> simp_all [Value.names]

theorem Rearranged.agreeOn (moved : Rearranged os ps) :
    Index.AgreeOn (fun _ => True) (Index.ofObjects os) (Index.ofObjects ps) where
  relationships := moved.relationships
  tableEnds := by simp only [Index.ofObjects, moved.relationships]
  columnEnds := by simp only [Index.ofObjects, moved.relationships]
  table? := by
    intro name _
    rw [Index.table?_ofObjects, Index.table?_ofObjects]
    refine congrArg List.getLast? (moved.filter_eq ?_)
    intro o member q member' first second
    simp only [Bool.and_eq_true, decide_eq_true_eq] at first second
    rw [(moved.labelled o member).table first.1, (moved.labelled q member').table second.1, first.2, second.2]
  column? := by
    intro table _ name
    rw [Index.column?_ofObjects, Index.column?_ofObjects]
    refine congrArg List.head? (moved.filter_eq ?_)
    intro o member q member' first second
    simp only [Bool.and_eq_true] at first second
    rw [(moved.labelled o member).column first.1, (moved.labelled q member').column second.1,
      Value.eq_of_names first.2.1 second.2.1, Option.some.inj (Value.eq_of_names first.2.2 second.2.2)]
  columns := by
    intro name _
    exact ((moved.perm.filter _).filter _).length_eq
  measures := by
    intro name _
    exact ((moved.perm.filter _).filter _).length_eq

theorem Rearranged.judge_eq (moved : Rearranged os ps) {o : ModelObject} (member : o ∈ os) (expression : Value) :
    Expr.judge expression (some o) ⟨Index.ofObjects os, none⟩ = Expr.judge expression (some o) ⟨Index.ofObjects ps, none⟩ := by
  have mentions : Index.Mentions (fun _ => True) os := ⟨fun _ _ _ => trivial, fun _ _ => trivial, fun _ _ _ _ => trivial⟩
  exact Expr.judge_eq (moved.agreeOn.similar mentions) ⟨rfl, member⟩ expression

theorem Rearranged.aggregates_eq (moved : Rearranged os ps) :
    (Index.ofObjects os).aggregates = (Index.ofObjects ps).aggregates := by
  have counts : ∀ p : ModelObject → Bool, (os.filter p).length = (ps.filter p).length := fun p =>
    (moved.perm.filter p).length_eq
  have kinds : ∀ k, (Index.ofKind os k).length = (Index.ofKind ps k).length := fun k => counts _
  simp only [Index.ofObjects, Index.aggregatesOf, counts, kinds, moved.relationships]

theorem Rearranged.modelName_eq (moved : Rearranged os ps) :
    (Index.ofObjects os).modelName = (Index.ofObjects ps).modelName := by
  simp only [Index.ofObjects, Index.modelNameOf, moved.models]

namespace Rule

variable (r : Rule)

theorem thresholdFindings_of_rearranged (moved : Rearranged os ps) :
    r.thresholdFindings (Index.ofObjects os) = r.thresholdFindings (Index.ofObjects ps) := by
  have counts : r.count (Index.ofObjects os) = r.count (Index.ofObjects ps) := by
    simp only [count, Index.aggregate?, moved.aggregates_eq]
  rw [thresholdFindings, thresholdFindings, counts, moved.modelName_eq]

theorem objectFindings_of_rearranged (moved : Rearranged os ps) :
    Alike List.Perm (r.objectFindings os (Index.ofObjects os)) (r.objectFindings ps (Index.ofObjects ps)) := by
  rw [objectFindings, objectFindings, Scope.select, Scope.select]
  cases Scope.ofValue r.scope with
  | error fault => exact .error fault
  | ok kinds =>
      have same : (os.filter fun o => kinds.contains o.kind.text).filterMap (r.objectFinding? (Index.ofObjects os)) =
          (os.filter fun o => kinds.contains o.kind.text).filterMap (r.objectFinding? (Index.ofObjects ps)) := by
        apply List.filterMap_congr
        intro o member
        have holds : Expr.holds r.expression o (Index.ofObjects os) = Expr.holds r.expression o (Index.ofObjects ps) :=
          congrArg Expr.Outcome.result (moved.judge_eq (List.mem_of_mem_filter member) r.expression)
        rw [objectFinding?, objectFinding?, holds]
      refine .ok ?_
      rw [same]
      exact (moved.perm.filter _).filterMap _

theorem findings_of_rearranged (moved : Rearranged os ps) :
    Alike List.Perm (r.findings os (Index.ofObjects os)) (r.findings ps (Index.ofObjects ps)) := by
  rw [findings, findings, thresholdFindings_of_rearranged r moved]
  split
  · cases r.thresholdFindings (Index.ofObjects ps) with
    | error fault => exact .error fault
    | ok fs => exact .ok (.refl fs)
  · exact r.objectFindings_of_rearranged moved

theorem found_of_rearranged (moved : Rearranged os ps) : (r.found os).Perm (r.found ps) := by
  have alike := r.findings_of_rearranged moved
  rw [found, found, Attempt.ofRule, Attempt.ofRule, Attempt.found, Attempt.found]
  generalize r.findings os (Index.ofObjects os) = x at alike ⊢
  generalize r.findings ps (Index.ofObjects ps) = y at alike ⊢
  cases alike with
  | ok perm => exact perm
  | error fault => exact .refl _

theorem fails_of_rearranged (moved : Rearranged os ps) : r.fails os = r.fails ps := by
  have alike := r.findings_of_rearranged moved
  rw [fails, fails, Attempt.ofRule, Attempt.ofRule, Attempt.failed, Attempt.failed]
  generalize r.findings os (Index.ofObjects os) = x at alike ⊢
  generalize r.findings ps (Index.ofObjects ps) = y at alike ⊢
  cases alike <;> rfl

theorem object_of_objectFinding? {c : Index} {o : ModelObject} {f : Finding} (labelled : o.IsLabelled)
    (found : r.objectFinding? c o = some f) : f.affectedObject = .text o.name := by
  rw [objectFinding?] at found
  split at found
  · rw [finding] at found
    cases severity : r.severity.toInt with
    | error fault =>
        rw [severity] at found
        cases found
    | ok n =>
        rw [severity] at found
        cases found
        exact congrArg Value.text (if_neg labelled.named)
  · cases found

theorem nodup_keys_found (moved : Rearranged os ps) : ((r.found os).map Finding.key).Nodup := by
  rw [found, Attempt.found, Attempt.ofRule]
  cases made : r.findings os (Index.ofObjects os) with
  | error fault => exact .nil
  | ok fs =>
      rw [findings] at made
      split at made
      · obtain ⟨n, -, made⟩ := exists_of_bind_eq_ok made
        obtain ⟨exceeded, -, made⟩ := exists_of_bind_eq_ok made
        split at made
        · obtain ⟨f, -, made⟩ := exists_of_bind_eq_ok made
          cases made
          exact List.nodup_singleton _
        · cases made
          exact .nil
      · rw [objectFindings, Scope.select] at made
        obtain ⟨selected, inScope, made⟩ := exists_of_bind_eq_ok made
        obtain ⟨kinds, -, rfl⟩ := exists_of_map_eq_ok inScope
        cases made
        have names : (os.filter fun o => kinds.contains o.kind.text).Pairwise fun o q => o.name ≠ q.name :=
          (List.pairwise_map.1 moved.distinct).filter _
        refine List.pairwise_map.2 (List.pairwise_filterMap.2 (names.imp_of_mem ?_))
        intro o q member member' differ f first g second same
        have object := r.object_of_objectFinding? (moved.labelled o (List.mem_of_mem_filter member)) first
        have object' := r.object_of_objectFinding? (moved.labelled q (List.mem_of_mem_filter member')) second
        have shown := congrArg Prod.snd same
        simp only [Finding.key, object, object', Value.display_text] at shown
        exact differ shown

end Rule

namespace Run

theorem findings_of_rearranged (moved : Rearranged os ps) (rules : List Rule) :
    (ofRules rules os).findings.Perm (ofRules rules ps).findings := by
  rw [findings_ofRules, findings_ofRules]
  induction rules with
  | nil => exact .nil
  | cons r rules ih =>
      have perm := r.found_of_rearranged moved
      have distinct := r.nodup_keys_found moved
      have distinct' := (perm.map Finding.key).nodup_iff.1 distinct
      rw [List.flatMap_cons, List.flatMap_cons, Finding.firsts_append, Finding.firsts_append,
        Finding.firsts_eq_self distinct, Finding.firsts_eq_self distinct']
      simp only [(perm.map Finding.key).mem_iff]
      exact perm.append (ih.filter _)

theorem skipped_of_rearranged (moved : Rearranged os ps) (rules : List Rule) :
    (ofRules rules os).skipped = (ofRules rules ps).skipped := by
  simp only [skipped_ofRules, Rule.fails_of_rearranged _ moved]

theorem evaluated_of_rearranged (moved : Rearranged os ps) (rules : List Rule) :
    (ofRules rules os).evaluated = (ofRules rules ps).evaluated := by
  simp only [evaluated_ofRules, Rule.fails_of_rearranged _ moved]

end Run

theorem Bundle.ofRun_of_rearranged (moved : Rearranged os ps) (rules : List Rule) :
    Bundle.ofRun (Run.ofRules rules os) = Bundle.ofRun (Run.ofRules rules ps) := by
  have findings := Run.findings_of_rearranged moved rules
  obtain ⟨summary, counted, reported⟩ := Run.bundle_ofRules rules os
  obtain ⟨summary', counted', reported'⟩ := Run.bundle_ofRules rules ps
  rw [Summary.ofRun_eq (Run.kinds_ofRules rules os)] at counted
  rw [Summary.ofRun_eq (Run.kinds_ofRules rules ps)] at counted'
  cases counted
  cases counted'
  have sorted := sortBy_eq_of_perm Finding.place (Finding.nodup_places (Run.nodup_keys rules os)) findings
  rw [reported, reported', sorted]
  simp only [Summary.ofSeverity_eq_of_perm findings, findings.length_eq, Run.skipped_of_rearranged moved,
    Run.evaluated_of_rearranged moved, (findings.filter Finding.hasAutoFix).length_eq,
    Tally.inOrder_eq_of_perm (findings.map Finding.category), Tally.inOrder_eq_of_perm (findings.map Finding.kindText)]

end

namespace Snapshot

variable {s s' : Sections}

theorem ofKind_objects (read : s.AreRead) : Index.ofKind s.objects .relationship = s.relationships ∧
    Index.ofKind s.objects .model = [s.model] := by
  have relationships := filter_objects read (fun k => k = .relationship) rfl rfl
  have models := filter_objects read (fun k => k = .model) rfl rfl
  exact ⟨by simpa [Index.ofKind] using relationships, by simpa [Index.ofKind] using models⟩

theorem rearranged_objects (read : s.AreRead) (read' : s'.AreRead) (moved : s.Rearranged s')
    (distinct : (s.objects.map ModelObject.name).Nodup) : Rearranged s.objects s'.objects where
  perm := by
    rw [Sections.objects, Sections.objects, moved.model, moved.relationships]
    exact (((moved.tables.cons _).append moved.columns).append moved.measures).append_right _
  relationships := by rw [(ofKind_objects read).1, (ofKind_objects read').1, moved.relationships]
  models := by rw [(ofKind_objects read).2, (ofKind_objects read').2, moved.model]
  labelled := fun o => isLabelled_of_mem_objects read
  distinct := distinct

/-- Snapshots that differ in the order of their tables, columns and measures have one report, if no two objects have
one name. -/
theorem report_eq_of_reordered {snapshot snapshot' : Value} {os : List ModelObject}
    (reordered : Reordered snapshot snapshot') (accepted : objects snapshot = .ok os)
    (distinct : (os.map ModelObject.name).Nodup) (rules : List Rule) (workers workers' : Int) (order order' : Nat → Nat) :
    ∃ ps b, objects snapshot' = .ok ps ∧ Bundle.ofRun (Run.ofRulesWith workers order rules os) = .ok b ∧
      Bundle.ofRun (Run.ofRulesWith workers' order' rules ps) = .ok b := by
  rw [objects_eq] at accepted
  obtain ⟨s, found, rfl⟩ := exists_of_map_eq_ok accepted
  obtain ⟨s', found', moved⟩ := follows_sections reordered s found
  have rearranged := rearranged_objects (areRead_of_sections found) (areRead_of_sections found') moved distinct
  have accepted' : objects snapshot' = .ok s'.objects := by
    rw [objects_eq, found']
    rfl
  obtain ⟨summary, -, reported⟩ := Run.bundle_ofRules rules s.objects
  have reported' := (Bundle.ofRun_of_rearranged rearranged rules).symm.trans reported
  simp only [Run.ofRulesWith_eq_ofRules]
  exact ⟨s'.objects, _, accepted', reported, reported'⟩

theorem report_eq_of_swapped_tables :
    let sales : Value := .map [("Name", .text "Sales"), ("Columns", .list [.map [("Name", .text "Day")]])]
    let calendar : Value := .map [("Name", .text "Date"), ("Columns", .list [.map [("Name", .text "Day")]])]
    let snapshot : Value := .map [("tables", .list [sales, calendar])]
    let snapshot' : Value := .map [("tables", .list [calendar, sales])]
    ∃ os ps b, objects snapshot = .ok os ∧ (os.map ModelObject.name).Nodup ∧ objects snapshot' = .ok ps ∧
      Bundle.ofRun (Run.ofRulesWith 1 id [.ofTables "R" 2] os) = .ok b ∧
      Bundle.ofRun (Run.ofRulesWith 4 id [.ofTables "R" 2] ps) = .ok b := by
  intro sales calendar snapshot snapshot'
  have reordered : Reordered snapshot snapshot' :=
    .sections (.cons ⟨rfl, .permuted (by decide) (.swap _ _ _)⟩ .nil)
  have checked : ((objects snapshot).toOption.any fun os => decide (os.map ModelObject.name).Nodup) = true := by decide
  cases accepted : objects snapshot with
  | error fault =>
      rw [accepted] at checked
      cases checked
  | ok os =>
      rw [accepted] at checked
      have distinct : (os.map ModelObject.name).Nodup := of_decide_eq_true checked
      obtain ⟨ps, b, accepted', reported, reported'⟩ :=
        report_eq_of_reordered reordered accepted distinct [.ofTables "R" 2] 1 4 id id
      exact ⟨os, ps, b, rfl, distinct, accepted', reported, reported'⟩

end Snapshot

end TabularAudit
