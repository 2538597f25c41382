import TabularAudit.Proofs.Run.Findings
import TabularAudit.Proofs.Run.Order
import TabularAudit.Proofs.Tally
import TabularAudit.Run.Pool
import TabularAudit.Run.Summary

/-!
Reports do not depend on the order of the catalog. Counts are those of a multiset, and each rule of a catalog
reports on its own.
-/

namespace TabularAudit

namespace Tally

variable {names names' : List String}

def inOrder (names : List String) : Tally := sortBy Prod.fst (ofList names)

theorem inOrder_eq_of_perm (perm : names.Perm names') : inOrder names = inOrder names' :=
  sortBy_eq_of_perm Prod.fst (nodup_keys_ofList names) (ofList_perm perm)

end Tally

namespace Summary

variable {fs gs : List Finding}

def textEntry (e : String × Nat) : Value × Nat := (.text e.1, e.2)

theorem addKind_text (t : Tally) (k : String) :
    addKind (t.map textEntry) (.text k) = (t.add k).map textEntry := by
  induction t with
  | nil => rfl
  | cons e t ih =>
      obtain ⟨j, n⟩ := e
      have same : Value.sameKey (.text k) (.text j) = (k == j) := Value.same_text_text k j
      rw [List.map_cons, textEntry, addKind, same, Tally.add, ih]
      by_cases equal : j = k
      · simp [equal, textEntry]
      · simp [equal, Ne.symm equal, textEntry]

theorem foldl_addKind_text (names : List String) (t : Tally) :
    (names.map Value.text).foldl addKind (t.map textEntry) = (names.foldl Tally.add t).map textEntry := by
  induction names generalizing t with
  | nil => rfl
  | cons name names ih =>
      rw [List.map_cons, List.foldl_cons, addKind_text, ih, List.foldl_cons]

theorem orderedKinds_text (t : Tally) :
    orderedKinds (t.map textEntry) = .ok ((sortBy Prod.fst t).map textEntry) := by
  have orderable : ((t.map textEntry).any fun a => (t.map textEntry).any fun b =>
      !a.1.sameKey b.1 && (Value.before a.1 b.1).toOption.isNone) = false := by
    apply List.any_eq_false.2
    intro a member clash
    obtain ⟨b, there, clash⟩ := List.any_eq_true.1 clash
    obtain ⟨d, -, rfl⟩ := List.mem_map.1 member
    obtain ⟨e, -, rfl⟩ := List.mem_map.1 there
    simp [textEntry, Value.before, Except.toOption] at clash
  have sorted : (sortBy Prod.fst t).map textEntry =
      (t.map textEntry).mergeSort fun a b => !(Value.before b.1 a.1).toOption.getD false := by
    apply List.map_mergeSort
    intro a _ b _
    simp only [textEntry, Value.before, Except.toOption, Option.getD_some]
    rw [← decide_not]
    exact decide_eq_decide.2 not_lt.symm
  rw [orderedKinds, orderable, sorted]
  rfl

theorem kindCounts_eq {kinds : List String} (texts : fs.map Finding.objectType = kinds.map Value.text) :
    kindCounts fs = .ok ((Tally.inOrder kinds).map textEntry) := by
  have atoms : (kinds.map Value.text).all Value.isAtom = true := by simp [Value.isAtom]
  rw [kindCounts, texts, if_pos atoms]
  have counted := foldl_addKind_text kinds []
  rw [List.map_nil] at counted
  rw [counted, orderedKinds_text]
  rfl

theorem ofSeverity_eq_of_perm (perm : fs.Perm gs) (severity : Int) : ofSeverity fs severity = ofSeverity gs severity :=
  (perm.filter _).length_eq

theorem ofRun_eq {r : Run} {kinds : List String} (texts : r.findings.map Finding.objectType = kinds.map Value.text) :
    ofRun r = .ok {
      total := r.findings.length
      errors := ofSeverity r.findings 3
      warnings := ofSeverity r.findings 2
      infos := ofSeverity r.findings 1
      autoFixable := (r.findings.filter Finding.hasAutoFix).length
      byCategory := Tally.inOrder (r.findings.map Finding.category)
      byObjectType := (Tally.inOrder kinds).map textEntry
      evaluated := r.evaluated
      skipped := r.skipped } := by
  rw [ofRun, kindCounts_eq texts]
  rfl

end Summary

namespace Finding

def kindText (f : Finding) : String := f.objectType.display

end Finding

namespace Run

variable {rules rules' : List Rule} {objects : List ModelObject}

theorem kinds_ofRules (rules : List Rule) (objects : List ModelObject) :
    (ofRules rules objects).findings.map Finding.objectType =
      ((ofRules rules objects).findings.map Finding.kindText).map Value.text := by
  rw [List.map_map]
  apply List.map_congr_left
  intro f member
  obtain ⟨r, -, reports⟩ := exists_reports_of_mem_findings member
  obtain ⟨s, kind⟩ := reports.kind
  simp [Finding.kindText, kind, Value.display_text]

theorem namesObject_of_mem_findings {f : Finding} (member : f ∈ (ofRules rules objects).findings) : f.NamesObject := by
  obtain ⟨r, -, reports⟩ := exists_reports_of_mem_findings member
  exact reports.namesObject

theorem bundle_ofRules (rules : List Rule) (objects : List ModelObject) :
    ∃ summary, Summary.ofRun (ofRules rules objects) = .ok summary ∧
      Bundle.ofRun (ofRules rules objects) = .ok ⟨summary, sortBy Finding.place (ofRules rules objects).findings⟩ := by
  have summary := Summary.ofRun_eq (kinds_ofRules rules objects)
  refine ⟨_, summary, ?_⟩
  rw [Bundle.ofRun, Finding.ordered_eq fun f member => namesObject_of_mem_findings member, summary]
  rfl

theorem findings_perm (distinct : (rules.map Rule.id).Nodup) (perm : rules.Perm rules') (objects : List ModelObject) :
    (ofRules rules objects).findings.Perm (ofRules rules' objects).findings := by
  have distinct' : (rules'.map Rule.id).Nodup := (perm.map Rule.id).nodup_iff.1 distinct
  rw [findings_ofRules, findings_ofRules, firsts_flatMap_found distinct, firsts_flatMap_found distinct']
  exact perm.flatMap_right _

theorem skipped_perm (perm : rules.Perm rules') (objects : List ModelObject) :
    (ofRules rules objects).skipped.Perm (ofRules rules' objects).skipped := by
  rw [skipped_ofRules, skipped_ofRules]
  exact (perm.filter _).map Rule.id

theorem evaluated_eq_of_perm (perm : rules.Perm rules') (objects : List ModelObject) :
    (ofRules rules objects).evaluated = (ofRules rules' objects).evaluated := by
  rw [evaluated_ofRules, evaluated_ofRules]
  exact (perm.filter _).length_eq

end Run

/-- The order of a catalog shows in the order of the skipped rules and nowhere else. -/
theorem Bundle.same_report_of_perm {c c' : Catalog} (perm : c.rules.Perm c'.rules) (objects : List ModelObject)
    (workers workers' : Int) (order order' : Nat → Nat) :
    ∃ b b', Bundle.ofRun (Run.ofRulesWith workers order c.rules objects) = .ok b ∧
      Bundle.ofRun (Run.ofRulesWith workers' order' c'.rules objects) = .ok b' ∧ b'.findings = b.findings ∧
      b'.summary = { b.summary with skipped := b'.summary.skipped } ∧ b'.summary.skipped.Perm b.summary.skipped := by
  rw [Run.ofRulesWith_eq_ofRules, Run.ofRulesWith_eq_ofRules]
  have findings := Run.findings_perm c.ids_nodup perm objects
  have evaluated := Run.evaluated_eq_of_perm perm objects
  obtain ⟨summary, counted, reported⟩ := Run.bundle_ofRules c.rules objects
  obtain ⟨summary', counted', reported'⟩ := Run.bundle_ofRules c'.rules objects
  rw [Summary.ofRun_eq (Run.kinds_ofRules c.rules objects)] at counted
  rw [Summary.ofRun_eq (Run.kinds_ofRules c'.rules objects)] at counted'
  cases counted
  cases counted'
  refine ⟨_, _, reported, reported', ?_, ?_, (Run.skipped_perm perm objects).symm⟩
  · exact (sortBy_eq_of_perm Finding.place (Finding.nodup_places (Run.nodup_keys c.rules objects)) findings).symm
  · simp only [Summary.ofSeverity_eq_of_perm findings, findings.length_eq, evaluated,
      (findings.filter Finding.hasAutoFix).length_eq, Tally.inOrder_eq_of_perm (findings.map Finding.category),
      Tally.inOrder_eq_of_perm (findings.map Finding.kindText)]

theorem Bundle.same_report_of_swapped :
    let sales : List ModelObject := [⟨"Sales", .table, {}, none, none⟩]
    ∃ c c' : Catalog, c.rules = [.ofTables "A" 1, .ofTables "B" 3] ∧ c'.rules = [.ofTables "B" 3, .ofTables "A" 1] ∧
      (Run.ofRules c.rules sales).findings.map Finding.ruleId = ["A", "B"] ∧
      (Run.ofRules c'.rules sales).findings.map Finding.ruleId = ["B", "A"] ∧
      ∃ b b', Bundle.ofRun (Run.ofRulesWith 1 id c.rules sales) = .ok b ∧
        Bundle.ofRun (Run.ofRulesWith 4 id c'.rules sales) = .ok b' ∧ b'.findings = b.findings ∧
        b'.summary = { b.summary with skipped := b'.summary.skipped } := by
  intro sales
  have first : (Run.ofRules [.ofTables "A" 1, .ofTables "B" 3] [⟨"Sales", .table, {}, none, none⟩]).findings.map
      Finding.ruleId = ["A", "B"] := by decide +kernel
  have second : (Run.ofRules [.ofTables "B" 3, .ofTables "A" 1] [⟨"Sales", .table, {}, none, none⟩]).findings.map
      Finding.ruleId = ["B", "A"] := by decide +kernel
  have ids : ([Rule.ofTables "A" 1, Rule.ofTables "B" 3].map Rule.id).Nodup := by decide
  have ids' : ([Rule.ofTables "B" 3, Rule.ofTables "A" 1].map Rule.id).Nodup := by decide
  have perm : [Rule.ofTables "A" 1, Rule.ofTables "B" 3].Perm [Rule.ofTables "B" 3, Rule.ofTables "A" 1] :=
    List.Perm.swap _ _ _
  obtain ⟨b, b', ran, ran', findings, summary, -⟩ :=
    @Bundle.same_report_of_perm ⟨_, ids⟩ ⟨_, ids'⟩ perm sales 1 4 id id
  exact ⟨⟨_, ids⟩, ⟨_, ids'⟩, rfl, rfl, first, second, b, b', ran, ran', findings, summary⟩

end TabularAudit
