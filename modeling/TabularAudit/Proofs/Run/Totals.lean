import TabularAudit.Proofs.Run.Summary
import TabularAudit.Proofs.Run.Violations
import TabularAudit.Proofs.Storage.Findings

/-!
The counts of a report add up. Every finding stands in one count by category and in one by kind; by severity it is
counted if its rule has one of the three severities that are counted.
-/

namespace TabularAudit

theorem Tally.itemizes_inOrder (names : List String) : Itemizes (inOrder names) names :=
  (itemizes_ofList names).of_perm_entries (sortBy_perm Prod.fst _).symm

namespace Summary

/-- The severities that are counted. A rule may have any other, and no count of its own is kept for it. -/
def severities : List Int := [3, 2, 1]

/-- A summary of these findings. Each stands in one count by category and in one by kind, and in one by severity unless
its severity is none of those that are counted. -/
structure AddsUp (s : Summary) (fs : List Finding) : Prop where
  total : s.total = fs.length
  errors : (fs.map Finding.severity).count 3 = s.errors
  warnings : (fs.map Finding.severity).count 2 = s.warnings
  infos : (fs.map Finding.severity).count 1 = s.infos
  severity : s.errors + s.warnings + s.infos + (fs.filter fun f => f.severity ∉ severities).length = s.total
  categories : Itemizes s.byCategory (fs.map Finding.category)
  category : (s.byCategory.map Prod.snd).sum = s.total
  kinds : Itemizes s.byObjectType (fs.map Finding.objectType)
  kind : (s.byObjectType.map Prod.snd).sum = s.total
  fixable : (fs.filter Finding.hasAutoFix).length = s.autoFixable
  autoFixable : s.autoFixable ≤ s.total

variable {fs : List Finding} {run : Run} {s : Summary} {kinds : List String}

theorem count_severity (fs : List Finding) (severity : Int) :
    (fs.map Finding.severity).count severity = ofSeverity fs severity := by
  rw [List.count_eq_length_filter, List.filter_map, List.length_map, ofSeverity]
  refine congrArg List.length (List.filter_congr ?_)
  intro f _
  exact Bool.beq_eq_decide_eq _ _

theorem ofSeverity_add_others (fs : List Finding) : ofSeverity fs 3 + ofSeverity fs 2 + ofSeverity fs 1 +
    (fs.filter fun f => f.severity ∉ severities).length = fs.length := by
  have distinct : severities.Nodup := by decide
  rw [← sum_length_filter_add_others Finding.severity distinct fs]
  simp [severities, ofSeverity, Nat.add_assoc]

theorem addsUp_ofRun (texts : run.findings.map Finding.objectType = kinds.map Value.text)
    (perm : run.findings.Perm fs) (made : ofRun run = .ok s) : s.AddsUp fs := by
  rw [ofRun_eq texts] at made
  cases made
  have categories := (Tally.itemizes_inOrder (run.findings.map Finding.category)).of_perm (perm.map _)
  have kinds : Itemizes ((Tally.inOrder kinds).map textEntry) (fs.map Finding.objectType) := by
    apply Itemizes.of_perm _ (perm.map Finding.objectType)
    rw [texts]
    exact (Tally.itemizes_inOrder kinds).map fun _ _ => Value.text.inj
  have bySeverity : ∀ n, (fs.map Finding.severity).count n = ofSeverity run.findings n := by
    intro n
    rw [count_severity, ofSeverity_eq_of_perm perm]
  exact {
    total := perm.length_eq
    errors := bySeverity 3
    warnings := bySeverity 2
    infos := bySeverity 1
    severity := by
      rw [perm.length_eq, ofSeverity_eq_of_perm perm, ofSeverity_eq_of_perm perm, ofSeverity_eq_of_perm perm]
      exact ofSeverity_add_others fs
    categories := categories
    category := by rw [categories.sum_eq_length, List.length_map, perm.length_eq]
    kinds := kinds
    kind := by rw [kinds.sum_eq_length, List.length_map, perm.length_eq]
    fixable := (perm.filter _).length_eq.symm
    autoFixable := List.length_filter_le _ _ }

theorem AddsUp.severities_iff (counts : s.AddsUp fs) :
    s.errors + s.warnings + s.infos = s.total ↔ ∀ f ∈ fs, f.severity ∈ severities := by
  have others : (fs.filter fun f => f.severity ∉ severities).length = 0 ↔ ∀ f ∈ fs, f.severity ∈ severities := by
    simp
  rw [← others, ← counts.severity]
  omega

end Summary

namespace Catalog

variable {c : Catalog} {document : Value} {builtin : Bool}

theorem isRead_of_mem_modelRules {r : Rule} (member : r ∈ Rule.Bundled.modelRules) : r.IsRead := by
  rcases List.mem_pair.1 member with rfl | rfl
  · exact ⟨⟨2, rfl⟩, .inr ⟨5, rfl⟩⟩
  · exact ⟨⟨2, rfl⟩, .inr ⟨3, rfl⟩⟩

theorem isRead_of_ofDocument (read : ofDocument document builtin = .ok c) {r : Rule} (member : r ∈ c.rules) :
    r.IsRead := by
  obtain ⟨records, -, read⟩ := exists_of_bind_eq_ok read
  obtain ⟨rules, each, read⟩ := exists_of_bind_eq_ok read
  have own : ∀ r ∈ rules, r.IsRead := by
    intro r member
    obtain ⟨raw, -, ok⟩ := exists_of_mem_mapM each r member
    exact Rule.isRead_of_ofValue ok
  rw [ids_ofRules read] at member
  cases builtin with
  | false => exact own r member
  | true =>
      rcases List.mem_append.1 member with member | member
      · exact own r member
      · exact isRead_of_mem_modelRules (List.mem_filter.1 member).1

end Catalog

namespace Run

variable {rules : List Rule} {objects : List ModelObject}

theorem evaluated_add_skipped (rules : List Rule) (objects : List ModelObject) :
    (ofRules rules objects).evaluated + (ofRules rules objects).skipped.length = rules.length := by
  rw [evaluated_ofRules, skipped_ofRules, List.length_map, Nat.add_comm]
  exact (List.length_eq_length_filter_add _).symm

theorem severity_of_mem_findings (distinct : (rules.map Rule.id).Nodup) {f : Finding}
    (member : f ∈ (ofRules rules objects).findings) {r : Rule} (present : r ∈ rules) (own : f.ruleId = r.id) {n : Int}
    (severity : r.severity = .int n) : f.severity = n := by
  obtain ⟨q, there, reports⟩ := exists_reports_of_mem_findings member
  obtain rfl : q = r := List.inj_on_of_nodup_map distinct there present (reports.rule.symm.trans own)
  have whole := reports.severity
  rw [severity] at whole
  exact (Except.ok.inj whole).symm

end Run

namespace Bundle

/-- Of every run of a catalog that is read from a file a report can be made, and its counts add up: those by category
and those by kind to the number of findings, those of rules to the number of rules. The three counts by severity do so
exactly if each rule that reports something has one of these severities; they leave out the findings of the others. -/
theorem counts_add_up {d : Disk} {p : Path} {builtin : Bool} {c : Catalog} (read : d.catalog p builtin = .ok c)
    (objects : List ModelObject) (workers : Int) (order : Nat → Nat) :
    ∃ b, ofRun (Run.ofRulesWith workers order c.rules objects) = .ok b ∧
      b.findings.Perm (Run.ofRulesWith workers order c.rules objects).findings ∧ b.summary.AddsUp b.findings ∧
      (b.summary.errors + b.summary.warnings + b.summary.infos = b.summary.total ↔
        ∀ r ∈ c.rules, (∃ f ∈ b.findings, f.ruleId = r.id) → ∃ n ∈ Summary.severities, r.severity = .int n) ∧
      b.summary.evaluated + b.summary.skipped.length = c.rules.length := by
  rw [Run.ofRulesWith_eq_ofRules]
  obtain ⟨summary, counted, reported⟩ := Run.bundle_ofRules c.rules objects
  obtain ⟨document, -, accepted⟩ := exists_of_bind_eq_ok read
  have perm := sortBy_perm Finding.place (Run.ofRules c.rules objects).findings
  have adds := Summary.addsUp_ofRun (Run.kinds_ofRules c.rules objects) perm.symm counted
  refine ⟨_, reported, perm, adds, ?_, ?_⟩
  · rw [adds.severities_iff]
    constructor
    · rintro all r member ⟨f, inside, own⟩
      obtain ⟨n, severity⟩ := (Catalog.isRead_of_ofDocument accepted member).severity
      have same := Run.severity_of_mem_findings c.ids_nodup (perm.mem_iff.1 inside) member own severity
      exact ⟨n, same ▸ all f inside, severity⟩
    · intro all f inside
      obtain ⟨r, member, reports⟩ := Run.exists_reports_of_mem_findings (perm.mem_iff.1 inside)
      obtain ⟨n, known, severity⟩ := all r member ⟨f, inside, reports.rule⟩
      rwa [Run.severity_of_mem_findings c.ids_nodup (perm.mem_iff.1 inside) member reports.rule severity]
  · rw [Summary.ofRun_eq (Run.kinds_ofRules c.rules objects)] at counted
    cases counted
    exact Run.evaluated_add_skipped c.rules objects

def severeCatalog (expression : String) : String :=
  "[\x7b\"ID\":\"A\",\"Severity\":4,\"Scope\":\"Table\",\"Expression\":\"" ++ expression ++
    "\"\x7d,\x7b\"ID\":\"B\",\"Scope\":\"Table\",\"Expression\":\"true\"\x7d,\x7b\"ID\":\"C\",\"Scope\":1\x7d]"

def severeRecords (expression : String) : List Value :=
  [.map [("ID", .text "A"), ("Severity", .int 4), ("Scope", .text "Table"), ("Expression", .text expression)],
    .map [("ID", .text "B"), ("Scope", .text "Table"), ("Expression", .text "true")],
    .map [("ID", .text "C"), ("Scope", .int 1)]]

/-- A catalog around an expression, from which only the characters are read. -/
theorem parse_around (before expression after : List Char) :
    Document.parse (String.ofList ('[' :: before) ++ String.ofList expression ++ String.ofList after).toUTF8 =
      Json.readAll ('[' :: before ++ expression ++ after) := by
  rw [← String.ofList_append, ← String.ofList_append]
  exact Document.parse_toUTF8 (by decide) _

def salesTable : List ModelObject := [⟨"'Sales'", .table, {}, none, none⟩]

theorem counts_add_up_of_silent_rule :
    ∃ c b, (Disk.ofText "rules.json" (severeCatalog "false")).catalog ⟨"", ["rules.json"]⟩ true = .ok c ∧
      ofRun (Run.ofRulesWith 2 id c.rules salesTable) = .ok b ∧ b.summary.AddsUp b.findings ∧
      b.summary.errors + b.summary.warnings + b.summary.infos = b.summary.total ∧
      b.summary.evaluated + b.summary.skipped.length = 5 := by
  have parsed : Document.parse (severeCatalog "false").toUTF8 = .ok (.list (severeRecords "false")) :=
    (parse_around _ _ _).trans (by decide +kernel)
  have ran : (Catalog.ofDocument (.list (severeRecords "false")) true).map (fun c => (c.rules.length,
      decide (∀ r ∈ c.rules, (∃ f ∈ (Run.ofRules c.rules salesTable).findings, f.ruleId = r.id) →
        ∃ n ∈ Summary.severities, r.severity = .int n))) = .ok (5, true) := by decide +kernel
  obtain ⟨c, accepted, facts⟩ := exists_of_map_eq_ok ran
  obtain ⟨size, known⟩ := Prod.mk.inj facts
  have read := (Disk.catalog_of_holds (Disk.holds_ofText "rules.json" parsed) true).trans accepted
  obtain ⟨b, reported, perm, adds, whole, rules⟩ := counts_add_up read salesTable 2 id
  rw [Run.ofRulesWith_eq_ofRules] at perm
  refine ⟨c, b, read, reported, adds, whole.2 ?_, rules.trans size⟩
  rintro r member ⟨f, inside, own⟩
  exact of_decide_eq_true known r member ⟨f, perm.mem_iff.1 inside, own⟩

/-- The rule of severity 4 reports a table, which is in the total and in no count by severity. -/
theorem severity_without_count :
    ∃ c b, (Disk.ofText "rules.json" (severeCatalog "true")).catalog ⟨"", ["rules.json"]⟩ true = .ok c ∧
      ofRun (Run.ofRulesWith 1 id c.rules salesTable) = .ok b ∧ b.summary.total = 2 ∧
      b.summary.errors + b.summary.warnings + b.summary.infos = 1 := by
  have parsed : Document.parse (severeCatalog "true").toUTF8 = .ok (.list (severeRecords "true")) :=
    (parse_around _ _ _).trans (by decide +kernel)
  have ran : (Catalog.ofDocument (.list (severeRecords "true")) true).map (fun c =>
      (Run.ofRules c.rules salesTable).findings.map Finding.severity) = .ok [4, 2] := by decide +kernel
  obtain ⟨c, accepted, severities⟩ := exists_of_map_eq_ok ran
  have read := (Disk.catalog_of_holds (Disk.holds_ofText "rules.json" parsed) true).trans accepted
  obtain ⟨summary, counted, reported⟩ := Run.bundle_ofRules c.rules salesTable
  have adds := Summary.addsUp_ofRun (Run.kinds_ofRules c.rules salesTable) (.refl _) counted
  refine ⟨c, _, read, (congrArg ofRun (Run.ofRulesWith_eq_ofRules 1 id _ _)).trans reported, ?_, ?_⟩
  · have size := congrArg List.length severities
    rw [List.length_map] at size
    exact adds.total.trans size
  · change summary.errors + summary.warnings + summary.infos = 1
    rw [← adds.errors, ← adds.warnings, ← adds.infos, severities]
    decide

end Bundle

end TabularAudit
