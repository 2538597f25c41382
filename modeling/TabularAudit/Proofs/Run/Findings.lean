import Mathlib.Data.List.Basic
import TabularAudit.Proofs.Run.Merge
import TabularAudit.Proofs.Run.Pool
import TabularAudit.Proofs.Snapshot
import TabularAudit.Rule.Catalog

/-!
What any run reports. A finding carries the id of its rule and names its object by a text; no two findings of
a run have the same key, and under distinct ids each rule reports on its own.
-/

namespace TabularAudit

namespace Finding

variable {f g : Finding} {fs gs : List Finding}

/-- What a finding of a rule looks like. -/
structure Reports (f : Finding) (r : Rule) : Prop where
  rule : f.ruleId = r.id
  category : f.category = r.category
  severity : r.severity.toInt = .ok f.severity
  object : ∃ s, s ≠ "" ∧ f.affectedObject = .text s
  kind : ∃ s, f.objectType = .text s

theorem Reports.namesObject {r : Rule} (reports : f.Reports r) : f.NamesObject := by
  obtain ⟨s, -, object⟩ := reports.object
  exact ⟨s, object⟩

theorem firsts_append (fs gs : List Finding) :
    firsts (fs ++ gs) = firsts fs ++ (firsts gs).filter fun g => g.key ∉ fs.map key := by
  induction fs with
  | nil => simp [firsts]
  | cons f fs ih =>
      rw [List.cons_append, firsts, firsts, ih, List.filter_append, List.filter_filter, List.cons_append]
      refine congrArg (fun rest => f :: (_ ++ rest)) (List.filter_congr ?_)
      intro g _
      simp

theorem firsts_append_of_disjoint (apart : ∀ f ∈ fs, ∀ g ∈ gs, g.key ≠ f.key) :
    firsts (fs ++ gs) = firsts fs ++ firsts gs := by
  rw [firsts_append]
  refine congrArg (firsts fs ++ ·) (List.filter_eq_self.2 ?_)
  intro g member
  rw [decide_eq_true_eq, List.mem_map]
  rintro ⟨f, here, same⟩
  exact apart f here g ((firsts_sublist gs).subset member) same.symm

theorem firsts_eq_self (distinct : (fs.map key).Nodup) : firsts fs = fs := by
  induction fs with
  | nil => rfl
  | cons f fs ih =>
      rw [List.map_cons, List.nodup_cons] at distinct
      rw [firsts, ih distinct.2]
      refine congrArg (f :: ·) (List.filter_eq_self.2 ?_)
      intro g member
      rw [decide_eq_true_eq]
      intro same
      exact distinct.1 (same ▸ List.mem_map_of_mem member)

end Finding

namespace Rule

variable {r : Rule} {objects : List ModelObject} {c : Index} {f : Finding} {fs : List Finding}

theorem reports_of_finding {object : String} {kind : Kind} (found : r.finding object kind = .ok f) :
    f.Reports r := by
  obtain ⟨severity, whole, found⟩ := exists_of_bind_eq_ok found
  cases found
  refine ⟨rfl, rfl, whole, ⟨_, ?_, rfl⟩, ⟨_, rfl⟩⟩
  by_cases empty : object = ""
  · rw [if_pos empty]
    exact ModelObject.unnamed_ne_empty kind
  · rw [if_neg empty]
    exact empty

theorem reports_of_mem_thresholdFindings (found : r.thresholdFindings c = .ok fs) (member : f ∈ fs) :
    f.Reports r := by
  obtain ⟨n, -, found⟩ := exists_of_bind_eq_ok found
  obtain ⟨exceeded, -, found⟩ := exists_of_bind_eq_ok found
  split at found
  · obtain ⟨g, one, found⟩ := exists_of_bind_eq_ok found
    cases found
    obtain rfl := List.mem_singleton.1 member
    exact reports_of_finding one
  · cases found
    cases member

theorem reports_of_objectFinding? {o : ModelObject} (found : r.objectFinding? c o = some f) : f.Reports r := by
  rw [objectFinding?] at found
  split at found
  · cases made : r.finding o.name o.kind with
    | error fault =>
        rw [made] at found
        cases found
    | ok g =>
        rw [made] at found
        cases found
        exact reports_of_finding made
  · cases found

theorem reports_of_mem_findings (found : r.findings objects c = .ok fs) (member : f ∈ fs) : f.Reports r := by
  rw [findings] at found
  split at found
  · exact reports_of_mem_thresholdFindings found member
  · obtain ⟨selected, -, found⟩ := exists_of_bind_eq_ok found
    cases found
    obtain ⟨o, -, one⟩ := List.mem_filterMap.1 member
    exact reports_of_objectFinding? one

def found (r : Rule) (objects : List ModelObject) : List Finding :=
  (Attempt.ofRule objects (Index.ofObjects objects) r).found

theorem reports_of_mem_found (member : f ∈ r.found objects) : f.Reports r := by
  rw [found, Attempt.found] at member
  cases made : (Attempt.ofRule objects (Index.ofObjects objects) r).findings with
  | error fault =>
      rw [made] at member
      cases member
  | ok fs =>
      rw [made] at member
      exact reports_of_mem_findings made member

def ofTables (id : String) (severity : Int) : Rule :=
  ⟨id, id, "Layout", .int severity, "", .text "Table", .text "true", .null, .null, .null, .null⟩

def fails (r : Rule) (objects : List ModelObject) : Bool :=
  (Attempt.ofRule objects (Index.ofObjects objects) r).failed

end Rule

namespace Run

variable (rules : List Rule) (objects : List ModelObject)

theorem tells_ofRules : ∃ m : Merge, m.run = ofRules rules objects ∧
    m.Tells (rules.map (Attempt.ofRule objects (Index.ofObjects objects))) := by
  refine ⟨_, rfl, tells_ofAttempts _ ?_⟩
  intro f member
  rw [List.flatMap_map] at member
  obtain ⟨r, -, inside⟩ := List.mem_flatMap.1 member
  exact (Rule.reports_of_mem_found inside).namesObject

theorem findings_ofRules :
    (ofRules rules objects).findings = Finding.firsts (rules.flatMap fun r => r.found objects) := by
  obtain ⟨m, run, tells⟩ := tells_ofRules rules objects
  rw [← run, tells.findings, List.flatMap_map]
  rfl

theorem skipped_ofRules :
    (ofRules rules objects).skipped = (rules.filter fun r => r.fails objects).map Rule.id := by
  obtain ⟨m, run, tells⟩ := tells_ofRules rules objects
  rw [← run, tells.skipped, List.filter_map, List.map_map]
  rfl

theorem evaluated_ofRules :
    (ofRules rules objects).evaluated = (rules.filter fun r => !r.fails objects).length := by
  obtain ⟨m, run, tells⟩ := tells_ofRules rules objects
  rw [← run, tells.evaluated, List.filter_map, List.length_map]
  rfl

theorem nodup_keys : ((ofRules rules objects).findings.map Finding.key).Nodup := by
  rw [findings_ofRules]
  exact List.pairwise_map.2 (Finding.pairwise_firsts _)

variable {rules objects}

theorem exists_reports_of_mem_findings {f : Finding} (member : f ∈ (ofRules rules objects).findings) :
    ∃ r ∈ rules, f.Reports r := by
  rw [findings_ofRules] at member
  have inside := (Finding.firsts_sublist _).subset member
  obtain ⟨r, present, found⟩ := List.mem_flatMap.1 inside
  exact ⟨r, present, Rule.reports_of_mem_found found⟩

/-- Where ids are distinct, no rule takes a key from another. -/
theorem firsts_flatMap_found (distinct : (rules.map Rule.id).Nodup) :
    Finding.firsts (rules.flatMap fun r => r.found objects) =
      rules.flatMap fun r => Finding.firsts (r.found objects) := by
  induction rules with
  | nil => rfl
  | cons r rules ih =>
      obtain ⟨fresh, others⟩ := List.nodup_cons.1 distinct
      rw [List.flatMap_cons, List.flatMap_cons, ← ih others]
      apply Finding.firsts_append_of_disjoint
      intro f here g there same
      obtain ⟨q, present, inside⟩ := List.mem_flatMap.1 there
      have ids : q.id = r.id := by
        rw [← (Rule.reports_of_mem_found here).rule, ← (Rule.reports_of_mem_found inside).rule]
        exact congrArg Prod.fst same
      exact fresh (ids ▸ List.mem_map_of_mem present)

end Run

end TabularAudit
