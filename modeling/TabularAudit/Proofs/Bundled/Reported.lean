import Mathlib.Data.List.Nodup
import TabularAudit.Proofs.Run.Findings
import TabularAudit.Proofs.Run.Violations
import TabularAudit.Rule.Catalog

/-!
What a run reports of one rule. Under distinct ids, the keys of a rule in a run are those of the objects that violate
it, whatever the other rules are.
-/

namespace TabularAudit

namespace Rule

variable {r : Rule} {objects : List ModelObject} {scope : String}

theorem found_eq (isRead : r.IsRead) (perObject : r.threshold = .null) (text : r.scope = .text scope)
    (named : ∀ o ∈ objects, o.name ≠ "") :
    r.found objects = r.objectViolations scope objects (Index.ofObjects objects) := by
  have noThreshold : r.isThreshold = false := by rw [isThreshold, perObject]
  have findings : r.findings objects (Index.ofObjects objects) =
      .ok (r.objectViolations scope objects (Index.ofObjects objects)) := by
    rw [Rule.findings, noThreshold, if_neg Bool.false_ne_true, objectFindings_eq isRead named text]
  rw [found, Attempt.ofRule, findings]
  rfl

end Rule

namespace Run

variable {rules : List Rule} {objects : List ModelObject} {r : Rule} {scope : String}

theorem mem_keys_iff (distinct : (rules.map Rule.id).Nodup) (member : r ∈ rules) (object : String) :
    (r.id, object) ∈ (ofRules rules objects).findings.map Finding.key ↔
      (r.id, object) ∈ (r.found objects).map Finding.key := by
  rw [findings_ofRules, Finding.mem_keys_firsts]
  constructor
  · intro reported
    obtain ⟨f, inside, key⟩ := List.mem_map.1 reported
    obtain ⟨q, present, found⟩ := List.mem_flatMap.1 inside
    have ids : q.id = r.id := (Rule.reports_of_mem_found found).rule.symm.trans (congrArg Prod.fst key)
    have same : q = r := List.inj_on_of_nodup_map distinct present member ids
    exact List.mem_map.2 ⟨f, same ▸ found, key⟩
  · intro reported
    obtain ⟨f, found, key⟩ := List.mem_map.1 reported
    exact List.mem_map.2 ⟨f, List.mem_flatMap.2 ⟨r, member, found⟩, key⟩

theorem mem_keys_iff_isViolatedBy (distinct : (rules.map Rule.id).Nodup) (member : r ∈ rules) (isRead : r.IsRead)
    (perObject : r.threshold = .null) (text : r.scope = .text scope) (named : ∀ o ∈ objects, o.name ≠ "")
    (object : String) :
    (r.id, object) ∈ (ofRules rules objects).findings.map Finding.key ↔
      ∃ o ∈ objects, o.name = object ∧ r.isViolatedBy scope (Index.ofObjects objects) o = true := by
  rw [mem_keys_iff distinct member, Rule.found_eq isRead perObject text named, Rule.objectViolations, List.map_map,
    List.mem_map]
  constructor
  · rintro ⟨o, inside, key⟩
    obtain ⟨present, violated⟩ := List.mem_filter.1 inside
    exact ⟨o, present, congrArg Prod.snd key, violated⟩
  · rintro ⟨o, present, name, violated⟩
    exact ⟨o, List.mem_filter.2 ⟨present, violated⟩, Prod.ext rfl name⟩

end Run

theorem Catalog.exists_bundled : ∃ catalog, bundled = .ok catalog ∧
    catalog.rules = Rule.Bundled.catalogRules ++ Rule.Bundled.modelRules := by
  have fresh : ∀ r ∈ Rule.Bundled.modelRules, (!(Rule.Bundled.catalogRules.map Rule.id).contains r.id) = true := by
    decide +kernel
  have added : withModelRules Rule.Bundled.catalogRules = Rule.Bundled.catalogRules ++ Rule.Bundled.modelRules := by
    rw [withModelRules, List.filter_eq_self.2 fresh]
  have distinct : ((Rule.Bundled.catalogRules ++ Rule.Bundled.modelRules).map Rule.id).Nodup := by decide +kernel
  refine ⟨⟨_, distinct⟩, ?_, rfl⟩
  rw [bundled, added, ofRules, dif_pos distinct]

namespace Snapshot

variable {snapshot : Value} {os : List ModelObject} {o : ModelObject}

/-- A rule of the catalog is reported for the objects of which its expression holds, among the kinds in its scope. -/
theorem bundled_reports (accepted : objects snapshot = .ok os) {r : Rule} (present : r ∈ Rule.Bundled.catalogRules)
    (isRead : r.IsRead) (perObject : r.threshold = .null) {scope : String} (text : r.scope = .text scope)
    {p : Kind → Bool} (selects : ∀ k, (∀ name, k ≠ .other name) → (Scope.kinds scope).contains k.text = p k)
    (workers : Int) (order : Nat → Nat) :
    ∃ catalog, Catalog.bundled = .ok catalog ∧ ∀ object,
      (r.id, object) ∈ (Run.ofRulesWith workers order catalog.rules os).findings.map Finding.key ↔
        ∃ o ∈ os, o.name = object ∧ p o.kind = true ∧ Expr.holds r.expression o (Index.ofObjects os) = true := by
  obtain ⟨catalog, bundled, rules⟩ := Catalog.exists_bundled
  have member : r ∈ catalog.rules := by
    rw [rules]
    exact List.mem_append_left _ present
  have named : ∀ o ∈ os, o.name ≠ "" := fun o inside => (isLabelled_of_accepted accepted inside).named
  have violated : ∀ o ∈ os, r.isViolatedBy scope (Index.ofObjects os) o = true ↔
      p o.kind = true ∧ Expr.holds r.expression o (Index.ofObjects os) = true := by
    intro o inside
    rw [Rule.isViolatedBy, selects o.kind (kind_ne_other accepted inside), Bool.and_eq_true]
  refine ⟨catalog, bundled, fun object => ?_⟩
  rw [Run.ofRulesWith_eq_ofRules, Run.mem_keys_iff_isViolatedBy catalog.ids_nodup member isRead perObject text named]
  exact exists_congr fun o => and_congr_right fun inside => and_congr_right fun _ => violated o inside

end Snapshot

end TabularAudit
