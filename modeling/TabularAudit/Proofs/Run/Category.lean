import Mathlib.Data.List.Nodup
import TabularAudit.Proofs.Run.Findings

/-!
Restricting a catalog to categories and running it can be exchanged. Under distinct ids each rule reports on its own,
and a finding carries the category of its rule, so a run of some of the rules is a part of the run of all of them.
-/

namespace TabularAudit

namespace Catalog

variable {c : Catalog} {id : String} {r : Rule}

theorem find?_eq_some_iff : c.find? id = some r ↔ r ∈ c.rules ∧ r.id = id := by
  constructor
  · intro found
    exact ⟨List.mem_of_find?_eq_some found, by simpa using List.find?_some found⟩
  · rintro ⟨member, rfl⟩
    have found : (c.rules.find? fun q => q.id == r.id).isSome = true := List.find?_isSome.2 ⟨r, member, by simp⟩
    obtain ⟨q, here⟩ := Option.isSome_iff_exists.1 found
    have ids : q.id = r.id := by simpa using List.find?_some here
    have same : q = r := List.inj_on_of_nodup_map c.ids_nodup (List.mem_of_find?_eq_some here) member ids
    rw [find?, here, same]

theorem ofRules_rules (c : Catalog) : ofRules c.rules = .ok c := by
  rw [ofRules, dif_pos c.ids_nodup]

theorem rules_restrict {category : String} (given : category ≠ "") (c : Catalog) :
    (c.restrict (.text category)).rules = c.rules.filter fun r => r.category == category := by
  have filled : category.isEmpty = false := by simpa using given
  rw [restrict, filled]
  rfl

theorem rules_narrowed {categories : List String} (given : ∀ s ∈ categories, s ≠ "") (c : Catalog) :
    (c.narrowed categories).rules = c.rules.filter fun r => categories.all fun s => r.category == s := by
  induction categories generalizing c with
  | nil => exact (List.filter_eq_self.2 fun _ _ => rfl).symm
  | cons category categories ih =>
      obtain ⟨first, others⟩ := List.forall_mem_cons.1 given
      change ((c.restrict (.text category)).narrowed categories).rules = _
      rw [ih others, rules_restrict first, List.filter_filter]
      refine List.filter_congr ?_
      intro r _
      rw [List.all_cons, Bool.and_comm]

end Catalog

namespace Run

variable {rules : List Rule} {objects : List ModelObject} (p : String → Bool)

theorem filter_firsts_found (r : Rule) : (Finding.firsts (r.found objects)).filter (fun f => p f.category) =
    if p r.category then Finding.firsts (r.found objects) else [] := by
  have category : ∀ f ∈ Finding.firsts (r.found objects), p f.category = p r.category := by
    intro f member
    have inside := (Finding.firsts_sublist _).subset member
    rw [(Rule.reports_of_mem_found inside).category]
  rw [List.filter_congr category]
  cases p r.category <;> simp

theorem findings_filter_category (distinct : (rules.map Rule.id).Nodup) :
    (ofRules (rules.filter fun r => p r.category) objects).findings =
      (ofRules rules objects).findings.filter fun f => p f.category := by
  have kept : ((rules.filter fun r => p r.category).map Rule.id).Nodup :=
    distinct.sublist (List.filter_sublist.map Rule.id)
  rw [findings_ofRules, findings_ofRules, firsts_flatMap_found kept, firsts_flatMap_found distinct, List.filter_flatMap]
  simp only [filter_firsts_found]
  clear distinct kept
  induction rules with
  | nil => rfl
  | cons r rules ih =>
      rw [List.filter_cons, List.flatMap_cons]
      split
      · rw [List.flatMap_cons, ih]
      · rw [List.nil_append, ih]

theorem skipped_filter_category {q : String → Bool} (answers : ∀ r ∈ rules, q r.id = p r.category) :
    (ofRules (rules.filter fun r => p r.category) objects).skipped = (ofRules rules objects).skipped.filter q := by
  rw [skipped_ofRules, skipped_ofRules, List.filter_map, List.filter_filter, List.filter_filter]
  refine congrArg (List.map Rule.id) (List.filter_congr ?_)
  intro r member
  rw [Function.comp_apply, answers r member, Bool.and_comm]

end Run

namespace Catalog

/-- Narrowing a catalog narrows its run: the findings are those of the whole run in the categories, in their order, and
the rules that are skipped are those of the whole run. What is left is a catalog, in which every id has one rule. -/
theorem run_narrowed (c : Catalog) {categories : List String} (given : ∀ s ∈ categories, s ≠ "")
    (objects : List ModelObject) (workers workers' : Int) (order order' : Nat → Nat) :
    let narrowed := c.narrowed categories
    let whole := Run.ofRulesWith workers order c.rules objects
    let part := Run.ofRulesWith workers' order' narrowed.rules objects
    part.findings = whole.findings.filter (fun f => categories.all fun s => f.category == s) ∧
      part.skipped = whole.skipped.filter
        (fun id => (c.find? id).any fun r => categories.all fun s => r.category == s) ∧
      ofRules narrowed.rules = .ok narrowed ∧ (narrowed.rules.map Rule.id).Nodup ∧
      (∀ r, r ∈ narrowed.rules ↔ r ∈ c.rules ∧ ∀ s ∈ categories, r.category = s) ∧
      ∀ id r, narrowed.find? id = some r ↔ r ∈ narrowed.rules ∧ r.id = id := by
  intro narrowed whole part
  have rules := rules_narrowed given c
  have ranWhole : whole = Run.ofRules c.rules objects := Run.ofRulesWith_eq_ofRules _ _ _ _
  have ranPart : part = Run.ofRules (c.rules.filter fun r => categories.all fun s => r.category == s) objects := by
    rw [← rules]
    exact Run.ofRulesWith_eq_ofRules _ _ _ _
  have answers : ∀ r ∈ c.rules, ((c.find? r.id).any fun r => categories.all fun s => r.category == s) =
      categories.all fun s => r.category == s := by
    intro r member
    rw [find?_eq_some_iff.2 ⟨member, rfl⟩, Option.any_some]
  refine ⟨?_, ?_, ofRules_rules narrowed, narrowed.ids_nodup, ?_, fun id r => find?_eq_some_iff⟩
  · rw [ranPart, ranWhole]
    exact Run.findings_filter_category (fun category => categories.all fun s => category == s) c.ids_nodup
  · rw [ranPart, ranWhole]
    exact Run.skipped_filter_category (fun category => categories.all fun s => category == s) answers
  · intro r
    rw [rules, List.mem_filter, List.all_eq_true]
    simp

def layoutAndNaming : List Rule :=
  [.ofTables "A" 1, { Rule.ofTables "B" 3 with category := "Naming" },
    { Rule.ofTables "C" 3 with category := "Naming", scope := .null }]

theorem run_narrowed_to_naming :
    let sales : List ModelObject := [⟨"Sales", .table, {}, none, none⟩]
    ∃ c : Catalog, c.rules = layoutAndNaming ∧ (∀ s ∈ ["Naming", "Naming"], s ≠ "") ∧
      (Run.ofRulesWith 2 id (c.narrowed ["Naming", "Naming"]).rules sales).findings =
        (Run.ofRulesWith 1 id c.rules sales).findings.filter
          (fun f => ["Naming", "Naming"].all fun s => f.category == s) ∧
      ((Run.ofRules layoutAndNaming sales).findings.map Finding.ruleId, (Run.ofRules layoutAndNaming sales).skipped) =
        (["A", "B"], ["C"]) ∧
      ((c.narrowed ["Naming", "Naming"]).find? "B").isSome = true ∧
      (c.narrowed ["Naming", "Naming"]).find? "A" = none := by
  intro sales
  have ids : (layoutAndNaming.map Rule.id).Nodup := by decide
  have given : ∀ s ∈ ["Naming", "Naming"], s ≠ "" := by decide
  have whole : ((Run.ofRules layoutAndNaming [⟨"Sales", .table, {}, none, none⟩]).findings.map Finding.ruleId,
      (Run.ofRules layoutAndNaming [⟨"Sales", .table, {}, none, none⟩]).skipped) = (["A", "B"], ["C"]) := by
    decide +kernel
  have narrow := run_narrowed ⟨layoutAndNaming, ids⟩ given sales 1 2 id id
  exact ⟨⟨layoutAndNaming, ids⟩, rfl, given, narrow.1, whole, rfl, rfl⟩

end Catalog

end TabularAudit
