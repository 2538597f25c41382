import TabularAudit.Proofs.Run.Findings
import TabularAudit.Run.Comparison

/-!
Two runs side by side, where keys are distinct: what recurs is seen from either side, and a key is new or
resolved at most once.
-/

namespace TabularAudit

namespace Finding

structure AreDistinct (fs : List Finding) : Prop where
  named : ∀ f ∈ fs, f.NamesObject
  keys : (fs.map key).Nodup

end Finding

theorem Run.areDistinct_ofRules (rules : List Rule) (objects : List ModelObject) :
    Finding.AreDistinct (Run.ofRules rules objects).findings := by
  constructor
  · intro f member
    obtain ⟨r, -, reports⟩ := Run.exists_reports_of_mem_findings member
    exact reports.namesObject
  · exact Run.nodup_keys rules objects

namespace Comparison

variable {current previous fs gs : List Finding} {f : Finding} {k : String × String}

theorem isKeyed_of_named (named : ∀ f ∈ fs, f.NamesObject) : isKeyed fs = true := by
  apply List.all_eq_true.2
  intro f member
  obtain ⟨s, object⟩ := named f member
  rw [object]
  rfl

theorem ofRuns_eq (named : ∀ f ∈ current, f.NamesObject) (named' : ∀ f ∈ previous, f.NamesObject) :
    ofRuns current previous = .ok (split current previous) := by
  rw [ofRuns, isKeyed_of_named named, isKeyed_of_named named']
  rfl

theorem occursIn_iff_of_key {κ : Type} (key : Finding → κ) (same : ∀ g ∈ fs, f.sameKey g = true ↔ key f = key g) :
    occursIn f fs = true ↔ key f ∈ fs.map key := by
  rw [occursIn, List.any_eq_true, List.mem_map]
  apply exists_congr
  intro g
  apply and_congr_right
  intro member
  rw [same g member]
  exact eq_comm

theorem occursIn_eq (named : f.NamesObject) (others : ∀ g ∈ fs, g.NamesObject) :
    occursIn f fs = decide (f.key ∈ fs.map Finding.key) := by
  rw [Bool.eq_iff_iff, decide_eq_true_iff]
  apply occursIn_iff_of_key
  intro g member
  rw [Finding.sameKey_eq named (others g member), decide_eq_true_iff]

theorem keys_filter_occursIn (named : ∀ f ∈ fs, f.NamesObject) (others : ∀ g ∈ gs, g.NamesObject) :
    (fs.filter fun f => occursIn f gs).map Finding.key =
      (fs.map Finding.key).filter fun k => k ∈ gs.map Finding.key := by
  rw [List.filter_map]
  apply congrArg (List.map Finding.key)
  apply List.filter_congr
  intro f member
  exact occursIn_eq (named f member) others

theorem keys_filter_not_occursIn (named : ∀ f ∈ fs, f.NamesObject) (others : ∀ g ∈ gs, g.NamesObject) :
    (fs.filter fun f => !occursIn f gs).map Finding.key =
      (fs.map Finding.key).filter fun k => k ∉ gs.map Finding.key := by
  rw [List.filter_map]
  apply congrArg (List.map Finding.key)
  apply List.filter_congr
  intro f member
  rw [occursIn_eq (named f member) others]
  exact decide_not.symm

theorem length_recurring_add_length_resolved (now : Finding.AreDistinct current) (before : Finding.AreDistinct previous) :
    (split current previous).recurring.length + (split current previous).resolved.length = previous.length := by
  have common : ((current.map Finding.key).filter fun k => k ∈ previous.map Finding.key).Perm
      ((previous.map Finding.key).filter fun k => k ∈ current.map Finding.key) := by
    apply (List.perm_ext_iff_of_nodup (now.keys.filter _) (before.keys.filter _)).2
    intro k
    simp only [List.mem_filter, decide_eq_true_eq, and_comm]
  have seen : ((split current previous).recurring.map Finding.key).length =
      ((previous.filter fun f => occursIn f current).map Finding.key).length := by
    rw [keys_filter_occursIn before.named now.named, split, keys_filter_occursIn now.named before.named]
    exact common.length_eq
  rw [List.length_map, List.length_map] at seen
  rw [seen, split]
  exact (List.length_eq_length_filter_add _).symm

theorem count_fresh (now : Finding.AreDistinct current) (before : Finding.AreDistinct previous) :
    ((split current previous).fresh.map Finding.key).count k =
      if k ∈ current.map Finding.key ∧ k ∉ previous.map Finding.key then 1 else 0 := by
  rw [split, keys_filter_not_occursIn now.named before.named, List.Nodup.count (now.keys.filter _)]
  simp only [List.mem_filter, decide_eq_true_eq]

theorem count_resolved (now : Finding.AreDistinct current) (before : Finding.AreDistinct previous) :
    ((split current previous).resolved.map Finding.key).count k =
      if k ∈ previous.map Finding.key ∧ k ∉ current.map Finding.key then 1 else 0 := by
  rw [split, keys_filter_not_occursIn before.named now.named, List.Nodup.count (before.keys.filter _)]
  simp only [List.mem_filter, decide_eq_true_eq]

end Comparison

end TabularAudit
