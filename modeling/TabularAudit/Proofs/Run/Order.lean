import Mathlib.Data.List.Nodup
import Mathlib.Data.Prod.Lex
import Mathlib.Data.String.Basic
import TabularAudit.Proofs.Run.Merge

/-!
The order of reports. Findings that name their objects by texts are ordered by severity downwards, category,
rule and object. The place in this order tells findings with distinct keys apart, so that sorting forgets in
which order they were found.
-/

namespace TabularAudit

section
variable {α β : Type} [LinearOrder β] (key : α → β)

def sortBy (xs : List α) : List α := xs.mergeSort fun a b => decide (key a ≤ key b)

theorem sortBy_perm (xs : List α) : (sortBy key xs).Perm xs := List.mergeSort_perm xs _

theorem pairwise_sortBy (xs : List α) : (sortBy key xs).Pairwise fun a b => key a ≤ key b := by
  have sorted : (sortBy key xs).Pairwise fun a b => decide (key a ≤ key b) = true := by
    apply List.pairwise_mergeSort
    · intro a b c
      simpa using le_trans
    · intro a b
      simpa using le_total (key a) (key b)
  exact sorted.imp of_decide_eq_true

theorem sortBy_eq_of_perm {xs ys : List α} (distinct : (xs.map key).Nodup) (perm : xs.Perm ys) :
    sortBy key xs = sortBy key ys := by
  apply List.Perm.eq_of_pairwise ?_ (pairwise_sortBy key xs) (pairwise_sortBy key ys)
  · exact (sortBy_perm key xs).trans (perm.trans (sortBy_perm key ys).symm)
  · intro a b here there before behind
    have member : a ∈ xs := (sortBy_perm key xs).mem_iff.1 here
    have member' : b ∈ xs := perm.mem_iff.2 ((sortBy_perm key ys).mem_iff.1 there)
    exact List.inj_on_of_nodup_map distinct member member' (le_antisymm before behind)

end

namespace Finding

variable {f g : Finding} {fs gs : List Finding}

def grade (f : Finding) : Int ×ₗ String ×ₗ String := toLex (-f.severity, toLex (f.category, f.ruleId))

def place (f : Finding) : (Int ×ₗ String ×ₗ String) ×ₗ String := toLex (f.grade, f.affectedObject.display)

theorem grade_eq_iff : f.grade = g.grade ↔
    f.severity = g.severity ∧ f.category = g.category ∧ f.ruleId = g.ruleId := by
  simp [grade]

theorem key_eq_of_place_eq (same : f.place = g.place) : f.key = g.key := by
  have parts : f.grade = g.grade ∧ f.affectedObject.display = g.affectedObject.display := by
    simpa [place] using same
  exact Prod.ext (grade_eq_iff.1 parts.1).2.2 parts.2

theorem compareOfLessAndEq_eq_iff {α : Type} [LinearOrder α] {x y : α} : compareOfLessAndEq x y = .eq ↔ x = y :=
  compareOfLessAndEq_eq_eq le_refl not_le

theorem rank_eq_lt_iff : f.rank g = .lt ↔ f.grade < g.grade := by
  simp only [rank, grade, Prod.Lex.toLex_lt_toLex, Ordering.then_eq_lt, compareOfLessAndEq_eq_lt,
    compareOfLessAndEq_eq_iff, Int.neg_lt_neg_iff, Int.neg_inj, @eq_comm Int g.severity]

theorem rank_eq_eq_iff : f.rank g = .eq ↔ f.grade = g.grade := by
  simp only [rank, grade_eq_iff, Ordering.then_eq_eq, compareOfLessAndEq_eq_iff, @eq_comm Int g.severity]

theorem precedes_iff (named : f.NamesObject) (named' : g.NamesObject) :
    f.precedes g = true ↔ f.place < g.place := by
  obtain ⟨s, object⟩ := named
  obtain ⟨t, object'⟩ := named'
  have objects : (!f.affectedObject.same g.affectedObject && (f.objectBefore g).toOption.getD false) =
      decide (s < t) := by
    rw [objectBefore, object, object', Value.same_text_text, Value.before]
    by_cases before : s < t
    · have differ : s ≠ t := ne_of_lt before
      simp [Except.toOption, before, differ]
    · simp [Except.toOption, before]
  rw [place, place, Prod.Lex.toLex_lt_toLex, object, object', Value.display_text, Value.display_text, precedes, objects]
  rw [← rank_eq_lt_iff, ← rank_eq_eq_iff]
  cases f.rank g <;> simp

theorem clashes_eq_false (named : f.NamesObject) (named' : g.NamesObject) : f.clashes g = false := by
  obtain ⟨s, object⟩ := named
  obtain ⟨t, object'⟩ := named'
  rw [clashes, object, object']
  rfl

theorem ordered_eq (named : ∀ f ∈ fs, f.NamesObject) : ordered fs = .ok (sortBy place fs) := by
  have orderable : (fs.any fun f => fs.any f.clashes) = false := by
    apply List.any_eq_false.2
    intro f member clash
    obtain ⟨g, there, clash⟩ := List.any_eq_true.1 clash
    rw [clashes_eq_false (named f member) (named g there)] at clash
    cases clash
  have sorted : (fs.mergeSort fun f g => !g.precedes f).map id =
      (fs.map id).mergeSort fun f g => decide (f.place ≤ g.place) := by
    apply List.map_mergeSort
    intro f member g there
    rw [Bool.eq_iff_iff, Bool.not_eq_true', ← Bool.not_eq_true, precedes_iff (named g there) (named f member), not_lt,
      id, id, decide_eq_true_iff]
  rw [List.map_id, List.map_id] at sorted
  rw [ordered, orderable, sorted]
  rfl

theorem nodup_places (distinct : (fs.map key).Nodup) : (fs.map place).Nodup := by
  apply List.Nodup.map_on ?_ distinct.of_map
  intro f member g there same
  exact List.inj_on_of_nodup_map distinct member there (key_eq_of_place_eq same)

end Finding

end TabularAudit
