import Mathlib.Data.List.Sort
import TabularAudit.Proofs.Run.Order
import TabularAudit.Report.Shape

/-!
Findings of a report by category. The page sorts the findings by category and takes neighbours together; as sorting
leaves findings of one category in their order, the groups are the categories with their findings as they come.
-/

namespace TabularAudit

namespace Finding

def record (f : Finding) : Value := .map f.entries

end Finding

namespace Report

variable {f : Finding} {fs : List Finding}

def groupOf (fs : List Finding) (name : String) : Group :=
  ⟨.text name, (fs.filter fun f => f.category = name).map Finding.record⟩

theorem categoryOf_record (f : Finding) : categoryOf f.record = .text f.category := by
  have stored : member? f.record "category" = some (.text f.category) := rfl
  rw [categoryOf, stored, Option.getD_some, Value.orElse]
  split
  · next empty =>
      have nothing : f.category = "" := by simpa [Value.isEmpty_text] using empty
      rw [nothing]
  · rfl

theorem groupOf_cons_of_ne {name : String} (other : f.category ≠ name) : groupOf (f :: fs) name = groupOf fs name := by
  rw [groupOf, groupOf, List.filter_cons_of_neg (by simpa using other)]

theorem groupOf_cons_self : groupOf (f :: fs) f.category =
    ⟨.text f.category, f.record :: (groupOf fs f.category).findings⟩ := by
  rw [groupOf, List.filter_cons_of_pos (by simp), List.map_cons]
  rfl

theorem groups_cons_join {name : String} {more : List Group} (here : f.category = name)
    (grouped : groups (fs.map Finding.record) = groupOf fs name :: more) :
    groups ((f :: fs).map Finding.record) = groupOf (f :: fs) name :: more := by
  subst here
  have same : (Value.text f.category).sameKey (groupOf fs f.category).category = true := beq_self_eq_true f.category
  rw [List.map_cons, groups, grouped, groupOf_cons_self]
  simp only [categoryOf_record, same, if_true]

theorem groups_cons_start {names : List String} (new : f.category ∉ fs.map Finding.category)
    (others : ∀ name ∈ names, f.category ≠ name)
    (grouped : groups (fs.map Finding.record) = names.map (groupOf fs)) :
    groups ((f :: fs).map Finding.record) = (f.category :: names).map (groupOf (f :: fs)) := by
  have alone : groupOf (f :: fs) f.category = ⟨.text f.category, [f.record]⟩ := by
    have nothing : fs.filter (fun g => g.category = f.category) = [] := by
      apply List.filter_eq_nil_iff.2
      intro g member same
      exact new (of_decide_eq_true same ▸ List.mem_map_of_mem member)
    rw [groupOf_cons_self, groupOf, nothing, List.map_nil]
  have kept : names.map (groupOf (f :: fs)) = names.map (groupOf fs) :=
    List.map_congr_left fun name member => groupOf_cons_of_ne (others name member)
  rw [List.map_cons, List.map_cons, kept, groups, grouped, alone]
  cases names with
  | nil => simp only [List.map_nil, categoryOf_record]
  | cons name names =>
      have apart : (Value.text f.category).sameKey (groupOf fs name).category = false :=
        beq_eq_false_iff_ne.2 (others name List.mem_cons_self)
      simp only [List.map_cons, categoryOf_record, apart, Bool.false_eq_true, if_false]

/-- In a sorted list, neighbours of one category are all that there are of it. -/
theorem groups_of_sorted (sorted : fs.Pairwise fun f g => f.category ≤ g.category) :
    ∃ names : List String, names.Pairwise (· < ·) ∧ (∀ name, name ∈ names ↔ name ∈ fs.map Finding.category) ∧
      groups (fs.map Finding.record) = names.map (groupOf fs) := by
  induction fs with
  | nil => exact ⟨[], .nil, by simp, rfl⟩
  | cons f fs ih =>
      obtain ⟨least, sorted⟩ := List.pairwise_cons.1 sorted
      obtain ⟨names, increasing, same, grouped⟩ := ih sorted
      have bound : ∀ name ∈ names, f.category ≤ name := by
        intro name member
        obtain ⟨g, inside, rfl⟩ := List.mem_map.1 ((same name).1 member)
        exact least g inside
      -- The names that follow are no less, so that a category which is among them is the first of them.
      by_cases here : f.category ∈ names
      · refine ⟨names, increasing, ?_, ?_⟩
        · intro name
          rw [List.map_cons, List.mem_cons, same name]
          refine ⟨.inr, ?_⟩
          rintro (rfl | member)
          · exact (same _).1 here
          · exact member
        · cases names with
          | nil => cases here
          | cons name names =>
              obtain ⟨below, -⟩ := List.pairwise_cons.1 increasing
              have head : f.category = name := by
                rcases List.mem_cons.1 here with head | behind
                · exact head
                · exact absurd (bound name List.mem_cons_self) (not_le_of_gt (below _ behind))
              have kept : names.map (groupOf (f :: fs)) = names.map (groupOf fs) :=
                List.map_congr_left fun other member => groupOf_cons_of_ne (head ▸ (below other member).ne)
              rw [groups_cons_join head grouped, List.map_cons, kept]
      · have new : f.category ∉ fs.map Finding.category := fun member => here ((same _).2 member)
        have others : ∀ name ∈ names, f.category ≠ name := fun name member equal => here (equal ▸ member)
        refine ⟨f.category :: names, ?_, ?_, groups_cons_start new others grouped⟩
        · exact List.pairwise_cons.2 ⟨fun name member => lt_of_le_of_ne (bound name member) (others name member), increasing⟩
        · intro name
          rw [List.mem_cons, List.map_cons, List.mem_cons, same name]

theorem hasClash_records (fs : List Finding) : hasClash (fs.map Finding.record) = false := by
  have calm : ∀ f g : Finding, clash f.record g.record = false := by
    intro f g
    rw [clash, categoryOf_record, categoryOf_record]
    rfl
  induction fs with
  | nil => rfl
  | cons f fs ih =>
      rw [List.map_cons, hasClash, ih, Bool.or_false]
      apply List.any_eq_false.2
      intro v member
      obtain ⟨g, -, rfl⟩ := List.mem_map.1 member
      rw [calm f g]
      exact Bool.false_ne_true

theorem mergeSort_records (fs : List Finding) :
    (fs.map Finding.record).mergeSort (fun f g => !(categoryBefore g f).toOption.getD false) =
      (sortBy Finding.category fs).map Finding.record := by
  refine (List.map_mergeSort ?_).symm
  intro f _ g _
  rw [categoryBefore, categoryOf_record, categoryOf_record, Value.before]
  change decide (f.category ≤ g.category) = !decide (g.category < f.category)
  rw [← decide_not, decide_eq_decide, not_lt]

theorem filter_sortBy (fs : List Finding) (name : String) :
    (sortBy Finding.category fs).filter (fun f => f.category = name) = fs.filter fun f => f.category = name := by
  have level : (fs.filter fun f => f.category = name).Pairwise fun f g => decide (f.category ≤ g.category) = true := by
    apply List.pairwise_of_forall_mem_list
    intro f member g member'
    have first : f.category = name := of_decide_eq_true (List.mem_filter.1 member).2
    have second : g.category = name := of_decide_eq_true (List.mem_filter.1 member').2
    exact decide_eq_true (first.trans second.symm).le
  -- A stable sort keeps a sublist that is in order already, and both sides are of one length.
  have inside : (fs.filter fun f => f.category = name).Sublist (sortBy Finding.category fs) :=
    List.sublist_mergeSort (fun _ _ _ => by simpa using le_trans) (fun f g => by simpa using le_total f.category g.category)
      level List.filter_sublist
  have kept := inside.filter fun f => decide (f.category = name)
  rw [List.filter_filter] at kept
  simp only [Bool.and_self] at kept
  exact (kept.eq_of_length ((sortBy_perm Finding.category fs).filter _).length_eq.symm).symm

theorem nodup_eraseDups (names : List String) : names.eraseDups.Nodup := by
  match names with
  | [] => exact .nil
  | name :: rest =>
      have shorter : (rest.filter fun other => !other == name).length ≤ rest.length := List.length_filter_le _ rest
      rw [List.eraseDups_cons, List.nodup_cons, List.mem_eraseDups]
      exact ⟨by simp, nodup_eraseDups _⟩
termination_by names.length

theorem pairwise_sortedTexts (names : List String) : (Catalog.sortedTexts names).Pairwise (· < ·) := by
  have distinct : (Catalog.sortedTexts names).Nodup := (List.mergeSort_perm _ _).nodup_iff.2 (nodup_eraseDups names)
  have ordered := pairwise_sortBy id names.eraseDups
  exact (ordered.and distinct).imp fun ⟨below, differ⟩ => lt_of_le_of_ne below differ

theorem mem_sortedTexts {names : List String} {name : String} : name ∈ Catalog.sortedTexts names ↔ name ∈ names := by
  rw [Catalog.sortedTexts, List.mem_mergeSort, List.mem_eraseDups]

theorem byCategory_records (fs : List Finding) : byCategory (fs.map Finding.record) =
    .ok ((categories fs).map fun group => ⟨.text group.1, group.2.map Finding.record⟩) := by
  have records : (fs.map Finding.record).all isRecord = true := by
    apply List.all_eq_true.2
    intro v member
    obtain ⟨f, -, rfl⟩ := List.mem_map.1 member
    rfl
  obtain ⟨names, increasing, same, grouped⟩ := groups_of_sorted (pairwise_sortBy Finding.category fs)
  have sorted : names = Catalog.sortedTexts (fs.map Finding.category) := by
    apply increasing.eq_of_mem_iff (pairwise_sortedTexts _)
    intro name
    rw [same name, mem_sortedTexts, ((sortBy_perm Finding.category fs).map Finding.category).mem_iff]
  have kept : groupOf (sortBy Finding.category fs) = groupOf fs := by
    funext name
    rw [groupOf, groupOf, filter_sortBy]
  rw [byCategory, records, hasClash_records, mergeSort_records, grouped, kept, sorted, categories, List.map_map]
  rfl

end Report

end TabularAudit
