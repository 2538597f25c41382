import Mathlib.Algebra.BigOperators.Group.List.Lemmas
import Mathlib.Algebra.Ring.Nat
import Mathlib.Data.List.Count
import TabularAudit.Model.Index

/-!
What is counted by name. Lists fall into parts by a name of their members, each of which has one; a tally has one entry
for each name, and its counts sum to the number of all that was counted.
-/

namespace TabularAudit

section
variable {α β : Type} [DecidableEq β] (key : α → β)

theorem filter_mem_cons_perm {k : β} {ks : List β} (fresh : k ∉ ks) (xs : List α) :
    ((xs.filter fun x => key x = k) ++ xs.filter fun x => key x ∈ ks).Perm (xs.filter fun x => key x ∈ k :: ks) := by
  have first : (xs.filter fun x => key x ∈ k :: ks).filter (fun x => key x = k) = xs.filter fun x => key x = k := by
    rw [List.filter_filter]
    apply List.filter_congr
    intro x _
    by_cases here : key x = k <;> simp [here]
  have others : (xs.filter fun x => key x ∈ k :: ks).filter (fun x => !decide (key x = k)) =
      xs.filter fun x => key x ∈ ks := by
    rw [List.filter_filter]
    apply List.filter_congr
    intro x _
    by_cases here : key x = k <;> simp [here, fresh]
  rw [← first, ← others]
  exact List.filter_append_perm _ _

theorem sum_length_filter {ks : List β} (distinct : ks.Nodup) (xs : List α) :
    (ks.map fun k => (xs.filter fun x => key x = k).length).sum = (xs.filter fun x => key x ∈ ks).length := by
  induction ks with
  | nil => simp
  | cons k ks ih =>
      obtain ⟨fresh, distinct⟩ := List.nodup_cons.1 distinct
      rw [List.map_cons, List.sum_cons, ih distinct, ← List.length_append]
      exact (filter_mem_cons_perm key fresh xs).length_eq

theorem sum_length_filter_add_others {ks : List β} (distinct : ks.Nodup) (xs : List α) :
    (ks.map fun k => (xs.filter fun x => key x = k).length).sum + (xs.filter fun x => key x ∉ ks).length = xs.length := by
  rw [sum_length_filter key distinct, List.length_eq_length_filter_add (l := xs) fun x => key x ∈ ks]
  simp only [decide_not]

end

/-- Counts in which every name that occurs has one entry, with the number of times that it occurs. -/
structure Itemizes {α : Type} [DecidableEq α] (counts : List (α × Nat)) (names : List α) : Prop where
  distinct : (counts.map Prod.fst).Nodup
  mem_iff : ∀ k n, (k, n) ∈ counts ↔ k ∈ names ∧ names.count k = n

namespace Itemizes

section
variable {α β : Type} [DecidableEq α] [DecidableEq β] {counts counts' : List (α × Nat)} {names names' : List α}

theorem of_perm (items : Itemizes counts names) (perm : names.Perm names') : Itemizes counts names' where
  distinct := items.distinct
  mem_iff k n := by rw [items.mem_iff, perm.mem_iff, perm.count_eq]

theorem of_perm_entries (items : Itemizes counts names) (perm : counts.Perm counts') : Itemizes counts' names where
  distinct := (perm.map Prod.fst).nodup_iff.1 items.distinct
  mem_iff k n := by rw [← perm.mem_iff, items.mem_iff]

theorem map (items : Itemizes counts names) {f : α → β} (injective : Function.Injective f) :
    Itemizes (counts.map fun e => (f e.1, e.2)) (names.map f) where
  distinct := by
    have keys : (counts.map fun e => (f e.1, e.2)).map Prod.fst = (counts.map Prod.fst).map f := by
      rw [List.map_map, List.map_map]
      rfl
    rw [keys]
    exact items.distinct.map injective
  mem_iff k n := by
    constructor
    · intro member
      obtain ⟨⟨j, m⟩, inside, same⟩ := List.mem_map.1 member
      obtain ⟨rfl, rfl⟩ := Prod.mk.inj same
      obtain ⟨named, counted⟩ := (items.mem_iff j m).1 inside
      exact ⟨List.mem_map_of_mem named, (List.count_map_of_injective names f injective j).trans counted⟩
    · rintro ⟨named, counted⟩
      obtain ⟨j, inside, rfl⟩ := List.mem_map.1 named
      rw [List.count_map_of_injective names f injective] at counted
      exact List.mem_map.2 ⟨(j, n), (items.mem_iff j n).2 ⟨inside, counted⟩, rfl⟩

theorem sum_eq_length (items : Itemizes counts names) : (counts.map Prod.snd).sum = names.length := by
  have keys : (counts.map Prod.fst).Perm names.dedup := by
    apply (List.perm_ext_iff_of_nodup items.distinct names.nodup_dedup).2
    intro k
    rw [List.mem_dedup, List.mem_map]
    constructor
    · rintro ⟨⟨j, n⟩, member, rfl⟩
      exact ((items.mem_iff j n).1 member).1
    · intro named
      exact ⟨(k, names.count k), (items.mem_iff _ _).2 ⟨named, rfl⟩, rfl⟩
  have values : counts.map Prod.snd = (counts.map Prod.fst).map fun k => names.count k := by
    rw [List.map_map]
    apply List.map_congr_left
    rintro ⟨k, n⟩ member
    exact ((items.mem_iff k n).1 member).2.symm
  calc (counts.map Prod.snd).sum
    _ = (names.dedup.map fun k => names.count k).sum := by
        rw [values]
        exact (keys.map _).sum_eq
    _ = names.length := List.sum_map_count_dedup_eq_length names

end

end Itemizes

namespace Tally

variable {t : Tally} {names names' : List String} {k : String} {n : Nat}

theorem mem_keys_ofList : k ∈ (ofList names).map Prod.fst ↔ k ∈ names := by
  have asked := any_ofList names k
  rw [Bool.eq_iff_iff, List.any_eq_true, List.any_eq_true] at asked
  simpa [List.mem_map] using asked

theorem keys_add (t : Tally) (k : String) :
    (add t k).map Prod.fst = if k ∈ t.map Prod.fst then t.map Prod.fst else t.map Prod.fst ++ [k] := by
  induction t with
  | nil => rfl
  | cons e t ih =>
      obtain ⟨j, n⟩ := e
      by_cases same : j = k
      · simp [add, same]
      · by_cases inside : k ∈ t.map Prod.fst <;> simp [add, same, Ne.symm same, ih, inside]

theorem nodup_keys_add (distinct : (t.map Prod.fst).Nodup) (k : String) : ((add t k).map Prod.fst).Nodup := by
  rw [keys_add]
  split
  · exact distinct
  · next fresh => exact distinct.append (List.nodup_singleton k) (by simpa using fresh)

theorem nodup_keys_ofList (names : List String) : ((ofList names).map Prod.fst).Nodup := by
  suffices general : ∀ t : Tally, (t.map Prod.fst).Nodup → ((names.foldl add t).map Prod.fst).Nodup from
    general [] List.nodup_nil
  induction names with
  | nil => exact fun _ distinct => distinct
  | cons name names ih =>
      intro t distinct
      exact ih (add t name) (nodup_keys_add distinct name)

theorem count_eq_of_mem (distinct : (t.map Prod.fst).Nodup) (member : (k, n) ∈ t) : count t k = n := by
  induction t with
  | nil => cases member
  | cons e t ih =>
      obtain ⟨j, m⟩ := e
      obtain ⟨fresh, others⟩ := List.nodup_cons.1 distinct
      rcases List.mem_cons.1 member with same | member
      · obtain ⟨rfl, rfl⟩ := Prod.mk.inj same
        simp [count]
      · have differ : j ≠ k := by
          intro same
          exact fresh (List.mem_map.2 ⟨(k, n), member, same.symm⟩)
        rw [count, if_neg differ]
        exact ih others member

theorem mem_ofList_iff : (k, n) ∈ ofList names ↔ k ∈ names ∧ names.count k = n := by
  constructor
  · intro member
    have counted := count_eq_of_mem (nodup_keys_ofList names) member
    rw [count_ofList] at counted
    exact ⟨mem_keys_ofList.1 (List.mem_map_of_mem member), counted⟩
  · rintro ⟨named, rfl⟩
    obtain ⟨⟨j, m⟩, member, rfl⟩ := List.mem_map.1 (mem_keys_ofList.2 named)
    have counted := count_eq_of_mem (nodup_keys_ofList names) member
    rw [count_ofList] at counted
    exact counted ▸ member

theorem ofList_perm (perm : names.Perm names') : (ofList names).Perm (ofList names') := by
  apply (List.perm_ext_iff_of_nodup (nodup_keys_ofList names).of_map (nodup_keys_ofList names').of_map).2
  rintro ⟨k, n⟩
  rw [mem_ofList_iff, mem_ofList_iff, perm.mem_iff, perm.count_eq]

theorem itemizes_ofList (names : List String) : Itemizes (ofList names) names :=
  ⟨nodup_keys_ofList names, fun _ _ => mem_ofList_iff⟩

theorem sum_counts (names : List String) :
    (((ofList names).map Prod.fst).map (ofList names).count).sum = names.length := by
  have each : ((ofList names).map Prod.fst).map (ofList names).count = (ofList names).map Prod.snd := by
    rw [List.map_map]
    exact List.map_congr_left fun e member => count_eq_of_mem (nodup_keys_ofList names) member
  rw [each, (itemizes_ofList names).sum_eq_length]

end Tally

end TabularAudit
