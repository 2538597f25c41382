import Mathlib.Algebra.Order.Ring.Unbundled.Rat
import TabularAudit.Proofs.Run.Comparison
import TabularAudit.Run.Key

/-!
Two runs of any findings side by side. Objects that are no lists or maps are told apart by what of them counts in a key,
so that a comparison deals the findings out by their keys, however often a key occurs and whatever else the findings
that share it say.
-/

namespace TabularAudit

namespace Binary64

variable {x y : Binary64}

theorem signed_natAbs (n : Int) : signed (n < 0) n.natAbs = n := by
  by_cases negative : n < 0
  · rw [decide_eq_true negative, signed, if_pos rfl]
    omega
  · rw [decide_eq_false negative, signed, if_neg Bool.false_ne_true]
    omega

theorem atom_eq_notNumber_iff : x.atom = .notNumber ↔ x = nan := by
  cases x <;> simp [atom]

/-- Numbers are compared as equal if they are one in a key, except for what is not a number. -/
theorem compare?_eq_iff : x.compare? y = some .eq ↔ x.atom = y.atom ∧ x ≠ nan := by
  cases x with
  | nan => simp [compare?]
  | infinite a =>
      cases y with
      | infinite b => cases a <;> cases b <;> simp [compare?, atom]
      | _ => cases a <;> simp [compare?, atom]
  | finite a m e =>
      cases y with
      | nan => simp [compare?, atom]
      | infinite b => cases b <;> simp [compare?, atom]
      | finite b n f =>
          have sizes {p q : Rat} : compareOfLessAndEq p q = .eq ↔ p = q := compareOfLessAndEq_eq_eq le_refl not_le
          simp [compare?, atom, sizes]

end Binary64

namespace Value

variable {v w : Value} {x : Binary64}

theorem atom?_eq_of_magnitude (size : v.magnitude? = some x) : v.atom? = some x.atom := by
  cases v with
  | bool b =>
      cases size
      cases b <;> simp [atom?, Binary64.atom, Binary64.signed]
  | int n =>
      cases size
      simp [atom?, Binary64.atom, Binary64.signed_natAbs]
  | float y =>
      cases size
      rfl
  | _ => cases size

theorem atom?_ne_of_magnitude (size : v.magnitude? = none) : v.atom? ≠ some x.atom := by
  cases v with
  | bool _ | int _ | float _ => cases size
  | _ => cases x <;> simp [atom?, Binary64.atom]

theorem atom?_eq_notNumber_iff : v.atom? = some .notNumber ↔ v = float .nan := by
  cases v <;> simp [atom?, Binary64.atom_eq_notNumber_iff]

theorem sameNumber_iff (size : v.magnitude? = some x) :
    v.sameNumber w = true ↔ v.atom? = w.atom? ∧ v ≠ float .nan := by
  rw [Ne, ← atom?_eq_notNumber_iff, sameNumber, size, atom?_eq_of_magnitude size]
  cases size' : w.magnitude? with
  | none => simp [(atom?_ne_of_magnitude size').symm]
  | some y => simp [atom?_eq_of_magnitude size', Binary64.compare?_eq_iff, Binary64.atom_eq_notNumber_iff]

theorem same_iff (atom : v.isAtom = true) : v.same w = true ↔ v.atom? = w.atom? ∧ v ≠ float .nan := by
  cases v with
  | bool _ | int _ | float _ =>
      rw [← sameNumber_iff rfl]
      cases w <;> simp only [same]
  | list _ | map _ => cases atom
  | _ =>
      cases w with
      | bool _ | int _ | float _ =>
          simp only [same, sameNumber, magnitude?, Bool.false_eq_true, false_iff]
          rintro ⟨one, -⟩
          exact atom?_ne_of_magnitude rfl (one.trans (atom?_eq_of_magnitude rfl))
      | _ => simp [same, sameNumber, magnitude?, atom?]

theorem sameKey_iff (atom : v.isAtom = true) : v.sameKey w = true ↔ v.atom? = w.atom? := by
  by_cases odd : v = float .nan ∧ w = float .nan
  · rw [odd.1, odd.2]
    exact iff_of_true rfl rfl
  · have numbers : v.sameKey w = v.same w := by
      rw [sameKey]
      rintro rfl rfl
      exact odd ⟨rfl, rfl⟩
    rw [numbers, same_iff atom]
    apply and_iff_left_of_imp
    rintro one rfl
    exact odd ⟨rfl, atom?_eq_notNumber_iff.1 one.symm⟩

end Value

theorem Finding.sameKey_iff {f g : Finding} (atom : f.affectedObject.isAtom = true) :
    f.sameKey g = true ↔ f.exactKey = g.exactKey := by
  rw [sameKey, Bool.and_eq_true, beq_iff_eq, Value.sameKey_iff atom, exactKey, exactKey, Prod.mk.injEq]

namespace Comparison

open Finding

variable {current previous fs : List Finding} {f g : Finding}

/-- How a comparison deals out two runs. Each finding of the later one, as often as it stands there, is either new or
recurring, by whether its key occurs in the earlier one. What is resolved are the findings of the earlier one whose keys
do not occur in the later one, in their order. -/
structure DealsOut (c : Comparison) (current previous : List Finding) : Prop where
  once : ∀ f ∈ current, c.fresh.count f = current.count f ∧ c.recurring.count f = 0 ∨
    c.fresh.count f = 0 ∧ c.recurring.count f = current.count f
  fresh_sublist : c.fresh.Sublist current
  recurring_sublist : c.recurring.Sublist current
  resolved_eq : c.resolved = previous.filter fun f => f.exactKey ∉ current.map exactKey
  fresh_keys : ∀ f ∈ c.fresh, f.exactKey ∉ previous.map exactKey
  recurring_keys : ∀ f ∈ c.recurring, f.exactKey ∈ previous.map exactKey
  resolved_keys : ∀ f ∈ c.resolved, f.exactKey ∉ current.map exactKey

theorem occursIn_eq_decide (atom : f.affectedObject.isAtom = true) (fs : List Finding) :
    occursIn f fs = decide (f.exactKey ∈ fs.map exactKey) := by
  rw [Bool.eq_iff_iff, decide_eq_true_iff]
  exact occursIn_iff_of_key exactKey fun g _ => sameKey_iff atom

theorem isFixed_iff (atoms : ∀ g ∈ fs, g.affectedObject.isAtom = true) :
    isFixed f fs = true ↔ f.exactKey ∉ fs.map exactKey := by
  rw [isFixed, List.all_eq_true, List.mem_map, not_exists]
  apply forall_congr'
  intro g
  rw [not_and]
  apply forall_congr'
  intro member
  rw [Bool.not_eq_true', ← Bool.not_eq_true, sameKey_iff (atoms g member)]

theorem split_eq (now : ∀ f ∈ current, f.affectedObject.isAtom = true)
    (before : ∀ f ∈ previous, f.affectedObject.isAtom = true) : split current previous =
      { resolved := previous.filter fun f => f.exactKey ∉ current.map exactKey
        fresh := current.filter fun f => f.exactKey ∉ previous.map exactKey
        recurring := current.filter fun f => f.exactKey ∈ previous.map exactKey } := by
  rw [split, mk.injEq]
  refine ⟨?_, ?_, ?_⟩
  · apply List.filter_congr
    intro f member
    rw [occursIn_eq_decide (before f member), ← decide_not]
  · apply List.filter_congr
    intro f member
    rw [occursIn_eq_decide (now f member), ← decide_not]
  · apply List.filter_congr
    intro f member
    exact occursIn_eq_decide (now f member) previous

theorem count_filter_of_eq_false {p : Finding → Bool} (fails : p f = false) : (fs.filter p).count f = 0 := by
  apply List.count_eq_zero.2
  intro member
  rw [(List.mem_filter.1 member).2] at fails
  cases fails

theorem dealsOut_split (now : ∀ f ∈ current, f.affectedObject.isAtom = true)
    (before : ∀ f ∈ previous, f.affectedObject.isAtom = true) : (split current previous).DealsOut current previous := by
  rw [split_eq now before]
  constructor
  case once =>
    intro f _
    by_cases seen : f.exactKey ∈ previous.map exactKey
    · exact .inr ⟨count_filter_of_eq_false (decide_eq_false (not_not.2 seen)), List.count_filter (decide_eq_true seen)⟩
    · exact .inl ⟨List.count_filter (decide_eq_true seen), count_filter_of_eq_false (decide_eq_false seen)⟩
  case fresh_sublist => exact List.filter_sublist
  case recurring_sublist => exact List.filter_sublist
  case resolved_eq => rfl
  case fresh_keys => exact fun f member => of_decide_eq_true (List.mem_filter.1 member).2
  case recurring_keys => exact fun f member => of_decide_eq_true (List.mem_filter.1 member).2
  case resolved_keys => exact fun f member => of_decide_eq_true (List.mem_filter.1 member).2

theorem mem_keys_recurring_iff (now : ∀ f ∈ current, f.affectedObject.isAtom = true)
    (before : ∀ f ∈ previous, f.affectedObject.isAtom = true) {k : String × Option Atom} :
    k ∈ (split current previous).recurring.map exactKey ↔ k ∈ current.map exactKey ∧ k ∈ previous.map exactKey := by
  have keys : (current.filter fun f => f.exactKey ∈ previous.map exactKey).map exactKey =
      (current.map exactKey).filter fun k => k ∈ previous.map exactKey := by
    rw [List.filter_map]
    rfl
  rw [split_eq now before, keys, List.mem_filter, decide_eq_true_iff]

theorem split_self (now : ∀ f ∈ current, f.affectedObject.isAtom = true) :
    split current current = { recurring := current } := by
  have seen : ∀ f ∈ current, f.exactKey ∈ current.map exactKey := fun f member => List.mem_map_of_mem member
  have none : current.filter (fun f => f.exactKey ∉ current.map exactKey) = [] := by
    apply List.filter_eq_nil_iff.2
    intro f member gone
    exact of_decide_eq_true gone (seen f member)
  have all : current.filter (fun f => f.exactKey ∈ current.map exactKey) = current := by
    apply List.filter_eq_self.2
    intro f member
    exact decide_eq_true (seen f member)
  rw [split_eq now now, none, all]

theorem ofRuns_of_atoms (now : ∀ f ∈ current, f.affectedObject.isAtom = true)
    (before : ∀ f ∈ previous, f.affectedObject.isAtom = true) :
    ofRuns current previous = .ok (split current previous) := by
  rw [ofRuns, isKeyed, isKeyed, List.all_eq_true.2 now, List.all_eq_true.2 before]
  rfl

/-- Two runs whose objects can stand in keys are compared, whatever keys they share and however often. Comparing them the
other way round exchanges what is new and what is resolved, and the same keys recur. A run compared with itself only
recurs. A finding of the earlier run is fixed exactly if it is resolved. -/
theorem ofRuns_dealsOut (atoms : ∀ f ∈ current ++ previous, f.affectedObject.isAtom = true) :
    ∃ c back, ofRuns current previous = .ok c ∧ ofRuns previous current = .ok back ∧
      c.DealsOut current previous ∧ back.fresh = c.resolved ∧ back.resolved = c.fresh ∧
      (∀ k, k ∈ back.recurring.map exactKey ↔ k ∈ c.recurring.map exactKey) ∧
      ofRuns current current = .ok { recurring := current } ∧
      ∀ f ∈ previous, isFixed f current = true ↔ f ∈ c.resolved := by
  have now : ∀ f ∈ current, f.affectedObject.isAtom = true := fun f member => atoms f (List.mem_append_left _ member)
  have before : ∀ f ∈ previous, f.affectedObject.isAtom = true := fun f member => atoms f (List.mem_append_right _ member)
  have deals := dealsOut_split now before
  refine ⟨split current previous, split previous current, ofRuns_of_atoms now before, ofRuns_of_atoms before now, deals,
    rfl, rfl, ?_, ?_, ?_⟩
  · intro k
    rw [mem_keys_recurring_iff now before, mem_keys_recurring_iff before now]
    exact and_comm
  · rw [ofRuns_of_atoms now now, split_self now]
  · intro f member
    rw [isFixed_iff now, deals.resolved_eq, List.mem_filter, decide_eq_true_iff]
    exact (and_iff_right member).symm

/-- A finding stands twice in the later run and recurs twice, since the earlier run has one of another severity that names
the same number as its object. -/
theorem ofRuns_dealsOut_of_shared_key :
    let f : Finding := ⟨"R", "Rule", "", 2, "", .int 1, .text "Table", false⟩
    let g : Finding := { f with severity := 3, affectedObject := .bool true }
    ∃ c, ofRuns [f, { f with ruleId := "S" }, f] [g] = .ok c ∧ c.recurring.count f = 2 ∧ c.resolved = [] := by
  intro f g
  have atoms : ∀ h ∈ [f, { f with ruleId := "S" }, f] ++ [g], h.affectedObject.isAtom = true := by decide
  obtain ⟨c, back, compared, -, deals, -⟩ := ofRuns_dealsOut atoms
  refine ⟨c, compared, ?_, ?_⟩
  · rcases deals.once f List.mem_cons_self with ⟨fresh, -⟩ | ⟨-, recurring⟩
    · have member : f ∈ c.fresh := by
        apply List.count_pos_iff.1
        rw [fresh]
        decide
      exact absurd (by decide) (deals.fresh_keys f member)
    · rw [recurring]
      decide
  · rw [deals.resolved_eq]
    decide

end Comparison

end TabularAudit
