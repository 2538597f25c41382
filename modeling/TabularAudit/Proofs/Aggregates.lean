import TabularAudit.Proofs.Expr.Comparison
import TabularAudit.Proofs.Expr.Lookup
import TabularAudit.Proofs.Expr.Truth
import TabularAudit.Proofs.Snapshot

/-!
Counts of relationships beside the expressions for the same facts. An expression finds every relationship that is
counted, and also those whose flag is off in a loose sense or whose direction is written behind its family.
-/

namespace TabularAudit

namespace Expr

def inactiveTest : String := "IsActive == false"

def bidirectionalTest : String := "CrossFilteringBehavior == CrossFilteringBehavior.BothDirections"

theorem parse_inactiveTest :
    parse inactiveTest = .ok (.comparison "==" (.name "IsActive" []) (.literal (.bool false))) := by
  refine (parse_ofList _).trans ?_
  with_unfolding_all rfl

theorem parse_bidirectionalTest :
    parse bidirectionalTest = .ok (.comparison "==" (.name "CrossFilteringBehavior" [])
      (.name "CrossFilteringBehavior" ["BothDirections"])) := by
  refine (parse_ofList _).trans ?_
  with_unfolding_all rfl

theorem matchesMember_of_endsIn {v : Value} (ended : EndsIn literalEnds v.plainText) :
    matchesMember "CrossFilteringBehavior" "BothDirections" v = false := by
  have small := Text.endsIn_lower ended
  have alone : (Text.lower v.plainText).toList ≠ (Text.lower "BothDirections").toList := by
    intro same
    exact ne_of_endsIn small (c := 's') (by decide) (by decide) (String.toList_injective same)
  have behind := not_isSuffixOf_of_endsIn small ('.' :: (Text.lower "BothDirections").toList) (c := 's')
    (by decide) (by decide)
  have exact : isContained "CrossFilteringBehavior" = false := by decide
  rw [matchesMember.eq_def]
  split
  · rfl
  · simp only [exact, Bool.false_eq_true, if_false, behind, Bool.or_false]
    exact beq_eq_false_iff_ne.2 alone

theorem matchesMember_text (s : String) : matchesMember "CrossFilteringBehavior" "BothDirections" (.text s) =
    (Text.lower s == "bothdirections" || (Value.text s).isQualified "BothDirections") := by
  have word : Text.lower "BothDirections" = "bothdirections" := by decide
  have alone : ((Text.lower s).toList == (Text.lower "BothDirections").toList) = (Text.lower s == "bothdirections") := by
    rw [word, Bool.eq_iff_iff, beq_iff_eq, beq_iff_eq, String.toList_inj]
  rw [← alone]
  rfl

theorem matchesMember_enum (family own : String) :
    matchesMember "CrossFilteringBehavior" "BothDirections" (.enum family own) =
      (Value.enum family own).isQualified "BothDirections" := by
  have alone : ((Text.lower own).toList == (Text.lower "BothDirections").toList) =
      (Text.lower own == Text.lower "BothDirections") := by
    rw [Bool.eq_iff_iff, beq_iff_eq, beq_iff_eq, String.toList_inj]
  rw [Value.isQualified, ← alone]
  rfl

end Expr

theorem lower_display_ne {v : Value} (noText : v.isText = false) :
    (Text.lower (v.orElse (.text "")).display == "bothdirections") = false := by
  rw [Value.orElse]
  split
  · decide
  · have written : v.display = v.literal := by
      cases v with
      | text s => cases noText
      | _ => rfl
    rw [written]
    exact beq_eq_false_iff_ne.2 (ne_of_endsIn (Text.endsIn_lower (Value.endsIn_literal noText)) (c := 's') (by decide)
      (by decide))

theorem compare_bothDirections (v : Value) :
    Expr.compare "==" v (.enum "CrossFilteringBehavior" "BothDirections") =
      .ok (Text.lower (v.orElse (.text "")).display == "bothdirections" || v.isQualified "BothDirections") := by
  rw [Expr.compare_enum]
  refine congrArg Except.ok ?_
  cases v with
  | null => decide
  | text s => rw [Value.display_orElse_text, Expr.matchesMember_text]
  | enum family own => rw [lower_display_ne rfl, Expr.matchesMember_enum, Bool.false_or]
  | _ =>
      rw [lower_display_ne rfl, Bool.false_or]
      exact Expr.matchesMember_of_endsIn (Value.endsIn_plainText rfl (by simp) (by simp))

section
variable {α : Type} {p q : α → Bool}

theorem length_filter_or (apart : ∀ a, p a = true → q a = false) (as : List α) :
    (as.filter fun a => p a || q a).length = (as.filter p).length + (as.filter q).length := by
  induction as with
  | nil => rfl
  | cons a as ih =>
      cases first : p a with
      | true => simp [first, apart a first, ih, Nat.add_right_comm]
      | false => cases second : q a <;> simp [first, second, ih, Nat.add_assoc]

theorem length_eq_add_iff {n : Nat} {as : List α} : n = n + (as.filter q).length ↔ ∀ a ∈ as, q a = false := by
  rw [Nat.left_eq_add, List.length_eq_zero_iff, List.filter_eq_nil_iff]
  simp only [Bool.not_eq_true]

end

namespace Index

variable (r : ModelObject) (c : Index)

theorem isInactive_eq : isInactive r = decide (r.properties.get "IsActive" = .bool false) := by
  rw [isInactive]
  split
  · next off => rw [off, decide_eq_true rfl]
  · next other => exact (decide_eq_false other).symm

theorem holds_inactiveTest : Expr.holds (.text Expr.inactiveTest) r c =
    (isInactive r || (r.properties.get "IsActive").isLooselyOff) := by
  have value : (Expr.truth (.comparison "==" (.name "IsActive" []) (.literal (.bool false))) ⟨c, none⟩ (some r)).result =
      .ok (decide (Expr.readProperty r "IsActive" = .bool false) || (Expr.readProperty r "IsActive").isLooselyOff) :=
    Expr.truth_comparison (Expr.eval_property (by decide)) (Expr.eval_literal _) (Expr.compare_false _)
  rw [Expr.holds_of_truth Expr.parse_inactiveTest value, isInactive_eq, Expr.readProperty_flag (by decide) (by decide),
    Bag.get]
  cases r.properties.find? "IsActive" <;> rfl

theorem holds_bidirectionalTest : Expr.holds (.text Expr.bidirectionalTest) r c =
    (isBidirectional r || (r.properties.get "CrossFilteringBehavior").isQualified "BothDirections") := by
  have property : (Expr.eval (.name "CrossFilteringBehavior" []) ⟨c, none⟩ (some r)).result =
      .ok (r.properties.get "CrossFilteringBehavior") := by
    rw [Expr.eval_property (by decide), Expr.readProperty_eq_get (by decide) (by decide)]
  rw [Expr.holds_of_truth Expr.parse_bidirectionalTest
    (Expr.truth_comparison property (Expr.eval_member _ r (by decide) _) (compare_bothDirections _))]
  rfl

variable {r}

theorem not_isLooselyOff_of_isInactive (inactive : isInactive r = true) :
    (r.properties.get "IsActive").isLooselyOff = false := by
  rw [isInactive_eq, decide_eq_true_iff] at inactive
  rw [inactive]
  rfl

theorem not_isQualified_of_isBidirectional (both : isBidirectional r = true) :
    (r.properties.get "CrossFilteringBehavior").isQualified "BothDirections" = false := by
  rw [isBidirectional, reads] at both
  cases stored : r.properties.get "CrossFilteringBehavior" with
  | text s =>
      rw [stored, Value.display_orElse_text, beq_iff_eq] at both
      rw [Value.isQualified, Value.endsBehindPoint, both]
      decide
  | enum family own =>
      rw [stored, lower_display_ne rfl] at both
      cases both
  | _ => rfl

/-- An expression finds the relationships that are counted, and those whose flag is loosely off or whose direction is
qualified. Count and expression agree exactly if there are none of these. -/
theorem relationship_counts (os : List ModelObject) :
    let c := ofObjects os
    let rs := ofKind os .relationship
    let found (test : String) := rs.filter fun r => Expr.holds (.text test) r c
    let loose := rs.filter fun r => (r.properties.get "IsActive").isLooselyOff
    let qualified := rs.filter fun r => (r.properties.get "CrossFilteringBehavior").isQualified "BothDirections"
    ∃ inactive both, c.aggregate? "InactiveRelationshipCount" = some inactive ∧
      c.aggregate? "BidirectionalRelationshipCount" = some both ∧
      (found Expr.inactiveTest).length = inactive + loose.length ∧
      (found Expr.bidirectionalTest).length = both + qualified.length ∧
      (inactive = (found Expr.inactiveTest).length ↔
        ∀ r ∈ rs, (r.properties.get "IsActive").isLooselyOff = false) ∧
      (both = (found Expr.bidirectionalTest).length ↔
        ∀ r ∈ rs, (r.properties.get "CrossFilteringBehavior").isQualified "BothDirections" = false) := by
  intro c rs found loose qualified
  have inactive : (found Expr.inactiveTest).length = (rs.filter isInactive).length + loose.length := by
    simp only [found, holds_inactiveTest]
    exact length_filter_or (fun _ => not_isLooselyOff_of_isInactive) rs
  have both : (found Expr.bidirectionalTest).length = (rs.filter isBidirectional).length + qualified.length := by
    simp only [found, holds_bidirectionalTest]
    exact length_filter_or (fun _ => not_isQualified_of_isBidirectional) rs
  refine ⟨_, _, rfl, rfl, inactive, both, ?_, ?_⟩
  · rw [inactive]
    exact length_eq_add_iff
  · rw [both]
    exact length_eq_add_iff

def codedRelationship : Value :=
  .map [("relationships", .list [.map [("Name", .text "r"), ("IsActive", .int 0),
    ("CrossFilteringBehavior", .text "CrossFilteringBehavior.BothDirections")]])]

theorem relationship_counts_of_coded :
    ∃ os, Snapshot.objects codedRelationship = .ok os ∧
      (ofObjects os).aggregate? "InactiveRelationshipCount" = some 0 ∧
      ((ofKind os .relationship).filter fun r => Expr.holds (.text Expr.inactiveTest) r (ofObjects os)).length = 1 ∧
      (ofObjects os).aggregate? "BidirectionalRelationshipCount" = some 0 ∧
      ((ofKind os .relationship).filter fun r =>
        Expr.holds (.text Expr.bidirectionalTest) r (ofObjects os)).length = 1 := by
  obtain ⟨os, accepted, checked⟩ := Snapshot.exists_of_accepts codedRelationship (fun os =>
    ((ofKind os .relationship).filter isInactive).length == 0 &&
    ((ofKind os .relationship).filter fun r =>
      isInactive r || (r.properties.get "IsActive").isLooselyOff).length == 1 &&
    ((ofKind os .relationship).filter isBidirectional).length == 0 &&
    ((ofKind os .relationship).filter fun r =>
      isBidirectional r || (r.properties.get "CrossFilteringBehavior").isQualified "BothDirections").length == 1)
    (by decide +kernel)
  simp only [Bool.and_eq_true, beq_iff_eq] at checked
  obtain ⟨⟨⟨inactive, off⟩, both⟩, found⟩ := checked
  refine ⟨os, accepted, congrArg some inactive, ?_, congrArg some both, ?_⟩
  · simpa only [holds_inactiveTest] using off
  · simpa only [holds_bidirectionalTest] using found

end Index

end TabularAudit
