import TabularAudit.Proofs.Expr.Sides
import TabularAudit.Proofs.Expr.Truth

/-!
Equality and its opposite. Of any two values, `!=` says the opposite of `=`, and fails where it fails; what an
expression says by itself, it says in an equality with a Boolean.
-/

namespace TabularAudit.Expr

inductive Compared (v w : Value) : Prop where
  | member (family member : String) (actual : Value) :
      (∀ r, compareBy r v w = memberCompare r family member actual) → Compared v w
  | nulls : (∀ r : Relation, compareBy r v w = .ok (r == .eq || r == .ge || r == .le)) → Compared v w
  | null : (∀ r : Relation, compareBy r v w = .ok (r == .ne)) → Compared v w
  | bools : (∀ r, compareBy r v w = boolCompare r v w) → Compared v w
  | plain : (∀ r, compareBy r v w = plainCompare r v w) → Compared v w

section
variable (v w : Value)

theorem compared : Compared v w := by
  -- Beside enums and nulls, only Booleans are told apart.
  have others : (∀ r, compareBy r v w = if v.isBool || w.isBool then boolCompare r v w else plainCompare r v w) →
      Compared v w := by
    intro same
    cases bool : v.isBool || w.isBool with
    | true => exact .bools fun r => by rw [same, bool, if_pos rfl]
    | false => exact .plain fun r => by rw [same, bool, if_neg Bool.false_ne_true]
  cases w with
  | enum family member => exact .member family member v fun r => by cases v <;> rfl
  | null =>
      cases v with
      | enum family member => exact .member family member .null fun r => rfl
      | null => exact .nulls fun r => rfl
      | _ => exact .null fun r => rfl
  | _ =>
      cases v with
      | enum family member => exact .member family member _ fun r => rfl
      | _ => exact others fun r => rfl

theorem memberCompare_ne (family member : String) :
    memberCompare .ne family member v = (memberCompare .eq family member v).map (!·) :=
  congrArg Except.ok (Relation.onBools_ne _ _)

theorem boolCompare_ne : boolCompare .ne v w = (boolCompare .eq v w).map (!·) :=
  congrArg Except.ok (Relation.onBools_ne _ _)

theorem plainCompare_ne : plainCompare .ne v w = (plainCompare .eq v w).map (!·) := by
  rw [plainCompare, plainCompare]
  split
  · cases v.toNumber with
    | error fault => rfl
    | ok x =>
        cases w.toNumber with
        | error fault => rfl
        | ok y => exact congrArg Except.ok (Relation.admits_ne _)
  · exact congrArg Except.ok (Relation.admits_ne _)

/-- The opposite of equality fails where equality fails, with the same fault. -/
theorem compareBy_ne : compareBy .ne v w = (compareBy .eq v w).map (!·) := by
  cases compared v w with
  | member family member actual same => rw [same, same, memberCompare_ne]
  | nulls same =>
      rw [same, same]
      rfl
  | null same =>
      rw [same, same]
      rfl
  | bools same => rw [same, same, boolCompare_ne]
  | plain same => rw [same, same, plainCompare_ne]

theorem toNumber_supported (reason : Unsupported) : v.toNumber ≠ .error (.unsupported reason) := by
  fun_cases Value.toNumber v <;> exact nofun

theorem plainCompare_supported (r : Relation) (reason : Unsupported) :
    plainCompare r v w ≠ .error (.unsupported reason) := by
  have first := toNumber_supported v reason
  have second := toNumber_supported w reason
  rw [plainCompare]
  split
  · cases left : v.toNumber with
    | error fault =>
        rw [left] at first
        exact fun failed => first (congrArg Except.error (Except.error.inj failed))
    | ok x =>
        cases right : w.toNumber with
        | error fault =>
            rw [right] at second
            exact fun failed => second (congrArg Except.error (Except.error.inj failed))
        | ok y => exact nofun
  · exact nofun

theorem compareBy_supported {r : Relation} (equality : r.isEquality = true) (reason : Unsupported) :
    compareBy r v w ≠ .error (.unsupported reason) := by
  cases compared v w with
  | member family member actual same =>
      rw [same, memberCompare, if_pos equality]
      exact nofun
  | nulls same =>
      rw [same]
      exact nofun
  | null same =>
      rw [same]
      exact nofun
  | bools same =>
      rw [same, boolCompare, if_pos equality]
      exact nofun
  | plain same =>
      rw [same]
      exact plainCompare_supported v w r reason

theorem compareBy_bool {v : Value} (noMember : ∀ family member, v ≠ .enum family member) (b : Bool) :
    compareBy .eq v (.bool b) = .ok (v.holds == b) := by
  cases v with
  | enum family member => exact absurd rfl (noMember family member)
  | _ => rfl

end

section
variable {n m : Node} {v w : Value} {b : Bool} {env : Env} {obj : Option ModelObject}

theorem truth_ne (first : (eval n env obj).result = .ok v) (second : (eval m env obj).result = .ok w) :
    truth (.not (.comparison "==" n m)) env obj = truth (.comparison "!=" n m) env obj := by
  have equal : truth (.comparison "==" n m) env obj = ⟨compareBy .eq v w, _⟩ :=
    truth_compared first second (compareBy_supported v w rfl)
  have unequal : truth (.comparison "!=" n m) env obj = ⟨compareBy .ne v w, _⟩ :=
    truth_compared first second (compareBy_supported v w rfl)
  rw [truth_not, equal, unequal, compareBy_ne]

theorem result_ne {a b : String} (first : (eval n env obj).result = .ok v) (second : (eval m env obj).result = .ok w)
    (left : side? a = some n) (right : side? b = some m) :
    (judge (.text ("not (" ++ a ++ " == " ++ b ++ ")")) obj env).result =
      (judge (.text (a ++ " != " ++ b)) obj env).result := by
  have negated : "not (" ++ a ++ " == " ++ b ++ ")" = "not (" ++ (a ++ " " ++ "==" ++ " " ++ b) ++ ")" := by
    apply String.toList_injective
    simp
  have unequal : a ++ " != " ++ b = a ++ " " ++ "!=" ++ " " ++ b := by
    apply String.toList_injective
    simp
  rw [negated, unequal, result_not_comparison left right (by decide), result_comparison left right (by decide),
    truth_ne first second]

/-- `!=` says the opposite of `=` of any two values, and fails just where it fails. So a negated equality and an
inequality say the same of any two expressions that have values. As texts, the two stand beside the sign by themselves
or, whatever they hold, in parentheses: of `x or y`, a sign without parentheses would compare only the `y`. -/
theorem inequality_is_opposite :
    (∀ v w, compare "!=" v w = (compare "=" v w).map (!·) ∧ compare "==" v w = compare "=" v w ∧
      compare "<>" v w = compare "!=" v w) ∧
    ∀ {n m v w env obj}, (eval n env obj).result = .ok v → (eval m env obj).result = .ok w →
      truth (.not (.comparison "==" n m)) env obj = truth (.comparison "!=" n m) env obj ∧
        ∀ a b, parse a = .ok n → parse b = .ok m →
          ((side? a).isSome = true → (side? b).isSome = true →
            (judge (.text ("not (" ++ a ++ " == " ++ b ++ ")")) obj env).result =
              (judge (.text (a ++ " != " ++ b)) obj env).result) ∧
          ((surface? a).isSome = true → (surface? b).isSome = true →
            (judge (.text ("not ((" ++ a ++ ") == (" ++ b ++ "))")) obj env).result =
              (judge (.text ("(" ++ a ++ ") != (" ++ b ++ ")")) obj env).result) := by
  refine ⟨fun v w => ⟨compareBy_ne v w, rfl, rfl⟩, fun first second => ⟨truth_ne first second, ?_⟩⟩
  intro a b parsedA parsedB
  refine ⟨fun sideA sideB => ?_, fun closedA closedB => ?_⟩
  · exact result_ne first second (side?_of_parse parsedA sideA) (side?_of_parse parsedB sideB)
  · have negated : "not ((" ++ a ++ ") == (" ++ b ++ "))" =
        "not (" ++ ("(" ++ a ++ ")") ++ " == " ++ ("(" ++ b ++ ")") ++ ")" := by
      apply String.toList_injective
      simp
    have unequal : "(" ++ a ++ ") != (" ++ b ++ ")" = "(" ++ a ++ ")" ++ " != " ++ ("(" ++ b ++ ")") := by
      apply String.toList_injective
      simp
    rw [negated, unequal]
    exact result_ne first second (side?_in_parentheses parsedA closedA) (side?_in_parentheses parsedB closedB)

theorem inequality_is_opposite_of_numeral :
    let a := "Size"
    let b := "'2.0'"
    let column : ModelObject := ⟨"Amount", .dataColumn, ⟨[("Size", .int 2)]⟩, none, none⟩
    parse a = .ok (.name "Size" []) ∧ parse b = .ok (.literal (.text "2.0")) ∧
      (judge (.text ("not (" ++ a ++ " == " ++ b ++ ")")) (some column) ⟨{}, none⟩).result =
        (judge (.text (a ++ " != " ++ b)) (some column) ⟨{}, none⟩).result := by
  intro a b column
  have left : side? "Size" = some (.name "Size" []) := by with_unfolding_all rfl
  have right : side? "'2.0'" = some (.literal (.text "2.0")) := by with_unfolding_all rfl
  have parsed := parse_of_side? left
  have parsed' := parse_of_side? right
  have stored : (eval (.name "Size" []) ⟨{}, none⟩ (some column)).result = .ok (.int 2) :=
    (eval_property (by decide)).trans rfl
  have texts := (inequality_is_opposite.2 stored (eval_literal _)).2 a b parsed parsed'
  exact ⟨parsed, parsed', texts.1 (left ▸ rfl) (right ▸ rfl)⟩

theorem result_flags {side word : String} (left : side? side = some n) (right : side? word = some (.literal (.bool b)))
    (value : (eval n env obj).result = .ok v) (noMember : ∀ family member, v ≠ .enum family member) :
    (judge (.text (side ++ " " ++ "==" ++ " " ++ word)) obj env).result = (v.holds == b) ∧
      (judge (.text (side ++ " " ++ "!=" ++ " " ++ word)) obj env).result = !(v.holds == b) := by
  have equal : compare "==" v (.bool b) = .ok (v.holds == b) := compareBy_bool noMember b
  have unequal : compare "!=" v (.bool b) = .ok (!(v.holds == b)) :=
    (compareBy_ne v (.bool b)).trans (congrArg (Except.map (!·)) equal)
  rw [result_comparison left right (by decide), result_comparison left right (by decide),
    truth_comparison value (eval_literal _) equal, truth_comparison value (eval_literal _) unequal]
  exact ⟨rfl, rfl⟩

/-- A flag by itself, or negated, says what its equality with a Boolean says. -/
theorem flag_comparisons_agree {e : String} (parsed : parse e = .ok n) (closed : (surface? e).isSome = true)
    (value : (eval n env obj).result = .ok v) (noMember : ∀ family member, v ≠ .enum family member) :
    let answer (s : String) := (judge (.text s) obj env).result
    (answer ("(" ++ e ++ ") == true") = answer e ∧ answer ("(" ++ e ++ ") != false") = answer e) ∧
      answer ("(" ++ e ++ ") == false") = answer ("not (" ++ e ++ ")") ∧
      answer ("(" ++ e ++ ") != true") = answer ("not (" ++ e ++ ")") := by
  intro answer
  have side := side?_in_parentheses parsed closed
  have yes : side? "true" = some (.literal (.bool true)) := by with_unfolding_all rfl
  have no : side? "false" = some (.literal (.bool false)) := by with_unfolding_all rfl
  obtain ⟨isTrue, isNotTrue⟩ := result_flags side yes value noMember
  obtain ⟨isFalse, isNotFalse⟩ := result_flags side no value noMember
  have alone : answer e = v.holds :=
    (judge_of_parse n env parsed obj).trans (congrArg settled (truth_of_eval value))
  have negated : answer ("not (" ++ e ++ ")") = !v.holds := by
    refine (judge_of_parse _ env (parse_not_parentheses parsed closed) obj).trans ?_
    rw [truth_not, truth_of_eval value]
    rfl
  have text : ∀ sign word,
      "(" ++ e ++ (") " ++ sign ++ " " ++ word) = "(" ++ e ++ ")" ++ " " ++ sign ++ " " ++ word := by
    intro sign word
    apply String.toList_injective
    simp
  rw [alone, negated]
  refine ⟨⟨?_, ?_⟩, ?_, ?_⟩
  · exact ((congrArg answer (text "==" "true")).trans isTrue).trans (beq_true _)
  · exact ((congrArg answer (text "!=" "false")).trans isNotFalse).trans (by simp)
  · exact ((congrArg answer (text "==" "false")).trans isFalse).trans (by simp)
  · exact ((congrArg answer (text "!=" "true")).trans isNotTrue).trans (by simp)

theorem flag_comparisons_agree_of_text :
    let e := "IsHidden"
    let column : ModelObject := ⟨"Amount", .dataColumn, ⟨[("IsHidden", .text " True")]⟩, none, none⟩
    let answer (s : String) := (judge (.text s) (some column) ⟨{}, none⟩).result
    parse e = .ok (.name "IsHidden" []) ∧
      (answer ("(" ++ e ++ ") == true") = answer e ∧ answer ("(" ++ e ++ ") != false") = answer e) ∧
      answer ("(" ++ e ++ ") == false") = answer ("not (" ++ e ++ ")") ∧
      answer ("(" ++ e ++ ") != true") = answer ("not (" ++ e ++ ")") := by
  intro e column answer
  have parsed : parse "IsHidden" = .ok (.name "IsHidden" []) := by with_unfolding_all rfl
  have closed : (surface? "IsHidden").isSome = true := by decide
  have stored : (eval (.name "IsHidden" []) ⟨{}, none⟩ (some column)).result = .ok (.text " True") :=
    (eval_property (by decide)).trans rfl
  exact ⟨parsed, flag_comparisons_agree parsed closed stored nofun⟩

end

end TabularAudit.Expr
