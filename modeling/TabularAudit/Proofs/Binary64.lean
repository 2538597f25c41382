import TabularAudit.Value.Text

/-!
A positive count stays positive as a float, unless it is too large for one, and an integer of fewer than 54 binary digits
stays what it is.
-/

namespace TabularAudit.Binary64

theorem div_le_roundHalfEven (num den : Nat) : num / den ≤ roundHalfEven num den := by
  simp only [roundHalfEven]
  split
  · exact Nat.le_refl _
  · split
    · exact Nat.le_succ _
    · split
      · exact Nat.le_refl _
      · exact Nat.le_succ _

theorem exponentFor_le_log2 (n : Nat) : exponentFor n 1 ≤ n.log2 := by
  have one : Nat.log2 1 = 0 := by decide
  simp only [exponentFor, leastExponent, one]
  split <;> omega

theorem ofRatio_one_pos {n : Nat} (pos : 0 < n) :
    ofRatio false n 1 = .infinite false ∨ ∃ m e, ofRatio false n 1 = .finite false m e ∧ 0 < m := by
  have digits : pow2 (exponentFor n 1).toNat ≤ n * pow2 (-exponentFor n 1).toNat := by
    have exponent := exponentFor_le_log2 n
    calc
      pow2 (exponentFor n 1).toNat ≤ pow2 n.log2 := Nat.pow_le_pow_right (by decide) (by omega)
      _ ≤ n := Nat.log2_self_le (by omega)
      _ ≤ n * pow2 (-exponentFor n 1).toNat := Nat.le_mul_of_pos_right n (Nat.two_pow_pos _)
  have rounded : 0 < roundHalfEven (n * pow2 (-exponentFor n 1).toNat) (1 * pow2 (exponentFor n 1).toNat) := by
    rw [Nat.one_mul]
    exact Nat.lt_of_lt_of_le (Nat.div_pos digits (Nat.two_pow_pos _)) (div_le_roundHalfEven _ _)
  simp only [ofRatio, Nat.ne_of_gt pos, if_false]
  by_cases carry : roundHalfEven (n * pow2 (-exponentFor n 1).toNat) (1 * pow2 (exponentFor n 1).toNat) = pow2 53
  · rw [if_pos carry]
    by_cases fits : exponentFor n 1 + 1 ≤ greatestExponent
    · exact .inr ⟨_, _, if_pos fits, Nat.two_pow_pos 52⟩
    · exact .inl (if_neg fits)
  · rw [if_neg carry]
    by_cases fits : exponentFor n 1 ≤ greatestExponent
    · rw [if_pos fits]
      exact .inr ⟨_, _, rfl, rounded⟩
    · exact .inl (if_neg fits)

theorem ofInt?_zero : ofInt? 0 = some zero := by decide

theorem ofInt?_natCast_pos {n : Nat} (pos : 0 < n) :
    ofInt? n = none ∨ ∃ m e, ofInt? n = some (.finite false m e) ∧ 0 < m := by
  have sign : decide ((n : Int) < 0) = false := by simp
  rw [ofInt?, sign, Int.natAbs_natCast]
  rcases ofRatio_one_pos pos with infinite | ⟨m, e, finite, positive⟩
  · rw [infinite]
    exact .inl rfl
  · rw [finite]
    exact .inr ⟨m, e, rfl, positive⟩

theorem pow2_add (m n : Nat) : pow2 (m + n) = pow2 m * pow2 n := Nat.pow_add 2 m n

theorem exponentFor_of_log2_lt {n : Nat} (pos : 0 < n) (small : n.log2 < 53) : exponentFor n 1 = n.log2 - 52 := by
  have one : Nat.log2 1 = 0 := by decide
  have exponent : max ((n.log2 : Int) - Nat.log2 1 - 53) leastExponent = n.log2 - 53 := by
    simp only [one, leastExponent]
    omega
  have places : (-((n.log2 : Int) - 53)).toNat = 53 - n.log2 ∧ (53 + ((n.log2 : Int) - 53).toNat) = 53 := by omega
  have filled : ¬ n * pow2 (53 - n.log2) < 1 * pow2 53 := by
    have digits : pow2 n.log2 ≤ n := Nat.log2_self_le (by omega)
    have split : pow2 53 = pow2 n.log2 * pow2 (53 - n.log2) := by
      rw [← pow2_add, Nat.add_sub_cancel' (Nat.le_of_lt small)]
    rw [Nat.one_mul, Nat.not_lt, split]
    exact Nat.mul_le_mul_right _ digits
  simp only [exponentFor, exponent, places, if_neg filled]
  omega

theorem ofRatio_one_of_lt {n : Nat} (negative : Bool) (pos : 0 < n) (small : n < pow2 53) :
    ofRatio negative n 1 = .finite negative (n * pow2 (52 - n.log2)) (n.log2 - 52) := by
  have digits : n.log2 < 53 := (Nat.log2_lt (by omega)).2 small
  have places : (-((n.log2 : Int) - 52)).toNat = 52 - n.log2 ∧ ((n.log2 : Int) - 52).toNat = 0 := by omega
  have exact : ∀ m, roundHalfEven m (1 * pow2 0) = m := by
    intro m
    simp [roundHalfEven, Nat.mod_one]
  have fits : n * pow2 (52 - n.log2) ≠ pow2 53 := by
    have above : n < pow2 (n.log2 + 1) := Nat.lt_log2_self
    have split : pow2 53 = pow2 (n.log2 + 1) * pow2 (52 - n.log2) := by
      rw [← pow2_add]
      congr 1
      omega
    rw [split]
    exact Nat.ne_of_lt (Nat.mul_lt_mul_of_pos_right above (Nat.two_pow_pos _))
  simp only [ofRatio, if_neg (Nat.ne_of_gt pos), exponentFor_of_log2_lt pos digits, places, exact, if_neg fits]
  rw [if_pos]
  simp only [greatestExponent]
  omega

theorem ofInt?_of_natAbs_lt {n : Int} (small : n.natAbs < pow2 53) :
    ∃ negative m e, ofInt? n = some (.finite negative m e) ∧ truncate negative m e = n := by
  rcases Nat.eq_zero_or_pos n.natAbs with zero | pos
  · rw [Int.natAbs_eq_zero.1 zero]
    exact ⟨false, 0, leastExponent, ofInt?_zero, by simp [truncate, signed]⟩
  · refine ⟨n < 0, n.natAbs * pow2 (52 - n.natAbs.log2), n.natAbs.log2 - 52, ?_, ?_⟩
    · rw [ofInt?, ofRatio_one_of_lt _ pos small]
    · have digits : n.natAbs.log2 < 53 := (Nat.log2_lt (by omega)).2 small
      have places : (-((n.natAbs.log2 : Int) - 52)).toNat = 52 - n.natAbs.log2 ∧
          ((n.natAbs.log2 : Int) - 52).toNat = 0 := by omega
      have whole : n.natAbs * pow2 (52 - n.natAbs.log2) * pow2 0 / pow2 (52 - n.natAbs.log2) = n.natAbs := by
        rw [Nat.mul_one (n.natAbs * pow2 (52 - n.natAbs.log2))]
        exact Nat.mul_div_cancel n.natAbs (Nat.two_pow_pos _)
      rw [truncate, places.1, places.2, whole, signed]
      split
      · next below =>
        have negative : n < 0 := of_decide_eq_true below
        omega
      · next above =>
        have positive : ¬n < 0 := fun below => above (decide_eq_true below)
        omega

theorem signed_zero_mul (e : Int) : (signed false 0 : Rat) * (2 : Rat) ^ e = 0 := by simp [signed]

theorem compare?_zero_zero : compare? zero zero = some .eq := by
  simp only [compare?, zero, signed_zero_mul, compareOfLessAndEq]
  rfl

theorem compare?_zero_of_pos {m : Nat} (pos : 0 < m) (e : Int) : compare? (.finite false m e) zero = some .gt := by
  have left : 0 < (signed false m : Rat) * (2 : Rat) ^ e :=
    Rat.mul_pos (Rat.intCast_pos.2 (Int.natCast_pos.2 pos)) (Rat.zpow_pos (by decide))
  simp only [compare?, zero, signed_zero_mul, compareOfLessAndEq]
  rw [if_neg (Rat.not_lt.2 (Rat.le_of_lt left)), if_neg (Rat.ne_of_gt left)]

end TabularAudit.Binary64

namespace TabularAudit.Value

theorem wholePart_of_natAbs_lt {n : Int} (small : n.natAbs < Binary64.pow2 53) : (int n).toNumber >>= wholePart = .ok n := by
  obtain ⟨negative, m, e, finite, whole⟩ := Binary64.ofInt?_of_natAbs_lt small
  rw [toNumber, finite]
  exact congrArg Except.ok whole

end TabularAudit.Value
