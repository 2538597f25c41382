import Mathlib.Data.List.Basic
import TabularAudit.Number.Numeral

/-!
What a text of digit signs is read as. It is an integer exactly if every sign is a decimal digit and there are not too many
of them, and the digits of an integer are read as that integer.
-/

namespace TabularAudit

namespace Text

theorem isBlank_of_isMargin {c : Char} (margin : Numeral.isMargin c = true) : isBlank c = true := by
  rw [Numeral.isMargin] at margin
  split at margin
  · rw [Bool.or_eq_true, beq_iff_eq, Bool.and_eq_true, decide_eq_true_eq, decide_eq_true_eq] at margin
    rcases margin with rfl | ⟨low, high⟩
    · decide
    · exact Ranges.has_cons_of_mem _ low high
  · exact margin

theorem not_isMargin_of_isDigit {c : Char} (digit : isDigit c = true) : Numeral.isMargin c = false := by
  have apart : digitRanges.apart blankRanges = true := by decide +kernel
  rw [Bool.eq_false_iff]
  intro margin
  have blank : blankRanges.has c.toNat = true := isBlank_of_isMargin margin
  rw [Ranges.not_has_of_apart apart digit] at blank
  cases blank

theorem decimalIn_cons_of_mem {first last n : Nat} (rest : Ranges) (low : first ≤ n) (high : n ≤ last) :
    decimalIn ((first, last) :: rest) n = some ((n - first) % 10) := by
  rw [decimalIn, if_neg (Nat.not_lt.2 low), if_pos high]

theorem decimalValue?_of_isDigit {c : Char} (digit : c.isDigit = true) : decimalValue? c = some (c.toNat - '0'.toNat) := by
  obtain ⟨low, high⟩ := Char.isDigit_iff_toNat.1 digit
  have small : c.toNat - '0'.toNat < 10 := by
    change c.toNat ≤ 57 at high
    change c.toNat - 48 < 10
    omega
  exact (decimalIn_cons_of_mem _ low high).trans (congrArg some (Nat.mod_eq_of_lt small))

theorem isDecimal_of_charIsDigit {c : Char} (digit : c.isDigit = true) : isDecimal c = true := by
  rw [isDecimal, decimalValue?_of_isDigit digit]
  rfl

end Text

namespace Numeral

variable {cs : List Char}

theorem dropWhile_isMargin (digits : ∀ c ∈ cs, Text.isDigit c = true) : cs.dropWhile isMargin = cs := by
  cases cs with
  | nil => rfl
  | cons c rest =>
      rw [List.dropWhile_cons_of_neg]
      rw [Text.not_isMargin_of_isDigit (digits c List.mem_cons_self)]
      exact Bool.false_ne_true

theorem withoutMargin_of_digits (digits : ∀ c ∈ cs, Text.isDigit c = true) : withoutMargin cs = cs := by
  rw [withoutMargin, dropWhile_isMargin digits, dropWhile_isMargin fun c member => digits c (List.mem_reverse.1 member),
    List.reverse_reverse]

theorem digits?_of_digits (digits : ∀ c ∈ cs, Text.isDigit c = true) (given : cs ≠ []) :
    digits? cs = if cs.all Text.isDecimal then some cs else none := by
  induction cs with
  | nil => exact absurd rfl given
  | cons c rest ih =>
      have others : ∀ c ∈ rest, Text.isDigit c = true := fun d member => digits d (List.mem_cons_of_mem _ member)
      cases rest with
      | nil => simp [digits?]
      | cons d rest =>
          have noJoin : d ≠ '_' := by
            rintro rfl
            exact absurd (others '_' List.mem_cons_self) (by decide)
          rw [digits?.eq_def]
          split
          · next none => cases none
          · next one => cases one
          · next joined =>
            cases joined
            exact absurd rfl noJoin
          · next whole =>
            cases whole
            rw [ih others nofun, List.all_cons (l := d :: rest)]
            cases Text.isDecimal c <;> cases (d :: rest).all Text.isDecimal <;> rfl

theorem int?_of_digits {s : String} (digits : ∀ c ∈ s.toList, Text.isDigit c = true) (given : s ≠ "") :
    int? s = if s.toList.all Text.isDecimal ∧ s.length ≤ maxDigits then some (fold s.toList : Int) else none := by
  have filled : s.toList ≠ [] := by simpa using given
  have unsigned : ∀ rest, s.toList ≠ '-' :: rest ∧ s.toList ≠ '+' :: rest := by
    refine fun rest => ⟨fun signed => ?_, fun signed => ?_⟩
    · exact absurd (digits '-' (signed ▸ List.mem_cons_self)) (by decide)
    · exact absurd (digits '+' (signed ▸ List.mem_cons_self)) (by decide)
  rw [int?, withoutMargin_of_digits digits]
  split
  next sign cs parted =>
    split at parted
    · next rest signed => exact absurd signed (unsigned rest).1
    · next rest signed => exact absurd signed (unsigned rest).2
    · cases parted
      rw [digits?_of_digits digits filled, ← String.length_toList]
      cases decimal : s.toList.all Text.isDecimal <;> simp

theorem fold_toDigits (n : Nat) : fold (Nat.toDigits 10 n) = n := by
  conv_rhs => rw [← Nat.ofDigitChars_toDigits (b := 10) (n := n) (by decide) (by decide)]
  refine List.foldl_ext _ _ _ fun sum c member => ?_
  rw [Text.decimalValue?_of_isDigit (Nat.isDigit_of_mem_toDigits (by decide) (by decide) member)]
  rfl

theorem int?_toString {n : Int} {s : String} (written : text? n = some s)
    (digits : ∀ c ∈ s.toList, Text.isDigit c = true) : int? s = some n := by
  rw [text?] at written
  split at written
  · next short =>
    cases written
    cases n with
    | negSucc n =>
        have sign : '-' ∈ (toString (Int.negSucc n)).toList := by
          change '-' ∈ ("-" ++ (n + 1).repr).toList
          simp
        exact absurd (digits '-' sign) (by decide)
    | ofNat n =>
        have whole : (toString (Int.ofNat n)).toList = Nat.toDigits 10 n := Nat.toList_repr
        have decimal : (Nat.toDigits 10 n).all Text.isDecimal = true := by
          refine List.all_eq_true.2 fun c member => ?_
          exact Text.isDecimal_of_charIsDigit (Nat.isDigit_of_mem_toDigits (by decide) (by decide) member)
        rw [int?_of_digits digits Nat.repr_ne_empty, whole, fold_toDigits, if_pos ⟨decimal, short⟩]
        rfl
  · cases written

end Numeral

end TabularAudit
