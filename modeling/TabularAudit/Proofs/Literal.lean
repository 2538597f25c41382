import Mathlib.Data.List.Basic
import TabularAudit.Value.Text

/-!
How values are written that are no texts. What is written ends in a digit, a bracket or a letter of `None`, `True`,
`nan` or `inf`, in small letters as well, and so in no word of a rule.
-/

namespace TabularAudit

def numberChars : List Char := "0123456789.-+einfa".toList

def literalEnds : List Char := numberChars ++ [']', ')', Char.ofNat 125]

theorem mem_numberChars_of_isDigit {c : Char} (digit : c.isDigit = true) : c ∈ numberChars := by
  have listed : ∀ n ∈ List.range' 48 10, Char.ofNat n ∈ numberChars := by decide
  have low : 48 ≤ c.toNat := (Char.isDigit_iff_toNat.1 digit).1
  have high : c.toNat ≤ 57 := (Char.isDigit_iff_toNat.1 digit).2
  have found := listed c.toNat (List.mem_range'_1.2 ⟨low, by omega⟩)
  rwa [Char.ofNat_toNat] at found

theorem toDigits_subset (n : Nat) : Nat.toDigits 10 n ⊆ numberChars := by
  intro c member
  exact mem_numberChars_of_isDigit (Nat.isDigit_of_mem_toDigits (by decide) (by decide) member)

theorem toString_subset (n : Int) : (toString n).toList ⊆ numberChars := by
  cases n with
  | ofNat n =>
      change n.repr.toList ⊆ numberChars
      rw [Nat.toList_repr]
      exact toDigits_subset n
  | negSucc n =>
      change ("-" ++ (n + 1).repr).toList ⊆ numberChars
      rw [String.toList_append, Nat.toList_repr, List.append_subset]
      exact ⟨by decide, toDigits_subset (n + 1)⟩

namespace Binary64

theorem exponentText_subset (n : Int) : exponentText n ⊆ numberChars := by
  have digits := toDigits_subset n.natAbs
  have signs : '-' ∈ numberChars ∧ '+' ∈ numberChars ∧ 'e' ∈ numberChars ∧ '0' ∈ numberChars := by decide
  rw [exponentText]
  refine List.cons_subset.2 ⟨signs.2.2.1, List.cons_subset.2 ⟨?_, ?_⟩⟩
  · split
    · exact signs.1
    · exact signs.2.1
  · split
    · exact List.cons_subset.2 ⟨signs.2.2.2, digits⟩
    · exact digits

theorem pointed_subset {digits : List Char} (plain : digits ⊆ numberChars) : pointed digits ⊆ numberChars := by
  rw [pointed.eq_def]
  split
  · next d e rest =>
    obtain ⟨first, others⟩ := List.cons_subset.1 plain
    exact List.cons_subset.2 ⟨first, List.cons_subset.2 ⟨by decide, others⟩⟩
  · exact plain

theorem replicate_subset (n : Nat) : List.replicate n '0' ⊆ numberChars := by
  intro c member
  rw [List.eq_of_mem_replicate member]
  decide

theorem layout_subset {digits : List Char} (plain : digits ⊆ numberChars) (point : Int) :
    layout digits point ⊆ numberChars := by
  have zero : '0' ∈ numberChars := by decide
  have dot : '.' ∈ numberChars := by decide
  simp only [layout]
  split
  · exact List.append_subset.2 ⟨pointed_subset plain, exponentText_subset _⟩
  · split
    · exact List.cons_subset.2 ⟨zero, List.cons_subset.2 ⟨dot, List.append_subset.2 ⟨replicate_subset _, plain⟩⟩⟩
    · have whole := List.Subset.trans (List.take_subset point.toNat digits) plain
      have fraction := List.Subset.trans (List.drop_subset point.toNat digits) plain
      refine List.append_subset.2 ⟨List.append_subset.2 ⟨whole, replicate_subset _⟩, List.cons_subset.2 ⟨dot, ?_⟩⟩
      split
      · exact List.cons_subset.2 ⟨zero, List.nil_subset _⟩
      · exact fraction

theorem shortest_subset (m : Nat) (e : Int) : (shortest m e).1 ⊆ numberChars := by
  intro c member
  have inside := List.dropWhile_subset _ (List.mem_reverse.1 member)
  exact toDigits_subset _ (List.mem_reverse.1 inside)

theorem text_subset (x : Binary64) : x.text.toList ⊆ numberChars := by
  cases x with
  | nan => decide
  | infinite negative => cases negative <;> decide
  | finite negative m e =>
      have body : (if m = 0 then ['0', '.', '0'] else layout (shortest m e).1 (shortest m e).2) ⊆ numberChars := by
        split
        · decide
        · exact layout_subset (shortest_subset m e) _
      rw [text, String.toList_ofList]
      cases negative with
      | true => exact List.cons_subset.2 ⟨by decide, body⟩
      | false => exact body

end Binary64

def EndsIn (ends : List Char) (s : String) : Prop := ∃ c ∈ ends, s.toList.getLast? = some c

theorem endsIn_of_subset {s : String} (plain : s.toList ⊆ numberChars) (filled : s ≠ "") : EndsIn literalEnds s := by
  have letters : s.toList ≠ [] := by simpa using filled
  refine ⟨s.toList.getLast letters, ?_, List.getLast?_eq_some_getLast letters⟩
  exact List.mem_append_left _ (plain (List.getLast_mem letters))

theorem endsIn_append (s : String) {t : String} {ends : List Char} (ended : EndsIn ends t) : EndsIn ends (s ++ t) := by
  obtain ⟨c, member, last⟩ := ended
  exact ⟨c, member, by rw [String.toList_append, List.getLast?_append, last]; rfl⟩

theorem not_isSuffixOf_of_endsIn {s : String} (ended : EndsIn literalEnds s) (word : List Char) {c : Char}
    (last : word.getLast? = some c) (other : c ∉ literalEnds) : word.isSuffixOf s.toList = false := by
  obtain ⟨d, member, lastOf⟩ := ended
  apply Bool.eq_false_iff.2
  intro found
  obtain ⟨start, whole⟩ := List.isSuffixOf_iff_suffix.1 found
  rw [← whole, List.getLast?_append, last] at lastOf
  cases lastOf
  exact other member

theorem ne_of_endsIn {s word : String} (ended : EndsIn literalEnds s) {c : Char}
    (last : word.toList.getLast? = some c) (other : c ∉ literalEnds) : s ≠ word := by
  rintro rfl
  obtain ⟨d, member, lastOf⟩ := ended
  rw [last] at lastOf
  cases lastOf
  exact other member

namespace Value

theorem endsIn_int (n : Int) : EndsIn literalEnds (toString n) :=
  endsIn_of_subset (toString_subset n) (literal_ne_empty (.int n))

theorem endsIn_float (x : Binary64) : EndsIn literalEnds x.text := endsIn_of_subset x.text_subset x.text_ne_empty

theorem endsIn_literal {v : Value} (noText : v.isText = false) : EndsIn literalEnds v.literal := by
  cases v with
  | null => exact ⟨'e', by decide, by decide⟩
  | bool b => exact ⟨'e', by decide, by cases b <;> decide⟩
  | int n => exact endsIn_int n
  | float x => exact endsIn_float x
  | text s => cases noText
  | enum family member => exact endsIn_append _ ⟨')', by decide, by decide⟩
  | list items => exact endsIn_append _ ⟨']', by decide, by decide⟩
  | map entries => exact endsIn_append _ ⟨Char.ofNat 125, by decide, by decide⟩

/-- Whole floats are written as integers here, and nothing as an empty text. -/
theorem endsIn_plainText {v : Value} (noText : v.isText = false) (given : v ≠ .null)
    (noMember : ∀ family member, v ≠ .enum family member) : EndsIn literalEnds v.plainText := by
  cases v with
  | null => exact absurd rfl given
  | enum family member => exact absurd rfl (noMember family member)
  | float x =>
      cases x with
      | finite negative m e =>
          rw [plainText]
          split
          · exact endsIn_int _
          · exact endsIn_float _
      | _ => exact endsIn_float _
  | text s => cases noText
  | _ => exact endsIn_literal (by rfl)

end Value

namespace Text

theorem lowerChars_append_singleton (before cs : List Char) (c : Char) :
    ∃ start before', lowerChars before (cs ++ [c]) = start ++ lowerWithin before' c [] := by
  induction cs generalizing before with
  | nil => exact ⟨[], before, by rw [List.nil_append, lowerChars, lowerChars, List.append_nil, List.nil_append]⟩
  | cons d cs ih =>
      obtain ⟨start, before', last⟩ := ih (d :: before)
      exact ⟨_, before', by rw [List.cons_append, lowerChars, last, ← List.append_assoc]⟩

theorem endsIn_lower {s : String} (ended : EndsIn literalEnds s) : EndsIn literalEnds (lower s) := by
  obtain ⟨c, member, last⟩ := ended
  have small : ∀ c ∈ literalEnds, ∀ before, lowerWithin before c [] = [c] := by
    have plain : (literalEnds.all fun c => decide (c ≠ 'Σ' ∧ c ≠ 'İ' ∧ Text.small c = c)) = true := by decide
    intro c member before
    obtain ⟨sigma, dotted, same⟩ := of_decide_eq_true (List.all_eq_true.1 plain c member)
    rw [lowerWithin, if_neg sigma, if_neg dotted, same]
  obtain ⟨cs, letters⟩ := List.getLast?_eq_some_iff.1 last
  obtain ⟨start, before, lowered⟩ := lowerChars_append_singleton [] cs c
  refine ⟨c, member, ?_⟩
  rw [toList_lower, letters, lowered, small c member before, List.getLast?_concat]

end Text

end TabularAudit
