import TabularAudit.Expr.Loose
import TabularAudit.Proofs.Literal

/-! What an equality says that has a Boolean, a member of an enum or a word on its right. -/

namespace TabularAudit.Expr

theorem compare_false (v : Value) :
    compare "==" v (.bool false) = .ok (decide (v = .bool false) || v.isLooselyOff) := by
  cases v with
  | bool b => cases b <;> rfl
  | null => rfl
  | enum family member =>
      change Except.ok (Relation.onBools .eq (matchesMember family member (.bool false)) true) = _
      simp [Relation.onBools, Value.isLooselyOff]
  | int n =>
      change Except.ok (Relation.onBools .eq (Value.int n).holds false) = _
      simp [Relation.onBools, Value.isLooselyOff]
  | float x =>
      change Except.ok (Relation.onBools .eq (Value.float x).holds false) = _
      simp [Relation.onBools, Value.isLooselyOff]
  | text s =>
      change Except.ok (Relation.onBools .eq (Value.text s).holds false) = _
      simp [Relation.onBools, Value.isLooselyOff]
  | list items => rfl
  | map entries => rfl

theorem compare_enum (v : Value) (family member : String) :
    compare "==" v (.enum family member) = .ok (matchesMember family member v) := by
  have asked : compare "==" v (.enum family member) = .ok (Relation.onBools .eq (matchesMember family member v) true) := by
    cases v <;> rfl
  rw [asked]
  simp [Relation.onBools]

theorem admits_compareOfLessAndEq (s t : String) :
    Relation.admits .eq (some (compareOfLessAndEq s t)) = (s == t) := by
  by_cases same : s = t
  · subst same
    rw [compareOfLessAndEq, if_neg (String.lt_irrefl s), if_pos rfl, beq_self_eq_true]
    rfl
  · by_cases before : s < t <;> simp [compareOfLessAndEq, Relation.admits, same, before]

theorem plainCompare_word (v : Value) {word : String} (plain : isNumeral word = false) :
    plainCompare .eq v (.text word) = .ok (v.plainText == word) := by
  rw [isNumeral] at plain
  rw [plainCompare, if_neg (Bool.eq_false_iff.1 plain), Value.plainText_text, admits_compareOfLessAndEq]

theorem compare_word (v : Value) {word : String} (plain : isNumeral word = false) :
    compare "==" v (.text word) = .ok (v.isReadAs word) := by
  have plainly := plainCompare_word v plain
  cases v with
  | bool b =>
      change Except.ok (Relation.onBools .eq b (Value.text word).holds) = _
      simp [Relation.onBools, Value.isReadAs]
  | enum family member =>
      change Except.ok (Relation.onBools .eq (matchesMember family member (.text word)) true) = _
      simp [Relation.onBools, Value.isReadAs]
  | _ => exact plainly

theorem toNumber_of_plain {s : String} (plain : isNumeral s = false) : (Value.text s).toNumber = .ok .nan := by
  have outside : Numeral.whole? (Text.strip s.toList) = none := by simpa [isNumeral, Value.isNumeric] using plain
  simp only [Value.toNumber, outside]

theorem compare_texts {s t : String} (plain : isNumeral s = false) (readable : (Value.text t).toNumber.isOk = true) :
    compare "==" (.text s) (.text t) = .ok (s == t) := by
  cases numeral : isNumeral t with
  | false => exact compare_word (.text s) numeral
  | true =>
      have differ : s ≠ t := by
        rintro rfl
        rw [numeral] at plain
        cases plain
      obtain ⟨x, number⟩ : ∃ x, (Value.text t).toNumber = .ok x := by
        cases number : (Value.text t).toNumber with
        | ok x => exact ⟨x, rfl⟩
        | error fault =>
            rw [number] at readable
            cases readable
      change plainCompare .eq (.text s) (.text t) = _
      rw [isNumeral] at numeral
      rw [plainCompare, if_pos numeral, toNumber_of_plain plain, number, beq_eq_false_iff_ne.2 differ]
      rfl

/-- A numeral that cannot be read differs from nothing: the comparison fails. -/
theorem compare_unreadable {s t : String} (plain : isNumeral s = false)
    (unreadable : (Value.text t).toNumber = .error .badNumeral) :
    compare "==" (.text s) (.text t) = .error .badNumeral := by
  have numeral : isNumeral t = true := by
    by_contra plain
    rw [toNumber_of_plain (Bool.not_eq_true _ ▸ plain)] at unreadable
    cases unreadable
  change plainCompare .eq (.text s) (.text t) = _
  rw [isNumeral] at numeral
  rw [plainCompare, if_pos numeral, toNumber_of_plain plain, unreadable]
  rfl

end TabularAudit.Expr
