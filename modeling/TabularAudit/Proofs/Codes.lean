import TabularAudit.Model.Record
import TabularAudit.Proofs.Literal
import TabularAudit.Proofs.Numeral
import TabularAudit.Proofs.Snapshot

/-!
Codes of enum members, decoded. What is decoded is left as it is when it is decoded again, since no member is named by
digits.
-/

namespace TabularAudit

namespace Binary64

theorem not_digits_of_layout (digits : List Char) (point : Int) : (layout digits point).all Text.isDigit = false := by
  have exponent : Text.isDigit 'e' = false := by decide
  have dot : Text.isDigit '.' = false := by decide
  simp only [layout]
  split
  · simp [exponentText, exponent]
  · split <;> simp [dot]

theorem not_digits_of_text (x : Binary64) : x.text.toList.all Text.isDigit = false := by
  cases x with
  | nan => decide
  | infinite negative => cases negative <;> decide
  | finite negative m e =>
      have body : (if m = 0 then ['0', '.', '0'] else layout (shortest m e).1 (shortest m e).2).all Text.isDigit = false := by
        split
        · decide
        · exact not_digits_of_layout _ _
      rw [text, String.toList_ofList]
      cases negative with
      | true => exact Bool.and_eq_false_imp.2 fun _ => body
      | false => exact body

end Binary64

namespace Value

theorem not_digits_of_append (s : String) {t : String} (other : t.toList.all Text.isDigit = false) :
    (s ++ t).toList.all Text.isDigit = false := by
  rw [String.toList_append, List.all_append, other, Bool.and_false]

theorem not_digits_of_literal {v : Value} (noText : v.isText = false) (noInt : ∀ n, v ≠ .int n) :
    v.literal.toList.all Text.isDigit = false := by
  cases v with
  | null => decide
  | bool b => cases b <;> decide
  | int n => exact absurd rfl (noInt n)
  | float x => exact x.not_digits_of_text
  | text s => cases noText
  | enum family member => exact not_digits_of_append _ (t := ")") (by decide)
  | list items => exact not_digits_of_append _ (t := String.ofList [']']) (by decide)
  | map entries => exact not_digits_of_append _ (t := String.ofList [Char.ofNat 125]) (by decide)

end Value

namespace Record

variable {codes : Codes} {v w : Value} {s : String}

theorem decode_of_not_digits (other : s.toList.all Text.isDigit = false) : decode codes (.text s) = .ok (.text s) := by
  rw [decode, other, Bool.and_false]
  rfl

theorem decode_of_digits (digits : s.toList.all Text.isDigit = true) (given : s ≠ "") {n : Int}
    (number : Numeral.int? s = some n) : decode codes (.text s) = .ok (.text ((codes.lookup n).getD s)) := by
  rw [decode, digits, String.isEmpty_eq_false_iff.2 given, number]
  rfl

theorem not_digits_of_lookup (words : ∀ e ∈ codes, e.2.toList.all Text.isDigit = false) {n : Int} {name : String}
    (known : codes.lookup n = some name) : name.toList.all Text.isDigit = false := by
  obtain ⟨before, after, split, -⟩ := List.lookup_eq_some_iff.1 known
  exact words (n, name) (by simp [split])

theorem ne_empty_of_not_digits (other : s.toList.all Text.isDigit = false) : s ≠ "" := by
  rintro rfl
  cases other

theorem ne_empty_of_text? {n : Int} (written : Numeral.text? n = some s) : s ≠ "" := by
  rw [Numeral.text?] at written
  split at written
  · cases written
    exact Value.literal_ne_empty (.int n)
  · cases written

theorem decode_of_unknown {n : Int} (unknown : codes.lookup n = none) (written : Numeral.text? n = some s) :
    decode codes (.text s) = .ok (.text s) := by
  cases digits : s.toList.all Text.isDigit with
  | false => exact decode_of_not_digits digits
  | true =>
      rw [decode_of_digits digits (ne_empty_of_text? written) (Numeral.int?_toString written (List.all_eq_true.1 digits)),
        unknown]
      rfl

theorem cases_of_decode (read : decode codes v = .ok w) :
    (∃ n name, codes.lookup n = some name ∧ w = .text name) ∨
      (∃ n s, codes.lookup n = none ∧ Numeral.text? n = some s ∧ w = .text s) ∨ (w = v ∧ ∀ n, w ≠ .int n) := by
  cases v with
  | int n =>
      rw [decode] at read
      cases known : codes.lookup n with
      | some name =>
          rw [known] at read
          cases read
          exact .inl ⟨n, name, known, rfl⟩
      | none =>
          rw [known, Option.none_or] at read
          split at read
          · next s written =>
            cases read
            exact .inr (.inl ⟨n, s, known, written, rfl⟩)
          · cases read
  | text s =>
      rw [decode] at read
      split at read
      · split at read
        · next n number =>
          cases read
          cases known : codes.lookup n with
          | some name => exact .inl ⟨n, name, known, rfl⟩
          | none => exact .inr (.inr ⟨rfl, nofun⟩)
        · cases read
      · cases read
        exact .inr (.inr ⟨rfl, nofun⟩)
  | _ =>
      cases read
      exact .inr (.inr ⟨rfl, nofun⟩)

theorem decode_decode (words : ∀ e ∈ codes, e.2.toList.all Text.isDigit = false) (read : decode codes v = .ok w) :
    decode codes w = .ok w := by
  rcases cases_of_decode read with ⟨n, name, known, rfl⟩ | ⟨n, s, unknown, written, rfl⟩ | ⟨rfl, -⟩
  · exact decode_of_not_digits (not_digits_of_lookup words known)
  · exact decode_of_unknown unknown written
  · exact read

theorem isBlank_of_decode (words : ∀ e ∈ codes, e.2.toList.all Text.isDigit = false) (read : decode codes v = .ok w)
    (given : isBlank v = false) : isBlank w = false := by
  rcases cases_of_decode read with ⟨n, name, known, rfl⟩ | ⟨n, s, unknown, written, rfl⟩ | ⟨rfl, -⟩
  · exact String.isEmpty_eq_false_iff.2 (ne_empty_of_not_digits (not_digits_of_lookup words known))
  · exact String.isEmpty_eq_false_iff.2 (ne_empty_of_text? written)
  · exact given

theorem decode_display (words : ∀ e ∈ codes, e.2.toList.all Text.isDigit = false) (read : decode codes v = .ok w) :
    decode codes (.text w.display) = .ok (.text w.display) := by
  cases w with
  | text s => exact decode_decode words read
  | int n =>
      rcases cases_of_decode read with ⟨_, _, _, named⟩ | ⟨_, _, _, _, named⟩ | ⟨_, noInt⟩
      · cases named
      · cases named
      · exact absurd rfl (noInt n)
  | _ => exact decode_of_not_digits (Value.not_digits_of_literal rfl nofun)

end Record

end TabularAudit
