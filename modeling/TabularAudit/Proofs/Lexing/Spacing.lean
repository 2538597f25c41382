import TabularAudit.Proofs.Lexing.Normal
import TabularAudit.Proofs.Lexing.Surface

/-!
Spaces and signs in normal form. Outside of strings a normal form has single spaces only and no signs for the boolean
operators, and such a text is its own normal form.
-/

namespace TabularAudit.Expr

section
variable {c : Char} {cs us : List Char} {place : Place}

theorem isTidy_nil : IsTidy [] := ⟨by simp, by simp⟩

theorem isTidy_cons : IsTidy (c :: us) ↔
    ¬(c ∈ ['&', '|', ' '] ∧ us.head? = some c) ∧ (Text.isBlank c = true → c = ' ') ∧ IsTidy us := by
  have double : ∀ d, [d, d] <:+: c :: us ↔ c = d ∧ us.head? = some d ∨ [d, d] <:+: us := by
    intro d
    rw [List.infix_cons_iff, List.cons_prefix_cons, List.singleton_prefix_iff_head?_eq_some, eq_comm]
  constructor
  · rintro ⟨undoubled, spaces⟩
    rw [List.forall_mem_cons] at spaces
    refine ⟨?_, spaces.1, fun d listed => ?_, spaces.2⟩
    · rintro ⟨listed, next⟩
      exact undoubled c listed ((double c).2 (.inl ⟨rfl, next⟩))
    · exact fun within => undoubled d listed ((double d).2 (.inr within))
  · rintro ⟨single, blank, undoubled, spaces⟩
    refine ⟨fun d listed within => ?_, List.forall_mem_cons.2 ⟨blank, spaces⟩⟩
    rcases (double d).1 within with ⟨rfl, next⟩ | later
    · exact single ⟨listed, next⟩
    · exact undoubled d listed later

theorem IsTidy.of_prefix {vs : List Char} (tidy : IsTidy vs) (front : us <+: vs) : IsTidy us where
  undoubled c listed within := tidy.undoubled c listed (within.trans front.isInfix)
  spaces c member := tidy.spaces c (front.subset member)

theorem head?_of_normalizeFrom (twin : isTwin c = true) (next : (normalizeFrom (.outside false) cs).head? = some c) :
    cs.head? = some c := by
  rcases sideBySide_normalizeFrom (Eq.refl (normalizeFrom (.outside false) cs)) with
    ⟨d, us, vs, rfl, same, -⟩ | ⟨-, free⟩
  · rwa [same] at next
  · have off := free c next
    simp [twin] at off

theorem head?_normalizeFrom (cs : List Char) :
    ∀ c ∈ (normalizeFrom (.outside true) cs).head?, Text.isBlank c = false := by
  induction cs with
  | nil => simp [normalizeFrom]
  | cons c cs ih =>
      by_cases twins : isTwin c = true ∧ cs.head? = some c
      · rcases eq_of_twins twins.1 twins.2 with ⟨us, rfl, rfl⟩ | ⟨us, rfl, rfl⟩
        · rintro d ⟨⟩
          decide
        · rintro d ⟨⟩
          decide
      · rw [normalizeFrom_cons twins]
        split
        · next quotes =>
          rintro d ⟨⟩
          exact ink_of_isQuote quotes
        · split
          · exact ih
          · next ink =>
            rintro d ⟨⟩
            simpa using ink

theorem isTidy_spaceUnless (gap : Bool) (first : us.head? ≠ some ' ') :
    IsTidy (spaceUnless gap ++ us) ↔ IsTidy us := by
  cases gap with
  | true => rfl
  | false =>
      rw [spaceUnless, if_neg Bool.false_ne_true, List.singleton_append, isTidy_cons]
      simp [first]

theorem unquotedText_spaceUnless (gap : Bool) (cs : List Char) :
    unquotedText (.outside false) (spaceUnless gap ++ cs) = spaceUnless gap ++ unquotedText (.outside false) cs := by
  cases gap with
  | true => rfl
  | false => exact unquotedText_cons (by decide) cs

theorem head?_ne_space (cs : List Char) :
    (unquotedText (.outside false) (normalizeFrom (.outside true) cs)).head? ≠ some ' ' := by
  rw [head?_unquotedText]
  intro first
  have ink := head?_normalizeFrom cs ' ' first
  cases ink

theorem isTidy_of_ink (ink : Text.isBlank c = false) (single : ¬(isTwin c = true ∧ us.head? = some c)) :
    IsTidy (c :: us) ↔ IsTidy us := by
  have apart : ¬(c ∈ ['&', '|', ' '] ∧ us.head? = some c) := by
    rintro ⟨listed, next⟩
    simp only [List.mem_cons, List.not_mem_nil, or_false] at listed
    rcases listed with rfl | rfl | rfl
    · exact single ⟨rfl, next⟩
    · exact single ⟨rfl, next⟩
    · cases ink
  rw [isTidy_cons, and_iff_right apart, and_iff_right (by simp [ink])]

theorem isTidy_word {word : List Char} (letters : ∀ d ∈ word, Text.isAsciiLetter d = true) :
    IsTidy (word ++ us) ↔ IsTidy us := by
  induction word with
  | nil => rfl
  | cons d word ih =>
      rw [List.forall_mem_cons] at letters
      obtain ⟨ink, -, single, -⟩ := plain_of_isAsciiLetter letters.1
      rw [List.cons_append, isTidy_of_ink ink (by simp [single]), ih letters.2]

theorem IsOperator.isTidy {more : List Char} {l : Lexeme} (operator : IsOperator c more l) (gap : Bool)
    (tidy : IsTidy (unquotedText (.outside true) (normalizeFrom (.outside true) cs))) :
    IsTidy (unquotedText (.outside gap)
      (spaceUnless gap ++ c :: (more ++ ' ' :: normalizeFrom (.outside true) cs))) := by
  have letters : ∀ d ∈ c :: more, Text.isAsciiLetter d = true :=
    List.forall_mem_cons.2 ⟨operator.letter, operator.letters⟩
  have unquoted : ∀ d ∈ c :: more, isQuote d = false := fun d member => (plain_of_isAsciiLetter (letters d member)).2.1
  have first : c ≠ ' ' := by
    rintro rfl
    cases operator.letter
  rw [unquotedText_gap true false] at tidy
  rw [unquotedText_gap gap false, unquotedText_spaceUnless, ← List.cons_append, unquotedText_append unquoted,
    unquotedText_cons (by decide), isTidy_spaceUnless _ (by simp [first]), isTidy_word letters]
  exact (isTidy_spaceUnless false (head?_ne_space cs)).2 tidy

theorem isTidy_normalizeFrom (place : Place) (cs : List Char) :
    IsTidy (unquotedText place (normalizeFrom place cs)) := by
  fun_induction normalizeFrom place cs with
  | case1 place => simpa only [unquotedText] using isTidy_nil
  | case2 quote c cs state ih => exact ih
  | case3 quote c cs ih => exact ih
  | case4 gap cs ih => exact isOperator_and.isTidy gap ih
  | case5 gap cs ih => exact isOperator_or.isTidy gap ih
  | case6 gap c cs both either quotes ih =>
      have quotes : isQuote c = true := by simpa [isQuote] using quotes
      rw [unquotedText, if_pos quotes, isTidy_of_ink (ink_of_isQuote quotes) (by simp [isTwin_of_isQuote quotes])]
      exact ih
  | case7 gap c cs both either unquoted blank ih =>
      rw [unquotedText_gap true false] at ih
      rw [unquotedText_gap gap false, unquotedText_spaceUnless, isTidy_spaceUnless _ (head?_ne_space cs)]
      exact ih
  | case8 gap c cs both either unquoted ink ih =>
      have unquoted : isQuote c = false := by simpa [isQuote] using unquoted
      rw [unquotedText_gap gap false, unquotedText_cons unquoted, isTidy_of_ink (by simpa using ink)]
      · exact ih
      · -- Two signs side by side would have stood so before, and have become a word.
        rintro ⟨twin, next⟩
        rw [head?_unquotedText] at next
        rcases eq_of_twins twin (head?_of_normalizeFrom twin next) with ⟨us, rfl, rfl⟩ | ⟨us, rfl, rfl⟩
        · exact both _ rfl rfl
        · exact either _ rfl rfl

theorem IsTidy.behind {gap : Bool} (tidy : IsTidy (unquotedText (.outside gap) (c :: cs)))
    (unquoted : isQuote c = false) :
    ¬(c ∈ ['&', '|', ' '] ∧ cs.head? = some c) ∧ (Text.isBlank c = true → c = ' ') ∧
      IsTidy (unquotedText (.outside false) cs) := by
  rwa [unquotedText_gap gap false, unquotedText_cons unquoted, isTidy_cons, head?_unquotedText] at tidy

/-- A tidy text is in normal form already, but for the blanks at its ends. -/
theorem normalizeFrom_eq_self (tidy : IsTidy (unquotedText place cs))
    (starts : place = .outside true → ∀ c ∈ cs.head?, Text.isBlank c = false) : normalizeFrom place cs = cs := by
  -- The scan only changes doubled signs, doubled blanks, and blanks that are no spaces.
  fun_induction normalizeFrom place cs with
  | case1 place => rfl
  | case2 quote c cs state ih =>
      refine congrArg (c :: ·) (ih tidy fun outside => ?_)
      simp only [state] at outside
      split at outside
      · cases outside
      · split at outside <;> cases outside
  | case3 quote c cs ih => exact congrArg (c :: ·) (ih tidy (by simp))
  | case4 gap cs ih => exact absurd ⟨by simp, rfl⟩ (tidy.behind rfl).1
  | case5 gap cs ih => exact absurd ⟨by simp, rfl⟩ (tidy.behind rfl).1
  | case6 gap c cs both either quotes ih =>
      have quotes : isQuote c = true := by simpa [isQuote] using quotes
      rw [unquotedText, if_pos quotes,
        isTidy_of_ink (ink_of_isQuote quotes) (by simp [isTwin_of_isQuote quotes])] at tidy
      rw [ih tidy (by simp)]
  | case7 gap c cs both either unquoted blank ih =>
      obtain ⟨single, space, later⟩ := tidy.behind (unquoted_of_isBlank blank)
      obtain rfl := space blank
      cases gap with
      | true =>
          have ink := starts rfl ' ' rfl
          cases ink
      | false =>
          have first : ∀ d ∈ cs.head?, Text.isBlank d = false := by
            intro d next
            rw [Bool.eq_false_iff]
            intro blank
            have listed : d ∈ unquotedText (.outside false) cs :=
              List.mem_of_mem_head? ((head?_unquotedText cs).symm ▸ next)
            exact single ⟨by simp, later.spaces d listed blank ▸ next⟩
          rw [unquotedText_gap false true] at later
          exact congrArg (' ' :: ·) (ih later fun _ => first)
  | case8 gap c cs both either unquoted ink ih =>
      have unquoted : isQuote c = false := by simpa [isQuote] using unquoted
      exact congrArg (c :: ·) (ih (tidy.behind unquoted).2.2 (by simp))

theorem normalizeChars_eq (cs : List Char) : normalizeChars cs = Text.stripEnd (normalizeFrom (.outside true) cs) := by
  have first := head?_normalizeFrom cs
  rw [normalizeChars, Text.strip]
  generalize normalizeFrom (.outside true) cs = us at first
  cases us with
  | nil => rfl
  | cons c us => rw [Text.stripStart, List.dropWhile_cons_of_neg (by simp [first c rfl])]

theorem isNormal_normalizeChars (cs : List Char) : IsNormal (normalizeChars cs) := by
  obtain ⟨blanks, -, whole⟩ := Text.exists_blanks (normalizeFrom (.outside true) cs)
  have tidy := isTidy_normalizeFrom (.outside true) cs
  rw [unquotedText_gap true false] at tidy
  have front := unquotedText_prefix (.outside false) (normalizeChars cs) blanks
  rw [normalizeChars_eq, ← whole] at front
  refine ⟨normalizeChars_eq cs ▸ tidy.of_prefix front, ?_⟩
  rintro c (first | last)
  · refine head?_normalizeFrom cs c ?_
    rw [whole, ← normalizeChars_eq, List.head?_append, first]
    rfl
  · exact Text.endsInked_stripEnd _ c (normalizeChars_eq cs ▸ last)

theorem normalizeChars_of_isNormal (normal : IsNormal cs) : normalizeChars cs = cs := by
  have first : ∀ c ∈ cs.head?, Text.isBlank c = false := fun c next => normal.ends c (.inl next)
  have inked : Text.EndsInked cs := fun c last => normal.ends c (.inr last)
  have tidy := normal.tidy
  rw [unquotedText_gap false true] at tidy
  rw [normalizeChars_eq, normalizeFrom_eq_self tidy fun _ => first, inked.stripEnd]

theorem normalize_eq_self_iff (s : String) : normalize s = s ↔ IsNormal s.toList := by
  rw [normalize, ← String.toList_inj, String.toList_ofList]
  constructor
  · intro same
    rw [← same]
    exact isNormal_normalizeChars _
  · exact normalizeChars_of_isNormal

/-- Normal form is reached in one step. -/
theorem normalize_normalize (s : String) : normalize (normalize s) = normalize s ∧ IsNormal (normalize s).toList := by
  have normal : IsNormal (normalize s).toList := by
    rw [normalize, String.toList_ofList]
    exact isNormal_normalizeChars s.toList
  exact ⟨(normalize_eq_self_iff _).2 normal, normal⟩

example : normalize " a&&&\tb || 'c  ' 'd  " = "a and & b or 'c  ' 'd" := by decide

end

end TabularAudit.Expr
