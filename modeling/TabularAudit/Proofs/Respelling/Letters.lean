import TabularAudit.Model.Respelling

/-!
The case of ASCII letters does not count in the name of a property, and neither do brackets around it.
-/

namespace TabularAudit

namespace Text

variable {s t : String}

def capitals : List Char := (List.range' 65 26).map Char.ofNat

theorem toLower_eq_or_mem (c : Char) : c.toLower = c ∨ c ∈ capitals := by
  by_cases capital : c.val ≥ 'A'.val ∧ c.val ≤ 'Z'.val
  · right
    apply List.mem_map.2
    refine ⟨c.toNat, ?_, Char.ofNat_toNat c⟩
    rw [List.mem_range'_1]
    have low : 65 ≤ c.toNat := capital.1
    have high : c.toNat ≤ 90 := capital.2
    omega
  · left
    exact dif_neg capital

section
variable {α : Type} [DecidableEq α]

/-- What is the same for the small and the capital form of each ASCII letter does not see the case. -/
theorem eq_of_capitals {g : Char → α} (same : (capitals.all fun c => g c.toLower = g c) = true) (c : Char) :
    g c.toLower = g c := by
  rcases toLower_eq_or_mem c with small | capital
  · rw [small]
  · exact of_decide_eq_true (List.all_eq_true.1 same c capital)

end

theorem small_toLower : ∀ c : Char, small c.toLower = small c := eq_of_capitals (by decide)

theorem isCased_toLower : ∀ c : Char, isCased c.toLower = isCased c := eq_of_capitals (by decide)

theorem isCaseIgnorable_toLower : ∀ c : Char, isCaseIgnorable c.toLower = isCaseIgnorable c :=
  eq_of_capitals (by decide)

theorem isBlank_toLower : ∀ c : Char, isBlank c.toLower = isBlank c := eq_of_capitals (by decide)

theorem toLower_eq_iff {d : Char} (apart : (capitals.all fun c => c.toLower ≠ d ∧ c ≠ d) = true) (c : Char) :
    c.toLower = d ↔ c = d := by
  rcases toLower_eq_or_mem c with small | capital
  · rw [small]
  · obtain ⟨letter, itself⟩ := of_decide_eq_true (List.all_eq_true.1 apart c capital)
    exact iff_of_false letter itself

theorem nextIsCased_map (cs : List Char) : nextIsCased (cs.map Char.toLower) = nextIsCased cs := by
  have ignorable : isCaseIgnorable ∘ Char.toLower = isCaseIgnorable := funext isCaseIgnorable_toLower
  rw [nextIsCased, nextIsCased, List.dropWhile_map, ignorable]
  cases cs.dropWhile isCaseIgnorable with
  | nil => rfl
  | cons c rest => exact isCased_toLower c

theorem lowerWithin_map (before : List Char) (c : Char) (after : List Char) :
    lowerWithin (before.map Char.toLower) c.toLower (after.map Char.toLower) = lowerWithin before c after := by
  have sigma : c.toLower = 'Σ' ↔ c = 'Σ' := toLower_eq_iff (by decide) c
  have dotted : c.toLower = 'İ' ↔ c = 'İ' := toLower_eq_iff (by decide) c
  simp only [lowerWithin, sigma, dotted, nextIsCased_map, small_toLower]

theorem lowerChars_map (before cs : List Char) :
    lowerChars (before.map Char.toLower) (cs.map Char.toLower) = lowerChars before cs := by
  induction cs generalizing before with
  | nil => rfl
  | cons c cs ih =>
      have next := ih (c :: before)
      rw [List.map_cons] at next
      rw [List.map_cons, lowerChars, lowerChars, lowerWithin_map, next]

theorem lower_eq_of_sameLetters (same : SameLetters s t) : lower s = lower t := by
  have all := lowerChars_map []
  rw [lower, lower, ← all s.toList, ← all t.toList, same]

theorem stripStart_map (cs : List Char) : stripStart (cs.map Char.toLower) = (stripStart cs).map Char.toLower := by
  have blank : isBlank ∘ Char.toLower = isBlank := funext isBlank_toLower
  rw [stripStart, List.dropWhile_map, blank]
  rfl

theorem stripEnd_map (cs : List Char) : stripEnd (cs.map Char.toLower) = (stripEnd cs).map Char.toLower := by
  change (stripStart (cs.map Char.toLower).reverse).reverse = (stripStart cs.reverse).reverse.map Char.toLower
  rw [← List.map_reverse, stripStart_map, List.map_reverse]

theorem strip_map (cs : List Char) : strip (cs.map Char.toLower) = (strip cs).map Char.toLower := by
  rw [strip, stripStart_map, stripEnd_map, strip]

end Text

namespace Record

variable {k j : String}

theorem unbracketed_cons (c : Char) (rest : List Char) :
    unbracketed (c :: rest) = if c = '[' ∧ rest.getLast? = some ']' then rest.dropLast else c :: rest := by
  by_cases opening : c = '['
  · subst opening
    simp [unbracketed]
  · rw [unbracketed, if_neg fun both => opening both.1]
    intro rest' same
    exact opening (List.cons.inj same).1

theorem unbracketed_map (cs : List Char) : unbracketed (cs.map Char.toLower) = (unbracketed cs).map Char.toLower := by
  cases cs with
  | nil => rfl
  | cons c rest =>
      have opening : c.toLower = '[' ↔ c = '[' := Text.toLower_eq_iff (by decide) c
      have closing : (rest.map Char.toLower).getLast? = some ']' ↔ rest.getLast? = some ']' := by
        rw [List.getLast?_map, Option.map_eq_some_iff]
        constructor
        · rintro ⟨d, last, bracket⟩
          rw [last, (Text.toLower_eq_iff (by decide) d).1 bracket]
        · intro last
          exact ⟨']', last, rfl⟩
      simp only [List.map_cons, unbracketed_cons, opening, closing]
      split
      · rw [List.map_dropLast]
      · rfl

theorem toList_fieldName (k : String) : (fieldName k).toList = unbracketed (Text.strip k.toList) := by
  rw [fieldName, String.toList_ofList]

theorem sameLetters_fieldName (same : Text.SameLetters k j) : Text.SameLetters (fieldName k) (fieldName j) := by
  rw [Text.SameLetters, toList_fieldName, toList_fieldName, ← unbracketed_map, ← unbracketed_map, ← Text.strip_map,
    ← Text.strip_map, same]

theorem fieldName_bracketed (j : String) : fieldName ("[" ++ j ++ "]") = j := by
  have chars : ("[" ++ j ++ "]").toList = '[' :: j.toList ++ [']'] := by simp
  rw [fieldName, chars, Text.strip_of_ends _ (by decide) (by decide), List.cons_append, unbracketed_cons,
    if_pos ⟨rfl, List.getLast?_concat⟩, List.dropLast_concat, String.ofList_toList]

theorem fold_fieldName_of_respelledKey (respelled : RespelledKey k j) : Bag.fold (fieldName k) = Bag.fold (fieldName j) := by
  cases respelled with
  | letters same => exact Text.lower_eq_of_sameLetters (sameLetters_fieldName same)
  | bracketed plain same =>
      rw [plain, fieldName_bracketed]
      exact Text.lower_eq_of_sameLetters same

end Record

end TabularAudit
