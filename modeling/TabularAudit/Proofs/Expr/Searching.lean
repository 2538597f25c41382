import Mathlib.Algebra.Ring.Int.Defs
import Mathlib.Algebra.Ring.Nat
import Mathlib.Data.List.Infix
import TabularAudit.Expr.Method
import TabularAudit.Proofs.Binary64

/-!
The methods that look for one text in another. A search from the start finds the first place of the needle, a search from
the end the last one, and the other methods answer what these two places tell.
-/

namespace TabularAudit

namespace Text

variable {needle cs : List Char} {i j : Nat}

def OccursAt (needle cs : List Char) (i : Nat) : Prop := i ≤ cs.length ∧ needle <+: cs.drop i

theorem occursAt_nil : OccursAt needle [] i ↔ i = 0 ∧ needle = [] := by
  rw [OccursAt, List.drop_nil, List.prefix_nil, List.length_nil, Nat.le_zero]

theorem occursAt_zero : OccursAt needle cs 0 ↔ needle <+: cs := by
  rw [OccursAt, List.drop_zero, and_iff_right (Nat.zero_le _)]

theorem occursAt_succ {c : Char} : OccursAt needle (c :: cs) (i + 1) ↔ OccursAt needle cs i := by
  rw [OccursAt, OccursAt, List.drop_succ_cons, List.length_cons, Nat.add_le_add_iff_right]

theorem OccursAt.add_length_le (found : OccursAt needle cs i) : i + needle.length ≤ cs.length := by
  have fits := found.2.length_le
  rw [List.length_drop] at fits
  have within := found.1
  omega

theorem indexOf?_eq_some_iff : indexOf? needle cs = some i ↔ OccursAt needle cs i ∧ ∀ j, OccursAt needle cs j → i ≤ j := by
  induction cs generalizing i with
  | nil =>
      simp only [indexOf?, List.isEmpty_iff, occursAt_nil]
      split
      · next nothing => simp [nothing, eq_comm]
      · next something => simp [something]
  | cons c cs ih =>
      rw [indexOf?]
      split
      · next here =>
        have start : OccursAt needle (c :: cs) 0 := occursAt_zero.2 (List.isPrefixOf_iff_prefix.1 here)
        constructor
        · rintro ⟨⟩
          exact ⟨start, fun j _ => Nat.zero_le j⟩
        · rintro ⟨-, least⟩
          rw [Nat.le_zero.1 (least 0 start)]
      · next other =>
        have later : ∀ j, OccursAt needle (c :: cs) j → ∃ k, j = k + 1 ∧ OccursAt needle cs k := by
          intro j found
          cases j with
          | zero => exact absurd (List.isPrefixOf_iff_prefix.2 (occursAt_zero.1 found)) other
          | succ k => exact ⟨k, rfl, occursAt_succ.1 found⟩
        rw [Option.map_eq_some_iff]
        constructor
        · rintro ⟨k, found, rfl⟩
          obtain ⟨occurs, least⟩ := ih.1 found
          refine ⟨occursAt_succ.2 occurs, fun j other => ?_⟩
          obtain ⟨l, rfl, inside⟩ := later j other
          exact Nat.succ_le_succ (least l inside)
        · rintro ⟨occurs, least⟩
          obtain ⟨k, rfl, inside⟩ := later i occurs
          exact ⟨k, ih.2 ⟨inside, fun j found => Nat.le_of_succ_le_succ (least (j + 1) (occursAt_succ.2 found))⟩, rfl⟩

theorem indexOf?_eq_none_iff : indexOf? needle cs = none ↔ ∀ i, ¬OccursAt needle cs i := by
  induction cs with
  | nil =>
      simp only [indexOf?, List.isEmpty_iff, occursAt_nil]
      split
      · next nothing => simp [nothing]
      · next something => simp [something]
  | cons c cs ih =>
      rw [indexOf?]
      split
      · next here =>
        exact iff_of_false nofun fun nowhere => nowhere 0 (occursAt_zero.2 (List.isPrefixOf_iff_prefix.1 here))
      · next other =>
        rw [Option.map_eq_none_iff, ih]
        constructor
        · intro nowhere i found
          cases i with
          | zero => exact other (List.isPrefixOf_iff_prefix.2 (occursAt_zero.1 found))
          | succ k => exact nowhere k (occursAt_succ.1 found)
        · exact fun nowhere i found => nowhere (i + 1) (occursAt_succ.2 found)

theorem lastIndexOf?_eq_none_iff : lastIndexOf? needle cs = none ↔ ∀ i, ¬OccursAt needle cs i := by
  induction cs with
  | nil =>
      simp only [lastIndexOf?, List.isEmpty_iff, occursAt_nil]
      split
      · next nothing => simp [nothing]
      · next something => simp [something]
  | cons c cs ih =>
      rw [lastIndexOf?]
      split
      · next k found =>
        refine iff_of_false nofun fun nowhere => ?_
        have none := ih.2 fun i inside => nowhere (i + 1) (occursAt_succ.2 inside)
        rw [none] at found
        cases found
      · next none =>
        have behind := ih.1 none
        split
        · next here =>
          exact iff_of_false nofun fun nowhere => nowhere 0 (occursAt_zero.2 (List.isPrefixOf_iff_prefix.1 here))
        · next other =>
          refine iff_of_true rfl fun i found => ?_
          cases i with
          | zero => exact other (List.isPrefixOf_iff_prefix.2 (occursAt_zero.1 found))
          | succ k => exact behind k (occursAt_succ.1 found)

theorem lastIndexOf?_eq_some_iff :
    lastIndexOf? needle cs = some i ↔ OccursAt needle cs i ∧ ∀ j, OccursAt needle cs j → j ≤ i := by
  induction cs generalizing i with
  | nil =>
      simp only [lastIndexOf?, List.isEmpty_iff, occursAt_nil]
      split
      · next nothing => simp +contextual [nothing, eq_comm]
      · next something => simp [something]
  | cons c cs ih =>
      rw [lastIndexOf?]
      cases last : lastIndexOf? needle cs with
      | some k =>
          obtain ⟨occurs, greatest⟩ := ih.1 last
          rw [Option.some_inj]
          constructor
          · rintro rfl
            refine ⟨occursAt_succ.2 occurs, fun j found => ?_⟩
            cases j with
            | zero => exact Nat.zero_le _
            | succ l => exact Nat.succ_le_succ (greatest l (occursAt_succ.1 found))
          · rintro ⟨found, above⟩
            have least := above (k + 1) (occursAt_succ.2 occurs)
            cases i with
            | zero => omega
            | succ l =>
                have most := greatest l (occursAt_succ.1 found)
                omega
      | none =>
          have nowhere := lastIndexOf?_eq_none_iff.1 last
          have first : ∀ j, OccursAt needle (c :: cs) j ↔ j = 0 ∧ needle <+: c :: cs := by
            intro j
            cases j with
            | zero => rw [occursAt_zero, and_iff_right rfl]
            | succ k => exact iff_of_false (fun found => nowhere k (occursAt_succ.1 found)) nofun
          simp only [first, List.isPrefixOf_iff_prefix]
          split
          · next here => simp +contextual [here, eq_comm]
          · next other => simp [other]

theorem isSuffix_iff_occursAt : needle <:+ cs ↔ ∃ i, OccursAt needle cs i ∧ i + needle.length = cs.length := by
  constructor
  · intro ends
    refine ⟨cs.length - needle.length, ⟨Nat.sub_le _ _, ?_⟩, Nat.sub_add_cancel ends.length_le⟩
    rw [← List.suffix_iff_eq_drop.1 ends]
  · rintro ⟨i, ⟨-, begins⟩, fills⟩
    have whole : needle = cs.drop i := begins.eq_of_length (by rw [List.length_drop]; omega)
    exact whole ▸ List.drop_suffix i cs

end Text

namespace Expr

inductive CaseOption where
  | exact
  | flag
  | member (family start : String)

namespace CaseOption

def arguments : CaseOption → List Value
  | exact => []
  | flag => [.bool true]
  | member family start => [.enum family (start ++ "IgnoreCase")]

def folded : CaseOption → String → String
  | exact, s => s
  | flag, s | member _ _, s => Text.lower s

theorem search_arguments (option : CaseOption) (method : List Char → List Char → Value) (text needle : String) :
    search method text needle option.arguments = method (option.folded needle).toList (option.folded text).toList := by
  cases option with
  | exact => rfl
  | flag => rfl
  | member family start =>
      have ends : "IgnoreCase".toList.isSuffixOf (start ++ "IgnoreCase").toList = true := by
        rw [String.toList_append]
        exact List.isSuffixOf_iff_suffix.2 (List.suffix_append _ _)
      have ignored : ignoresCase [.enum family (start ++ "IgnoreCase")] = true := by
        rw [ignoresCase, List.any_cons]
        exact Bool.or_eq_true_iff.2 (.inl ends)
      rw [search, arguments, if_pos ignored, folded, folded]

end CaseOption

variable {receiver needle : Value}

theorem callMethod_search {name : String} {method : List Char → List Char → Value}
    (found : searchMethod? name = some method) (option : CaseOption) :
    callMethod receiver name (needle :: option.arguments) =
      .ok (method (option.folded needle.plainText).toList (option.folded receiver.plainText).toList) := by
  have noPlain : plainMethod? name = none := by
    rw [searchMethod?.eq_def] at found
    split at found <;> first | rfl | cases found
  simp only [callMethod, noPlain, found, option.search_arguments]

theorem wholeArgument_int {n : Int} (small : n.natAbs < 2 ^ 53) : wholeArgument (.int n) = .ok n :=
  Value.wholePart_of_natAbs_lt small

theorem callMethod_substring {s n : Int} (smallStart : s.natAbs < 2 ^ 53) (smallLength : n.natAbs < 2 ^ 53) :
    callMethod receiver "Substring" [.int s, .int n] =
      if 0 ≤ s ∧ 0 ≤ n ∧ s + n ≤ receiver.plainText.length then
        .ok (.text (String.ofList ((receiver.plainText.toList.drop s.toNat).take n.toNat)))
      else .error (.unsupported .substringRange) := by
  change substring receiver.plainText [.int s, .int n] = _
  simp only [substring, wholeArgument_int smallStart, wholeArgument_int smallLength, bind, Except.bind, pure, Except.pure]
  by_cases within : 0 ≤ s ∧ 0 ≤ n ∧ s + n ≤ receiver.plainText.length
  · rw [if_pos within, if_neg]
    rw [String.length_toList]
    omega
  · rw [if_neg within, if_pos]
    rw [String.length_toList]
    omega

/-- What the six methods answer about a text and a needle, and how the answers belong together. -/
theorem search_answers (needle cs : List Char) :
    ∃ first last : Int, place (Text.indexOf? needle cs) = .int first ∧ place (Text.lastIndexOf? needle cs) = .int last ∧
      (Text.contains needle cs = true ↔ 0 ≤ first) ∧ (0 ≤ first ↔ 0 ≤ last) ∧
      (needle.isPrefixOf cs = true ↔ first = 0) ∧
      (needle.isSuffixOf cs = true ↔ 0 ≤ last ∧ last = (cs.length : Int) - needle.length) ∧
      ((cs == needle) = true ↔ needle.isPrefixOf cs = true ∧ cs.length = needle.length) ∧ first ≤ last := by
  have same : (cs == needle) = true ↔ needle.isPrefixOf cs = true ∧ cs.length = needle.length := by
    rw [beq_iff_eq, List.isPrefixOf_iff_prefix]
    constructor
    · rintro rfl
      exact ⟨List.prefix_rfl, rfl⟩
    · rintro ⟨begins, length⟩
      exact (begins.eq_of_length length.symm).symm
  rw [Text.contains, List.isSuffixOf_iff_suffix, Text.isSuffix_iff_occursAt]
  cases first : Text.indexOf? needle cs with
  | none =>
      have nowhere := Text.indexOf?_eq_none_iff.1 first
      have begins : needle.isPrefixOf cs = true ↔ (-1 : Int) = 0 :=
        iff_of_false (fun here => nowhere 0 (Text.occursAt_zero.2 (List.isPrefixOf_iff_prefix.1 here))) (by decide)
      rw [Text.lastIndexOf?_eq_none_iff.2 nowhere]
      refine ⟨-1, -1, rfl, rfl, by simp, by simp, begins, ?_, same, Int.le_refl _⟩
      exact iff_of_false (fun ⟨i, found, _⟩ => nowhere i found) (by omega)
  | some i =>
      obtain ⟨found, least⟩ := Text.indexOf?_eq_some_iff.1 first
      cases last : Text.lastIndexOf? needle cs with
      | none => exact absurd found (Text.lastIndexOf?_eq_none_iff.1 last i)
      | some j =>
          obtain ⟨foundLast, greatest⟩ := Text.lastIndexOf?_eq_some_iff.1 last
          have fits := foundLast.add_length_le
          refine ⟨i, j, rfl, rfl, by simp, by simp, ?_, ?_, same, Int.ofNat_le.2 (least j foundLast)⟩
          · rw [List.isPrefixOf_iff_prefix, ← Text.occursAt_zero]
            constructor
            · intro start
              have := least 0 start
              omega
            · intro start
              have zero : i = 0 := by omega
              exact zero ▸ found
          · constructor
            · rintro ⟨k, ends, fills⟩
              have := greatest k ends
              omega
            · rintro ⟨-, fills⟩
              exact ⟨j, foundLast, by omega⟩

theorem callMethod_substring_eq_iff {s : Int} {sought : String} (smallStart : s.natAbs < 2 ^ 53)
    (smallLength : sought.length < 2 ^ 53) :
    callMethod receiver "Substring" [.int s, .int sought.length] = .ok (.text sought) ↔
      0 ≤ s ∧ Text.OccursAt sought.toList receiver.plainText.toList s.toNat := by
  rw [callMethod_substring (n := sought.length) smallStart smallLength, Int.toNat_natCast]
  split
  · next within =>
    have start : s.toNat ≤ receiver.plainText.toList.length := by
      rw [String.length_toList]
      omega
    rw [Except.ok.injEq, Value.text.injEq, ← String.toList_inj, String.toList_ofList, and_iff_right within.1,
      Text.OccursAt, and_iff_right start, List.prefix_iff_eq_take, String.length_toList, eq_comm]
  · next without =>
    refine iff_of_false nofun fun ⟨start, found⟩ => without ?_
    have fits := found.add_length_le
    rw [String.length_toList, String.length_toList] at fits
    omega

theorem callMethod_substring_of_within {s n : Int} (smallStart : s.natAbs < 2 ^ 53) (smallLength : n.natAbs < 2 ^ 53)
    (within : 0 ≤ s ∧ 0 ≤ n ∧ s + n ≤ receiver.plainText.length) :
    ∃ front cut back : String, callMethod receiver "Substring" [.int s, .int n] = .ok (.text cut) ∧
      receiver.plainText = front ++ cut ++ back ∧ (front.length : Int) = s ∧ (cut.length : Int) = n := by
  let cs := receiver.plainText.toList
  have letters : cs.length = receiver.plainText.length := String.length_toList
  refine ⟨.ofList (cs.take s.toNat), .ofList ((cs.drop s.toNat).take n.toNat),
    .ofList ((cs.drop s.toNat).drop n.toNat), ?_, ?_, ?_, ?_⟩
  · rw [callMethod_substring smallStart smallLength, if_pos within]
  · rw [← String.toList_inj, String.toList_append, String.toList_append, String.toList_ofList, String.toList_ofList,
      String.toList_ofList, List.append_assoc, List.take_append_drop, List.take_append_drop]
  · rw [String.length_ofList, List.length_take]
    omega
  · rw [String.length_ofList, List.length_take, List.length_drop]
    omega

/-- The methods that look for one text in another tell one story, whether or not letter case counts. Where it counts, what
is found can be cut out at the place where it was found, and at no earlier one. A cut takes as many characters as it is
asked for, or none if there are not so many; its bounds are integers that a float holds exactly. -/
theorem search_methods_agree (receiver needle : Value) (option : CaseOption) :
    (∃ (contains starts ends equals : Bool) (first last : Int),
      callMethod receiver "Contains" (needle :: option.arguments) = .ok (.bool contains) ∧
      callMethod receiver "StartsWith" (needle :: option.arguments) = .ok (.bool starts) ∧
      callMethod receiver "EndsWith" (needle :: option.arguments) = .ok (.bool ends) ∧
      callMethod receiver "Equals" (needle :: option.arguments) = .ok (.bool equals) ∧
      callMethod receiver "IndexOf" (needle :: option.arguments) = .ok (.int first) ∧
      callMethod receiver "LastIndexOf" (needle :: option.arguments) = .ok (.int last) ∧
      (contains = true ↔ 0 ≤ first) ∧ (0 ≤ first ↔ 0 ≤ last) ∧ (starts = true ↔ first = 0) ∧
      (ends = true ↔ 0 ≤ last ∧
        last = ((option.folded receiver.plainText).length : Int) - (option.folded needle.plainText).length) ∧
      (equals = true ↔ starts = true ∧
        (option.folded receiver.plainText).length = (option.folded needle.plainText).length) ∧
      first ≤ last) ∧
    (∀ i : Int, callMethod receiver "IndexOf" [needle] = .ok (.int i) → 0 ≤ i → i < 2 ^ 53 →
      needle.plainText.length < 2 ^ 53 →
      callMethod receiver "Substring" [.int i, .int needle.plainText.length] = .ok (.text needle.plainText) ∧
      ∀ s < i, s.natAbs < 2 ^ 53 →
        callMethod receiver "Substring" [.int s, .int needle.plainText.length] ≠ .ok (.text needle.plainText)) ∧
    ∀ s n : Int, s.natAbs < 2 ^ 53 → n.natAbs < 2 ^ 53 →
      if 0 ≤ s ∧ 0 ≤ n ∧ s + n ≤ receiver.plainText.length then
        ∃ front cut back : String, callMethod receiver "Substring" [.int s, .int n] = .ok (.text cut) ∧
          receiver.plainText = front ++ cut ++ back ∧ (front.length : Int) = s ∧ (cut.length : Int) = n
      else callMethod receiver "Substring" [.int s, .int n] = .error (.unsupported .substringRange) := by
  refine ⟨?_, ?_, ?_⟩
  · obtain ⟨first, last, isFirst, isLast, laws⟩ :=
      search_answers (option.folded needle.plainText).toList (option.folded receiver.plainText).toList
    rw [String.length_toList, String.length_toList] at laws
    have ask : ∀ name method, searchMethod? name = some method →
        callMethod receiver name (needle :: option.arguments) =
          .ok (method (option.folded needle.plainText).toList (option.folded receiver.plainText).toList) :=
      fun _ _ found => callMethod_search found option
    refine ⟨_, _, _, _, first, last, (ask "Contains" _ rfl :), (ask "StartsWith" _ rfl :), (ask "EndsWith" _ rfl :),
      (ask "Equals" _ rfl :), ?_, ?_, laws⟩
    · exact (ask "IndexOf" _ rfl).trans (congrArg _ isFirst)
    · exact (ask "LastIndexOf" _ rfl).trans (congrArg _ isLast)
  · intro i answer start smallStart smallLength
    have asked : callMethod receiver "IndexOf" [needle] =
        .ok (place (Text.indexOf? needle.plainText.toList receiver.plainText.toList)) :=
      (callMethod_search (show searchMethod? "IndexOf" = some _ from rfl) .exact :)
    rw [asked, Except.ok.injEq] at answer
    cases found : Text.indexOf? needle.plainText.toList receiver.plainText.toList with
    | none =>
        rw [found, place, Value.int.injEq] at answer
        omega
    | some k =>
        rw [found, place, Value.int.injEq] at answer
        subst answer
        obtain ⟨occurs, least⟩ := Text.indexOf?_eq_some_iff.1 found
        refine ⟨(callMethod_substring_eq_iff (by omega) smallLength).2 ⟨start, occurs⟩, fun s earlier small cut => ?_⟩
        obtain ⟨fromStart, here⟩ := (callMethod_substring_eq_iff small smallLength).1 cut
        have := least _ here
        omega
  · intro s n smallStart smallLength
    split
    · next within => exact callMethod_substring_of_within smallStart smallLength within
    · next without => rw [callMethod_substring smallStart smallLength, if_neg without]

example : callMethod (.text "Banana") "LastIndexOf" [.text "AN", .bool true] = .ok (.int 3) := by decide +kernel

end Expr

end TabularAudit
