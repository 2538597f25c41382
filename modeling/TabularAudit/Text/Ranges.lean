/-! Classes of characters as sorted ranges of code points. -/

namespace TabularAudit.Text

abbrev Ranges := List (Nat × Nat)

theorem forall_mem_of_any {p : Char → Bool} {cs : List Char} (none : cs.any p = false) : ∀ c ∈ cs, p c = false := by
  simpa using none

/-- The ranges are sorted, so the search stops at the first one that begins above the code point. -/
def Ranges.has : Ranges → Nat → Bool
  | [], _ => false
  | (first, last) :: rest, n => first ≤ n && (n ≤ last || has rest n)

theorem Ranges.has_cons_of_mem {first last n : Nat} (rest : Ranges) (low : first ≤ n) (high : n ≤ last) :
    Ranges.has ((first, last) :: rest) n = true := by
  simp [has, low, high]

theorem Ranges.has_cons_of_has {first last n : Nat} {rest : Ranges} (low : first ≤ n) (later : rest.has n = true) :
    Ranges.has ((first, last) :: rest) n = true := by
  simp [has, low, later]

def Ranges.codes (ranges : Ranges) : List Nat := ranges.flatMap fun range => List.range' range.1 (range.2 + 1 - range.1)

theorem Ranges.mem_codes_of_has {ranges : Ranges} {n : Nat} (inside : ranges.has n = true) : n ∈ ranges.codes := by
  induction ranges with
  | nil => cases inside
  | cons range rest ih =>
      simp only [has, Bool.and_eq_true, decide_eq_true_eq, Bool.or_eq_true] at inside
      rw [codes, List.flatMap_cons, List.mem_append, List.mem_range'_1]
      rcases inside.2 with high | later
      · exact .inl (by omega)
      · exact .inr (ih later)

def Ranges.covers : Ranges → Nat × Nat → Bool
  | [], _ => false
  | (first, last) :: rest, range => first ≤ range.1 && (range.2 ≤ last || covers rest range)

theorem Ranges.has_of_covers_range {ranges : Ranges} {range : Nat × Nat} {n : Nat} (covers : ranges.covers range = true)
    (low : range.1 ≤ n) (high : n ≤ range.2) : ranges.has n = true := by
  induction ranges with
  | nil => cases covers
  | cons head rest ih =>
      simp only [Ranges.covers, Bool.and_eq_true, decide_eq_true_eq, Bool.or_eq_true] at covers
      rcases covers.2 with here | later
      · exact has_cons_of_mem rest (by omega) (by omega)
      · exact has_cons_of_has (by omega) (ih later)

theorem Ranges.has_of_covers {outer inner : Ranges} {n : Nat} (covers : ∀ range ∈ inner, outer.covers range = true)
    (inside : inner.has n = true) : outer.has n = true := by
  induction inner with
  | nil => cases inside
  | cons range rest ih =>
      rw [List.forall_mem_cons] at covers
      simp only [has, Bool.and_eq_true, decide_eq_true_eq, Bool.or_eq_true] at inside
      rcases inside.2 with high | later
      · exact has_of_covers_range covers.1 inside.1 high
      · exact ih covers.2 later

def Ranges.apart : Ranges → Ranges → Bool
  | [], _ => true
  | range :: rest, others =>
    let later := others.dropWhile fun other => other.2 < range.1
    later.head?.all (fun other => range.2 < other.1) && apart rest later

theorem Ranges.has_dropWhile {ranges : Ranges} {low n : Nat} (above : low ≤ n) (inside : ranges.has n = true) :
    Ranges.has (ranges.dropWhile fun range => range.2 < low) n = true := by
  induction ranges with
  | nil => cases inside
  | cons range rest ih =>
      rw [List.dropWhile_cons]
      split
      · next below =>
        have below : range.2 < low := by simpa using below
        simp only [has, Bool.and_eq_true, decide_eq_true_eq, Bool.or_eq_true] at inside
        rcases inside.2 with high | later
        · omega
        · exact ih later
      · exact inside

theorem Ranges.not_has_of_apart {ranges others : Ranges} {n : Nat} (apart : ranges.apart others = true)
    (inside : ranges.has n = true) : others.has n = false := by
  induction ranges generalizing others with
  | nil => cases inside
  | cons range rest ih =>
      simp only [Ranges.apart, Bool.and_eq_true] at apart
      simp only [has, Bool.and_eq_true, decide_eq_true_eq, Bool.or_eq_true] at inside
      rw [Bool.eq_false_iff]
      intro shared
      have later := has_dropWhile inside.1 shared
      rcases inside.2 with high | behind
      · cases left : others.dropWhile fun other => other.2 < range.1 with
        | nil =>
            rw [left] at later
            cases later
        | cons other more =>
            rw [left] at later apart
            simp only [has, Bool.and_eq_true, decide_eq_true_eq] at later
            have above : range.2 < other.1 := by simpa using apart.1
            omega
      · rw [ih apart.2 behind] at later
        cases later

end TabularAudit.Text
