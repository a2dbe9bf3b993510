import Mathlib

/-!
# Truncation toward zero

The integer between zero and a number that is closest to the number. Away from zero the rounding
goes against the order on one side only, so a bound on the truncation is a bound on the number just
for integers on the same side: positive lower bounds (`le_truncate_iff`) and negative upper bounds
(`truncate_le_iff`). Zero collects the numbers of both sides (`truncate_eq_zero_iff`).
-/

section Truncate
variable {α : Type*} [Ring α] [LinearOrder α] [IsStrictOrderedRing α] [FloorRing α] {x y : α} {n : ℤ}

/-- Truncation toward zero. -/
def truncate (x : α) : ℤ := if 0 ≤ x then ⌊x⌋ else ⌈x⌉

omit [IsStrictOrderedRing α] in
lemma truncate_of_nonneg (h : 0 ≤ x) : truncate x = ⌊x⌋ := if_pos h

omit [IsStrictOrderedRing α] in
lemma truncate_of_neg (h : x < 0) : truncate x = ⌈x⌉ := if_neg h.not_ge

omit [IsStrictOrderedRing α] in
/-- A number and its truncation are on the same side of zero. -/
lemma truncate_nonneg (h : 0 ≤ x) : 0 ≤ truncate x := by
  rw [truncate_of_nonneg h]
  exact Int.floor_nonneg.2 h

lemma truncate_nonpos (h : x ≤ 0) : truncate x ≤ 0 := by
  obtain h | rfl := h.lt_or_eq
  · rw [truncate_of_neg h]
    exact Int.ceil_le.2 (by simpa using h.le)
  · simp [truncate]

/-- Truncation is monotone. -/
lemma truncate_mono (h : x ≤ y) : truncate x ≤ truncate y := by
  obtain hx | hx := le_or_gt 0 x
  · rw [truncate_of_nonneg hx, truncate_of_nonneg (hx.trans h)]
    exact Int.floor_le_floor h
  · obtain hy | hy := le_or_gt 0 y
    · exact (truncate_nonpos hx.le).trans (truncate_nonneg hy)
    · rw [truncate_of_neg hx, truncate_of_neg hy]
      exact Int.ceil_le_ceil h

/-- Positive lower bounds of the truncation are those of the number. -/
lemma le_truncate_iff (hn : 0 < n) : n ≤ truncate x ↔ (n : α) ≤ x := by
  obtain hx | hx := le_or_gt 0 x
  · rw [truncate_of_nonneg hx, Int.le_floor]
  · have below : (0 : α) < n := Int.cast_pos.2 hn
    exact iff_of_false (fun h => absurd (h.trans (truncate_nonpos hx.le)) hn.not_ge)
      (fun h => absurd (h.trans_lt hx) below.le.not_gt)

/-- Negative upper bounds of the truncation are those of the number. -/
lemma truncate_le_iff (hn : n < 0) : truncate x ≤ n ↔ x ≤ n := by
  obtain hx | hx := le_or_gt 0 x
  · have above : (n : α) < 0 := Int.cast_lt_zero.2 hn
    exact iff_of_false (fun h => absurd ((truncate_nonneg hx).trans h) hn.not_ge)
      (fun h => absurd (hx.trans h) above.not_ge)
  · rw [truncate_of_neg hx, Int.ceil_le]

/-- What is less than one away from zero is truncated to zero. -/
lemma truncate_eq_zero_iff : truncate x = 0 ↔ |x| < 1 := by
  have upper : 1 ≤ truncate x ↔ 1 ≤ x := by simpa using le_truncate_iff (x := x) one_pos
  have lower : truncate x ≤ -1 ↔ x ≤ -1 := by
    simpa using truncate_le_iff (x := x) (n := -1) (by decide)
  rw [abs_lt, ← not_le, ← not_le, ← upper, ← lower]
  omega

end Truncate
