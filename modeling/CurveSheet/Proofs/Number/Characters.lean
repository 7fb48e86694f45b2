/-
# The characters of a number

In every layout a finite number is written with digits, points, exponents and signs
(`isNumeric_of_mem_magnitudeChars`).  A layout that writes whole numbers with a fraction
writes digits without a zero in front, and behind them a point with a digit or an
exponent (`isMeasure_magnitudeChars`), so that the text cannot be taken for an integer.
-/

import CurveSheet.Proofs.Number.Digits
import CurveSheet.Text.Blank

namespace CurveSheet

/-- A character of the text of a finite number. -/
def isNumeric (c : Char) : Bool := isDigit c || c == '.' || c == 'e' || c == '-' || c == '+'

theorem isNumeric_of_isDigit {c : Char} (h : isDigit c = true) : isNumeric c = true := by
  simp [isNumeric, h]

/-- The characters of numbers are no blanks. -/
theorem isBlank_eq_false_of_isNumeric {c : Char} (h : isNumeric c = true) :
    Text.isBlank c = false := by
  simp only [isNumeric, isDigit, Bool.or_eq_true, Bool.and_eq_true, decide_eq_true_eq,
    beq_iff_eq] at h
  rcases h with (((⟨hlow, hhigh⟩ | rfl) | rfl) | rfl) | rfl
  · have hbounds : 48 ≤ c.toNat ∧ c.toNat ≤ 57 := ⟨hlow, hhigh⟩
    exact Text.isBlank_eq_false_of_visible (by omega) (by omega)
  · decide
  · decide
  · decide
  · decide

namespace Layout

variable (layout : Layout)

theorem isNumeric_of_mem_exponentChars {c : Char} {exponent : Int}
    (h : c ∈ layout.exponentChars exponent) : isNumeric c = true := by
  unfold exponentChars at h
  rw [List.cons_append, List.mem_cons, List.mem_append] at h
  rcases h with rfl | h | h
  · decide
  · split at h
    · rw [List.mem_singleton.1 h]
      decide
    · split at h
      · rw [List.mem_singleton.1 h]
        decide
      · exact absurd h List.not_mem_nil
  · exact isNumeric_of_isDigit (isDigit_of_mem_toDigits h)

section

variable {d : Digits} (hdigits : ∀ c ∈ d.digits, isDigit c = true)

include hdigits

theorem isNumeric_of_mem_positionalChars {c : Char} (h : c ∈ layout.positionalChars d) :
    isNumeric c = true := by
  have hall : ∀ c ∈ d.digits, isNumeric c = true := fun c hc =>
    isNumeric_of_isDigit (hdigits c hc)
  have hzeros : ∀ n, ∀ c ∈ List.replicate n '0', isNumeric c = true := fun n c hc =>
    isNumeric_of_isDigit (isDigit_of_mem_zeros hc)
  have hpoint : isNumeric '.' = true := by decide
  have hzero : isNumeric '0' = true := by decide
  revert c
  unfold positionalChars
  split
  · simp only [List.forall_mem_append, List.forall_mem_cons]
    exact ⟨⟨⟨hzero, hpoint, List.forall_mem_nil _⟩, hzeros _⟩, hall⟩
  · split
    · split
      · simp only [List.forall_mem_append, List.forall_mem_cons]
        exact ⟨⟨hall, hzeros _⟩, hpoint, hzero, List.forall_mem_nil _⟩
      · simp only [List.append_nil, List.forall_mem_append]
        exact ⟨hall, hzeros _⟩
    · simp only [List.forall_mem_append, List.forall_mem_cons]
      exact ⟨fun c hc => hall c (List.mem_of_mem_take hc), hpoint,
        fun c hc => hall c (List.mem_of_mem_drop hc)⟩

theorem isNumeric_of_mem_scientificChars {c : Char} (h : c ∈ layout.scientificChars d) :
    isNumeric c = true := by
  have htake : ∀ c ∈ d.digits.take 1, isNumeric c = true := fun c hc =>
    isNumeric_of_isDigit (hdigits c (List.mem_of_mem_take hc))
  have hdrop : ∀ c ∈ d.digits.drop 1, isNumeric c = true := fun c hc =>
    isNumeric_of_isDigit (hdigits c (List.mem_of_mem_drop hc))
  have hpoint : isNumeric '.' = true := by decide
  have hexponent : ∀ c ∈ layout.exponentChars (d.point - 1), isNumeric c = true := fun c hc =>
    layout.isNumeric_of_mem_exponentChars hc
  revert c
  unfold scientificChars
  split
  · simp only [List.append_nil, List.forall_mem_append]
    exact ⟨htake, hexponent⟩
  · simp only [List.forall_mem_append, List.forall_mem_cons]
    exact ⟨⟨htake, hpoint, hdrop⟩, hexponent⟩

end

/-- **A magnitude is written with digits, points, exponents and signs.** -/
theorem isNumeric_of_mem_magnitudeChars {rank : Nat} {c : Char}
    (h : c ∈ layout.magnitudeChars rank) : isNumeric c = true := by
  have hdigits := (readsBack_shortestDigits layout.tie rank).2
  unfold magnitudeChars at h
  split at h
  · split at h <;> exact List.all_eq_true.1 (by decide) c h
  · dsimp only at h
    split at h
    · exact layout.isNumeric_of_mem_positionalChars hdigits h
    · exact layout.isNumeric_of_mem_scientificChars hdigits h

theorem isNumeric_of_mem_finiteChars {x : Finite} {c : Char} (h : c ∈ layout.finiteChars x) :
    isNumeric c = true := by
  rcases List.mem_append.1 h with hsign | hmagnitude
  · split at hsign
    · rw [List.mem_singleton.1 hsign]
      decide
    · exact absurd hsign List.not_mem_nil
  · exact layout.isNumeric_of_mem_magnitudeChars hmagnitude

/-- A text is digits without a zero in front, and behind them a point with a digit or an
exponent. -/
def IsMeasure (text : List Char) : Prop :=
  ∃ whole tail, text = whole ++ tail ∧ whole ≠ [] ∧ (∀ c ∈ whole, isDigit c = true) ∧
    (whole.length = 1 ∨ whole.head? ≠ some '0') ∧
    ((∃ c rest, tail = '.' :: c :: rest ∧ isDigit c = true) ∨ ∃ rest, tail = 'e' :: rest)

section

variable {layout}

/-- Digits with a point behind some of them, and zeros where there are no digits. -/
theorem isMeasure_positionalChars (hfraction : layout.wholeFraction = true) {d : Digits}
    (hdigits : ∀ c ∈ d.digits, isDigit c = true) (hne : d.digits ≠ [])
    (hfirst : d.digits.head? ≠ some '0') : IsMeasure (layout.positionalChars d) := by
  obtain ⟨c, rest, hd⟩ := List.exists_cons_of_ne_nil hne
  have hc : isDigit c = true := hdigits c (hd ▸ List.mem_cons_self ..)
  unfold positionalChars
  split
  · -- The digit behind the point is a zero or the first digit.
    refine ⟨['0'], _, rfl, by decide, List.forall_mem_singleton.2 rfl, .inl rfl, .inl ?_⟩
    cases (-d.point).toNat with
    | zero => exact ⟨c, rest, by rw [hd]; rfl, hc⟩
    | succ n => exact ⟨'0', List.replicate n '0' ++ d.digits, rfl, by decide⟩
  · rename_i hpoint
    split
    · refine ⟨_, _, rfl, by simp [hne], ?_, .inr ?_, .inl ⟨'0', [], rfl, by decide⟩⟩
      · exact List.forall_mem_append.2 ⟨hdigits, fun _ => isDigit_of_mem_zeros⟩
      · rw [hd] at hfirst ⊢
        exact hfirst
    · rename_i hshort
      obtain ⟨n, hn⟩ : ∃ n, d.point.toNat = n + 1 := ⟨_, (Nat.succ_pred_eq_of_pos (by omega)).symm⟩
      have hrest : d.digits.drop d.point.toNat ≠ [] := by
        rw [Ne, List.drop_eq_nil_iff]
        omega
      obtain ⟨e, more, hmore⟩ := List.exists_cons_of_ne_nil hrest
      refine ⟨_, _, rfl, by rw [hn, hd]; simp, fun c hc => hdigits c (List.mem_of_mem_take hc),
        .inr ?_, .inl ⟨e, more, by rw [hmore], ?_⟩⟩
      · rw [hd] at hfirst
        rw [hn, hd]
        exact hfirst
      · exact hdigits e (List.mem_of_mem_drop (hmore ▸ List.mem_cons_self ..))

/-- One digit with a point and the others behind it, if there are others, and an exponent. -/
theorem isMeasure_scientificChars {d : Digits} (hdigits : ∀ c ∈ d.digits, isDigit c = true)
    (hne : d.digits ≠ []) : IsMeasure (layout.scientificChars d) := by
  obtain ⟨c, rest, hd⟩ := List.exists_cons_of_ne_nil hne
  rw [hd] at hdigits
  have hone : ∀ e ∈ [c], isDigit e = true := fun e he =>
    hdigits e (List.mem_singleton.1 he ▸ List.mem_cons_self ..)
  unfold scientificChars
  rw [hd]
  cases rest with
  | nil => exact ⟨[c], _, rfl, List.cons_ne_nil _ _, hone, .inl rfl, .inr ⟨_, rfl⟩⟩
  | cons e more =>
    refine ⟨[c], _, by simp; rfl, List.cons_ne_nil _ _, hone, .inl rfl, .inl ⟨e, _, rfl, ?_⟩⟩
    exact hdigits e (List.mem_cons_of_mem _ (List.mem_cons_self ..))

/-- **A layout with fractions writes measures.** -/
theorem isMeasure_magnitudeChars (hfraction : layout.wholeFraction = true) (rank : Nat) :
    IsMeasure (layout.magnitudeChars rank) := by
  have hdigits := (readsBack_shortestDigits layout.tie rank).2
  unfold magnitudeChars
  split
  · exact ⟨['0'], ['.', '0'], rfl, by decide, List.forall_mem_singleton.2 rfl, .inl rfl,
      .inl ⟨'0', [], rfl, by decide⟩⟩
  · rename_i hrank
    have hne := shortestDigits_ne_nil layout.tie hrank
    dsimp only
    split
    · exact isMeasure_positionalChars hfraction hdigits hne (head?_shortestDigits_ne_zero _ hrank)
    · exact isMeasure_scientificChars hdigits hne

/-- A measure has a point or an exponent. -/
theorem IsMeasure.mem {text : List Char} (h : IsMeasure text) : '.' ∈ text ∨ 'e' ∈ text := by
  obtain ⟨whole, tail, rfl, -, -, -, ⟨c, rest, rfl, -⟩ | ⟨rest, rfl⟩⟩ := h
  · exact .inl (List.mem_append_right _ (List.mem_cons_self ..))
  · exact .inr (List.mem_append_right _ (List.mem_cons_self ..))

end

end Layout
end CurveSheet
