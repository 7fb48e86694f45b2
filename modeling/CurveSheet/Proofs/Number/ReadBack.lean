/-
# Numbers read back

Whatever the layout, what is written of a finite number denotes this number
(`Layout.read?_finiteChars`).  A layout may put the point anywhere among the digits and may
write zeros for a power of ten, which moves factors between the coefficient and the
exponent of the numeral; its value stays that of the shortest digits
(`Layout.exists_numeral?_magnitudeChars`).
-/

import CurveSheet.Proofs.Number.Digits
import Mathlib.Data.List.TakeDrop

namespace CurveSheet

/-! ### Numerals from their parts -/

theorem span_isDigit {digits rest : List Char} (hdigits : ∀ c ∈ digits, isDigit c = true)
    (hrest : rest.head?.any isDigit = false) : (digits ++ rest).span isDigit = (digits, rest) := by
  have htake : rest.takeWhile isDigit = [] ∧ rest.dropWhile isDigit = rest := by
    cases rest with
    | nil => exact ⟨rfl, rfl⟩
    | cons c rest =>
      have hc : isDigit c = false := hrest
      simp [hc]
  rw [List.span_eq_takeWhile_dropWhile, List.takeWhile_append_of_pos hdigits,
    List.dropWhile_append_of_pos hdigits, htake.1, htake.2, List.append_nil]

/-- **A numeral has the value of its digits**, less the places behind the point. -/
theorem numeral?_append {whole rest fraction tail : List Char} {exponent : Int}
    (hwhole : ∀ c ∈ whole, isDigit c = true) (hne : whole ≠ [])
    (hrest : rest.head?.any isDigit = false) (hfraction : fractionPart rest = (fraction, tail))
    (hexponent : exponentPart? tail = some exponent) :
    numeral? (whole ++ rest) = some ⟨digitsValue (whole ++ fraction),
      exponent - fraction.length, whole.length + fraction.length⟩ := by
  unfold numeral?
  simp only [span_isDigit hwhole hrest, hfraction, hexponent, Option.map_some]
  rw [if_neg]
  simp [hne]

/-- What stands behind the digits before the point: perhaps a point with digits, and what
follows. -/
theorem fractionPart_point {fraction tail : List Char}
    (hfraction : ∀ c ∈ fraction, isDigit c = true) (htail : tail.head?.any isDigit = false) :
    fractionPart ('.' :: (fraction ++ tail)) = (fraction, tail) :=
  span_isDigit hfraction htail

theorem splitSign_toDigits (n : Nat) :
    splitSign (Nat.toDigits 10 n) = (false, Nat.toDigits 10 n) := by
  have hdigits : ∀ c ∈ Nat.toDigits 10 n, isDigit c = true := fun _ hc =>
    isDigit_of_mem_toDigits hc
  unfold splitSign
  split <;> rename_i heq
  · exact absurd (hdigits '-' (by simp [heq])) (by decide)
  · exact absurd (hdigits '+' (by simp [heq])) (by decide)
  · rfl

theorem exponentPart?_exponentChars (layout : Layout) (exponent : Int) :
    exponentPart? (layout.exponentChars exponent) = some exponent := by
  have hdigits : ∀ n : Nat, (Nat.toDigits 10 n).all isDigit = true := fun n =>
    List.all_eq_true.2 fun _ hc => isDigit_of_mem_toDigits hc
  have hread : ∀ negative n rest, splitSign rest = (negative, Nat.toDigits 10 n) →
      exponentPart? ('e' :: rest) = some (if negative then -(n : Int) else n) := by
    intro negative n rest h
    unfold exponentPart?
    simp only [true_or, ↓reduceIte, h, hdigits, digitsValue_toDigits, Bool.not_true, Bool.or_false,
      List.isEmpty_eq_false_iff.2 Nat.toDigits_ne_nil]
    cases negative <;> rfl
  unfold Layout.exponentChars
  rw [List.cons_append]
  split
  · rw [hread true exponent.natAbs _ rfl, if_pos rfl]
    exact congrArg some (by omega)
  · split
    · rw [hread false exponent.natAbs _ rfl, if_neg Bool.false_ne_true]
      exact congrArg some (by omega)
    · rw [List.nil_append, hread false exponent.natAbs _ (splitSign_toDigits _),
        if_neg Bool.false_ne_true]
      exact congrArg some (by omega)

/-! ### Layouts -/

/-- The numeral has the value of digits with their point. -/
def Numeral.Denotes (n : Numeral) (d : Digits) : Prop :=
  n.coefficient < 10 ^ n.width ∧
    ∃ k : Nat, n.coefficient = digitsValue d.digits * 10 ^ k ∧
      n.exponent + k = d.point - d.digits.length

/-- A numeral that denotes what reads back reads back. -/
theorem Numeral.Denotes.readsBack {n : Numeral} {d : Digits} (h : n.Denotes d) (rank : Nat) :
    CurveSheet.readsBack rank n.coefficient n.exponent =
      CurveSheet.readsBack rank (digitsValue d.digits) (d.point - d.digits.length) := by
  obtain ⟨-, k, hcoefficient, hexponent⟩ := h
  rw [hcoefficient, readsBack_mul_pow, hexponent]

namespace Layout

section

variable {d : Digits} (hdigits : ∀ c ∈ d.digits, isDigit c = true)

include hdigits

/-- Digits with a point among them, and zeros around them, denote the same. -/
theorem denotes_of_append {whole fraction : List Char} {exponent : Int} {j k : Nat}
    (hparts : whole ++ fraction = List.replicate j '0' ++ (d.digits ++ List.replicate k '0'))
    (hexponent : exponent - fraction.length + k = d.point - d.digits.length) :
    (⟨digitsValue (whole ++ fraction), exponent - fraction.length,
      whole.length + fraction.length⟩ : Numeral).Denotes d := by
  have hall : ∀ c ∈ whole ++ fraction, isDigit c = true := by
    rw [hparts, List.forall_mem_append, List.forall_mem_append]
    exact ⟨fun _ => isDigit_of_mem_zeros, hdigits, fun _ => isDigit_of_mem_zeros⟩
  refine ⟨?_, k, ?_, hexponent⟩
  · rw [← List.length_append]
    exact digitsValue_lt hall
  · rw [hparts, digitsValue_append, digitsValue_append, digitsValue_replicate_zero,
      digitsValue_replicate_zero, List.length_replicate, Nat.zero_mul, Nat.zero_add, Nat.add_zero]

theorem exists_numeral?_positionalChars (layout : Layout) (hne : d.digits ≠ []) :
    ∃ n, numeral? (layout.positionalChars d) = some n ∧ n.Denotes d := by
  have hlength : 0 < d.digits.length := List.length_pos_iff.2 hne
  have hzeros : ∀ n, ∀ c ∈ List.replicate n '0', isDigit c = true := fun _ _ =>
    isDigit_of_mem_zeros
  unfold positionalChars
  split
  next hpoint =>
    -- Zeros stand before the digits, on both sides of the point.
    have hfraction := fractionPart_point (List.forall_mem_append.2
      ⟨hzeros (-d.point).toNat, hdigits⟩) (rfl : ([] : List Char).head?.any isDigit = false)
    rw [List.append_nil] at hfraction
    rw [List.append_assoc]
    change ∃ n, numeral? (['0'] ++ _) = some n ∧ n.Denotes d
    refine ⟨_, numeral?_append (hzeros 1) (by simp) rfl hfraction rfl,
      denotes_of_append hdigits (j := (-d.point).toNat + 1) (k := 0) ?_ ?_⟩
    · rw [List.replicate_zero, List.append_nil, List.replicate_succ, List.cons_append]
      rfl
    · rw [List.length_append, List.length_replicate]
      omega
  next hpoint =>
    split
    next hlong =>
      have hwhole := List.forall_mem_append.2
        ⟨hdigits, hzeros (d.point.toNat - d.digits.length)⟩
      split
      · refine ⟨_, numeral?_append hwhole (by simp [hne]) rfl
          (fractionPart_point (hzeros 1) rfl) rfl,
          denotes_of_append hdigits (j := 0) (k := d.point.toNat - d.digits.length + 1) ?_ ?_⟩
        · rw [List.replicate_zero, List.nil_append, List.append_assoc,
            List.replicate_append_replicate]
        · rw [List.length_replicate]
          omega
      · refine ⟨_, numeral?_append hwhole (by simp [hne]) rfl rfl rfl,
          denotes_of_append hdigits (j := 0) (k := d.point.toNat - d.digits.length) ?_ ?_⟩
        · rw [List.replicate_zero, List.nil_append, List.append_nil]
        · rw [List.length_nil]
          omega
    next hshort =>
      have hdrop : ∀ c ∈ d.digits.drop d.point.toNat, isDigit c = true := fun c hc =>
        hdigits c (List.mem_of_mem_drop hc)
      have hfraction := fractionPart_point hdrop (rfl : ([] : List Char).head?.any isDigit = false)
      rw [List.append_nil] at hfraction
      refine ⟨_, numeral?_append (fun c hc => hdigits c (List.mem_of_mem_take hc)) ?_ rfl hfraction
        rfl, denotes_of_append hdigits (j := 0) (k := 0) ?_ ?_⟩
      · rw [← List.length_pos_iff, List.length_take]
        omega
      · simp
      · rw [List.length_drop]
        omega

theorem exists_numeral?_scientificChars (layout : Layout) (hne : d.digits ≠ []) :
    ∃ n, numeral? (layout.scientificChars d) = some n ∧ n.Denotes d := by
  have hlength : 0 < d.digits.length := List.length_pos_iff.2 hne
  have hwhole : ∀ c ∈ d.digits.take 1, isDigit c = true := fun c hc =>
    hdigits c (List.mem_of_mem_take hc)
  have hwholeNe : d.digits.take 1 ≠ [] := by
    rw [← List.length_pos_iff, List.length_take]
    omega
  have hexponent := exponentPart?_exponentChars layout (d.point - 1)
  unfold scientificChars
  rw [List.append_assoc]
  split
  next hone =>
    refine ⟨_, numeral?_append hwhole hwholeNe rfl rfl hexponent,
      denotes_of_append hdigits (j := 0) (k := 0) ?_ ?_⟩
    · simp [List.take_of_length_le hone]
    · rw [List.length_nil]
      omega
  next hmore =>
    refine ⟨_, numeral?_append hwhole hwholeNe rfl (fractionPart_point
      (fun c hc => hdigits c (List.mem_of_mem_drop hc)) rfl) hexponent,
      denotes_of_append hdigits (j := 0) (k := 0) ?_ ?_⟩
    · rw [List.replicate_zero, List.nil_append, List.append_nil, List.take_append_drop]
    · rw [List.length_drop]
      omega

end

/-- What is written of a magnitude starts with a digit. -/
theorem exists_magnitudeChars_eq_cons (layout : Layout) (rank : Nat) :
    ∃ c rest, layout.magnitudeChars rank = c :: rest ∧ isDigit c = true := by
  by_cases h : rank = 0
  · unfold magnitudeChars
    rw [if_pos h]
    split
    · exact ⟨'0', _, rfl, by decide⟩
    · exact ⟨'0', _, rfl, by decide⟩
  · have hdigits := (readsBack_shortestDigits layout.tie rank).2
    obtain ⟨c, rest, hd⟩ := List.exists_cons_of_ne_nil (shortestDigits_ne_nil layout.tie h)
    have hc : isDigit c = true := hdigits c (hd ▸ List.mem_cons_self ..)
    unfold magnitudeChars
    rw [if_neg h]
    dsimp only
    split
    · unfold positionalChars
      split
      · exact ⟨'0', _, rfl, by decide⟩
      · rename_i hpoint
        obtain ⟨n, hn⟩ : ∃ n, (shortestDigits layout.tie rank).point.toNat = n + 1 :=
          ⟨_, (Nat.succ_pred_eq_of_pos (by omega)).symm⟩
        rw [hd, hn]
        split
        · exact ⟨c, _, rfl, hc⟩
        · exact ⟨c, _, rfl, hc⟩
    · unfold scientificChars
      rw [hd]
      exact ⟨c, _, rfl, hc⟩

/-- **Every layout writes a numeral with the value of the shortest digits.** -/
theorem exists_numeral?_magnitudeChars (layout : Layout) {rank : Nat} (h : rank ≠ 0) :
    ∃ n, numeral? (layout.magnitudeChars rank) = some n ∧
      n.Denotes (shortestDigits layout.tie rank) := by
  have hdigits := (readsBack_shortestDigits layout.tie rank).2
  have hne := shortestDigits_ne_nil layout.tie h
  unfold magnitudeChars
  rw [if_neg h]
  dsimp only
  split
  · exact exists_numeral?_positionalChars hdigits layout hne
  · exact exists_numeral?_scientificChars hdigits layout hne

/-- A text that starts with a digit has no sign and is none of the words. -/
theorem read?_of_digit {text : List Char} (hdigit : text.head?.any isDigit = true) :
    Binary64.read? text = (numeral? text).map (Numeral.nearest false) ∧
      Binary64.read? ('-' :: text) = (numeral? text).map (Numeral.nearest true) := by
  cases text with
  | nil => cases hdigit
  | cons c rest =>
    have hc : isDigit c = true := hdigit
    have hlower : c.toLower = c := by
      simp only [isDigit, Bool.and_eq_true, decide_eq_true_eq] at hc
      exact dif_neg fun h => absurd (UInt32.le_trans h.1 hc.2) (by decide)
    have hword : ∀ word : List Char, word.head?.any isDigit = false →
        (c :: rest).map Char.toLower ≠ word := by
      rintro word hword rfl
      rw [List.map_cons, hlower] at hword
      exact absurd hword (by rw [List.head?_cons, Option.any_some, hc]; decide)
    have hsign : splitSign (c :: rest) = (false, c :: rest) := by
      unfold splitSign
      split
      next heq => rw [(List.cons.inj heq).1] at hc; exact absurd hc (by decide)
      next heq => rw [(List.cons.inj heq).1] at hc; exact absurd hc (by decide)
      next => rfl
    have hminus : splitSign ('-' :: c :: rest) = (true, c :: rest) := rfl
    unfold Binary64.read?
    rw [hsign, hminus]
    dsimp only
    rw [if_neg (not_or.2 ⟨hword _ (by decide), hword _ (by decide)⟩), if_neg (hword _ (by decide))]
    exact ⟨rfl, by rw [if_neg (not_or.2 ⟨hword _ (by decide), hword _ (by decide)⟩),
      if_neg (hword _ (by decide))]⟩

/-- Zero is written with its sign. -/
theorem map_nearest_magnitudeChars_zero (layout : Layout) (negative : Bool) :
    (numeral? (layout.magnitudeChars 0)).map (Numeral.nearest negative) =
      some (.ofRank negative 0) := by
  unfold magnitudeChars
  rw [if_pos rfl]
  cases layout.wholeFraction <;> rfl

/-- **Numbers read back**: what any layout writes of a finite number denotes the number. -/
theorem read?_finiteChars (layout : Layout) (x : Finite) :
    Binary64.read? (layout.finiteChars x) = some (.finite x) := by
  obtain ⟨c, rest, hcons, hc⟩ := layout.exists_magnitudeChars_eq_cons x.rank
  have hhead : (layout.magnitudeChars x.rank).head?.any isDigit = true := by rw [hcons]; exact hc
  have hmagnitude : (numeral? (layout.magnitudeChars x.rank)).map (Numeral.nearest x.negative) =
      some (.finite x) := by
    by_cases hzero : x.rank = 0
    · rw [hzero, map_nearest_magnitudeChars_zero, Binary64.ofRank, dif_pos (hzero ▸ x.rank_lt)]
      simp only [← hzero]
    · obtain ⟨n, hn, hdenotes⟩ := exists_numeral?_magnitudeChars layout hzero
      have hback := (hdenotes.readsBack x.rank).trans
        (readsBack_shortestDigits layout.tie x.rank).1
      rw [hn, Option.map_some, Numeral.nearest_of_rankNearest x.rank_lt hzero hdenotes.1
        (eq_of_beq hback)]
  unfold finiteChars
  cases hnegative : x.negative with
  | false => rw [if_neg Bool.false_ne_true, List.nil_append, (read?_of_digit hhead).1, ← hnegative,
      hmagnitude]
  | true => rw [if_pos rfl, List.singleton_append, (read?_of_digit hhead).2, ← hnegative,
      hmagnitude]

end Layout
end CurveSheet
