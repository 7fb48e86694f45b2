/-
# The formulas of a batch

The engine is handed formulas without an equals sign.  What a text is classified as has none,
and if a pass leaves the text as it is, the formula is its own normal form and is explicit: the
zero form of an equation needs no further repair, and would be classified as it is.

In a batch this is so for the curve of every row (`Drawn`): the text that the row comes down to
is drawn as it stands, as a polyline, or it is an equation and is drawn in its zero form.
-/

import CurveSheet.Proofs.Formula.ZeroForm
import CurveSheet.Proofs.Plot.Isolation

namespace CurveSheet
namespace Plot

open Formula

/-- How the curve of a text is drawn: by the text itself, as a polyline, or, if the text is an
equation, by its sides, of which only the left one loses blanks, and only at its end. -/
inductive Drawn (text : String) (spec : Spec) : Prop where
  | verbatim (hkind : spec.kind = .explicit) (hhint : spec.hint? = some .polyline)
      (hformula : spec.formula = text)
  | zeroForm (left blanks right : List Char) (hkind : spec.kind = .implicit)
      (hhint : spec.hint? = none) (htext : text.toList = left ++ blanks ++ '=' :: right)
      (hend : left.getLast?.any Text.isBlank = false)
      (hblanks : ∀ c ∈ blanks, Text.isBlank c = true) (hleft : '=' ∉ left) (hright : '=' ∉ right)
      (hformula : spec.formula.toList = left ++ " - (".toList ++ right ++ ")".toList)

/-! ### Classified texts -/

theorem not_mem_formula {text : String} {classified : Classified}
    (h : classify text = .ok classified) : '=' ∉ classified.formula.toList := by
  rcases classify_eq_ok_iff.1 h with ⟨hnone, rfl⟩ | ⟨left, right, -, hleft, hright, -, rfl⟩
  · exact hnone
  · rw [String.toList_ofList]
    exact not_mem_zeroFormChars hleft hright

/-- **What a text in normal form is classified as is in normal form.** -/
theorem pass_formula {text : String} {classified : Classified}
    (hpass : pass functionNames text.toList = text.toList) (h : classify text = .ok classified) :
    pass functionNames classified.formula.toList = classified.formula.toList := by
  rcases classify_eq_ok_iff.1 h with ⟨-, rfl⟩ | ⟨left, right, htext, -, -, -, rfl⟩
  · exact hpass
  · rw [String.toList_ofList]
    exact pass_zeroFormChars (htext ▸ hpass)

theorem drawn_of_classify {text : String} {classified : Classified}
    (h : classify text = .ok classified) (colour : Colour) :
    Drawn text (.ofClassified classified colour) := by
  rcases classify_eq_ok_iff.1 h with ⟨-, rfl⟩ | ⟨left, right, htext, hleft, hright, -, rfl⟩
  · exact .verbatim rfl rfl rfl
  · obtain ⟨blanks, hsplit, hblanks⟩ := Text.exists_eq_trimEndChars_append left
    refine .zeroForm (Text.trimEndChars left) blanks right rfl rfl
      (hsplit ▸ htext) (Text.getLast?_trimEndChars left) hblanks (fun hmem => ?_) hright ?_
    · rw [hsplit] at hleft
      exact hleft (List.mem_append_left _ hmem)
    · rw [Spec.formula_ofClassified, String.toList_ofList]
      rfl

/-! ### Curves of rows -/

/-- The curves that rows give are those that they give by themselves. -/
theorem mem_filterMap_spec?_iff {start : Nat} {rows : List Row} {spec : Spec} :
    spec ∈ (resultsFrom start rows).filterMap RowResult.spec? ↔
      ∃ row ∈ rows, row.spec? = .ok (some spec) := by
  induction rows generalizing start with
  | nil => simp [resultsFrom]
  | cons row rows ih =>
    have hrow : (row.result start).spec? = some spec ↔ row.spec? = .ok (some spec) := by
      unfold Row.result
      split <;> simp_all [RowResult.spec?]
    simp only [resultsFrom, List.mem_filterMap, List.mem_cons, exists_eq_or_imp] at ih ⊢
    rw [hrow, ih]

theorem mem_specs_build {rows : List Row} {x y : Bounds} {outcome : Outcome} {spec : Spec}
    (h : build rows x y = .ok outcome) (hspec : spec ∈ outcome.batch.specs) :
    ∃ row ∈ rows, row.spec? = .ok (some spec) := by
  rw [← (build_eq_ok_iff.1 h).2] at hspec
  exact mem_filterMap_spec?_iff.1 hspec

/-- **Formulas for the engine have no equals sign and stay in normal form.**  If a pass leaves a
text as it is, what the text is classified as is its own normal form, and is classified as
explicit, as it is.  In a batch every curve is drawn by a formula without an equals sign, which is
the normal form of some row or the zero form of that. -/
theorem formulas_without_equals :
    (∀ text : String, pass functionNames text.toList = text.toList →
      ∀ classified, classify text = .ok classified →
        '=' ∉ classified.formula.toList ∧ normalize classified.formula = classified.formula ∧
          classify classified.formula = .ok ⟨.explicit, classified.formula⟩) ∧
    ∀ (rows : List Row) (x y : Bounds) (outcome : Outcome), build rows x y = .ok outcome →
      ∀ spec ∈ outcome.batch.specs, '=' ∉ spec.formula.toList ∧
        ∃ row ∈ rows, row.spec? = .ok (some spec) ∧
          Drawn (normalize (Text.trim row.text)) spec := by
  refine ⟨fun text hpass classified h => ?_, fun rows x y outcome h spec hspec => ?_⟩
  · have hnone := not_mem_formula h
    exact ⟨hnone, normalize_eq_self (pass_formula hpass h),
      classify_eq_ok_iff.2 (.inl ⟨hnone, rfl⟩)⟩
  · obtain ⟨row, hrow, hbuilt⟩ := mem_specs_build h hspec
    obtain ⟨-, classified, hclassified, rfl⟩ := Row.spec?_eq_some_iff.1 hbuilt
    have hnone := not_mem_formula hclassified
    rw [← Spec.formula_ofClassified classified row.colour] at hnone
    exact ⟨hnone, row, hrow, hbuilt, drawn_of_classify hclassified row.colour⟩

/-- The equation of a circle is left as it is, and so is its zero form.  Next to a bare call it is
drawn in its zero form. -/
theorem formulas_without_equals_circle :
    let rows := Row.coloured [" sinx", "X^2 + y^2 = 9 "]
    (normalize "x^2 + y^2 - ( 9)" = "x^2 + y^2 - ( 9)" ∧
      classify "x^2 + y^2 - ( 9)" = .ok ⟨.explicit, "x^2 + y^2 - ( 9)"⟩) ∧
    ∃ outcome, build rows ⟨"-10", "10"⟩ ⟨"-5", "5"⟩ = .ok outcome ∧
      outcome.batch.specs = [.explicit "sin(x)" (.forRow 0),
        .implicit "x^2 + y^2 - ( 9)" (.forRow 1)] ∧
      ∀ spec ∈ outcome.batch.specs, '=' ∉ spec.formula.toList ∧
        ∃ row ∈ rows, row.spec? = .ok (some spec) ∧
          Drawn (normalize (Text.trim row.text)) spec := by
  intro rows
  have hpass : pass functionNames "x^2 + y^2 = 9".toList = "x^2 + y^2 = 9".toList := by
    decide +kernel
  have hcircle := formulas_without_equals.1 _ hpass ⟨.implicit, "x^2 + y^2 - ( 9)"⟩
    (by decide +kernel)
  have hspecs : (build rows ⟨"-10", "10"⟩ ⟨"-5", "5"⟩).map (·.batch.specs) =
      .ok [.explicit "sin(x)" (.forRow 0), .implicit "x^2 + y^2 - ( 9)" (.forRow 1)] := by
    decide +kernel
  cases hbuild : build rows ⟨"-10", "10"⟩ ⟨"-5", "5"⟩ with
  | error fault =>
    rw [hbuild] at hspecs
    cases hspecs
  | ok outcome =>
    rw [hbuild] at hspecs
    exact ⟨hcircle.2, outcome, rfl, Except.ok.inj hspecs,
      formulas_without_equals.2 rows _ _ outcome hbuild⟩

end Plot
end CurveSheet
