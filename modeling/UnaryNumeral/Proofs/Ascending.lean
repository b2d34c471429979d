namespace UnaryNumeral

theorem pairwise_lt_mergeSort {texts : List String} (distinct : texts.Nodup) :
    (texts.mergeSort fun a b => decide (a ≤ b)).Pairwise (· < ·) := by
  have sorted : (texts.mergeSort fun a b => decide (a ≤ b)).Pairwise fun a b =>
      decide (a ≤ b) = true := by
    apply List.pairwise_mergeSort
    · intro a b c below above
      simp only [decide_eq_true_eq] at below above ⊢
      exact String.le_trans below above
    · intro a b
      simpa using String.le_total a b
  have different : (texts.mergeSort fun a b => decide (a ≤ b)).Nodup :=
    (List.mergeSort_perm texts _).nodup_iff.mpr distinct
  apply (sorted.and different).imp
  intro a b apart
  obtain ⟨below, other⟩ := apart
  apply String.not_le.mp
  intro above
  exact other (String.le_antisymm (decide_eq_true_eq.mp below) above)

end UnaryNumeral
