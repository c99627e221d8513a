import TokenConformance.Text.Case

/-!
# Lowering — words end where nothing reaches across

The small form of a code point depends on the word that it stands in, and only for a capital sigma.  A
code point that is neither a letter nor transparent (`EndsWords`), such as a slash, keeps apart what
stands on its two sides, so that a text may be lowered in two parts (`lower_append_break`).
-/

namespace TokenConformance

/-- No word reaches up to the code point or across it. -/
structure CodePoint.EndsWords (c : CodePoint) : Prop where
  notCased : c.isCased = false
  notTransparent : c.isTransparent = false
  notSigma : c ≠ 0x3A3

theorem CodePoint.endsWords_slash : (CodePoint.ofChar '/').EndsWords :=
  ⟨by decide +kernel, by decide +kernel, by decide⟩

namespace Text

variable {c : CodePoint}

/-- Behind a code point that ends words nothing matters. -/
theorem startsCased_append_break (hc : c.EndsWords) : ∀ s t : Text,
    startsCased (s ++ c :: t) = startsCased s
  | [], t => by
    simp [startsCased, hc.notTransparent, hc.notCased]
  | d :: s, t => by
    have ih := startsCased_append_break hc s t
    unfold startsCased at ih ⊢
    rw [List.cons_append, List.find?_cons, List.find?_cons]
    cases d.isTransparent with
    | true => exact ih
    | false => rfl

/-- What stands in front of a code point that ends words does not matter for what stands behind it. -/
theorem lowerAfter_append_break (hc : c.EndsWords) (before : Text) : ∀ between t : Text,
    lowerAfter (between ++ c :: before) t = lowerAfter between t
  | _, [] => rfl
  | between, d :: t => by
    have ih := lowerAfter_append_break hc before (d :: between) t
    have hsigma : smallSigma (between ++ c :: before) t = smallSigma between t := by
      rw [smallSigma, smallSigma, endsWord, endsWord, startsCased_append_break hc]
    rw [lowerAfter, lowerAfter, hsigma, ← ih]
    rfl

theorem lowerAfter_append (hc : c.EndsWords) (t : Text) : ∀ before s : Text,
    lowerAfter before (s ++ c :: t) = lowerAfter before (s ++ [c]) ++ lower t
  | before, [] => by
    have hbehind : lowerAfter (c :: before) t = lowerAfter [] t :=
      lowerAfter_append_break hc before [] t
    simp only [List.nil_append, lowerAfter, if_neg hc.notSigma, hbehind, List.append_nil]
    rfl
  | before, d :: s => by
    have ih := lowerAfter_append hc t (d :: before) s
    have hsigma : smallSigma before (s ++ c :: t) = smallSigma before (s ++ [c]) := by
      rw [smallSigma, smallSigma, endsWord, endsWord, startsCased_append_break hc,
        startsCased_append_break hc]
    rw [List.cons_append, List.cons_append, lowerAfter, lowerAfter, hsigma, ih, List.append_assoc]

/-- **A text is lowered in two parts** where it is cut behind a code point that ends words. -/
theorem lower_append_break (hc : c.EndsWords) (s t : Text) :
    lower (s ++ c :: t) = lower (s ++ [c]) ++ lower t :=
  lowerAfter_append hc t [] s

end Text

end TokenConformance
