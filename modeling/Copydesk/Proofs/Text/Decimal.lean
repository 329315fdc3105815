import Copydesk.Proofs.Text.Trim

/-! Numbers in decimal digits, as they are written and read back. -/

namespace Copydesk.Text

variable {n : Nat} {c : Char}

theorem ofNat_eq_toDigits (n : Nat) : ofNat n = Nat.toDigits 10 n := by
  simp [ofNat, toString, Nat.repr]

theorem isDigit_of_mem_ofNat (h : c ∈ ofNat n) : c.isDigit = true :=
  Nat.isDigit_of_mem_toDigits (by decide) (Nat.le_refl 10) (ofNat_eq_toDigits n ▸ h)

theorem not_mem_ofNat (hc : c.isDigit = false) : c ∉ ofNat n := fun h => by
  rw [isDigit_of_mem_ofNat h] at hc
  cases hc

theorem ofNat_ne_nil (n : Nat) : ofNat n ≠ [] := ofNat_eq_toDigits n ▸ Nat.toDigits_ne_nil

theorem exists_cons_ofNat (n : Nat) : ∃ c t, ofNat n = c :: t ∧ c.isDigit = true := by
  obtain ⟨c, t, hcons⟩ := List.exists_cons_of_ne_nil (ofNat_ne_nil n)
  exact ⟨c, t, hcons, isDigit_of_mem_ofNat (hcons ▸ List.mem_cons_self)⟩

theorem head?_ofNat (hn : n ≠ 0) : (ofNat n).head? ≠ some '0' := by
  rw [ofNat_eq_toDigits]
  induction n using Nat.strong_induction_on with
  | _ n ih =>
    by_cases hlt : n < 10
    · have hdigits : ∀ n < 10, n ≠ 0 → [n.digitChar].head? ≠ some '0' := by decide
      rw [Nat.toDigits_of_lt_base hlt]
      exact hdigits n hlt hn
    · have hdiv : n / 10 ≠ 0 := by omega
      rw [Nat.toDigits_of_base_le (by decide) (by omega),
        List.head?_append_of_ne_nil _ Nat.toDigits_ne_nil]
      exact ih _ (by omega) hdiv

/-- The number that digits after those of another one make with it. -/
def appendDigits (m : Nat) (ds : Text) : Nat :=
  ds.foldl (fun m c => 10 * m + (c.toNat - '0'.toNat)) m

theorem appendDigits_ofNat (n : Nat) : appendDigits 0 (ofNat n) = n := by
  rw [appendDigits, ← Nat.ofDigitChars_eq_foldl, ofNat_eq_toDigits]
  exact Nat.ofDigitChars_toDigits (by decide) (Nat.le_refl 10)

theorem le_appendDigits (m : Nat) (ds : Text) : m ≤ appendDigits m ds := by
  induction ds generalizing m with
  | nil => exact Nat.le_refl m
  | cons c ds ih =>
    have hstep : m ≤ 10 * m + (c.toNat - '0'.toNat) := by omega
    exact Nat.le_trans hstep (ih _)

theorem toNat?_ofNat (n : Nat) : toNat? (ofNat n) = some n := by
  have hall : (ofNat n).all Char.isDigit = true := List.all_eq_true.mpr fun _ => isDigit_of_mem_ofNat
  rw [toNat?, if_neg (by simp [ofNat_ne_nil, hall])]
  exact congrArg some (appendDigits_ofNat n)

theorem isSpace_of_isDigit (h : c.isDigit = true) : isSpace c = false := by
  have hdigits : ∀ n < 58, (Char.ofNat n).isDigit = true → isSpace (Char.ofNat n) = false := by decide
  have hlt : c.toNat < 58 := by
    simp only [Char.isDigit, Bool.and_eq_true, decide_eq_true_eq, UInt32.le_iff_toNat_le] at h
    exact Nat.lt_succ_of_le h.2
  have hspace := hdigits c.toNat hlt
  rw [Char.ofNat_toNat] at hspace
  exact hspace h

theorem trim_ofNat (n : Nat) : trim (ofNat n) = ofNat n :=
  trim_eq_self fun _ hc => isSpace_of_isDigit (isDigit_of_mem_ofNat hc)

end Copydesk.Text
