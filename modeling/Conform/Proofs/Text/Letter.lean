import Conform.Text.Blank

/-! The two cases of the letters a to z. A letter of either case is no white space. -/
namespace Conform.Text

theorem toNat_toLower (c : Char) : c.toLower.toNat =
    if 0x41 ≤ c.toNat ∧ c.toNat ≤ 0x5A then c.toNat + 0x20 else c.toNat := by
  have least : 'A'.val ≤ c.val ↔ 0x41 ≤ c.toNat := UInt32.le_iff_toNat_le
  have most : c.val ≤ 'Z'.val ↔ c.toNat ≤ 0x5A := UInt32.le_iff_toNat_le
  unfold Char.toLower
  by_cases capital : 0x41 ≤ c.toNat ∧ c.toNat ≤ 0x5A
  · rw [if_pos capital, dif_pos ⟨least.mpr capital.1, most.mpr capital.2⟩]
    change (c.val + ('a'.val - 'A'.val)).toNat = c.toNat + 0x20
    rw [UInt32.toNat_add]
    change (c.toNat + 0x20) % 2 ^ 32 = c.toNat + 0x20
    omega
  · rw [if_neg capital, dif_neg]
    intro inside
    exact capital ⟨least.mp inside.1, most.mp inside.2⟩

theorem not_isBlank_of_toLower {c : Char} (letter : c.toLower.isLower = true) :
    isBlank c = false := by
  obtain ⟨first, last⟩ := Bool.and_eq_true_iff.mp letter
  have least : 0x61 ≤ c.toLower.toNat := UInt32.le_iff_toNat_le.mp (of_decide_eq_true first)
  have most : c.toLower.toNat ≤ 0x7A := UInt32.le_iff_toNat_le.mp (of_decide_eq_true last)
  have place := toNat_toLower c
  simp only [isBlank, Bool.or_eq_false_iff, Bool.and_eq_false_iff, decide_eq_false_iff_not,
    beq_eq_false_iff_ne]
  split at place <;> omega

end Conform.Text
