import AdaptiveShaper.Proofs.Binary64.Reals

/-!
# Rounding to whole numbers

The whole number of a binary64 number is that of the real number it is, rounded with a half going
up and held to 64 bits. Below zero a half would have to go down, but nothing is left of it there.
-/

namespace AdaptiveShaper
namespace Binary64

theorem roundHalfUp_eq (m : Nat) (e : Int) :
    roundHalfUp m e = ⌊(m * 2 ^ e : ℝ) + 1 / 2⌋₊ := by
  unfold roundHalfUp
  split
  · next he =>
    obtain ⟨k, rfl⟩ := Int.eq_ofNat_of_zero_le he
    rw [Nat.shiftLeft_eq, Int.toNat_natCast, zpow_natCast]
    symm
    rw [Nat.floor_eq_iff (by positivity)]
    push_cast
    constructor <;> linarith
  · next he =>
    obtain ⟨k, hk⟩ : ∃ k : ℕ, -e = k := Int.eq_ofNat_of_zero_le (by omega)
    obtain rfl : e = -k := by omega
    simp only [neg_neg, Int.toNat_natCast, Nat.shiftRight_eq_div_pow, Nat.shiftLeft_eq, one_mul]
    rw [← Nat.floor_div_eq_div (K := ℝ)]
    congr 1
    push_cast
    rw [zpow_neg, zpow_natCast]
    field_simp
    ring

theorem round_mono {q r : ℝ} (h : q ≤ r) : round q ≤ round r := by
  rw [round_eq, round_eq]
  exact Int.floor_le_floor (by linarith)

theorem toNat_round_of_nonpos {q : ℝ} (h : q ≤ 0) : (round q).toNat = 0 := by
  have hle := round_mono h
  rw [round_zero] at hle
  exact Int.toNat_of_nonpos hle

theorem toWhole_of_real {x : Float} {q : ℝ} (h : extended x = q) :
    toWhole x = min (round q).toNat 0xffff_ffff_ffff_ffff := by
  unfold extended at h
  unfold toWhole
  cases hx : decode x with
  | nan =>
    rw [hx] at h
    have hq : q = 0 := EReal.coe_eq_zero.mp h.symm
    rw [toNat_round_of_nonpos hq.le]
    rfl
  | infinite negative =>
    rw [hx] at h
    cases negative with
    | false => exact (EReal.coe_ne_top q h.symm).elim
    | true => exact (EReal.coe_ne_bot q h.symm).elim
  | finite negative m e =>
    rw [hx] at h
    have hq : signed negative (m * 2 ^ e) = q := EReal.coe_injective h
    have hpos : (0 : ℝ) ≤ m * 2 ^ e := by positivity
    cases negative with
    | false =>
      change (m * 2 ^ e : ℝ) = q at hq
      rw [← hq, round_eq, Int.floor_toNat, ← roundHalfUp_eq]
      rfl
    | true =>
      change (-(m * 2 ^ e) : ℝ) = q at hq
      rw [← hq, toNat_round_of_nonpos (by linarith)]
      rfl

theorem toWhole_of_top {x : Float} (h : extended x = ⊤) : toWhole x = 0xffff_ffff_ffff_ffff := by
  unfold extended at h
  unfold toWhole
  cases hx : decode x with
  | nan =>
    rw [hx] at h
    exact (EReal.zero_ne_top h).elim
  | infinite negative =>
    rw [hx] at h
    cases negative with
    | false => rfl
    | true => exact (bot_ne_top h).elim
  | finite negative m e =>
    rw [hx] at h
    exact (EReal.coe_ne_top _ h).elim

theorem toWhole_of_bot {x : Float} (h : extended x = ⊥) : toWhole x = 0 := by
  unfold extended at h
  unfold toWhole
  cases hx : decode x with
  | nan => rfl
  | infinite negative =>
    rw [hx] at h
    cases negative with
    | false => exact (bot_ne_top h.symm).elim
    | true => rfl
  | finite negative m e =>
    rw [hx] at h
    exact (EReal.coe_ne_bot _ h).elim

theorem toWhole_mono {x y : Float} (h : x ≤ y) : toWhole x ≤ toWhole y := by
  have hle := extended_le h
  induction hx : extended x with
  | bot =>
    rw [toWhole_of_bot hx]
    exact Nat.zero_le _
  | top =>
    rw [hx, top_le_iff] at hle
    rw [toWhole_of_top hx, toWhole_of_top hle]
  | coe q =>
    induction hy : extended y with
    | bot =>
      rw [hx, hy, le_bot_iff] at hle
      exact (EReal.coe_ne_bot q hle).elim
    | top =>
      rw [toWhole_of_top hy]
      exact toWhole_le x
    | coe r =>
      rw [hx, hy, EReal.coe_le_coe_iff] at hle
      rw [toWhole_of_real hx, toWhole_of_real hy]
      have hround := round_mono hle
      omega

theorem one_le_toWhole {x : Float} (h : 1.0 ≤ x) : 1 ≤ toWhole x := by
  have hone : toWhole 1.0 = 1 := rfl
  rw [← hone]
  exact toWhole_mono h

theorem extended_one : extended 1.0 = 1 := by
  have hdecode : decode 1.0 = .finite false 0x10_0000_0000_0000 (-52) := rfl
  rw [extended, hdecode]
  norm_num [Value.toEReal, signed]

/-- A number that is at least one is a real number or infinite, and rounded as such. -/
theorem toWhole_of_one_le {x : Float} (h : 1.0 ≤ x) :
    (∃ q : ℝ, 1 ≤ q ∧ extended x = q ∧ toWhole x = min (round q).toNat 0xffff_ffff_ffff_ffff) ∨
      (extended x = ⊤ ∧ toWhole x = 0xffff_ffff_ffff_ffff) := by
  have hle := extended_le h
  rw [extended_one] at hle
  induction hx : extended x with
  | bot =>
    rw [hx, le_bot_iff] at hle
    exact (EReal.coe_ne_bot 1 hle).elim
  | top => exact Or.inr ⟨rfl, toWhole_of_top hx⟩
  | coe q =>
    rw [hx] at hle
    exact Or.inl ⟨q, EReal.coe_le_coe_iff.mp hle, rfl, toWhole_of_real hx⟩

end Binary64
end AdaptiveShaper
