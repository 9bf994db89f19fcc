import AdaptiveShaper.Rate.Settings

/-!
# The order of rates

What the controller needs of comparisons is little: apart from NaN, which compares with nothing,
`atMost` is reflexive and `below` is its complement with the arguments exchanged.
-/

namespace AdaptiveShaper

/-- Comparisons of an order in which every two numbers but NaN can be compared. -/
class OrderedRates (R : Type) [RateNumber R] : Prop where
  atMost_self : ∀ x : R, RateNumber.isNaN x = false → RateNumber.atMost x x = true
  isNaN_of_atMost : ∀ x y : R, RateNumber.atMost x y = true →
    RateNumber.isNaN x = false ∧ RateNumber.isNaN y = false
  below_eq : ∀ x y : R, RateNumber.isNaN x = false → RateNumber.isNaN y = false →
    RateNumber.below x y = !RateNumber.atMost y x

namespace Binary64

open Float.Model (UnpackedFloat)
open Float.Model.UnpackedFloat

theorem compare_swap (a b : UnpackedFloat) : b.compare a = (a.compare b).map Ordering.swap := by
  cases a with
  | notANumber => cases b <;> rfl
  | infinity s =>
    cases b with
    | infinity t => cases s <;> cases t <;> rfl
    | _ => cases s <;> rfl
  | zero s =>
    cases b with
    | infinity t => cases t <;> rfl
    | finite t _ _ _ => cases t <;> rfl
    | _ => rfl
  | finite s m e _ =>
    cases b with
    | infinity t => cases s <;> cases t <;> rfl
    | notANumber => rfl
    | zero t => cases s <;> rfl
    | finite t n f _ =>
      -- the only comparison of magnitudes: first the exponents, then the mantissas
      have h : ((compare e f).then (compare m n)).swap = (compare f e).then (compare n m) := by
        rw [Ordering.swap_then, Int.compare_swap, Nat.compare_swap]
      cases s with
      | negative =>
        cases t with
        | negative => exact congrArg (fun o => some o.swap) h.symm
        | positive => rfl
      | positive =>
        cases t with
        | negative => rfl
        | positive => exact congrArg some h.symm

theorem isSome_compare (a b : UnpackedFloat) :
    (a.compare b).isSome = (!a.isNaN && !b.isNaN) := by
  cases a with
  | notANumber => cases b <;> rfl
  | infinity s => cases b <;> cases s <;> rfl
  | zero s =>
    cases b with
    | infinity t => cases t <;> rfl
    | finite t _ _ _ => cases t <;> rfl
    | _ => rfl
  | finite s _ _ _ =>
    cases b with
    | infinity t => cases s <;> cases t <;> rfl
    | notANumber => cases s <;> rfl
    | zero t => cases s <;> rfl
    | finite t _ _ _ => cases s <;> cases t <;> rfl

/-- How two numbers compare; no answer if one of them is NaN. -/
def compare? (x y : Float) : Option Ordering := x.toModel.unpack.compare y.toModel.unpack

theorem compare?_swap (x y : Float) : compare? y x = (compare? x y).map Ordering.swap :=
  compare_swap _ _

theorem exists_compare? {x y : Float} (hx : x.isNaN = false) (hy : y.isNaN = false) :
    ∃ o, compare? x y = some o := by
  apply Option.isSome_iff_exists.mp
  have h : (compare? x y).isSome = (!x.isNaN && !y.isNaN) := isSome_compare _ _
  rw [h, hx, hy]
  rfl

theorem not_isNaN_of_compare? {x y : Float} {o : Ordering} (h : compare? x y = some o) :
    x.isNaN = false ∧ y.isNaN = false := by
  have hs : (compare? x y).isSome = (!x.isNaN && !y.isNaN) := isSome_compare _ _
  rw [h] at hs
  simpa using hs.symm

theorem le_iff {x y : Float} : x ≤ y ↔ ∃ o, compare? x y = some o ∧ o.isLE = true := by
  have h : x ≤ y ↔ (compare? x y).any Ordering.isLE = true := by
    change decide (x.toModel ≤ y.toModel) = true ↔ _
    rw [decide_eq_true_iff]
    rfl
  rw [h, Option.any_eq_true]

theorem lt_iff {x y : Float} : x < y ↔ compare? x y = some .lt := by
  change decide (x.toModel < y.toModel) = true ↔ _
  rw [decide_eq_true_iff]
  change (x.toModel.unpack.compare y.toModel.unpack == some .lt) = true ↔ _
  rw [beq_iff_eq]
  rfl

theorem compare?_self {x : Float} (hx : x.isNaN = false) : compare? x x = some .eq := by
  obtain ⟨o, ho⟩ := exists_compare? hx hx
  have hs := compare?_swap x x
  rw [ho] at hs ⊢
  cases o <;> first | rfl | simp at hs

theorem lt_iff_not_le {x y : Float} (hx : x.isNaN = false) (hy : y.isNaN = false) :
    x < y ↔ ¬ y ≤ x := by
  obtain ⟨o, ho⟩ := exists_compare? hx hy
  have hs : compare? y x = some o.swap := by
    rw [compare?_swap x y, ho]
    rfl
  rw [lt_iff, le_iff, ho, hs]
  cases o <;> simp

/-- The order of binary64 numbers, with infinities and both zeros. -/
theorem orderedRates (cubeRoot : Float → Float) :
    letI := RateNumber.binary64 cubeRoot
    OrderedRates Float := by
  let := RateNumber.binary64 cubeRoot
  constructor
  · exact fun x hx => decide_eq_true (le_iff.mpr ⟨.eq, compare?_self hx, rfl⟩)
  · intro x y h
    obtain ⟨o, ho, _⟩ := le_iff.mp (of_decide_eq_true h)
    exact not_isNaN_of_compare? ho
  · intro x y hx hy
    change decide (x < y) = !decide (y ≤ x)
    rw [← decide_not]
    exact decide_eq_decide.mpr (lt_iff_not_le hx hy)

instance : OrderedRates Float := orderedRates cubeRoot

end Binary64
end AdaptiveShaper
