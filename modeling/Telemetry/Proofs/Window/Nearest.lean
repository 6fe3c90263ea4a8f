import Telemetry.Proofs.Binary64.Order
import Telemetry.Window.Resolver

/-!
# The first least element

In the total order every number has its place: `-0` comes before `0`, and the NaNs lie
beyond the infinities on the side of their sign, the further out the larger their payload.
The nearest element of a sequence is the first one whose metric is least in that order.
-/
set_option autoImplicit false
namespace Telemetry

/-! ## The total order -/

namespace Binary64
variable {x y : Binary64}

/-- One number comes strictly before another in the total order. -/
inductive Precedes : Binary64 → Binary64 → Prop where
  | numbers {x y : Binary64} (below : x < y) : Precedes x y
  | zeros : Precedes (zero true) (zero false)
  | beforeNumbers {x y : Binary64} (undefined : x.isNaN = true) (sign : x.negative = true)
      (number : y.isNaN = false) : Precedes x y
  | afterNumbers {x y : Binary64} (number : x.isNaN = false) (undefined : y.isNaN = true)
      (sign : y.negative = false) : Precedes x y
  | aroundNumbers {x y : Binary64} (undefined : x.isNaN = true) (undefined' : y.isNaN = true)
      (sign : x.negative = true) (sign' : y.negative = false) : Precedes x y
  | inward {x y : Binary64} (undefined : x.isNaN = true) (undefined' : y.isNaN = true)
      (sign : x.negative = true) (sign' : y.negative = true) (larger : y.position < x.position) :
      Precedes x y
  | outward {x y : Binary64} (undefined : x.isNaN = true) (undefined' : y.isNaN = true)
      (sign : x.negative = false) (sign' : y.negative = false) (larger : x.position < y.position) :
      Precedes x y

theorem isNaN_iff : x.isNaN = true ↔ infinityPosition < x.position := by
  rw [isNaN, decide_eq_true_iff]

theorem lt_iff_place : x < y ↔
    x.isNaN = false ∧ y.isNaN = false ∧ x.place < y.place := by
  change x.lt y = true ↔ _
  simp [lt, and_assoc]

theorem rank_of_negative (sign : x.negative = true) : x.rank = -(x.position : Int) - 1 := by
  rw [rank, if_pos sign]

theorem rank_of_positive (sign : x.negative = false) : x.rank = x.position := by
  rw [rank, sign, if_neg Bool.false_ne_true]

/-- Numbers that the total order tells apart and numeric order does not are the two zeros. -/
theorem zeros_of_rank_lt (order : x.rank < y.rank) (same : ¬ x.place < y.place) :
    x = zero true ∧ y = zero false := by
  obtain ⟨sign, p, bound⟩ := x
  obtain ⟨sign', q, bound'⟩ := y
  cases sign <;> cases sign' <;>
    simp only [rank, place, if_true, if_false, Bool.false_eq_true] at order same
  · omega
  · omega
  · obtain rfl : p = 0 := by omega
    obtain rfl : q = 0 := by omega
    exact ⟨rfl, rfl⟩
  · omega

theorem rank_lt_of_precedes (order : x.Precedes y) : x.rank < y.rank := by
  cases order with
  | numbers below =>
      obtain ⟨-, -, below⟩ := lt_iff_place.mp below
      rw [rank, rank]
      rw [place, place] at below
      split_ifs at below ⊢ <;> omega
  | zeros => decide
  | beforeNumbers undefined sign number =>
      rw [isNaN_iff] at undefined
      rw [isNaN_eq_false] at number
      rw [rank_of_negative sign, rank]
      split_ifs <;> omega
  | afterNumbers number undefined sign =>
      rw [isNaN_iff] at undefined
      rw [isNaN_eq_false] at number
      rw [rank_of_positive sign, rank]
      split_ifs <;> omega
  | aroundNumbers _ _ sign sign' =>
      rw [rank_of_negative sign, rank_of_positive sign']
      omega
  | inward _ _ sign sign' larger =>
      rw [rank_of_negative sign, rank_of_negative sign']
      omega
  | outward _ _ sign sign' larger =>
      rw [rank_of_positive sign, rank_of_positive sign']
      omega

theorem precedes_of_rank_lt (order : x.rank < y.rank) : x.Precedes y := by
  cases undefined : x.isNaN <;> cases undefined' : y.isNaN
  case false.false =>
    by_cases below : x.place < y.place
    · exact .numbers (lt_iff_place.mpr ⟨undefined, undefined', below⟩)
    · obtain ⟨rfl, rfl⟩ := zeros_of_rank_lt order below
      exact .zeros
  case false.true =>
    cases sign : y.negative with
    | false => exact .afterNumbers undefined undefined' sign
    | true =>
        rw [isNaN_iff] at undefined'
        rw [isNaN_eq_false] at undefined
        rw [rank_of_negative sign, rank] at order
        split_ifs at order <;> omega
  case true.false =>
    cases sign : x.negative with
    | true => exact .beforeNumbers undefined sign undefined'
    | false =>
        rw [isNaN_iff] at undefined
        rw [isNaN_eq_false] at undefined'
        rw [rank_of_positive sign, rank] at order
        split_ifs at order <;> omega
  case true.true =>
    cases sign : x.negative <;> cases sign' : y.negative
    case false.false =>
      rw [rank_of_positive sign, rank_of_positive sign'] at order
      exact .outward undefined undefined' sign sign' (by omega)
    case false.true =>
      rw [rank_of_positive sign, rank_of_negative sign'] at order
      omega
    case true.false => exact .aroundNumbers undefined undefined' sign sign'
    case true.true =>
      rw [rank_of_negative sign, rank_of_negative sign'] at order
      exact .inward undefined undefined' sign sign' (by omega)

/-- The rank of a number is its place in the total order. -/
theorem precedes_iff_rank : x.Precedes y ↔ x.rank < y.rank :=
  ⟨rank_lt_of_precedes, precedes_of_rank_lt⟩

instance (x y : Binary64) : Decidable (x.Precedes y) := decidable_of_iff _ precedes_iff_rank.symm

end Binary64

/-! ## The first least element -/

namespace Nearest
variable {α : Type} {metric : α → Binary64} {x : α} {xs rest : List α}

/-- No element has a lower metric, and no earlier one has the same. -/
def IsFirstLeast (metric : α → Binary64) (xs : List α) (x : α) : Prop :=
  ∃ before after, xs = before ++ x :: after ∧
    (∀ y ∈ before, (metric x).rank < (metric y).rank) ∧
    ∀ y ∈ after, (metric x).rank ≤ (metric y).rank

theorem IsFirstLeast.mem (least : IsFirstLeast metric xs x) : x ∈ xs := by
  obtain ⟨before, after, rfl, -, -⟩ := least
  simp

theorem IsFirstLeast.rank_le (least : IsFirstLeast metric xs x) :
    ∀ y ∈ xs, (metric x).rank ≤ (metric y).rank := by
  obtain ⟨before, after, rfl, above, least⟩ := least
  intro y member
  rcases List.mem_append.mp member with earlier | later
  · exact Int.le_of_lt (above y earlier)
  · rcases List.mem_cons.mp later with rfl | later
    · exact Int.le_refl _
    · exact least y later

/-- Of elements that are in some order, all that come before the least one have a greater metric. -/
theorem IsFirstLeast.rank_lt {before : α → α → Prop} (order : xs.Pairwise before)
    (asymm : ∀ a b, before a b → ¬ before b a) (least : IsFirstLeast metric xs x) :
    ∀ y ∈ xs, before y x → (metric x).rank < (metric y).rank := by
  obtain ⟨earlier, later, rfl, above, -⟩ := least
  intro y member ahead
  rcases List.mem_append.mp member with first | last
  · exact above y first
  · obtain ⟨-, rest, -⟩ := List.pairwise_append.mp order
    obtain ⟨behind, -⟩ := List.pairwise_cons.mp rest
    rcases List.mem_cons.mp last with rfl | last
    · exact absurd ahead (asymm y y ahead)
    · exact absurd ahead (asymm x y (behind y last))

theorem IsFirstLeast.better (least : IsFirstLeast metric xs x) (next : α) :
    IsFirstLeast metric (xs ++ [next]) (better metric x next) := by
  rw [Nearest.better]
  split_ifs with lower
  · exact ⟨xs, [], rfl, fun y member => Int.lt_of_lt_of_le lower (least.rank_le y member), by simp⟩
  · obtain ⟨before, after, rfl, above, least⟩ := least
    refine ⟨before, after ++ [next], by simp, above, ?_⟩
    intro y member
    rcases List.mem_append.mp member with earlier | last
    · exact least y earlier
    · rw [List.mem_singleton.mp last]
      exact Int.not_lt.mp lower

theorem IsFirstLeast.foldl (least : IsFirstLeast metric xs x) :
    IsFirstLeast metric (xs ++ rest) (rest.foldl (Nearest.better metric) x) := by
  induction rest generalizing xs x with
  | nil => rwa [List.append_nil]
  | cons next rest ih =>
      rw [List.foldl_cons, List.append_cons]
      exact ih (least.better next)

theorem isFirstLeast_foldl (metric : α → Binary64) (first : α) (rest : List α) :
    IsFirstLeast metric (first :: rest) (rest.foldl (Nearest.better metric) first) := by
  have alone : IsFirstLeast metric [first] first := ⟨[], [], rfl, by simp, by simp⟩
  exact alone.foldl

theorem nearestBy_spec (found : nearestBy metric xs = some x) : IsFirstLeast metric xs x := by
  cases xs with
  | nil => cases found
  | cons first rest =>
      rw [← Option.some.inj found]
      exact isFirstLeast_foldl metric first rest

theorem exists_nearestBy (metric : α → Binary64) (nonempty : xs ≠ []) :
    ∃ x, nearestBy metric xs = some x := by
  obtain ⟨first, rest, rfl⟩ := List.exists_cons_of_ne_nil nonempty
  exact ⟨_, rfl⟩

theorem nearestBy_eq_none : nearestBy metric xs = none ↔ xs = [] := by
  cases xs <;> simp [nearestBy]

theorem foldl_better_of_least (least : ∀ y ∈ rest, (metric x).rank ≤ (metric y).rank) :
    rest.foldl (Nearest.better metric) x = x := by
  induction rest with
  | nil => rfl
  | cons next rest ih =>
      obtain ⟨here, later⟩ := List.forall_mem_cons.mp least
      rw [List.foldl_cons, Nearest.better, if_neg (Int.not_lt.mpr here), ih later]

/-- What is nearest in front of the first least element gives way to it, and it to nothing after. -/
theorem IsFirstLeast.nearestBy (least : IsFirstLeast metric xs x) :
    nearestBy metric xs = some x := by
  obtain ⟨before, after, rfl, above, least⟩ := least
  cases before with
  | nil => exact congrArg some (foldl_better_of_least least)
  | cons first rest =>
      have lower := above _ (isFirstLeast_foldl metric first rest).mem
      rw [List.cons_append, Nearest.nearestBy, List.foldl_append, List.foldl_cons, Nearest.better,
        if_pos lower, foldl_better_of_least least]

/-- Nothing is nearest among no elements.  Among some it is the earliest one with the least metric:
it comes strictly before every earlier one, and no later one before it. -/
theorem nearest_is_first_least (metric : α → Binary64) (xs : List α) :
    (nearestBy metric xs = none ↔ xs = []) ∧
      ∀ x, nearestBy metric xs = some x ↔ ∃ before after, xs = before ++ x :: after ∧
        (∀ y ∈ before, (metric x).Precedes (metric y)) ∧
        ∀ y ∈ after, ¬ (metric y).Precedes (metric x) := by
  refine ⟨nearestBy_eq_none, fun x => ?_⟩
  simp only [Binary64.precedes_iff_rank, Int.not_lt]
  exact ⟨nearestBy_spec, IsFirstLeast.nearestBy⟩

/-- A NaN is further than any number, and of the zeros the negative one is nearer. -/
theorem negative_zero_nearest :
    let xs := [("a", Binary64.nan), ("b", Binary64.zero false), ("c", Binary64.zero true),
      ("d", Binary64.zero true), ("e", Binary64.infinity false)]
    nearestBy Prod.snd xs = some ("c", Binary64.zero true) := by
  intro xs
  obtain ⟨-, first⟩ := nearest_is_first_least Prod.snd xs
  exact (first _).mpr ⟨xs.take 2, xs.drop 3, rfl, by decide, by decide⟩

end Nearest
end Telemetry
