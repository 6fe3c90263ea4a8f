import Mathlib.Data.List.Basic
import Mathlib.Data.List.Nodup
import Telemetry.Window.Resolver

/-!
# The table of bucket sizes

Sorting the configured sizes and dropping those that repeat the one before leaves each size
once, in ascending order.  There is one such list for each set of sizes: neither the order in
which sizes are configured nor their repetitions leave a trace in the table.
-/
set_option autoImplicit false

namespace List
variable {α : Type} [BEq α]

theorem eraseRepsLoop_eq (a : α) (rest acc : List α) :
    eraseRepsBy.loop (· == ·) a rest acc = acc.reverse ++ (a :: rest).eraseReps := by
  induction rest generalizing a acc with
  | nil => simp [eraseReps, eraseRepsBy, eraseRepsBy.loop]
  | cons b rest ih =>
      simp only [eraseReps, eraseRepsBy, eraseRepsBy.loop] at ih ⊢
      cases a == b
      · rw [ih b (a :: acc), ih b [a]]
        simp
      · exact ih a acc

variable [LawfulBEq α]

theorem eraseReps_cons_cons (a b : α) (rest : List α) : (a :: b :: rest).eraseReps =
    if a == b then (b :: rest).eraseReps else a :: (b :: rest).eraseReps := by
  rw [eraseReps, eraseRepsBy, eraseRepsBy.loop]
  cases same : a == b
  · exact eraseRepsLoop_eq b rest [a]
  · rw [eq_of_beq same]
    rfl

theorem mem_eraseReps {x : α} (xs : List α) : x ∈ xs.eraseReps ↔ x ∈ xs := by
  induction xs with
  | nil => rfl
  | cons a xs ih =>
      cases xs with
      | nil => rfl
      | cons b rest =>
          rw [eraseReps_cons_cons, mem_cons]
          split_ifs with same
          · rw [eq_of_beq same, ih, mem_cons]
            simp
          · rw [mem_cons, ih]

end List

namespace Telemetry.Bucket
variable {a b c : Bucket} {sizes sizes' : List Bucket}

theorem mem_all (b : Bucket) : b ∈ all := by
  cases b <;> decide

theorem isLE_compare : (compare a b).isLE ↔ a.seconds ≤ b.seconds := by
  cases a <;> cases b <;> decide

theorem seconds_injective (same : a.seconds = b.seconds) : a = b := by
  cases a <;> cases b <;> first | rfl | cases same

theorem mem_insert (b : Bucket) (sizes : List Bucket) : c ∈ insert b sizes ↔ c = b ∨ c ∈ sizes := by
  induction sizes with
  | nil => simp [insert]
  | cons d rest ih =>
      rw [insert]
      split_ifs
      · exact List.mem_cons
      · rw [List.mem_cons, ih, List.mem_cons, or_left_comm]

theorem mem_sort (sizes : List Bucket) : c ∈ sort sizes ↔ c ∈ sizes := by
  induction sizes with
  | nil => rfl
  | cons b rest ih => rw [sort, mem_insert, ih, List.mem_cons]

theorem ascending_insert (ascending : sizes.Pairwise fun a b => a.seconds ≤ b.seconds) :
    (insert b sizes).Pairwise fun a b => a.seconds ≤ b.seconds := by
  induction sizes with
  | nil => simp [insert]
  | cons d rest ih =>
      obtain ⟨least, rest'⟩ := List.pairwise_cons.mp ascending
      rw [insert]
      split_ifs with shorter
      · rw [isLE_compare] at shorter
        refine List.pairwise_cons.mpr ⟨?_, ascending⟩
        intro e member
        rcases List.mem_cons.mp member with rfl | later
        · exact shorter
        · exact Nat.le_trans shorter (least e later)
      · rw [isLE_compare] at shorter
        refine List.pairwise_cons.mpr ⟨?_, ih rest'⟩
        intro e member
        rcases (mem_insert b rest).mp member with rfl | later
        · exact Nat.le_of_not_le shorter
        · exact least e later

theorem ascending_sort (sizes : List Bucket) :
    (sort sizes).Pairwise fun a b => a.seconds ≤ b.seconds := by
  induction sizes with
  | nil => exact List.Pairwise.nil
  | cons b rest ih => exact ascending_insert ih

/-- Without repetitions next to each other, an ascending list has none at all. -/
theorem ascending_eraseReps (ascending : sizes.Pairwise fun a b => a.seconds ≤ b.seconds) :
    sizes.eraseReps.Pairwise fun a b => a.seconds < b.seconds := by
  induction sizes with
  | nil => exact List.Pairwise.nil
  | cons a sizes ih =>
      cases sizes with
      | nil => exact List.pairwise_singleton _ a
      | cons b rest =>
          obtain ⟨least, rest'⟩ := List.pairwise_cons.mp ascending
          rw [List.eraseReps_cons_cons]
          split_ifs with same
          · exact ih rest'
          · have shorter : a.seconds < b.seconds := by
              refine Nat.lt_of_le_of_ne (least b List.mem_cons_self) fun equal => same ?_
              rw [seconds_injective equal, beq_self_eq_true]
            refine List.pairwise_cons.mpr ⟨?_, ih rest'⟩
            intro c member
            rcases List.mem_cons.mp ((List.mem_eraseReps _).mp member) with rfl | later
            · exact shorter
            · exact Nat.lt_of_lt_of_le shorter ((List.pairwise_cons.mp rest').1 c later)

theorem mem_table : b ∈ table sizes ↔ b ∈ sizes := by
  rw [table, List.mem_eraseReps, mem_sort]

theorem ascending_table (sizes : List Bucket) :
    (table sizes).Pairwise fun a b => a.seconds < b.seconds :=
  ascending_eraseReps (ascending_sort sizes)

/-- The sizes in ascending order, each once, can be listed in one way only. -/
theorem eq_table {listed : List Bucket} (ascending : listed.Pairwise fun a b => a.seconds < b.seconds)
    (same : ∀ b, b ∈ listed ↔ b ∈ sizes) : listed = table sizes := by
  have distinct {xs : List Bucket} (order : xs.Pairwise fun a b => a.seconds < b.seconds) : xs.Nodup :=
    order.imp fun shorter equal => Nat.ne_of_lt shorter (congrArg seconds equal)
  have perm : listed.Perm (table sizes) := by
    rw [List.perm_ext_iff_of_nodup (distinct ascending) (distinct (ascending_table sizes))]
    exact fun b => (same b).trans mem_table.symm
  exact perm.eq_of_pairwise (fun a b _ _ shorter longer => absurd shorter (Nat.lt_asymm longer))
    ascending (ascending_table sizes)

theorem table_congr (same : ∀ b, b ∈ sizes ↔ b ∈ sizes') : table sizes = table sizes' :=
  eq_table (ascending_table sizes) fun b => mem_table.trans (same b)

theorem all_eq_table (every : ∀ b, b ∈ sizes) : all = table sizes :=
  eq_table (by decide) fun b => ⟨fun _ => every b, fun _ => mem_all b⟩

end Telemetry.Bucket
