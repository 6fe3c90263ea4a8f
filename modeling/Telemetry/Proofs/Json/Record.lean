import Telemetry.Json.Reader
import Telemetry.Proofs.Json.Numeral

/-!
# Records read back

A record written with each field once fills the slot of each field, and a whole number
written into a field is read from it.
-/
set_option autoImplicit false
namespace Telemetry.Json
variable {members before after : List (String × Json)} {name : String} {i low high : Int}

theorem fieldIndex?_append (fresh : name ∉ before.map Prod.fst) (j : Json)
    (after : List (String × Json)) :
    fieldIndex? ((before ++ (name, j) :: after).map fun m => [m.1]) name = some before.length := by
  induction before with
  | nil => simp [fieldIndex?, List.findIdx?_cons]
  | cons m rest ih =>
      rw [List.map_cons, List.mem_cons, not_or] at fresh
      have found := ih fresh.2
      rw [fieldIndex?] at found ⊢
      rw [List.cons_append, List.map_cons, List.findIdx?_cons, found]
      simp [fresh.1]

/-- The fields before are filled, the fields after are still to be filled. -/
theorem fillSlots_record (before : List (String × Json))
    (distinct : ((before ++ after).map Prod.fst).Nodup) :
    fillSlots ((before ++ after).map fun m => [m.1])
        ((before.map fun m => some m.2) ++ after.map fun _ => none)
        (after.map fun m => (some m.1, m.2)) =
      some ((before ++ after).map fun m => some m.2) := by
  induction after generalizing before with
  | nil => simp [fillSlots]
  | cons m rest ih =>
      obtain ⟨name, j⟩ := m
      have fresh : name ∉ before.map Prod.fst := by
        intro earlier
        rw [List.map_append, List.nodup_append] at distinct
        exact distinct.2.2 name earlier name (by simp) rfl
      have index := fieldIndex?_append fresh j rest
      have further := ih (before ++ [(name, j)]) (by simpa using distinct)
      simp only [List.append_assoc, List.singleton_append] at further
      simp only [List.map_cons, fillSlots, index]
      simpa using further

theorem slots?_record {fields : List (List String)} (distinct : (members.map Prod.fst).Nodup)
    (named : fields = members.map fun m => [m.1]) :
    slots? fields (record members) = some (members.map fun m => some m.2) := by
  have filled := fillSlots_record [] distinct
  subst named
  simpa [slots?, record, Function.comp_def] using filled

theorem integer?_int (above : low ≤ i) (below : i ≤ high) (least : -9223372036854775808 ≤ low)
    (most : high ≤ 18446744073709551615) : integer? low high (int i) = some i := by
  rw [int, integer?, Numeral.integer?_ofInt (by omega) (by omega), Option.bind_some,
    if_pos ⟨above, below⟩]

/-- A list written item by item is read item by item. -/
theorem list?_map {α : Type} {item : Json → Option α} {write : α → Json}
    (each : ∀ x, item (write x) = some x) (xs : List α) :
    list? item (.array (xs.map write)) = some xs := by
  rw [list?]
  induction xs with
  | nil => rfl
  | cons x rest ih => simp [each, ih]

/-- What holds of the default and of every value read holds of the field. -/
theorem of_withDefault? {α : Type} {default x : α} {value : Json → Option α} {slot : Slot}
    {P : α → Prop}
    (field : withDefault? default value slot = some x) (absent : P default)
    (given : ∀ j x, value j = some x → P x) : P x := by
  cases slot with
  | none =>
      obtain rfl : default = x := Option.some.inj field
      exact absent
  | some j => exact given j x field

end Telemetry.Json
