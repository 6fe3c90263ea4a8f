import Mathlib.Data.List.Forall2
import Mathlib.Data.List.Nodup
import Mathlib.Data.Option.Basic
import Telemetry.Json.Basic

/-!
# Documents as plain values

Of members with one key a plain value keeps the last, so a document that repeats no key is
its own plain value, unless it has a flaw and no plain value at all.
-/
set_option autoImplicit false
namespace Telemetry.Json
variable {j d : Json} {items : List Json} {members members' : List (Option String × Json)}
  {k : Option String}

/-- Induction over the tree, through the items of arrays and the members of objects. -/
theorem tree_induction {P : Json → Prop} (null : P .null) (bool : ∀ b, P (.bool b))
    (number : ∀ n, P (.number n)) (string : ∀ s, P (.string s))
    (array : ∀ items, (∀ j ∈ items, P j) → P (.array items))
    (object : ∀ members, (∀ m ∈ members, P m.2) → P (.object members)) (j : Json) : P j :=
  @Json.rec P (fun items => ∀ j ∈ items, P j) (fun members => ∀ m ∈ members, P m.2) (fun m => P m.2)
    null bool number string array object (by simp)
    (fun _ _ first rest => List.forall_mem_cons.mpr ⟨first, rest⟩) (by simp)
    (fun _ _ first rest => List.forall_mem_cons.mpr ⟨first, rest⟩) (fun _ _ value => value) j

/-! ## Lists of values that may be missing -/

section
variable {α β γ : Type} {f : α → Option β} {xs : List α} {ys : List β}

theorem mapM_eq_some : xs.mapM f = some ys ↔ List.Forall₂ (fun x y => f x = some y) xs ys := by
  induction xs generalizing ys with
  | nil => simp [eq_comm]
  | cons x rest ih =>
      rw [List.mapM_cons, List.forall₂_cons_left_iff]
      simp only [Option.bind_eq_bind, Option.bind_eq_some_iff, Option.pure_def, Option.some.injEq, ih]
      constructor
      · rintro ⟨y, first, ys, each, rfl⟩
        exact ⟨y, ys, first, each, rfl⟩
      · rintro ⟨y, ys, first, each, rfl⟩
        exact ⟨y, first, ys, each, rfl⟩

theorem mapM_eq_none : xs.mapM f = none ↔ ∃ x ∈ xs, f x = none := by
  induction xs with
  | nil => simp
  | cons x rest ih =>
      cases first : f x with
      | none => simp [List.mapM_cons, first]
      | some y =>
          cases each : rest.mapM f with
          | none => simpa [List.mapM_cons, first, each] using ih
          | some ys => simpa [List.mapM_cons, first, each] using ih

theorem mapM_bind_mapM (g : β → Option γ) (xs : List α) :
    ((xs.mapM f).bind fun ys => ys.mapM g) = xs.mapM fun x => (f x).bind g := by
  induction xs with
  | nil => rfl
  | cons x rest ih =>
      rw [List.mapM_cons, List.mapM_cons, ← ih]
      cases f x with
      | none => rfl
      | some y =>
          cases rest.mapM f with
          | none => cases third : g y <;> simp [third]
          | some ys => simp

end

/-! ## Values of items and members -/

theorem plainItems?_eq : plainItems? items = items.mapM plain? := by
  induction items with
  | nil => rfl
  | cons j rest ih => rw [plainItems?, List.mapM_cons, ih]; rfl

/-- The plain value of a member, under a key that is a whole string. -/
def plainMember? (m : Option String × Json) : Option (Option String × Json) := do
  let k ← m.1
  let j ← plain? m.2
  some (some k, j)

theorem plainMembers?_eq : plainMembers? members = members.mapM plainMember? := by
  induction members with
  | nil => rfl
  | cons m rest ih =>
      obtain ⟨_ | k, j⟩ := m
      · rfl
      · rw [plainMembers?, List.mapM_cons, ih]
        simp only [plainMember?, Option.bind_eq_bind, Option.bind_some, Option.bind_assoc]
        rfl

theorem plain?_array : plain? (.array items) = (items.mapM plain?).map .array := by
  rw [plain?, plainItems?_eq]

theorem plain?_object : plain? (.object members) =
    (members.mapM plainMember?).map fun ms => .object (lastMembers ms) := by
  rw [plain?, plainMembers?_eq]

theorem plainMember?_eq_some {m m' : Option String × Json} :
    plainMember? m = some m' ↔ m.1.isSome ∧ m'.1 = m.1 ∧ plain? m.2 = some m'.2 := by
  obtain ⟨_ | k, j⟩ := m
  · simp [plainMember?]
  · obtain ⟨k', j'⟩ := m'
    cases value : plain? j with
    | none => simp [plainMember?, value]
    | some d => simp [plainMember?, value, eq_comm (a := k')]

theorem array_of_plain? (plain : plain? j = some (.array items)) : ∃ items', j = .array items' := by
  cases j with
  | array items' => exact ⟨items', rfl⟩
  | number n =>
      rw [plain?] at plain
      split_ifs at plain
      cases plain
  | string s => cases s <;> cases plain
  | object members =>
      rw [plain?_object] at plain
      obtain ⟨_, _, same⟩ := Option.map_eq_some_iff.mp plain
      cases same
  | _ => cases plain

theorem object_of_plain? (plain : plain? j = some (.object members)) :
    ∃ members' ms, j = .object members' ∧ members'.mapM plainMember? = some ms ∧
      members = lastMembers ms := by
  cases j with
  | object members' =>
      rw [plain?_object] at plain
      obtain ⟨ms, mapped, same⟩ := Option.map_eq_some_iff.mp plain
      cases same
      exact ⟨members', ms, rfl, mapped, rfl⟩
  | number n =>
      rw [plain?] at plain
      split_ifs at plain
      cases plain
  | string s => cases s <;> cases plain
  | array items =>
      rw [plain?_array] at plain
      obtain ⟨_, _, same⟩ := Option.map_eq_some_iff.mp plain
      cases same
  | _ => cases plain

/-! ## Of members with one key the last -/

theorem lastMembers_eq_self (distinct : (members.map Prod.fst).Nodup) :
    lastMembers members = members := by
  induction members with
  | nil => rfl
  | cons m rest ih =>
      rw [List.map_cons, List.nodup_cons, List.mem_map, not_exists] at distinct
      have fresh : ¬ rest.any (fun later => later.1 == m.1) := by
        rw [List.any_eq_true]
        rintro ⟨later, inside, same⟩
        exact distinct.1 later ⟨inside, eq_of_beq same⟩
      rw [lastMembers, if_neg fresh, ih distinct.2]

/-- The last member with this key has this value. -/
def LastIs (members : List (Option String × Json)) (k : Option String) (j : Json) : Prop :=
  ∃ before after, members = before ++ (k, j) :: after ∧ ∀ m ∈ after, m.1 ≠ k

theorem lastIs_cons {m : Option String × Json} : LastIs (m :: members) k j ↔
    m = (k, j) ∧ (∀ m ∈ members, m.1 ≠ k) ∨ LastIs members k j := by
  constructor
  · rintro ⟨_ | ⟨_, before⟩, after, same, fresh⟩ <;> obtain ⟨rfl, rfl⟩ := List.cons.inj same
    · exact .inl ⟨rfl, fresh⟩
    · exact .inr ⟨before, after, rfl, fresh⟩
  · rintro (⟨rfl, fresh⟩ | ⟨before, after, rfl, fresh⟩)
    · exact ⟨[], members, rfl, fresh⟩
    · exact ⟨m :: before, after, rfl, fresh⟩

theorem LastIs.mem (last : LastIs members k j) : (k, j) ∈ members := by
  obtain ⟨before, after, rfl, _⟩ := last
  simp

theorem keys_eq {R : Json → Json → Prop}
    (each : List.Forall₂ (fun m m' => m'.1 = m.1 ∧ R m.2 m'.2) members members') :
    members'.map Prod.fst = members.map Prod.fst := by
  induction each with
  | nil => rfl
  | cons first _ ih => rw [List.map_cons, List.map_cons, first.1, ih]

/-- Where keys stay and values are related, the last members with a key are related. -/
theorem LastIs.related {R : Json → Json → Prop}
    (each : List.Forall₂ (fun m m' => m'.1 = m.1 ∧ R m.2 m'.2) members members')
    (last : LastIs members k j) : ∃ d, LastIs members' k d ∧ R j d := by
  induction each with
  | nil =>
      obtain ⟨before, after, same, _⟩ := last
      simp at same
  | @cons m m' members members' first rest ih =>
      rcases lastIs_cons.mp last with ⟨rfl, fresh⟩ | last
      · refine ⟨m'.2, lastIs_cons.mpr (.inl ⟨Prod.ext first.1 rfl, fun later inside same => ?_⟩), first.2⟩
        have key : later.1 ∈ members.map Prod.fst := keys_eq rest ▸ List.mem_map_of_mem inside
        obtain ⟨earlier, inside, equal⟩ := List.mem_map.mp key
        exact fresh earlier inside (equal.trans same)
      · obtain ⟨d, last, related⟩ := ih last
        exact ⟨d, lastIs_cons.mpr (.inr last), related⟩

theorem lookup_lastMembers : (lastMembers members).lookup k = some j ↔ LastIs members k j := by
  induction members with
  | nil => simp [lastMembers, LastIs]
  | cons m rest ih =>
      obtain ⟨key, value⟩ := m
      rw [lastIs_cons, lastMembers]
      split_ifs with repeated
      · -- the member does not count, since a later one has its key
        have again : ¬ ((key, value) = (k, j) ∧ ∀ m ∈ rest, m.1 ≠ k) := by
          rintro ⟨same, fresh⟩
          obtain ⟨rfl, rfl⟩ := Prod.mk.inj same
          obtain ⟨later, inside, equal⟩ := List.any_eq_true.mp repeated
          exact fresh later inside (eq_of_beq equal)
        rw [ih, or_iff_right again]
      · have fresh : ∀ m ∈ rest, m.1 ≠ key := fun m inside same =>
          repeated (List.any_eq_true.mpr ⟨m, inside, beq_of_eq same⟩)
        by_cases same : key = k
        · subst same
          have none : ¬ LastIs rest key j := fun last => fresh _ last.mem rfl
          rw [List.lookup_cons_self, or_iff_left none, and_iff_left fresh, Option.some_inj,
            Prod.mk.injEq, eq_self_iff_true, true_and]
        · rw [List.lookup_cons, beq_false_of_ne (Ne.symm same), ih, or_iff_right]
          rintro ⟨equal, _⟩
          exact same (Prod.mk.inj equal).1

/-! ## Documents that repeat no key -/

/-- No object repeats a key. -/
inductive Distinct : Json → Prop where
  | null : Distinct .null
  | bool (b : Bool) : Distinct (.bool b)
  | number (n : Numeral) : Distinct (.number n)
  | string (s : Option String) : Distinct (.string s)
  | array {items : List Json} (each : ∀ j ∈ items, Distinct j) : Distinct (.array items)
  | object {members : List (Option String × Json)} (keys : (members.filterMap Prod.fst).Nodup)
      (each : ∀ m ∈ members, Distinct m.2) : Distinct (.object members)

theorem eq_of_forall₂ {α : Type} {R : α → α → Prop} {xs ys : List α} (related : List.Forall₂ R xs ys)
    (same : ∀ x ∈ xs, ∀ y, R x y → y = x) : ys = xs := by
  induction related with
  | nil => rfl
  | cons first _ ih =>
      rw [List.forall_mem_cons] at same
      rw [same.1 _ first, ih same.2]

/-- A document that repeats no key is its own plain value, if it has one. -/
theorem Distinct.eq_of_plain? (distinct : j.Distinct) (plain : plain? j = some d) : d = j := by
  induction distinct generalizing d with
  | null | bool => exact (Option.some.inj plain).symm
  | number n =>
      rw [plain?] at plain
      split_ifs at plain
      exact (Option.some.inj plain).symm
  | string s =>
      cases s with
      | none => cases plain
      | some s => exact (Option.some.inj plain).symm
  | array _ ih =>
      rw [plain?_array] at plain
      obtain ⟨items', mapped, rfl⟩ := Option.map_eq_some_iff.mp plain
      rw [eq_of_forall₂ (mapM_eq_some.mp mapped) fun j inside d value => ih j inside value]
  | @object members keys _ ih =>
      rw [plain?_object] at plain
      obtain ⟨members', mapped, rfl⟩ := Option.map_eq_some_iff.mp plain
      have each := mapM_eq_some.mp mapped
      have same : members' = members := by
        refine eq_of_forall₂ each fun m inside m' value => ?_
        obtain ⟨_, key, value⟩ := plainMember?_eq_some.mp value
        exact Prod.ext key (ih m inside value)
      subst same
      have whole : ∀ m ∈ members', m.1.isSome := by
        intro m inside
        cases value : plainMember? m with
        | none =>
            rw [mapM_eq_none.mpr ⟨m, inside, value⟩] at mapped
            cases mapped
        | some m' => exact (plainMember?_eq_some.mp value).1
      have keyed : (members'.filterMap Prod.fst).map some = members'.map Prod.fst := by
        rw [List.map_filterMap_some_eq_filter_map_isSome, List.filter_eq_self, List.forall_mem_map]
        exact whole
      rw [lastMembers_eq_self (keyed ▸ keys.map (Option.some_injective _))]

/-! ## Nesting -/

theorem depthOfItems_le {n : Nat} : depthOfItems items ≤ n ↔ ∀ j ∈ items, j.depth ≤ n := by
  induction items with
  | nil => simp [depthOfItems]
  | cons j rest ih => rw [depthOfItems, Nat.max_le, List.forall_mem_cons, ih]

theorem depthOfMembers_le {n : Nat} :
    depthOfMembers members ≤ n ↔ ∀ m ∈ members, m.2.depth ≤ n := by
  induction members with
  | nil => simp [depthOfMembers]
  | cons m rest ih => rw [depthOfMembers, Nat.max_le, List.forall_mem_cons, ih]

/-! ## Flaws -/

/-- Somewhere a number is out of range, or half a surrogate pair stands alone in a string. -/
inductive Flawed : Json → Prop where
  | number {n : Numeral} : n.integer? = none → n.toBinary64? = none → Flawed (.number n)
  | string : Flawed (.string none)
  | item {j : Json} {items : List Json} : j ∈ items → Flawed j → Flawed (.array items)
  | key {j : Json} {members : List (Option String × Json)} : (none, j) ∈ members →
      Flawed (.object members)
  | value {m : Option String × Json} {members : List (Option String × Json)} : m ∈ members →
      Flawed m.2 → Flawed (.object members)

theorem plainMember?_eq_none {m : Option String × Json} :
    plainMember? m = none ↔ m.1 = none ∨ plain? m.2 = none := by
  obtain ⟨_ | k, j⟩ := m
  · simp [plainMember?]
  · cases value : plain? j <;> simp [plainMember?, value]

/-- A document has no plain value just if it has a flaw. -/
theorem plain?_eq_none : plain? j = none ↔ j.Flawed := by
  constructor
  · intro none
    induction j using tree_induction with
    | null | bool => cases none
    | number n =>
        rw [plain?] at none
        split_ifs at none with range
        rw [Bool.or_eq_true, not_or, Bool.not_eq_true, Bool.not_eq_true, Option.isSome_eq_false_iff,
          Option.isSome_eq_false_iff, Option.isNone_iff_eq_none, Option.isNone_iff_eq_none] at range
        exact .number range.1 range.2
    | string s =>
        cases s with
        | none => exact .string
        | some s => cases none
    | array items ih =>
        rw [plain?_array, Option.map_eq_none_iff, mapM_eq_none] at none
        obtain ⟨j, inside, none⟩ := none
        exact .item inside (ih j inside none)
    | object members ih =>
        rw [plain?_object, Option.map_eq_none_iff, mapM_eq_none] at none
        obtain ⟨⟨k, j⟩, inside, none⟩ := none
        rcases plainMember?_eq_none.mp none with key | value
        · obtain rfl : k = .none := key
          exact .key inside
        · exact .value inside (ih (k, j) inside value)
  · intro flawed
    induction flawed with
    | number whole real => simp [plain?, whole, real]
    | string => rfl
    | item inside _ ih =>
        rw [plain?_array, Option.map_eq_none_iff, mapM_eq_none]
        exact ⟨_, inside, ih⟩
    | key inside =>
        rw [plain?_object, Option.map_eq_none_iff, mapM_eq_none]
        exact ⟨_, inside, plainMember?_eq_none.mpr (.inl rfl)⟩
    | value inside _ ih =>
        rw [plain?_object, Option.map_eq_none_iff, mapM_eq_none]
        exact ⟨_, inside, plainMember?_eq_none.mpr (.inr ih)⟩

end Telemetry.Json
