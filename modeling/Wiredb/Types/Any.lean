import Mathlib.Data.Rat.Defs
import Mathlib.Data.List.Basic

/-! # Dynamic values of the `types` package

`Table` and `Collection` keep their payload in Go's `any`: the JSON binder and the
msgpack decoder fill `map[string]any` and `[]any` with nested maps, nested slices and
scalar leaves. `Wiredb.Any σ` is such a value with leaves in `σ`, a map given by its
entries in one iteration order; `Wiredb.Scalar` is the leaf type of JSON data.

Go's `==` on two `any` values (`Wiredb.anyEq`) compares dynamic types first and panics
when both hold the same uncomparable type, a slice or a map
(`Wiredb.anyEq_eq_none_iff`). A Go map never holds a key twice; `Wiredb.Any.WellFormed`
says so of every map in a value, and under it a lookup finds exactly the stored entry
(`Wiredb.lookup_eq_some_iff_mem`). The map write `m[key] = value` (`Wiredb.setField`)
answers later lookups as a map does (`Wiredb.lookup_setField`) and keeps a map well formed
(`Wiredb.Any.WellFormed.setField`).
-/

namespace Wiredb

/-- A value held in a Go `any`: a scalar leaf, a `[]any` slice, or a `map[string]any`
given by its entries in one iteration order. -/
inductive Any (σ : Type) where
  | scalar (leaf : σ)
  | array (items : List (Any σ))
  | object (fields : List (String × Any σ))

/-- The scalar leaves `encoding/json` decodes into `any`: `nil`, `bool`, `float64` and
`string`. A JSON number is the exact rational value of its finite `float64`; JSON has no
NaN, so Go's `==` on two numbers is equality of these values. -/
inductive Scalar where
  | null
  | bool (b : Bool)
  | number (x : ℚ)
  | string (s : String)
  deriving DecidableEq, Repr

/-- JSON data held in an `any`. -/
abbrev Json := Any Scalar

variable {σ : Type}

/-- Every map in the value has distinct keys, as every Go map does. -/
inductive Any.WellFormed : Any σ → Prop
  | scalar (leaf : σ) : Any.WellFormed (.scalar leaf)
  | array (items : List (Any σ)) :
      (∀ item ∈ items, Any.WellFormed item) → Any.WellFormed (.array items)
  | object (fields : List (String × Any σ)) : (fields.map Prod.fst).Nodup →
      (∀ field ∈ fields, Any.WellFormed field.2) → Any.WellFormed (.object fields)

theorem Any.WellFormed.keys_nodup {fields : List (String × Any σ)}
    (wf : (Any.object fields).WellFormed) : (fields.map Prod.fst).Nodup := by
  cases wf with
  | object _ nodup _ => exact nodup

theorem Any.WellFormed.of_mem {fields : List (String × Any σ)}
    (wf : (Any.object fields).WellFormed) {field : String × Any σ} (member : field ∈ fields) :
    field.2.WellFormed := by
  cases wf with
  | object _ _ values => exact values field member

/-- A map of scalars with distinct keys is well formed. -/
theorem Any.WellFormed.object_of_scalars {fields : List (String × Any σ)}
    (nodup : (fields.map Prod.fst).Nodup) (scalars : ∀ field ∈ fields, ∃ leaf, field.2 = .scalar leaf) :
    (Any.object fields).WellFormed :=
  .object _ nodup fun field member => by
    obtain ⟨leaf, same⟩ := scalars field member
    rw [same]
    exact .scalar leaf

/-- In a map with distinct keys, `m[key]` finds `value` exactly when the map holds that
entry. -/
theorem lookup_eq_some_iff_mem {α : Type} {m : List (String × α)} {key : String} {value : α}
    (nodup : (m.map Prod.fst).Nodup) : m.lookup key = some value ↔ (key, value) ∈ m := by
  induction m with
  | nil => simp
  | cons entry rest ih =>
    obtain ⟨name, stored⟩ := entry
    simp only [List.map_cons, List.nodup_cons, List.mem_map] at nodup
    by_cases same : key = name
    · subst same
      simp only [List.lookup_cons_self, Option.some.injEq, List.mem_cons, Prod.mk.injEq,
        true_and]
      constructor
      · exact fun equal => .inl equal.symm
      · rintro (equal | member)
        · exact equal.symm
        · exact (nodup.1 ⟨_, member, rfl⟩).elim
    · have differ : (key == name) = false := by simpa using same
      simp only [List.lookup_cons, differ, List.mem_cons, Prod.mk.injEq, same, false_and,
        false_or]
      exact ih nodup.2

/-- Go's `m[key] = value` on the entries of a map: the old entry for `key` goes and the
new one comes first. -/
def setField {α : Type} (m : List (String × α)) (key : String) (value : α) : List (String × α) :=
  (key, value) :: m.filter fun entry => entry.1 != key

/-- Dropping the entries of one key leaves the lookups of the others. -/
theorem lookup_filter_ne {α : Type} (m : List (String × α)) {key other : String}
    (differ : other ≠ key) :
    (m.filter fun entry => entry.1 != key).lookup other = m.lookup other := by
  induction m with
  | nil => rfl
  | cons entry rest ih =>
    obtain ⟨name, value⟩ := entry
    by_cases dropped : name = key
    · subst dropped
      simp [List.filter_cons, List.lookup_cons, ih, beq_false_of_ne differ]
    · simp [List.filter_cons, List.lookup_cons, ih, dropped]

/-- Dropping the entries of a key leaves no lookup for it. -/
theorem lookup_filter_self {α : Type} (m : List (String × α)) (key : String) :
    (m.filter fun entry => entry.1 != key).lookup key = none := by
  induction m with
  | nil => rfl
  | cons entry rest ih =>
    obtain ⟨name, value⟩ := entry
    by_cases dropped : name = key
    · simp [List.filter_cons, dropped, ih]
    · simp [List.filter_cons, List.lookup_cons, ih, dropped, beq_false_of_ne (Ne.symm dropped)]

theorem lookup_setField {α : Type} (m : List (String × α)) (key : String) (value : α)
    (other : String) :
    (setField m key value).lookup other = if other = key then some value else m.lookup other := by
  by_cases same : other = key
  · simp [setField, same]
  · simp [setField, List.lookup_cons, same, lookup_filter_ne m same, beq_false_of_ne same]

/-- Dropping entries keeps a map well formed. -/
theorem Any.WellFormed.filter {fields : List (String × Any σ)} (wf : (Any.object fields).WellFormed)
    (keep : String × Any σ → Bool) : (Any.object (fields.filter keep)).WellFormed :=
  .object _ (wf.keys_nodup.sublist ((List.filter_sublist _).map _))
    fun _ member => wf.of_mem (List.mem_of_mem_filter member)

/-- `m[key] = value` with a well-formed value keeps a map well formed. -/
theorem Any.WellFormed.setField {fields : List (String × Any σ)} (wf : (Any.object fields).WellFormed)
    (key : String) {value : Any σ} (valueWf : value.WellFormed) :
    (Any.object (setField fields key value)).WellFormed := by
  have kept := wf.filter fun entry => entry.1 != key
  refine .object _ (List.nodup_cons.mpr ⟨fun present => ?_, kept.keys_nodup⟩) fun field member => ?_
  · obtain ⟨entry, member, same⟩ := List.mem_map.mp present
    have differs := (List.mem_filter.mp member).2
    simp [same] at differs
  · rcases List.mem_cons.mp member with rfl | member
    · exact valueWf
    · exact kept.of_mem member

/-- **Go's `==` on two `any` values.** Different dynamic types compare unequal; two
scalars compare by value; two slices or two maps make the runtime panic "comparing
uncomparable type", which is `none`. -/
def anyEq [DecidableEq σ] : Any σ → Any σ → Option Bool
  | .scalar a, .scalar b => some (decide (a = b))
  | .array _, .array _ => none
  | .object _, .object _ => none
  | _, _ => some false

/-- The value is a scalar, the only kind Go's `==` compares without panicking against a
value of its own kind. -/
def Any.IsScalar : Any σ → Prop
  | .scalar _ => True
  | _ => False

/-- Both values are slices, or both are maps. -/
def Any.SameContainer : Any σ → Any σ → Prop
  | .array _, .array _ => True
  | .object _, .object _ => True
  | _, _ => False

/-- A slice or a map is `SameContainer` with itself. -/
theorem Any.sameContainer_self {item : Any σ} (container : ¬ item.IsScalar) :
    item.SameContainer item := by
  cases item with
  | scalar _ => exact (container trivial).elim
  | array _ => trivial
  | object _ => trivial

section Equality

variable [DecidableEq σ]

theorem anyEq_eq_none_iff (left right : Any σ) :
    anyEq left right = none ↔ left.SameContainer right := by
  cases left <;> cases right <;> simp [anyEq, Any.SameContainer]

theorem anyEq_eq_some_true_iff (left right : Any σ) :
    anyEq left right = some true ↔ left = right ∧ right.IsScalar := by
  cases left <;> cases right <;> simp [anyEq, Any.IsScalar]

/-- Against a scalar, Go's `==` never panics: it is equality. -/
theorem anyEq_of_isScalar (left : Any σ) {right : Any σ} (scalar : right.IsScalar) :
    ∃ equal, anyEq left right = some equal ∧ (equal = true ↔ left = right) := by
  cases right with
  | scalar b => cases left <;> simp [anyEq]
  | array _ => exact scalar.elim
  | object _ => exact scalar.elim

/-- Against a slice or a map, Go's `==` never answers "equal". -/
theorem anyEq_ne_some_true_of_not_isScalar (left : Any σ) {right : Any σ}
    (container : ¬ right.IsScalar) : anyEq left right ≠ some true := by
  rw [Ne, anyEq_eq_some_true_iff]
  exact fun equal => container equal.2

end Equality

end Wiredb
