/-
  Cidre.Lib.Json

  JSON documents as a Python program holds them after `json.load`, with the
  operations scripts use on them: `get`, truth value, equality with a string or a
  boolean, `dict.update`.

  An operation that raises is `none`, so that a script is a computation in
  `Option` and a script that ends in a traceback is `none` as a whole.
-/

import Mathlib.Data.Rat.Defs

namespace Cidre

/-- A JSON document.  A number carries its value and the text `str` prints for
    it (`1` and `1.0` are equal and print differently); the keys of an object
    are distinct. -/
inductive Json where
  | null
  | bool (b : Bool)
  | num (value : Rat) (text : String)
  | str (s : String)
  | arr (items : List Json)
  | obj (fields : List (String × Json))

namespace Json

/-- `d[key]` on the fields of an object, `null` when the key is missing. -/
def field (fields : List (String × Json)) (key : String) : Json :=
  (fields.lookup key).getD .null

/-- `v.get(key)`; only an object has `get`. -/
def get : Json → String → Option Json
  | .obj fields, key => some (field fields key)
  | _, _ => none

/-- `v.get(key, default)`. -/
def getD : Json → String → Json → Option Json
  | .obj fields, key, default => some ((fields.lookup key).getD default)
  | _, _, _ => none

/-- `bool(v)`. -/
def truthy : Json → Bool
  | .null => false
  | .bool b => b
  | .num value _ => value ≠ 0
  | .str s => s ≠ ""
  | .arr items => !items.isEmpty
  | .obj fields => !fields.isEmpty

/-- `v == s` for a string `s`. -/
def isStr : Json → String → Bool
  | .str t, s => t == s
  | _, _ => false

/-- `v == b` for a boolean `b`; a number equals the boolean of its value. -/
def isBool : Json → Bool → Bool
  | .bool c, b => c == b
  | .num value _, b => value = if b then 1 else 0
  | _, _ => false

/-- `v` may be a member of a set or a key of a dictionary. -/
def hashable : Json → Bool
  | .arr _ | .obj _ => false
  | _ => true

@[simp] theorem isStr_iff {v : Json} {s : String} : v.isStr s = true ↔ v = .str s := by
  cases v <;> simp [isStr]

@[simp] theorem get_obj (fields : List (String × Json)) (key : String) :
    (Json.obj fields).get key = some (field fields key) := rfl

/-- A field with a value other than `null` is there. -/
theorem getD_of_field {fields : List (String × Json)} {key : String} {v : Json}
    (h : field fields key = v) (hv : v ≠ .null) (default : Json) :
    (Json.obj fields).getD key default = some v := by
  unfold field at h
  show some ((fields.lookup key).getD default) = some v
  cases hl : fields.lookup key with
  | none =>
    rw [hl] at h
    exact absurd h.symm hv
  | some w =>
    rw [hl] at h
    exact congrArg some h

/-- A `get` that succeeds was made on an object. -/
theorem get_eq_some {v w : Json} {key : String} (h : v.get key = some w) :
    ∃ fields, v = .obj fields ∧ w = field fields key := by
  cases v with
  | obj fields => exact ⟨fields, rfl, (Option.some.inj h).symm⟩
  | _ => exact absurd h (by simp [get])

/-- An element of the iterable given to `dict.update`, read as a pair: the key
    must be hashable, and one that is no string is never looked up by name. -/
def asPair : Json → Option (List (String × Json))
  | .arr [k, v] =>
      match k with
      | .str s => some [(s, v)]
      | .arr _ | .obj _ => none
      | _ => some []
  | .str t =>
      match t.toList with
      | [a, b] => some [(a.toString, .str b.toString)]
      | _ => none
  | .obj [p, q] => some [(p.1, .str q.1)]
  | _ => none

/-- The entries `dict.update(v)` adds, in order; `none` when it raises. -/
def entries : Json → Option (List (String × Json))
  | .obj fields => some fields
  | .arr items => (items.mapM asPair).map List.flatten
  | .str t => if t = "" then some [] else none
  | _ => none

/-- `d[key] = v`, on the fields of `d`. -/
def set (fields : List (String × Json)) (key : String) (v : Json) : List (String × Json) :=
  (key, v) :: fields.filter (·.1 ≠ key)

/-- `d.update(new)`, on the fields of `d`. -/
def update (fields new : List (String × Json)) : List (String × Json) :=
  new.foldl (fun d p => set d p.1 p.2) fields

@[simp] theorem field_set_self (fields : List (String × Json)) (key : String) (v : Json) :
    field (set fields key v) key = v := by
  simp [field, set]

theorem lookup_filter_ne {α : Type*} (l : List (String × α)) {key k : String} (h : k ≠ key) :
    (l.filter fun p => p.1 ≠ key).lookup k = l.lookup k := by
  induction l with
  | nil => rfl
  | cons p l ih =>
    rw [List.filter_cons]
    by_cases hp : p.1 = key
    · have hk : (k == p.1) = false := by simpa [hp] using h
      rw [if_neg (by simpa using hp), ih, List.lookup_cons, hk]
    · rw [if_pos (by simpa using hp), List.lookup_cons, List.lookup_cons, ih]

@[simp] theorem field_set_of_ne (fields : List (String × Json)) {key k : String} (v : Json)
    (h : k ≠ key) : field (set fields key v) k = field fields k := by
  have hk : (k == key) = false := by simpa using h
  unfold field set
  rw [List.lookup_cons, hk]
  simp only
  rw [lookup_filter_ne fields h]

/-- A key that is not among the new entries keeps its value. -/
theorem field_update_of_not_mem {new : List (String × Json)} {k : String}
    (h : ∀ p ∈ new, p.1 ≠ k) (fields : List (String × Json)) :
    field (update fields new) k = field fields k := by
  induction new generalizing fields with
  | nil => rfl
  | cons p new ih =>
    have hp : k ≠ p.1 := (h p List.mem_cons_self).symm
    have htail : ∀ q ∈ new, q.1 ≠ k := fun q hq => h q (List.mem_cons_of_mem p hq)
    rw [update, List.foldl_cons]
    exact (ih htail _).trans (field_set_of_ne fields p.2 hp)

/-- An entry set last is the one `update` leaves. -/
theorem field_update_set (fields d : List (String × Json)) (key : String) (v : Json) :
    field (update fields (set d key v)) key = v := by
  have hrest : ∀ p ∈ d.filter (·.1 ≠ key), p.1 ≠ key := by
    intro p hp
    simpa using (List.mem_filter.mp hp).2
  rw [update, set, List.foldl_cons]
  exact (field_update_of_not_mem hrest _).trans (field_set_self _ _ _)

end Json

end Cidre
