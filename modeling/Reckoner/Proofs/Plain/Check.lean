import Mathlib.Data.List.Forall2
import Reckoner.Plain

/-!
# Checks that succeed

A check of several parts succeeds exactly if the check of every part does, and what it gives is put together from what they give:
of two checks (`Check.both_eq_ok_iff`), of a field that has to be there or may be absent (`Check.required_eq_ok_iff`,
`Check.optional_eq_ok_iff`) and of the items of a list (`Check.Reads.items_eq_ok_iff`). So a value that passes is told part by part. A
check that passes the plain values of one form and no others reads that form (`Check.Reads`).
-/

namespace Reckoner

/-! ## Values under a name -/

/-- The first field of a name is the one that is found. -/
theorem Plain.field?_cons {name name' : String} {p : Plain} {fields : List (String × Plain)} :
    field? name ((name', p) :: fields) = if name' = name then some p else field? name fields := by
  by_cases h : name' = name <;> simp [field?, h]

/-- A record has no value under a name exactly if none of its fields has that name. -/
theorem Plain.field?_eq_none_iff {name : String} {fields : List (String × Plain)} :
    field? name fields = none ↔ ∀ f ∈ fields, f.1 ≠ name := by
  simp [field?]

namespace Check

/-! ## Checks and their parts -/

variable {ε ε' α β : Type} {x : α} {y : β}

/-- A function on errors leaves results alone. -/
theorem mapError_eq_ok_iff {f : ε → ε'} {c : Except ε α} : c.mapError f = .ok x ↔ c = .ok x := by
  cases c with
  | error e => exact iff_of_false (fun h => by cases h) (fun h => by cases h)
  | ok x' =>
    constructor
    · intro h
      rw [Except.ok.inj h]
    · intro h
      rw [Except.ok.inj h]
      rfl

/-- A function after a check has its result from the result of the check. -/
theorem map_eq_ok_iff {f : α → β} {c : Check α} : c.map f = .ok y ↔ ∃ x, c = .ok x ∧ f x = y := by
  constructor
  · intro h
    cases c with
    | error vs => cases h
    | ok x => exact ⟨x, rfl, Except.ok.inj h⟩
  · rintro ⟨x, rfl, rfl⟩
    rfl

/-- A check and what is checked of its result pass exactly if both do. -/
theorem bind_eq_ok_iff {f : α → Check β} {c : Check α} : c >>= f = .ok y ↔ ∃ x, c = .ok x ∧ f x = .ok y := by
  constructor
  · intro h
    cases c with
    | error vs => cases h
    | ok x => exact ⟨x, rfl, h⟩
  · rintro ⟨x, rfl, h⟩
    exact h

/-- Two checks side by side pass exactly if both do. -/
theorem both_eq_ok_iff {a : Check α} {b : Check β} : both a b = .ok (x, y) ↔ a = .ok x ∧ b = .ok y := by
  constructor
  · intro h
    cases a with
    | error vs => cases b <;> cases h
    | ok x' =>
      cases b with
      | error ws => cases h
      | ok y' =>
        cases h
        exact ⟨rfl, rfl⟩
  · rintro ⟨rfl, rfl⟩
    rfl

/-- A part passes below its place exactly if it passes. -/
theorem under_eq_ok_iff {p : Violation.Place} {c : Check α} : c.under p = .ok x ↔ c = .ok x := mapError_eq_ok_iff

theorem fail_ne_ok {f : Violation.Fault} : (fail f : Check α) ≠ .ok x := fun h => by cases h

/-! ## Fields and items -/

variable {check : Plain → Check α} {absent : α} {name : String} {fields fields' : List (String × Plain)}

/-- A required field passes exactly if it is there and its value passes. -/
theorem required_eq_ok_iff :
    required check name fields = .ok x ↔ ∃ p, Plain.field? name fields = some p ∧ check p = .ok x := by
  rw [required, under_eq_ok_iff]
  cases Plain.field? name fields with
  | none => exact iff_of_false fail_ne_ok (by simp)
  | some p => simp

/-- A field that may be absent has the given value if it is, and otherwise one that its check allows. -/
theorem optional_eq_ok_iff : optional check absent name fields = .ok x ↔
    (Plain.field? name fields = none ∧ x = absent) ∨ ∃ p, Plain.field? name fields = some p ∧ check p = .ok x := by
  unfold optional
  cases Plain.field? name fields with
  | none => simp [eq_comm]
  | some p => simp [under_eq_ok_iff]

/-- Of a record only the field that is asked for matters. -/
theorem optional_congr (h : Plain.field? name fields = Plain.field? name fields') :
    optional check absent name fields = optional check absent name fields' := by
  rw [optional, h, optional]

/-! ## Forms -/

/-- A check reads a form: it passes exactly the plain values that are of this form, each as what it stands for. -/
def Reads (check : Plain → Check α) (form : Plain → α → Prop) : Prop := ∀ p x, check p = .ok x ↔ form p x

variable {form : Plain → α → Prop}

/-- The items of a list are read one by one, wherever the list begins to be counted. -/
theorem Reads.items_eq_ok_iff (h : Reads check form) {i : Nat} {ps : List Plain} {xs : List α} :
    items check i ps = .ok xs ↔ List.Forall₂ form ps xs := by
  induction ps generalizing i xs with
  | nil => simp [items, eq_comm]
  | cons p ps ih =>
    rw [items, map_eq_ok_iff, List.forall₂_cons_left_iff]
    constructor
    · rintro ⟨⟨x, xs'⟩, hboth, rfl⟩
      obtain ⟨hx, hxs⟩ := both_eq_ok_iff.1 hboth
      exact ⟨x, xs', (h p x).1 (under_eq_ok_iff.1 hx), ih.1 hxs, rfl⟩
    · rintro ⟨x, xs', hx, hxs, rfl⟩
      exact ⟨(x, xs'), both_eq_ok_iff.2 ⟨under_eq_ok_iff.2 ((h p x).2 hx), ih.2 hxs⟩, rfl⟩

end Check

/-! ## Texts and lists -/

namespace Plain

variable {p : Plain}

/-- Only a text passes as a text. -/
theorem asText_eq_ok_iff {s : String} : p.asText = .ok s ↔ p = .text s := by
  cases p with
  | text s' => simp [asText]
  | _ => exact iff_of_false Check.fail_ne_ok (by simp)

theorem asList_eq_ok_iff {ps : List Plain} : p.asList = .ok ps ↔ p = .list ps := by
  cases p with
  | list ps' => simp [asList]
  | _ => exact iff_of_false Check.fail_ne_ok (by simp)

end Plain

end Reckoner
