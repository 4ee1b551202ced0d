import Mathlib.Data.Nat.Basic
import Mathlib.Order.Lattice
import Mathlib.Order.Monotone.Basic

/-!
# Comparing part by part

What is compared part by part is compared by its first part, and by the next one only where the
parts in front of it are equal: lists by what they start with (`compare_append`), numbers by their
quotients and then by their remainders (`compare_div_mod`). Where the first parts are not of one
length, a mark below everything in them ends them (`compare_append_cons`). A function that keeps the
order of its arguments keeps every comparison (`compare_of_strictMono`).
-/

namespace EntitySearch

/-- A part that is not equal decides. -/
theorem then_of_ne_eq : ∀ {first second : Ordering}, first ≠ .eq → first.then second = first := by
  decide

/-- A strictly monotone function keeps the result of a comparison. -/
theorem compare_of_strictMono {α β : Type} [LinearOrder α] [LinearOrder β] {f : α → β}
    (mono : StrictMono f) (a b : α) : compare (f a) (f b) = compare a b := by
  rw [← cmp_eq_compare, ← cmp_eq_compare, mono.cmp_map_eq]

theorem compare_add (m n k : Nat) : compare (m + k) (n + k) = compare m n :=
  compare_of_strictMono (fun _ _ less => Nat.add_lt_add_right less k) m n

/-- Numbers compare by their quotients, and those of one quotient by their remainders. -/
theorem compare_div_mod (m n k : Nat) :
    compare m n = (compare (m / k) (n / k)).then (compare (m % k) (n % k)) := by
  rcases Nat.lt_trichotomy (m / k) (n / k) with less | same | greater
  · have smaller : m < n := Nat.lt_of_div_lt_div less
    rw [Nat.compare_eq_lt.2 less, Nat.compare_eq_lt.2 smaller]
    rfl
  · -- with one quotient the products are equal, so the remainders decide
    have parts (r s : Nat) : compare (k * (n / k) + r) (k * (n / k) + s) = compare r s := by
      rw [Nat.add_comm _ r, Nat.add_comm _ s, compare_add]
    calc
      compare m n = compare (k * (m / k) + m % k) (k * (n / k) + n % k) := by
        rw [Nat.div_add_mod, Nat.div_add_mod]
      _ = compare (m % k) (n % k) := by rw [same, parts]
      _ = (compare (m / k) (n / k)).then (compare (m % k) (n % k)) := by
        rw [same, Nat.compare_eq_eq.2 rfl, Ordering.eq_then]
  · have larger : n < m := Nat.lt_of_div_lt_div greater
    rw [Nat.compare_eq_gt.2 greater, Nat.compare_eq_gt.2 larger]
    rfl

/-- Lists compare by what they start with if that is of one length. -/
theorem compare_append {α : Type} [Ord α] {xs ys : List α} (length : xs.length = ys.length)
    (s t : List α) : compare (xs ++ s) (ys ++ t) = (compare xs ys).then (compare s t) := by
  induction xs generalizing ys with
  | nil =>
    obtain rfl := List.eq_nil_of_length_eq_zero length.symm
    rfl
  | cons x xs ih =>
    cases ys with
    | nil => cases length
    | cons y ys =>
      rw [List.cons_append, List.cons_append, List.compare_cons_cons, List.compare_cons_cons,
        ih (Nat.succ.inj length), Ordering.then_assoc]

/-- What lists both start with makes no difference. -/
theorem compare_cons_self (n : Nat) (s t : List Nat) : compare (n :: s) (n :: t) = compare s t := by
  rw [List.compare_cons_cons, Nat.compare_eq_eq.2 rfl, Ordering.eq_then]

/-- Lists compare by what stands in front of a mark if the mark is below all of that. -/
theorem compare_append_cons {xs ys : List Nat} {mark : Nat} (above : ∀ x ∈ xs, mark < x)
    (above' : ∀ y ∈ ys, mark < y) (s t : List Nat) :
    compare (xs ++ mark :: s) (ys ++ mark :: t) = (compare xs ys).then (compare s t) := by
  induction xs generalizing ys with
  | nil =>
    cases ys with
    | nil => exact compare_cons_self mark s t
    | cons y ys =>
      -- the list that ends here goes on with the mark
      rw [List.nil_append, List.cons_append, List.compare_cons_cons,
        Nat.compare_eq_lt.2 (above' y List.mem_cons_self)]
      rfl
  | cons x xs ih =>
    cases ys with
    | nil =>
      rw [List.nil_append, List.cons_append, List.compare_cons_cons,
        Nat.compare_eq_gt.2 (above x List.mem_cons_self)]
      rfl
    | cons y ys =>
      rw [List.cons_append, List.cons_append, List.compare_cons_cons, List.compare_cons_cons,
        ih (fun x mem => above x (List.mem_cons_of_mem _ mem)) fun y mem =>
          above' y (List.mem_cons_of_mem _ mem), Ordering.then_assoc]

end EntitySearch
