import EntitySearch.Document.Scalar
import EntitySearch.Proofs.Comparing
import EntitySearch.Proofs.Numbers.Rounding
import Mathlib

/-!
# The order of stored values

Every stored value has a place in one linear order: null at the bottom, then the numbers by exact
value, then the texts (`Json.place`). Booleans stand with the numbers, arrays and objects with the
texts. The sort order of two values compares their places (`Json.sortOrder_eq_compare`), so whatever
is true of a linear order is true of it: it can be turned around, it is total, and it is transitive.

Numbers are placed on the line of integers, in units of the smallest double, with an end on either
side for what is infinite. A NaN would have no place. It occurs in no JSON text, and the statements
are about values whose reals are finite (`Json.isFinite`).
-/

namespace EntitySearch

/-! ### Numbers -/

/-- **The line of numbers**: integers in units of the smallest double, and an end on either side. -/
abbrev NumberLine := WithBot (WithTop Int)

/-- The place of a whole number of units. -/
def NumberLine.ofUnits (units : Int) : NumberLine := ((units : WithTop Int) : NumberLine)

/-- The upper end of the line. -/
def NumberLine.top : NumberLine := ((⊤ : WithTop Int) : NumberLine)

namespace NumberLine

theorem ofUnits_strictMono : StrictMono ofUnits :=
  WithBot.coe_strictMono.comp WithTop.coe_strictMono

theorem bot_lt_ofUnits (units : Int) : ⊥ < ofUnits units := WithBot.bot_lt_coe _

theorem ofUnits_lt_top (units : Int) : ofUnits units < top :=
  WithBot.coe_lt_coe.2 (WithTop.coe_lt_top units)

theorem bot_lt_top : (⊥ : NumberLine) < top := WithBot.bot_lt_coe _

end NumberLine

namespace Double

/-- Whether a double is a number. -/
def isFinite : Double → Bool
  | finite .. => true
  | _ => false

/-- **The place of a double** on the line of numbers. A NaN has none, and gets that of zero. -/
def extent : Double → NumberLine
  | nan => .ofUnits 0
  | infinite true => ⊥
  | infinite false => .top
  | finite negative units => .ofUnits (signedUnits negative units)

/-- An integer and a double compare as their places do. -/
theorem orderInt_eq_compare (n : Int) {x : Double} (number : x ≠ nan) :
    x.orderInt n = some (compare (NumberLine.ofUnits (n * one)) x.extent) := by
  cases x with
  | nan => exact absurd rfl number
  | infinite negative =>
    cases negative with
    | true => exact congrArg some (compare_gt_iff_gt.2 (NumberLine.bot_lt_ofUnits _)).symm
    | false => exact congrArg some (compare_lt_iff_lt.2 (NumberLine.ofUnits_lt_top _)).symm
  | finite negative units =>
    exact congrArg some (compare_of_strictMono NumberLine.ofUnits_strictMono _ _).symm

/-- Two doubles compare as their places do. -/
theorem order_eq_compare {x y : Double} (number : x ≠ nan) (number' : y ≠ nan) :
    x.order y = some (compare x.extent y.extent) := by
  cases x with
  | nan => exact absurd rfl number
  | infinite a =>
    cases y with
    | nan => exact absurd rfl number'
    | infinite b =>
      refine congrArg some ?_
      cases a with
      | true =>
        cases b with
        | true => exact (compare_eq_iff_eq.2 rfl).symm
        | false => exact (compare_lt_iff_lt.2 NumberLine.bot_lt_top).symm
      | false =>
        cases b with
        | true => exact (compare_gt_iff_gt.2 NumberLine.bot_lt_top).symm
        | false => exact (compare_eq_iff_eq.2 rfl).symm
    | finite negative units =>
      cases a with
      | true => exact congrArg some (compare_lt_iff_lt.2 (NumberLine.bot_lt_ofUnits _)).symm
      | false => exact congrArg some (compare_gt_iff_gt.2 (NumberLine.ofUnits_lt_top _)).symm
  | finite negative units =>
    cases y with
    | nan => exact absurd rfl number'
    | infinite b =>
      cases b with
      | true => exact congrArg some (compare_gt_iff_gt.2 (NumberLine.bot_lt_ofUnits _)).symm
      | false => exact congrArg some (compare_lt_iff_lt.2 (NumberLine.ofUnits_lt_top _)).symm
    | finite other more =>
      exact congrArg some (compare_of_strictMono NumberLine.ofUnits_strictMono _ _).symm

/-- What is rounded to a double is a number, however large it is. -/
theorem ofUnits_ne_nan (negative : Bool) (units : Nat) : ofUnits negative units ≠ nan := by
  rw [ofUnits]
  split
  · exact Double.noConfusion
  · exact Double.noConfusion

theorem ofRatio_ne_nan (negative : Bool) (n d : Nat) : ofRatio negative n d ≠ nan := by
  rw [ofRatio]
  exact ofUnits_ne_nan _ _

theorem ofScientific_ne_nan (negative : Bool) (digits : Nat) (exponent : Int) :
    ofScientific negative digits exponent ≠ nan := by
  unfold ofScientific
  dsimp only
  split_ifs
  · exact Double.noConfusion
  · exact Double.noConfusion
  · exact Double.noConfusion
  · exact ofRatio_ne_nan _ _ _
  · exact ofRatio_ne_nan _ _ _

theorem ofInt_ne_nan (n : Int) : ofInt n ≠ nan := by
  rw [ofInt]
  exact ofRatio_ne_nan _ _ _

end Double

/-! ### Scalars -/

namespace Scalar

/-- A scalar that is not a NaN. -/
def IsOrdered : Scalar → Prop
  | real x => x ≠ .nan
  | _ => True

/-- **The place of a scalar**: numbers come in front of texts. -/
def place : Scalar → NumberLine ⊕ₗ String
  | integer n => Sum.inlₗ (.ofUnits (n * Double.one))
  | real x => Sum.inlₗ x.extent
  | text s => Sum.inrₗ s

theorem compare_numbers (a b : NumberLine) :
    compare (Sum.inlₗ a : NumberLine ⊕ₗ String) (Sum.inlₗ b) = compare a b :=
  compare_of_strictMono Sum.Lex.inl_strictMono a b

theorem compare_texts (a b : String) :
    compare (Sum.inrₗ a : NumberLine ⊕ₗ String) (Sum.inrₗ b) = compare a b :=
  compare_of_strictMono Sum.Lex.inr_strictMono a b

/-- Integers are as far from one another as their units. -/
theorem compare_integers (m n : Int) :
    compare (NumberLine.ofUnits (m * Double.one)) (NumberLine.ofUnits (n * Double.one)) =
      compare m n := by
  rw [compare_of_strictMono NumberLine.ofUnits_strictMono]
  have one : (0 : Int) < Double.one := Int.natCast_pos.2 Double.one_pos
  exact compare_of_strictMono (fun a b less => Int.mul_lt_mul_of_pos_right less one) m n

/-- **Scalars compare as their places do.** -/
theorem order_eq_compare {a b : Scalar} (ordered : a.IsOrdered) (ordered' : b.IsOrdered) :
    a.order b = compare a.place b.place := by
  cases a with
  | integer m =>
    cases b with
    | integer n => rw [place, place, compare_numbers, compare_integers]; rfl
    | real y =>
      rw [place, place, compare_numbers, order, orderMixed, Double.orderInt_eq_compare m ordered']
      rfl
    | text t => exact (compare_lt_iff_lt.2 (Sum.Lex.inl_lt_inr _ _)).symm
  | real x =>
    cases b with
    | integer n =>
      rw [place, place, compare_numbers, order, orderMixed, Double.orderInt_eq_compare n ordered,
        Option.getD_some]
      exact Std.OrientedOrd.eq_swap.symm
    | real y =>
      rw [place, place, compare_numbers, order, Double.order_eq_compare ordered ordered']
      rfl
    | text t => exact (compare_lt_iff_lt.2 (Sum.Lex.inl_lt_inr _ _)).symm
  | text s =>
    cases b with
    | integer n => exact (compare_gt_iff_gt.2 (Sum.Lex.inl_lt_inr _ _)).symm
    | real y => exact (compare_gt_iff_gt.2 (Sum.Lex.inl_lt_inr _ _)).symm
    | text t => rw [place, place, compare_texts]; rfl

end Scalar

/-! ### Stored values -/

namespace Json

mutual

/-- **Whether all reals of a value are finite**, as they are in every JSON text. -/
def isFinite : Json → Bool
  | real x => x.isFinite
  | array items => allFinite items
  | object members => membersFinite members
  | _ => true

/-- Whether all reals of the items of an array are finite. -/
def allFinite : List Json → Bool
  | [] => true
  | item :: rest => isFinite item && allFinite rest

/-- Whether all reals of the members of an object are finite. -/
def membersFinite : List (String × Json) → Bool
  | [] => true
  | (_, value) :: rest => isFinite value && membersFinite rest

end

theorem isFinite_of_get? {name : String} {value : Json} {members : List (String × Json)}
    (finite : membersFinite members) (found : Named.get? name members = some value) :
    value.isFinite := by
  induction members with
  | nil => cases found
  | cons head rest ih =>
    obtain ⟨key, first⟩ := head
    obtain ⟨this, others⟩ := Bool.and_eq_true_iff.1 finite
    rw [Named.get?_cons] at found
    split at found
    · exact Option.some.inj found ▸ this
    · exact ih others found

theorem isFinite_of_mem {item : Json} {items : List Json} (finite : allFinite items)
    (mem : item ∈ items) : item.isFinite := by
  induction items with
  | nil => cases mem
  | cons head rest ih =>
    obtain ⟨this, others⟩ := Bool.and_eq_true_iff.1 finite
    rcases List.mem_cons.1 mem with rfl | mem
    · exact this
    · exact ih others mem

/-- What is found in a value with finite reals has finite reals. -/
theorem isFinite_of_at? {path : List String} {document value : Json} (finite : document.isFinite)
    (found : document.at? path = some value) : value.isFinite := by
  induction path generalizing document with
  | nil => exact Option.some.inj found ▸ finite
  | cons name path ih =>
    obtain ⟨inner, member, found⟩ := Option.bind_eq_some_iff.1 found
    refine ih ?_ found
    cases document with
    | object members => exact isFinite_of_get? finite member
    | _ => cases member

/-- What stands at a path in a value with finite reals has finite reals, whether something is found
there or not. -/
theorem isFinite_getD_at? {path : List String} {document : Json} (finite : document.isFinite) :
    ((document.at? path).getD null).isFinite := by
  cases found : document.at? path with
  | none => rfl
  | some value => exact isFinite_of_at? finite found

/-- The scalar of a value with finite reals is no NaN. -/
theorem isOrdered_of_isFinite {value : Json} {scalar : Scalar} (finite : value.isFinite)
    (h : value.scalar? = some scalar) : scalar.IsOrdered := by
  cases value with
  | null => cases h
  | real x =>
    obtain rfl := Option.some.inj h
    -- a NaN is not finite
    rintro rfl
    cases finite
  | int n =>
    -- an integer that does not fit is rounded, which gives a number
    obtain rfl := Option.some.inj h
    split
    · trivial
    · exact Double.ofInt_ne_nan n
  | bool value | text value | array items | object members =>
    obtain rfl := Option.some.inj h
    trivial

/-- **The place of a stored value**, with null at the bottom. -/
def place (value : Json) : WithBot (NumberLine ⊕ₗ String) := value.scalar?.map Scalar.place

/-- Stored values sort as their places do if their scalars are no NaN. -/
theorem sortOrder_of_isOrdered {a b : Json} (ordered : ∀ x, a.scalar? = some x → x.IsOrdered)
    (ordered' : ∀ y, b.scalar? = some y → y.IsOrdered) :
    a.sortOrder b = compare a.place b.place := by
  rw [sortOrder, place, place]
  -- values without a scalar come before all others
  cases first : a.scalar? with
  | none =>
    cases b.scalar? with
    | none => exact (compare_eq_iff_eq.2 rfl).symm
    | some y => exact (compare_lt_iff_lt.2 (WithBot.bot_lt_coe _)).symm
  | some x =>
    cases second : b.scalar? with
    | none => exact (compare_gt_iff_gt.2 (WithBot.bot_lt_coe _)).symm
    | some y =>
      exact (Scalar.order_eq_compare (ordered x first) (ordered' y second)).trans
        (compare_of_strictMono WithBot.coe_strictMono _ _).symm

/-- **Stored values sort as their places do.** -/
theorem sortOrder_eq_compare {a b : Json} (finite : a.isFinite) (finite' : b.isFinite) :
    a.sortOrder b = compare a.place b.place :=
  sortOrder_of_isOrdered (fun _ => isOrdered_of_isFinite finite) fun _ =>
    isOrdered_of_isFinite finite'

end Json

end EntitySearch
