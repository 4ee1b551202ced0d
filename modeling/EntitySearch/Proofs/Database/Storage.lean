import EntitySearch.Database.Table
import EntitySearch.Proofs.Database.Agreement
import EntitySearch.Proofs.Documents.Reading

/-!
# Documents in a database

A database stores a document as a text, and two readers meet that text. The engine reads values out
of it to compare and to sort them, and the document that is fetched is read from it as a whole. What
either of them reads can be another value than the one that was stored.

A document is loadable (`Json.isLoadable`) if it can be read as a whole, if the engine reads its
doubles as they are, and if no name in it has a NUL, at which the engine would take it to end. Then
the engine finds what the document holds at every path (`found?_eq`) and reads that value as
documented (`readsAsDocumented`), and the document is fetched with its doubles as they are read
(`reread_eq`). It is fetched as it was stored if these are the same doubles (`Json.isStorable`).
-/

namespace EntitySearch

/-- A double that can be read is finite, for others are written as null. -/
theorem Double.isFinite_of_readBack? {x : Double} (legible : x.readBack?.isSome) : x.isFinite := by
  have none : Double.nan.readBack? = none := rfl
  cases x with
  | finite negative units => rfl
  | nan =>
    rw [none] at legible
    cases legible
  | infinite negative =>
    -- its text is the one of a NaN
    have same : (Double.infinite negative).readBack? = Double.nan.readBack? := by
      rw [readBack?, readBack?, json, json]
    rw [same, none] at legible
    cases legible

namespace Json

mutual

/-- A document that can be read has finite doubles only. -/
theorem isFinite_of_allLegible (value : Json) (legible : value.allLegible) : value.isFinite := by
  cases value with
  | array items => exact allFinite_of_allLegible items legible
  | object members => exact membersFinite_of_allLegible members legible
  | real x => exact Double.isFinite_of_readBack? legible
  | null | bool value | int value | text value => rfl

theorem allFinite_of_allLegible (items : List Json)
    (legible : eachItem isLegible (fun _ => true) items) : allFinite items := by
  cases items with
  | nil => rfl
  | cons item rest =>
    obtain ⟨first, others⟩ := Bool.and_eq_true_iff.1 legible
    exact Bool.and_eq_true_iff.2
      ⟨isFinite_of_allLegible item first, allFinite_of_allLegible rest others⟩

theorem membersFinite_of_allLegible (members : List (String × Json))
    (legible : eachMember isLegible (fun _ => true) members) : membersFinite members := by
  match members with
  | [] => rfl
  | (key, value) :: rest =>
    obtain ⟨first, others⟩ := Bool.and_eq_true_iff.1 legible
    exact Bool.and_eq_true_iff.2
      ⟨isFinite_of_allLegible value first, membersFinite_of_allLegible rest others⟩

end

/-- Whether a scalar is what is read from its text. -/
def readsBack : Json → Bool
  | real x => x.readBack? = some x
  | _ => true

mutual

/-- A document is read as it is if its doubles are. -/
theorem asRead_eq_self (value : Json) (stable : value.each readsBack fun _ => true) :
    value.asRead = value := by
  cases value with
  | array items => exact congrArg array (itemsAsRead_eq_self items stable)
  | object members => exact congrArg object (membersAsRead_eq_self members stable)
  | real x =>
    have same : x.readBack? = some x := of_decide_eq_true stable
    rw [asRead, same, Option.getD_some]
  | null | bool value | int value | text value => rfl

theorem itemsAsRead_eq_self (items : List Json)
    (stable : eachItem readsBack (fun _ => true) items) : itemsAsRead items = items := by
  cases items with
  | nil => rfl
  | cons item rest =>
    obtain ⟨first, others⟩ := Bool.and_eq_true_iff.1 stable
    rw [itemsAsRead, asRead_eq_self item first, itemsAsRead_eq_self rest others]

theorem membersAsRead_eq_self (members : List (String × Json))
    (stable : eachMember readsBack (fun _ => true) members) : membersAsRead members = members := by
  match members with
  | [] => rfl
  | (key, value) :: rest =>
    obtain ⟨first, others⟩ := Bool.and_eq_true_iff.1 stable
    rw [membersAsRead, asRead_eq_self value first, membersAsRead_eq_self rest others]

end

/-- Whether the engine reads a scalar as it is. -/
def engineReads : Json → Bool
  | real x => x.reread = x
  | _ => true

/-- Whether a name is all that the engine takes for it. -/
def isLabel (name : String) : Bool := name.toList.all (· ≠ '\x00')

/-- **Whether both readers can read a document.** -/
def isLoadable (document : Json) : Bool :=
  document.allLegible && document.each engineReads isLabel && document.levels ≤ maxLevels

/-- **Whether a document survives** being stored and fetched. -/
def isStorable (document : Json) : Bool :=
  document.isLoadable && document.each readsBack fun _ => true

end Json

/-- **A record as it is read**: its document is. -/
def Record.asRead (record : Record) : Record := { record with document := record.document.asRead }

namespace Json

/-! ### Paths in a document as it is read -/

/-- The members of an object as it is read are its members as they are read. -/
theorem member?_asRead (name : String) (document : Json) :
    document.asRead.member? name = (document.member? name).map asRead := by
  cases document with
  | object members =>
    rw [asRead, membersAsRead_eq_map]
    exact Named.get?_mapValues asRead name members
  | _ => rfl

/-- What stands at a path in a document as it is read is what stands there, as it is read. -/
theorem at?_asRead (path : List String) (document : Json) :
    document.asRead.at? path = (document.at? path).map asRead := by
  induction path generalizing document with
  | nil => rfl
  | cons name path ih =>
    rw [at?, at?, member?_asRead]
    cases document.member? name with
    | none => rfl
    | some inner => exact ih inner

end Json

namespace Database

/-- A label is compared as a whole. -/
theorem untilNul_pointsOf {name : String} (label : Json.isLabel name) :
    Value.untilNul (pointsOf name) = pointsOf name := by
  rw [Value.untilNul, List.takeWhile_eq_self_iff]
  intro point mem
  obtain ⟨c, inside, rfl⟩ := List.mem_map.1 mem
  have other : c ≠ '\x00' := of_decide_eq_true (List.all_eq_true.1 label c inside)
  refine decide_eq_true fun zero => other ?_
  exact Char.toNat_inj.1 zero

/-- Strings are as different as their points. -/
theorem pointsOf_injective : Function.Injective pointsOf := by
  intro a b same
  have injective : Function.Injective Char.toNat := fun _ _ => Char.toNat_inj.1
  exact String.toList_inj.1 (List.map_injective_iff.2 injective same)

/-- Labels are found by their own names only. -/
theorem finds_label {key : String} (label : Json.isLabel key) (name : String) :
    finds name (pointsOf key) = decide (key = name) := by
  rw [finds, untilNul_pointsOf label, Bool.eq_iff_iff, beq_iff_eq, decide_eq_true_iff]
  exact pointsOf_injective.eq_iff

section Found

variable {scalar : Json → Bool} {document : Json}

/-- **The engine finds** the members of an object whose names are labels. -/
theorem memberAt?_eq (labels : document.each scalar Json.isLabel) (name : String) :
    memberAt? name document = document.member? name := by
  cases document with
  | object members =>
    have each := Json.eachMember_iff.1 labels
    rw [memberAt?, Json.member?]
    induction members with
    | nil => rfl
    | cons member rest ih =>
      obtain ⟨⟨label, value⟩, others⟩ := List.forall_mem_cons.1 each
      rw [List.find?_cons, finds_label label, Named.get?_cons]
      -- the engine compares names up to a NUL, which for a label is the whole name
      by_cases same : member.1 = name
      · rw [decide_eq_true same, if_pos same]
        rfl
      · rw [decide_eq_false same, if_neg same]
        exact ih (Json.eachMember_iff.2 others) others
  | _ => rfl

/-- A member passes what the whole document does. -/
theorem each_of_member? {value : Json} {name : String → Bool} {key : String}
    (passes : document.each scalar name) (found : document.member? key = some value) :
    value.each scalar name := by
  cases document with
  | object members => exact (Json.eachMember_iff.1 passes _ (Named.mem_of_get? found)).2
  | _ => cases found

/-- **The engine finds what a document holds** at every path, and that has the same labels. -/
theorem found?_eq (labels : document.each scalar Json.isLabel) (path : List String) :
    found? path document = document.at? path ∧
      ∀ value, document.at? path = some value → value.each scalar Json.isLabel := by
  induction path generalizing document with
  | nil => exact ⟨rfl, fun value found => Option.some.inj found ▸ labels⟩
  | cons name path ih =>
    rw [found?, Json.at?, memberAt?_eq labels]
    cases found : document.member? name with
    | none => exact ⟨rfl, nofun⟩
    | some inner => exact ih (each_of_member? labels found)

end Found

/-- The engine finds the same members in a document as it is read, as they are read. -/
theorem memberAt?_asRead (name : String) (document : Json) :
    memberAt? name document.asRead = (memberAt? name document).map Json.asRead := by
  cases document with
  | object members =>
    rw [Json.asRead, Json.membersAsRead_eq_map, memberAt?, memberAt?, List.find?_map,
      Option.map_map, Option.map_map]
    rfl
  | _ => rfl

theorem found?_asRead (path : List String) (document : Json) :
    found? path document.asRead = (found? path document).map Json.asRead := by
  induction path generalizing document with
  | nil => rfl
  | cons name path ih =>
    rw [found?, found?, memberAt?_asRead]
    cases memberAt? name document with
    | none => rfl
    | some inner => exact ih inner

section Loadable

variable {document : Json}

/-- All names in a loadable document are labels. -/
theorem labels_of_loadable (loadable : document.isLoadable) :
    document.each Json.engineReads Json.isLabel :=
  (Bool.and_eq_true_iff.1 (Bool.and_eq_true_iff.1 loadable).1).2

/-- All scalars in a loadable document can be read. -/
theorem allLegible_of_loadable (loadable : document.isLoadable) : document.allLegible :=
  (Bool.and_eq_true_iff.1 (Bool.and_eq_true_iff.1 loadable).1).1

/-- **A loadable document is fetched** with its doubles as they are read. -/
theorem reread_eq (loadable : document.isLoadable) : Table.reread document = document.asRead := by
  have deep : document.levels ≤ Json.maxLevels :=
    of_decide_eq_true (Bool.and_eq_true_iff.1 loadable).2
  rw [Table.reread, Json.read?_compact (allLegible_of_loadable loadable) deep, Option.getD_some]

/-- The engine finds in a loadable document what stands at every path. -/
theorem found?_reread (loadable : document.isLoadable) (path : List String) :
    found? path (Table.reread document) = document.asRead.at? path := by
  rw [reread_eq loadable, found?_asRead, (found?_eq (labels_of_loadable loadable) path).1,
    Json.at?_asRead]

/-- **The engine reads a loadable document** as documented. -/
theorem readsAsDocumented (loadable : document.isLoadable) (path : List String) :
    ReadsAsDocumented document path := by
  obtain ⟨same, each⟩ := found?_eq (labels_of_loadable loadable) path
  rw [ReadsAsDocumented, same]
  cases found : document.at? path with
  | none => rfl
  | some value =>
    -- only a double could be read as another value than the document holds
    cases value with
    | real x =>
      have engine : x.reread = x := of_decide_eq_true (each (.real x) found)
      exact congrArg Value.real engine
    | _ => rfl

end Loadable

end Database

end EntitySearch
