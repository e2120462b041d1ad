import Marginalia.Settings.Options

/-
  This file defines mappings that settings are made of or
  changed by. They carry the proofs that no name stands in
  them twice and that known keys have values of their types.

  Key definitions include:
    * `Key.takes`
    * `Key.leaves`
    * `TypedEntries`
    * `TypedEntries.ofList?`
    * `Mapping`
    * `Mapping.options`
    * `Change`
    * `Change.present`
-/

namespace Marginalia

namespace Key

------------------------------------------------------------
-- Values That May Stand in a Mapping
------------------------------------------------------------

/-
  A value that a key may have where settings are made: one of
  its type, or an absent directory of the template.
-/
def takes
    (key : Key)
    (value : Value) : Bool :=
  key.admits value ||
    (key == .templateDirectory && value.isNull)

/-
  A value that a key may have where settings are changed: one
  of its type, or an absent one, which changes nothing.
-/
def leaves
    (key : Key)
    (value : Value) : Bool :=
  key.admits value || value.isNull

end Key

------------------------------------------------------------
-- Typed Entries
------------------------------------------------------------

/-
  Entries none of whose names is given twice, and whose known
  keys have values that may stand there.
-/
structure TypedEntries
    (accepts : Key → Value → Bool) where
  entries : List (Text × Value)
  nodup : (entries.map Prod.fst).Nodup
  typed :
    ∀ entry ∈ entries, ∀ key ∈ Key.ofName? entry.1,
      accepts key entry.2 = true

namespace TypedEntries

/- The entries that count where of equal names the last one does. -/
def lastEntries :
    List (Text × Value) → List (Text × Value)
  | [] => []
  | entry :: rest =>
      if (rest.map Prod.fst).contains entry.1 then lastEntries rest
      else entry :: lastEntries rest

/- No name is added by leaving entries out. -/
theorem mem_of_mem_lastEntries
    {entries : List (Text × Value)}
    {name : Text}
    (hName : name ∈ (lastEntries entries).map Prod.fst) :
    name ∈ entries.map Prod.fst := by
  induction entries with
  | nil => exact hName
  | cons entry rest ih =>
      unfold lastEntries at hName
      split at hName
      · exact List.mem_cons_of_mem _ (ih hName)
      · rcases List.mem_cons.mp hName with hFirst | hRest
        · exact hFirst ▸ List.mem_cons_self
        · exact List.mem_cons_of_mem _ (ih hRest)

/- The entries that count have different names. -/
theorem nodup_lastEntries
    (entries : List (Text × Value)) :
    ((lastEntries entries).map Prod.fst).Nodup := by
  induction entries with
  | nil => exact List.nodup_nil
  | cons entry rest ih =>
      unfold lastEntries
      split
      · exact ih
      · rename_i hFresh
        refine List.nodup_cons.mpr ⟨?_, ih⟩
        intro hName
        exact hFresh
          (List.contains_iff_mem.mpr (mem_of_mem_lastEntries hName))

/- Known keys have values that may stand there. -/
def areTyped
    (accepts : Key → Value → Bool)
    (entries : List (Text × Value)) : Bool :=
  entries.all fun entry =>
    (Key.ofName? entry.1).all (accepts · entry.2)

/- The typed entries in a list, if those that count are typed. -/
def ofList?
    {accepts : Key → Value → Bool}
    (list : List (Text × Value)) :
    Option (TypedEntries accepts) :=
  let entries := lastEntries list
  if hTyped : areTyped accepts entries = true then
    some
      { entries
        nodup := nodup_lastEntries list
        typed := by
          intro entry hEntry key hKey
          have hAll := List.all_eq_true.mp hTyped entry hEntry
          exact (Option.all_eq_true _ _).mp hAll key hKey }
  else none

end TypedEntries

------------------------------------------------------------
-- Mappings and Changes
------------------------------------------------------------

/- A mapping that settings are made of. -/
abbrev Mapping :=
  TypedEntries Key.takes

namespace Mapping

/- The options that a mapping gives. -/
def options
    (mapping : Mapping) : Options :=
  Options.ofEntries mapping.entries

end Mapping

/- A mapping that settings are changed by. -/
abbrev Change :=
  TypedEntries Key.leaves

namespace Change

/- What a change says: its entries that are not absent. -/
def present
    (change : Change) : Mapping where
  entries := change.entries.filter (!·.2.isNull)
  nodup := change.nodup.sublist (List.filter_sublist.map _)
  typed := by
    intro entry hEntry key hKey
    rcases List.mem_filter.mp hEntry with ⟨hMember, hPresent⟩
    have hLeaves := change.typed entry hMember key hKey
    unfold Key.leaves at hLeaves
    unfold Key.takes
    rw [Bool.not_eq_true'] at hPresent
    rw [hPresent, Bool.or_false] at hLeaves
    rw [hLeaves, Bool.true_or]

end Change

end Marginalia
