import Marginalia.Document
import Marginalia.Proofs.Document.Order

/-
  This file shows that a document does not depend on the order
  in which its modules are found when all of them are listed.
  Their order is then the one of the list, in which each name
  stands for the one module that has it.

  Main results:
    * `ModuleOrder.leading_eq`
    * `ModuleOrder.apply_eq_leading`
    * `ModuleOrder.find?_eq_some_iff`
    * `Document.render_eq_of_perm`
-/

namespace Marginalia

namespace ModuleOrder

------------------------------------------------------------
-- Modules by Their Names
------------------------------------------------------------

/-
  The leading modules are found by the listed names alone, each
  name taken where it is first mentioned.
-/
theorem leading_eq
    (modules : List ModuleDoc)
    (names : List Text) :
    leading modules names =
      names.eraseDups.filterMap fun name =>
        modules.find? (·.name == name) := by
  unfold leading
  rw [listed_eq, List.filterMap_filterMap]
  apply List.filterMap_congr
  intro name _
  rw [List.find?_eq_bind_findIdx?_getElem?]
  rfl

/- With different names, the module at a position is found there. -/
theorem position?_of_nodup
    {modules : List ModuleDoc}
    (hNames : (modules.map ModuleDoc.name).Nodup)
    {position : Nat}
    (hLess : position < modules.length) :
    position? modules modules[position].name = some position := by
  unfold position?
  rw [List.findIdx?_eq_some_iff_getElem]
  refine ⟨hLess, beq_self_eq_true _, ?_⟩
  intro earlier hEarlier
  rw [beq_iff_eq]
  intro hSame
  have hEqual :=
    List.inj_on_of_nodup_map hNames (List.getElem_mem _)
      (List.getElem_mem hLess) hSame
  have hPositions := hNames.of_map.getElem_inj_iff.mp hEqual
  omega

/- When all modules are listed by different names, they all lead. -/
theorem apply_eq_leading
    {modules : List ModuleDoc}
    {names : List Text}
    (hNames : (modules.map ModuleDoc.name).Nodup)
    (hListed : ∀ module ∈ modules, module.name ∈ names) :
    apply modules names = leading modules names := by
  have hNone :
      (List.range modules.length).filter
          (!(listed modules names).contains ·) = [] := by
    rw [List.filter_eq_nil_iff]
    intro position hPosition
    have hLess := List.mem_range.mp hPosition
    have hMember : position ∈ listed modules names := by
      apply List.mem_eraseDups.mpr
      exact List.mem_filterMap.mpr
        ⟨modules[position].name, hListed _ (List.getElem_mem hLess),
          position?_of_nodup hNames hLess⟩
    simp [hMember]
  unfold apply positions leading
  dsimp only
  rw [hNone, List.append_nil]

/- With different names, a name finds the module that has it. -/
theorem find?_eq_some_iff
    {modules : List ModuleDoc}
    (hNames : (modules.map ModuleDoc.name).Nodup)
    {name : Text}
    {module : ModuleDoc} :
    modules.find? (·.name == name) = some module ↔
      module ∈ modules ∧ module.name = name := by
  constructor
  · intro hFound
    have hName := List.find?_some hFound
    exact ⟨List.mem_of_find?_eq_some hFound, eq_of_beq hName⟩
  · rintro ⟨hMember, rfl⟩
    cases hFound : modules.find? (·.name == module.name) with
    | none =>
        have hOther := List.find?_eq_none.mp hFound module hMember
        exact absurd (beq_self_eq_true _) hOther
    | some other =>
        have hName := List.find?_some hFound
        rw [List.inj_on_of_nodup_map hNames
          (List.mem_of_find?_eq_some hFound) hMember (eq_of_beq hName)]

/- So it does in whatever order they are found. -/
theorem find?_eq_of_perm
    {modules others : List ModuleDoc}
    (hPerm : modules.Perm others)
    (hNames : (modules.map ModuleDoc.name).Nodup)
    (name : Text) :
    modules.find? (·.name == name) = others.find? (·.name == name) := by
  have hOthers : (others.map ModuleDoc.name).Nodup :=
    (hPerm.map ModuleDoc.name).nodup_iff.mp hNames
  apply Option.ext
  intro module
  rw [find?_eq_some_iff hNames, find?_eq_some_iff hOthers,
    hPerm.mem_iff]

/- Listed modules are put in the same order however they are found. -/
theorem apply_eq_of_perm
    {modules others : List ModuleDoc}
    {names : List Text}
    (hPerm : modules.Perm others)
    (hNames : (modules.map ModuleDoc.name).Nodup)
    (hListed : ∀ module ∈ modules, module.name ∈ names) :
    apply modules names = apply others names := by
  have hOthers : (others.map ModuleDoc.name).Nodup :=
    (hPerm.map ModuleDoc.name).nodup_iff.mp hNames
  have hOthersListed : ∀ module ∈ others, module.name ∈ names := by
    intro module hMember
    exact hListed module (hPerm.mem_iff.mpr hMember)
  calc apply modules names
      = leading modules names := apply_eq_leading hNames hListed
    _ = leading others names := by
        rw [leading_eq, leading_eq]
        apply List.filterMap_congr
        intro name _
        exact find?_eq_of_perm hPerm hNames name
    _ = apply others names :=
        (apply_eq_leading hOthers hOthersListed).symm

end ModuleOrder

namespace Document

------------------------------------------------------------
-- Documents and the Order of Discovery
------------------------------------------------------------

/-
  When all modules are listed, by different names and perhaps
  with repeats and names that no module has, their document is
  the same in whatever order they are found.
-/
theorem render_eq_of_perm
    (layout : Layout)
    {modules others : List ModuleDoc}
    (hPerm : modules.Perm others)
    (hNames : (modules.map ModuleDoc.name).Nodup)
    (hListed :
      ∀ module ∈ modules, module.name ∈ layout.moduleList) :
    render layout modules = render layout others := by
  unfold render
  rw [ModuleOrder.apply_eq_of_perm hPerm hNames hListed]

/-
  Three modules that are found in two orders, listed in a third
  one, one of them twice and with a name that none of them has.
-/
theorem render_eq_of_perm_turned :
    let first : ModuleDoc := { fileName := "a.dwl".toList }
    let second : ModuleDoc := { fileName := "b/c.dwl".toList }
    let third : ModuleDoc :=
      { fileName := "d.dwl".toList
        comment := some { text := "D.".toList } }
    let layout : Layout :=
      { moduleList :=
          ["b::c".toList, "e".toList, "a".toList, "b::c".toList,
            "d".toList]
        headerText := "H".toList
        headerTable := true }
    [first, second, third].Perm [third, first, second] ∧
      ([first, second, third].map ModuleDoc.name).Nodup ∧
      (∀ module ∈ [first, second, third],
        module.name ∈ layout.moduleList) ∧
      render layout [first, second, third] =
        render layout [third, first, second] := by
  intro first second third layout
  have hPerm : [first, second, third].Perm [third, first, second] := by
    decide
  have hNames :
      ([first, second, third].map ModuleDoc.name).Nodup := by
    decide
  have hListed :
      ∀ module ∈ [first, second, third],
        module.name ∈ layout.moduleList := by
    decide
  exact ⟨hPerm, hNames, hListed,
    render_eq_of_perm layout hPerm hNames hListed⟩

end Document

end Marginalia
