import Mathlib.Data.List.Perm.Lattice
import Marginalia.Document.Order

/-
  This file shows that putting modules in order neither loses
  nor repeats one, which of them come first, and that modules
  in order stay where they are when they are put in the same
  order again. All this is said of positions, so that modules
  with equal contents are still told apart.

  Main results:
    * `ModuleOrder.positions_perm_range`
    * `ModuleOrder.apply_perm`
    * `ModuleOrder.listed_eq`
    * `ModuleOrder.positions_apply`
    * `ModuleOrder.apply_reorders`
-/

namespace Marginalia

namespace ModuleOrder

------------------------------------------------------------
-- Positions
------------------------------------------------------------

/- Erasing repeats leaves none. -/
theorem nodup_eraseDups
    {α : Type}
    [BEq α] [LawfulBEq α]
    (values : List α) :
    values.eraseDups.Nodup := by
  -- What is left behind the first is a shorter list than before.
  induction hLength : values.length using Nat.strongRecOn
    generalizing values with
  | ind length ih =>
      cases values with
      | nil => exact List.nodup_nil
      | cons first rest =>
          rw [List.eraseDups_cons, List.nodup_cons]
          constructor
          · intro hMember
            simp at hMember
          · apply ih _ _ _ rfl
            have hFilter :=
              List.length_filter_le (fun other => !other == first) rest
            rw [List.length_cons] at hLength
            omega

/- Every listed position is that of a module. -/
theorem lt_length_of_mem_listed
    {modules : List ModuleDoc}
    {names : List Text}
    {position : Nat}
    (hMember : position ∈ listed modules names) :
    position < modules.length := by
  have hFound := List.mem_eraseDups.mp hMember
  rcases List.mem_filterMap.mp hFound with ⟨name, _, hName⟩
  exact (List.findIdx?_eq_some_iff_getElem.mp hName).1

/- The positions are those of all modules, each of them once. -/
theorem positions_perm_range
    (modules : List ModuleDoc)
    (names : List Text) :
    (positions modules names).Perm
      (List.range modules.length) := by
  have hListed : (listed modules names).Nodup := nodup_eraseDups _
  have hNodup : (positions modules names).Nodup := by
    unfold positions
    rw [List.nodup_append']
    refine ⟨hListed, List.nodup_range.filter _, ?_⟩
    intro position hFirst hRest
    simp [hFirst] at hRest
  rw [List.perm_ext_iff_of_nodup hNodup List.nodup_range]
  intro position
  unfold positions
  simp only [List.mem_append, List.mem_filter, List.mem_range,
    Bool.not_eq_true', List.contains_eq_mem, decide_eq_false_iff_not]
  constructor
  · rintro (hFirst | ⟨hLess, _⟩)
    · exact lt_length_of_mem_listed hFirst
    · exact hLess
  · intro hLess
    by_cases hFirst : position ∈ listed modules names
    · exact .inl hFirst
    · exact .inr ⟨hLess, hFirst⟩

------------------------------------------------------------
-- Modules in Order
------------------------------------------------------------

/- Modules looked up by all positions are the modules. -/
theorem filterMap_range
    (modules : List ModuleDoc) :
    (List.range modules.length).filterMap (modules[·]?) =
      modules := by
  induction modules with
  | nil => rfl
  | cons module rest ih =>
      rw [List.length_cons, List.range_succ_eq_map,
        List.filterMap_cons, List.filterMap_map]
      exact congrArg (module :: ·) ih

/- Modules in order are the same modules, each as often. -/
theorem apply_perm
    (modules : List ModuleDoc)
    (names : List Text) :
    (apply modules names).Perm modules := by
  have hPerm :=
    (positions_perm_range modules names).filterMap (modules[·]?)
  rwa [filterMap_range] at hPerm

------------------------------------------------------------
-- Names and Positions
------------------------------------------------------------

/- A name has a position when a module has the name. -/
theorem position?_eq_none_iff
    {modules : List ModuleDoc}
    {name : Text} :
    position? modules name = none ↔
      ∀ module ∈ modules, module.name ≠ name := by
  unfold position?
  simp only [List.findIdx?_eq_none_iff, beq_eq_false_iff_ne]

/- The module at the position of a name has that name. -/
theorem name_of_position?
    {modules : List ModuleDoc}
    {name : Text}
    {position : Nat}
    (hPosition : position? modules name = some position) :
    ∃ module,
      modules[position]? = some module ∧ module.name = name := by
  rcases List.findIdx?_eq_some_iff_getElem.mp hPosition with
    ⟨hLess, hName, -⟩
  exact ⟨modules[position], List.getElem?_eq_getElem hLess,
    eq_of_beq hName⟩

/- Two names never have one position. -/
theorem name_unique
    {modules : List ModuleDoc}
    {left right : Text}
    {position : Nat}
    (hLeft : position? modules left = some position)
    (hRight : position? modules right = some position) :
    left = right := by
  rcases name_of_position? hLeft with ⟨module, hModule, rfl⟩
  rcases name_of_position? hRight with ⟨other, hOther, rfl⟩
  rw [hModule] at hOther
  rw [Option.some.inj hOther]

/- Where the first module has another name, it is passed over. -/
theorem position?_cons_of_ne
    {module : ModuleDoc}
    {name : Text}
    (hNe : module.name ≠ name)
    (rest : List ModuleDoc) :
    position? (module :: rest) name =
      (position? rest name).map (· + 1) := by
  unfold position?
  rw [List.findIdx?_cons, if_neg]
  simpa using hNe

/- Without a name that is not found the same is found. -/
theorem filterMap_filter_of_eq_none
    {find : Text → Option Nat}
    {name : Text}
    (hName : find name = none)
    (names : List Text) :
    (names.filter fun other => !other == name).filterMap find =
      names.filterMap find := by
  rw [List.filterMap_filter]
  apply List.filterMap_congr
  intro other _
  by_cases hOther : other = name
  · simp [hOther, hName]
  · simp [hOther]

/-
  Without the position of a name, what is found is found from
  the others, where no two names are found at one position.
-/
theorem filter_filterMap_of_eq_some
    {find : Text → Option Nat}
    (hFind :
      ∀ left right position,
        find left = some position → find right = some position →
          left = right)
    {name : Text}
    {position : Nat}
    (hName : find name = some position)
    (names : List Text) :
    ((names.filterMap find).filter fun other =>
        !other == position) =
      (names.filter fun other => !other == name).filterMap find := by
  rw [List.filter_filterMap, List.filterMap_filter]
  apply List.filterMap_congr
  intro other _
  by_cases hOther : other = name
  · simp [hOther, hName]
  · cases hFound : find other with
    | none => simp [hOther]
    | some place =>
        have hPlace : place ≠ position := by
          intro hSame
          rw [hSame] at hFound
          exact hOther (hFind _ _ _ hFound hName)
        simp [hOther, hPlace]

/-
  Where no two names are found at one position, it makes no
  difference whether repeats are erased before or after.
-/
theorem eraseDups_filterMap
    {find : Text → Option Nat}
    (hFind :
      ∀ left right position,
        find left = some position → find right = some position →
          left = right)
    (names : List Text) :
    (names.filterMap find).eraseDups =
      names.eraseDups.filterMap find := by
  -- What is left behind the first name is a shorter list.
  induction hLength : names.length using Nat.strongRecOn
    generalizing names with
  | ind length ih =>
      cases names with
      | nil => rfl
      | cons name rest =>
          have hShorter :
              (rest.filter fun other => !other == name).length <
                length := by
            have hFilter :=
              List.length_filter_le (fun other => !other == name) rest
            rw [List.length_cons] at hLength
            omega
          have hRest := ih _ hShorter _ rfl
          rw [List.eraseDups_cons]
          cases hName : find name with
          | none =>
              rw [List.filterMap_cons_none hName,
                List.filterMap_cons_none hName, ← hRest,
                filterMap_filter_of_eq_none hName]
          | some position =>
              rw [List.filterMap_cons_some hName,
                List.filterMap_cons_some hName, List.eraseDups_cons,
                ← hRest, filter_filterMap_of_eq_some hFind hName]

/-
  The listed positions are those of the names, each name taken
  where it is first mentioned.
-/
theorem listed_eq
    (modules : List ModuleDoc)
    (names : List Text) :
    listed modules names =
      names.eraseDups.filterMap (position? modules) :=
  eraseDups_filterMap (fun _ _ _ => name_unique) names

------------------------------------------------------------
-- Putting Modules in Order Again
------------------------------------------------------------

/- The modules that lead: the first one of each listed name. -/
def leading
    (modules : List ModuleDoc)
    (names : List Text) : List ModuleDoc :=
  (listed modules names).filterMap (modules[·]?)

/- Behind the leading modules there are the others. -/
theorem exists_apply_eq
    (modules : List ModuleDoc)
    (names : List Text) :
    ∃ others, apply modules names = leading modules names ++ others :=
  ⟨_, List.filterMap_append⟩

/- The leading modules have the names that some module has. -/
theorem map_name_leading
    (modules : List ModuleDoc)
    (names : List Text) :
    (leading modules names).map ModuleDoc.name =
      names.eraseDups.filter fun name =>
        (position? modules name).isSome := by
  unfold leading
  rw [listed_eq, List.filterMap_filterMap, List.map_filterMap,
    ← List.filterMap_eq_filter]
  apply List.filterMap_congr
  intro name _
  cases hPosition : position? modules name with
  | none => simp [hPosition, Option.guard]
  | some position =>
      rcases name_of_position? hPosition with ⟨module, hModule, hName⟩
      simp [hPosition, hModule, hName, Option.guard]

/-
  Modules with different names are found at their own
  positions, in order, whatever stands behind them.
-/
theorem filterMap_position?_append
    {front : List ModuleDoc}
    (hNames : (front.map ModuleDoc.name).Nodup)
    (behind : List ModuleDoc) :
    (front.map ModuleDoc.name).filterMap
        (position? (front ++ behind)) =
      List.range front.length := by
  induction front with
  | nil => rfl
  | cons module rest ih =>
      rw [List.map_cons, List.nodup_cons] at hNames
      have hFirst :
          position? (module :: rest ++ behind) module.name = some 0 := by
        simp [position?, List.findIdx?_cons]
      have hRest :
          (rest.map ModuleDoc.name).filterMap
              (position? (module :: rest ++ behind)) =
            ((rest.map ModuleDoc.name).filterMap
              (position? (rest ++ behind))).map (· + 1) := by
        rw [List.map_filterMap]
        apply List.filterMap_congr
        intro name hName
        apply position?_cons_of_ne
        intro hSame
        rw [hSame] at hNames
        exact hNames.1 hName
      rw [List.map_cons, List.filterMap_cons_some hFirst, hRest,
        ih hNames.2, List.length_cons, List.range_succ_eq_map]

/- In order, the leading modules are at the first positions. -/
theorem listed_apply
    (modules : List ModuleDoc)
    (names : List Text) :
    listed (apply modules names) names =
      List.range (leading modules names).length := by
  rcases exists_apply_eq modules names with ⟨others, hApply⟩
  have hNodup : ((leading modules names).map ModuleDoc.name).Nodup := by
    rw [map_name_leading]
    exact (nodup_eraseDups names).filter _
  -- A name that no module has is not found in order either.
  have hFound :
      ∀ name ∈ names.eraseDups,
        position? (apply modules names) name =
          if (position? modules name).isSome then
            position? (apply modules names) name
          else none := by
    intro name _
    cases hPosition : position? modules name with
    | some position => rfl
    | none =>
        apply position?_eq_none_iff.mpr
        intro module hModule
        exact position?_eq_none_iff.mp hPosition module
          ((apply_perm modules names).mem_iff.mp hModule)
  calc listed (apply modules names) names
      = names.eraseDups.filterMap
          (position? (apply modules names)) := listed_eq _ _
    _ = (names.eraseDups.filter fun name =>
          (position? modules name).isSome).filterMap
            (position? (apply modules names)) := by
        rw [List.filterMap_filter]
        exact List.filterMap_congr hFound
    _ = List.range (leading modules names).length := by
        rw [← map_name_leading, hApply]
        exact filterMap_position?_append hNodup others

/- Without the first positions, the later ones are left. -/
theorem filter_range_add
    (first later : Nat) :
    (List.range (first + later)).filter
        (!(List.range first).contains ·) =
      (List.range later).map (first + ·) := by
  have hFirst :
      ∀ position ∈ List.range first,
        ¬(!(List.range first).contains position) = true := by
    intro position hPosition
    simp [List.mem_range.mp hPosition]
  have hLater :
      ∀ position ∈ (List.range later).map (first + ·),
        (!(List.range first).contains position) = true := by
    intro position hPosition
    rcases List.mem_map.mp hPosition with ⟨place, _, rfl⟩
    simp
  rw [List.range_add, List.filter_append,
    List.filter_eq_nil_iff.mpr hFirst,
    List.filter_eq_self.mpr hLater, List.nil_append]

/- Modules in order stay at their positions. -/
theorem positions_apply
    (modules : List ModuleDoc)
    (names : List Text) :
    positions (apply modules names) names =
      List.range (apply modules names).length := by
  rcases exists_apply_eq modules names with ⟨others, hApply⟩
  have hLength :
      (apply modules names).length =
        (leading modules names).length + others.length := by
    rw [hApply, List.length_append]
  unfold positions
  dsimp only
  rw [listed_apply, hLength, filter_range_add, List.range_add]

------------------------------------------------------------
-- The Order of Modules
------------------------------------------------------------

/- The events name the listed names that no module has. -/
theorem events_eq
    (modules : List ModuleDoc)
    (names : List Text) :
    events modules names =
      (names.filter fun name =>
        modules.all (·.name != name)).map
          Event.moduleListEntryUnmatched := by
  have hNone :
      ∀ name ∈ names,
        (position? modules name).isNone =
          modules.all (·.name != name) := by
    intro name _
    rw [Bool.eq_iff_iff, Option.isNone_iff_eq_none,
      position?_eq_none_iff]
    simp
  unfold events unmatched
  rw [List.filter_congr hNone]

/-
  Modules are put in order without losing or repeating one. At
  first stand, for each name of the list where it is first
  mentioned, the first module with that name, if there is one,
  and then the others in the order they had. The names that no
  module has are reported in order. Putting the modules in the
  same order again moves none of them.
-/
theorem apply_reorders
    (modules : List ModuleDoc)
    (names : List Text) :
    (∃ first others : List Nat,
      positions modules names = first ++ others ∧
      (first ++ others).Perm (List.range modules.length) ∧
      first =
        names.eraseDups.filterMap (fun name =>
          modules.findIdx? (·.name == name)) ∧
      others.Pairwise (· < ·) ∧
      apply modules names =
        (first ++ others).filterMap (modules[·]?)) ∧
    (apply modules names).Perm modules ∧
    events modules names =
      (names.filter fun name =>
        modules.all (·.name != name)).map
          Event.moduleListEntryUnmatched ∧
    positions (apply modules names) names =
      List.range (apply modules names).length ∧
    apply (apply modules names) names = apply modules names := by
  have hAgain := positions_apply modules names
  refine ⟨?_, apply_perm modules names, events_eq modules names,
    hAgain, ?_⟩
  · refine ⟨listed modules names, _, rfl,
      positions_perm_range modules names, listed_eq modules names,
      ?_, rfl⟩
    exact List.pairwise_lt_range.filter _
  · trans (List.range (apply modules names).length).filterMap
        ((apply modules names)[·]?)
    · rw [← hAgain]
      rfl
    · exact filterMap_range (apply modules names)

end ModuleOrder

end Marginalia
