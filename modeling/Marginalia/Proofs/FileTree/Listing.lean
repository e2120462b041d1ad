import Mathlib.Data.List.Sort
import Mathlib.Data.List.Lex
import Marginalia.Proofs.FileTree.Lawful

/-
  This file describes how the files below a node are listed:
  each of them once, in the order of the names on the way to
  it. Two lists of the same files are therefore the same. The
  entries of directories stay ordered when a node is put, and
  a node that is put where it already stands changes nothing.
  Sorting a node orders its entries and keeps all of them.

  Key definitions include:
    * `Place.Precedes`

  Main results:
    * `Text.precedes_trans`
    * `Node.files_pairwise`
    * `Node.wellFormed_put`
    * `Node.put_self`
    * `Node.wellFormed_sorted`
    * `Node.mem_files_sorted_iff`
-/

namespace Marginalia

------------------------------------------------------------
-- Order of Texts and Places
------------------------------------------------------------

namespace Text

/- Texts are compared at their first characters that differ. -/
theorem precedes_cons_iff
    {a b : Char}
    {as bs : Text} :
    precedes (a :: as) (b :: bs) = true ↔
      a.toNat < b.toNat ∨ a = b ∧ precedes as bs = true := by
  rw [precedes]
  by_cases hSame : a = b
  · simp [hSame]
  · simp [hSame]

/- Of two texts at most one comes before the other. -/
theorem precedes_asymm
    {left right : Text}
    (hBefore : precedes left right = true) :
    ¬precedes right left = true := by
  induction left generalizing right with
  | nil => cases right <;> simp [precedes]
  | cons a as ih =>
      cases right with
      | nil => cases hBefore
      | cons b bs =>
          rw [precedes_cons_iff] at hBefore ⊢
          rintro (hCode | ⟨rfl, hRest⟩)
          · rcases hBefore with hLess | ⟨rfl, hRest⟩
            · omega
            · omega
          · rcases hBefore with hLess | ⟨-, hBefore⟩
            · omega
            · exact ih hBefore hRest

/- A text before a second one is before all that follow that. -/
theorem precedes_trans
    {first second third : Text}
    (hFirst : precedes first second = true)
    (hSecond : precedes second third = true) :
    precedes first third = true := by
  induction first generalizing second third with
  | nil =>
      cases third with
      | nil => cases second <;> cases hSecond
      | cons c cs => rfl
  | cons a as ih =>
      cases second with
      | nil => cases hFirst
      | cons b bs =>
          cases third with
          | nil => cases hSecond
          | cons c cs =>
              rw [precedes_cons_iff] at hFirst hSecond ⊢
              rcases hFirst with hFirst | ⟨rfl, hFirst⟩
              · left
                rcases hSecond with hSecond | ⟨rfl, -⟩
                · omega
                · exact hFirst
              · rcases hSecond with hSecond | ⟨rfl, hSecond⟩
                · exact .inl hSecond
                · exact .inr ⟨rfl, ih hFirst hSecond⟩

/- Of two different texts one comes before the other. -/
theorem precedes_of_ne
    {left right : Text}
    (hNe : left ≠ right)
    (hNot : ¬precedes left right = true) :
    precedes right left = true := by
  induction left generalizing right with
  | nil =>
      cases right with
      | nil => exact absurd rfl hNe
      | cons b bs => exact absurd rfl hNot
  | cons a as ih =>
      cases right with
      | nil => rfl
      | cons b bs =>
          rw [precedes_cons_iff] at hNot ⊢
          by_cases hSame : a = b
          · subst hSame
            right
            refine ⟨rfl, ih ?_ ?_⟩
            · intro hEq
              exact hNe (congrArg (a :: ·) hEq)
            · intro hBefore
              exact hNot (.inr ⟨rfl, hBefore⟩)
          · left
            have hCode : a.toNat ≠ b.toNat := by
              intro hEq
              exact hSame (Char.toNat_inj.mp hEq)
            omega

end Text

namespace Place

/-
  A place comes before another one by the first of their names
  that differ, or when it ends first.
-/
def Precedes : Place → Place → Prop :=
  List.Lex fun left right => Text.precedes left right = true

instance : Std.Asymm Precedes := by
  have hNames :
      Std.Asymm fun left right =>
        Text.precedes left right = true :=
    ⟨fun _ _ => Text.precedes_asymm⟩
  exact List.Lex.asymm _

/- Places in order are told by what is among them. -/
theorem eq_of_precedes
    {left right : List Place}
    (hLeft : left.Pairwise Precedes)
    (hRight : right.Pairwise Precedes)
    (hSame : ∀ place, place ∈ left ↔ place ∈ right) :
    left = right := by
  have hAntisymm : Std.Antisymm Precedes := Std.Asymm.antisymm Precedes
  have hIrrefl : Std.Irrefl Precedes := Std.Asymm.irrefl
  exact hLeft.eq_of_mem_iff hRight hSame

end Place

------------------------------------------------------------
-- Files in Order
------------------------------------------------------------

namespace Node

/- The files of an entry are those of its directory. -/
theorem mem_filesOf_of_mem
    {entries : List (Text × Node)}
    {name : Text}
    {child : Node}
    (hEntry : (name, child) ∈ entries)
    {place : Place}
    {content : List UInt8}
    (hFile : (place, content) ∈ child.files) :
    (name :: place, content) ∈ filesOf entries := by
  induction entries with
  | nil => cases hEntry
  | cons entry rest ih =>
      rcases entry with ⟨first, node⟩
      unfold filesOf
      rcases List.mem_cons.mp hEntry with hFirst | hRest
      · cases hFirst
        exact List.mem_append_left _
          (List.mem_map.mpr ⟨_, hFile, rfl⟩)
      · exact List.mem_append_right _ (ih hRest)

/- A file that stands below a node is listed. -/
theorem mem_files_of_get?
    {place : Place}
    {node : Node}
    {content : List UInt8}
    (hFile : get? place node = some (.file content)) :
    (place, content) ∈ node.files := by
  induction place generalizing node with
  | nil =>
      cases hFile
      exact List.mem_singleton_self _
  | cons name rest ih =>
      cases node with
      | file bytes => cases hFile
      | directory entries =>
          unfold get? at hFile
          unfold files
          split at hFile
          · rename_i child hLookup
            exact mem_filesOf_of_mem (mem_of_lookup hLookup)
              (ih hFile)
          · cases hFile

/- A file below some entries is below one of them. -/
theorem exists_name_of_mem_filesOf
    {entries : List (Text × Node)}
    {file : Place × List UInt8}
    (hFile : file ∈ filesOf entries) :
    ∃ entry ∈ entries, ∃ below, file.1 = entry.1 :: below := by
  induction entries with
  | nil => cases hFile
  | cons entry rest ih =>
      unfold filesOf at hFile
      rcases List.mem_append.mp hFile with hFirst | hRest
      · rcases List.mem_map.mp hFirst with ⟨⟨below, bytes⟩, -, rfl⟩
        exact ⟨entry, List.mem_cons_self, below, rfl⟩
      · rcases ih hRest with ⟨other, hOther, hBelow⟩
        exact ⟨other, List.mem_cons_of_mem _ hOther, hBelow⟩

mutual

/- The files at and below a node are listed in order. -/
theorem files_pairwise
    {node : Node}
    (hNode : node.WellFormed) :
    node.files.Pairwise fun left right =>
      Place.Precedes left.1 right.1 := by
  cases node with
  | file bytes =>
      unfold files
      exact List.pairwise_singleton _ _
  | directory entries =>
      unfold files
      unfold WellFormed at hNode
      exact filesOf_pairwise hNode

/- The files below some entries are listed in order. -/
theorem filesOf_pairwise
    {entries : List (Text × Node)}
    (hEntries : OrderedEntries entries) :
    (filesOf entries).Pairwise fun left right =>
      Place.Precedes left.1 right.1 := by
  cases entries with
  | nil =>
      unfold filesOf
      exact List.Pairwise.nil
  | cons entry rest =>
      rcases entry with ⟨first, child⟩
      unfold OrderedEntries at hEntries
      rcases hEntries with ⟨hChild, hFirst, hRest⟩
      unfold filesOf
      apply List.pairwise_append.mpr
      refine ⟨?_, filesOf_pairwise hRest, ?_⟩
      · apply List.pairwise_map.mpr
        apply (files_pairwise hChild).imp
        intro left right hBefore
        exact List.Lex.cons hBefore
      · intro left hLeft right hRight
        rcases List.mem_map.mp hLeft with ⟨⟨below, bytes⟩, -, rfl⟩
        rcases exists_name_of_mem_filesOf hRight with
          ⟨other, hOther, rest', hPlace⟩
        rw [hPlace]
        exact List.Lex.rel (hFirst other hOther)

end

------------------------------------------------------------
-- Keeping Entries in Order
------------------------------------------------------------

/- Among the entries after putting a node there is no third kind. -/
theorem mem_of_mem_insert
    {name : Text}
    {node : Node}
    {entries : List (Text × Node)}
    {entry : Text × Node}
    (hEntry : entry ∈ insert name node entries) :
    entry = (name, node) ∨ entry ∈ entries := by
  fun_induction insert name node entries with
  | case1 => exact .inl (List.mem_singleton.mp hEntry)
  | case2 =>
      rcases List.mem_cons.mp hEntry with hNew | hOld
      · exact .inl hNew
      · exact .inr (List.mem_cons_of_mem _ hOld)
  | case3 => exact List.mem_cons.mp hEntry
  | case4 first other rest hName hOrder ih =>
      rcases List.mem_cons.mp hEntry with hFirst | hRest
      · exact .inr (List.mem_cons.mpr (.inl hFirst))
      · rcases ih hRest with hNew | hOld
        · exact .inl hNew
        · exact .inr (List.mem_cons_of_mem _ hOld)

/- Entries stay ordered when a node is put among them. -/
theorem orderedEntries_insert
    {name : Text}
    {node : Node}
    (hNode : node.WellFormed)
    {entries : List (Text × Node)}
    (hEntries : OrderedEntries entries) :
    OrderedEntries (insert name node entries) := by
  fun_induction insert name node entries with
  | case1 =>
      unfold OrderedEntries
      exact ⟨hNode, List.forall_mem_nil _, hEntries⟩
  | case2 =>
      unfold OrderedEntries at hEntries ⊢
      exact ⟨hNode, hEntries.2⟩
  | case3 first other rest hName hBefore =>
      unfold OrderedEntries
      refine ⟨hNode, ?_, hEntries⟩
      unfold OrderedEntries at hEntries
      intro entry hEntry
      rcases List.mem_cons.mp hEntry with rfl | hRest
      · exact hBefore
      · exact Text.precedes_trans hBefore (hEntries.2.1 entry hRest)
  | case4 first other rest hName hOrder ih =>
      unfold OrderedEntries at hEntries ⊢
      rcases hEntries with ⟨hOther, hFirst, hRest⟩
      refine ⟨hOther, ?_, ih hRest⟩
      intro entry hEntry
      rcases mem_of_mem_insert hEntry with rfl | hOld
      · exact Text.precedes_of_ne (Ne.symm hName) hOrder
      · exact hFirst entry hOld

/- A node stays well-formed when one is put below it. -/
theorem wellFormed_put
    {new : Node}
    (hNew : new.WellFormed)
    (place : Place)
    {node : Node}
    (hNode : node.WellFormed) :
    (put new place node).WellFormed := by
  induction place generalizing node with
  | nil => exact hNew
  | cons name rest ih =>
      cases node with
      | file content => exact hNode
      | directory entries =>
          unfold put
          dsimp only
          unfold WellFormed at hNode ⊢
          apply orderedEntries_insert _ hNode
          apply ih
          cases hLookup : lookup name entries with
          | none =>
              unfold WellFormed emptyDirectory OrderedEntries
              trivial
          | some child =>
              exact wellFormed_of_mem hNode (mem_of_lookup hLookup)

/- A node that is put where it stands changes no entry. -/
theorem insert_self
    {name : Text}
    {node : Node}
    {entries : List (Text × Node)}
    (hEntries : OrderedEntries entries)
    (hLookup : lookup name entries = some node) :
    insert name node entries = entries := by
  induction entries with
  | nil => cases hLookup
  | cons entry rest ih =>
      rcases entry with ⟨first, other⟩
      unfold OrderedEntries at hEntries
      unfold insert
      unfold lookup at hLookup
      split at hLookup
      · rename_i hName
        cases hLookup
        rw [if_pos hName, hName]
      · rename_i hName
        have hFirst := hEntries.2.1 _ (mem_of_lookup hLookup)
        rw [if_neg hName, if_neg (Text.precedes_asymm hFirst),
          ih hEntries.2.2 hLookup]

/- A node that is put where it stands changes nothing. -/
theorem put_self
    {new : Node}
    {place : Place}
    {node : Node}
    (hNode : node.WellFormed)
    (hPlace : get? place node = some new) :
    put new place node = node := by
  induction place generalizing node with
  | nil =>
      cases hPlace
      rfl
  | cons name rest ih =>
      cases node with
      | file content => cases hPlace
      | directory entries =>
          unfold WellFormed at hNode
          unfold get? at hPlace
          unfold put
          split at hPlace
          · rename_i child hLookup
            have hChild : child.WellFormed :=
              wellFormed_of_mem hNode (mem_of_lookup hLookup)
            rw [hLookup, Option.getD_some]
            dsimp only
            rw [ih hChild hPlace, insert_self hNode hLookup]
          · cases hPlace

------------------------------------------------------------
-- Sorted Nodes
------------------------------------------------------------

mutual

/- A sorted node is well-formed, whatever it was before. -/
theorem wellFormed_sorted
    (node : Node) :
    node.sorted.WellFormed := by
  cases node with
  | file content =>
      unfold sorted WellFormed
      trivial
  | directory entries =>
      unfold sorted WellFormed
      exact orderedEntries_sortedEntries entries

/- Sorted entries are ordered. -/
theorem orderedEntries_sortedEntries
    (entries : List (Text × Node)) :
    OrderedEntries (sortedEntries entries) := by
  cases entries with
  | nil =>
      unfold sortedEntries OrderedEntries
      trivial
  | cons entry rest =>
      rcases entry with ⟨name, node⟩
      unfold sortedEntries
      exact orderedEntries_insert (wellFormed_sorted node)
        (orderedEntries_sortedEntries rest)

end

/- Under each name there is the same node as before, sorted. -/
theorem lookup_sortedEntries
    (name : Text)
    (entries : List (Text × Node)) :
    lookup name (sortedEntries entries) =
      (lookup name entries).map sorted := by
  induction entries with
  | nil =>
      unfold sortedEntries lookup
      rfl
  | cons entry rest ih =>
      rcases entry with ⟨first, node⟩
      unfold sortedEntries
      rw [lookup_insert, ih, lookup]
      by_cases hName : first = name
      · rw [if_pos hName, if_pos hName.symm, Option.map_some]
      · rw [if_neg hName, if_neg (Ne.symm hName)]

/- At each place there is the same node as before, sorted. -/
theorem get?_sorted
    (place : Place)
    (node : Node) :
    get? place node.sorted = (get? place node).map sorted := by
  induction place generalizing node with
  | nil => rfl
  | cons name rest ih =>
      cases node with
      | file content =>
          unfold sorted get?
          rfl
      | directory entries =>
          unfold sorted get?
          rw [lookup_sortedEntries]
          cases lookup name entries with
          | none => rfl
          | some child => exact ih child

/- The files of a sorted node are those that stand below the node. -/
theorem mem_files_sorted_iff
    {node : Node}
    {place : Place}
    {content : List UInt8} :
    (place, content) ∈ node.sorted.files ↔
      get? place node = some (.file content) := by
  have hListed :
      (place, content) ∈ node.sorted.files ↔
        get? place node.sorted = some (.file content) :=
    ⟨get?_of_mem_files (wellFormed_sorted node), mem_files_of_get?⟩
  rw [hListed, get?_sorted]
  cases get? place node with
  | none => simp
  | some found => cases found <;> simp [sorted]

end Node

end Marginalia
