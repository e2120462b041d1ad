import Mathlib.Data.List.Perm.Basic
import Marginalia.ModuleDoc
import Marginalia.Proofs.Source.Locators

/-
  This file accounts for the comment blocks of a text: every
  block is the header of the module, or documents one
  function, variable or table, or is reported as detached, and
  no block does two of these.

  Key definitions include:
    * `Accounting`
    * `Accounting.ofText`
    * `Accounting.Partitions`
    * `Accounting.Shows`

  Main results:
    * `Accounting.partitions_ofText`
    * `Accounting.shows_ofText`
    * `ModuleDoc.comments_conserved`
-/

namespace Marginalia

------------------------------------------------------------
-- Accounts of the Blocks of a Text
------------------------------------------------------------

/- Comment blocks by what becomes of them. -/
structure Accounting where
  header : Option Block
  functions : List Block
  vars : List Block
  tables : List Block
  detached : List Block

namespace Accounting

/- The account of a text, by one search for each class. -/
def ofText
    (text : Text) : Accounting :=
  { header := Locator.header? text
    functions := (Locator.functions text).map (·.1)
    vars := (Locator.vars text).map (·.1)
    tables := Locator.tables text
    detached := Locator.detached text }

/- The blocks of an account, class by class. -/
def all
    (accounting : Accounting) : List Block :=
  accounting.header.toList ++ accounting.functions ++
    accounting.vars ++ accounting.tables ++ accounting.detached

/-
  An account of all blocks of a text: each of them occurs
  once, in one class; each class follows the order of the
  text; and a table stands in the body.
-/
structure Partitions
    (accounting : Accounting)
    (text : Text) : Prop where
  once :
    ∀ block ∈ Block.scan text, accounting.all.count block = 1
  header : accounting.header.toList.Sublist (Block.scan text)
  functions : accounting.functions.Sublist (Block.scan text)
  vars : accounting.vars.Sublist (Block.scan text)
  tables : accounting.tables.Sublist (Block.scan text)
  detached : accounting.detached.Sublist (Block.scan text)
  tablesInBody :
    ∀ block ∈ accounting.tables,
      ∃ start, bodyStart? text = some start ∧ start ≤ block.start

/- What a record keeps of a block: its comment and its line. -/
def trace
    (block : Block) : Comment × Nat :=
  (Comment.ofBlock block.body, block.line)

/- The file and line that report a detached block. -/
def reported? : Event → Option (Text × Nat)
  | .commentNotAttached file line => some (file, line)
  | _ => none

/-
  A module and the events of reading it show an account: the
  entries of each list, and the reports, are one for one those
  of its blocks, in order.
-/
structure Shows
    (accounting : Accounting)
    (module : ModuleDoc)
    (events : List Event) : Prop where
  header :
    module.comment =
      accounting.header.map fun block =>
        Comment.ofBlock block.body
  functions :
    module.functions.map (fun entry => (entry.comment, entry.line)) =
      accounting.functions.map trace
  vars :
    module.vars.map (fun entry => (entry.comment, entry.line)) =
      accounting.vars.map trace
  tables :
    module.tables.map (fun entry => (entry.comment, entry.line)) =
      accounting.tables.map trace
  detached :
    events.filterMap reported? =
      accounting.detached.map fun block =>
        (module.fileName, block.line)

end Accounting

------------------------------------------------------------
-- Blocks by Their Roles
------------------------------------------------------------

namespace Roles

/- Each entry of some roles counts in exactly one class. -/
theorem count_eq
    (roles : Roles)
    (block : Block) :
    (roles.map Prod.fst).count block =
      roles.headers.count block +
        (roles.functions.map (·.1)).count block +
        (roles.vars.map (·.1)).count block +
        roles.tables.count block +
        roles.detached.count block := by
  induction roles with
  | nil => rfl
  | cons entry rest ih =>
      rcases entry with ⟨first, role⟩
      unfold headers functions vars tables detached at ih ⊢
      cases role <;>
        simp only [List.map_cons, List.filterMap_cons,
          List.count_cons] <;>
        omega

end Roles

------------------------------------------------------------
-- Every Block Exactly Once
------------------------------------------------------------

namespace Accounting

/- An account has each block as often as the text has it. -/
theorem all_perm_scan
    (text : Text) :
    (ofText text).all.Perm (Block.scan text) := by
  rw [List.perm_iff_count]
  intro block
  have hCount := Roles.count_eq (Roles.ofText text) block
  rw [Roles.map_fst_ofText, Roles.headers_ofText,
    Roles.functions_ofText, Roles.vars_ofText,
    Roles.tables_ofText, Roles.detached_ofText] at hCount
  simp only [all, ofText, List.count_append]
  exact hCount.symm

/-
  The blocks that a search keeps with a detail are among the
  blocks searched, in the same order.
-/
private theorem map_fst_filterMap_sublist
    {α : Type}
    (search : Block → Option α)
    (blocks : List Block) :
    ((blocks.filterMap fun block =>
        (search block).map fun detail => (block, detail)).map
      Prod.fst).Sublist blocks := by
  induction blocks with
  | nil => exact List.Sublist.slnil
  | cons block rest ih =>
      cases hSearch : search block with
      | none =>
          simp only [List.filterMap_cons, hSearch, Option.map_none]
          exact ih.cons block
      | some detail =>
          simp only [List.filterMap_cons, hSearch, Option.map_some,
            List.map_cons]
          exact ih.cons_cons block

/- The blocks of a text are partitioned by its account. -/
theorem partitions_ofText
    (text : Text) :
    (ofText text).Partitions text where
  once := by
    intro block hMember
    rw [(all_perm_scan text).count_eq]
    exact List.count_eq_one_of_mem (Block.scan_nodup text) hMember
  header := by
    simp only [ofText]
    cases hHeader : Locator.header? text with
    | none => exact List.nil_sublist _
    | some block =>
        exact List.singleton_sublist.mpr
          (List.mem_of_find?_eq_some hHeader)
  functions := map_fst_filterMap_sublist _ _
  vars := map_fst_filterMap_sublist _ _
  tables := List.filter_sublist
  detached := List.filter_sublist
  tablesInBody := by
    intro block hMember
    have hBody : Locator.inBody text block = true := by
      have hKept := (List.mem_filter.mp hMember).2
      simp only [Bool.and_eq_true] at hKept
      exact hKept.1
    unfold Locator.inBody at hBody
    split at hBody
    · rename_i start hStart
      exact ⟨start, hStart, by simpa using hBody⟩
    · simp at hBody

/- A module shows the account of the text it is read from. -/
theorem shows_ofText
    (text fileName root fileExtension : Text) :
    (ofText text).Shows
      (ModuleDoc.ofText text fileName root fileExtension)
      (ModuleDoc.events text fileName root) where
  header := by
    simp only [ModuleDoc.ofText, ofText, Roles.header?_ofText]
  functions := by
    simp only [ModuleDoc.ofText, ofText, Roles.functions_ofText,
      List.map_map]
    rfl
  vars := by
    simp only [ModuleDoc.ofText, ofText, Roles.vars_ofText,
      List.map_map]
    rfl
  tables := by
    simp only [ModuleDoc.ofText, ofText, Roles.tables_ofText,
      List.map_map]
    rfl
  detached := by
    have hIgnored (lines : List Text) :
        (lines.map Event.tagLineIgnored).filterMap reported? =
          [] := by
      induction lines with
      | nil => rfl
      | cons line rest ih => simp [reported?]
    simp only [ModuleDoc.events, ModuleDoc.ofText, ofText,
      Roles.detached_ofText, List.filterMap_append, hIgnored,
      List.nil_append, List.filterMap_map]
    exact congrFun List.filterMap_eq_map _

end Accounting

------------------------------------------------------------
-- Conservation of Comments
------------------------------------------------------------

namespace ModuleDoc

/-
  Reading a module conserves its comments. The account of the
  text puts every block into exactly one class, the module and
  its events show that account, and so the blocks are as many
  as the entries and reports together.
-/
theorem comments_conserved
    (text fileName root fileExtension : Text) :
    let module := ofText text fileName root fileExtension
    let events := events text fileName root
    (Accounting.ofText text).Partitions text ∧
      (Accounting.ofText text).Shows module events ∧
      ((Block.scan text).Pairwise
        fun earlier later => earlier.start < later.start) ∧
      (Block.scan text).length =
        (if module.comment.isSome then 1 else 0) +
          module.functions.length +
          module.vars.length +
          module.tables.length +
          (events.filterMap Accounting.reported?).length := by
  intro module events
  have hShows : (Accounting.ofText text).Shows module events :=
    Accounting.shows_ofText text fileName root fileExtension
  refine ⟨Accounting.partitions_ofText text, hShows,
    Block.scan_pairwise_start text, ?_⟩
  have hLength := (Accounting.all_perm_scan text).length_eq
  have hHeader :
      (Accounting.ofText text).header.toList.length =
        if module.comment.isSome then 1 else 0 := by
    rw [hShows.header]
    cases (Accounting.ofText text).header <;> rfl
  have hFunctions := congrArg List.length hShows.functions
  have hVars := congrArg List.length hShows.vars
  have hTables := congrArg List.length hShows.tables
  have hDetached := congrArg List.length hShows.detached
  simp only [List.length_map] at hFunctions hVars hTables hDetached
  simp only [Accounting.all, List.length_append] at hLength
  omega

end ModuleDoc

end Marginalia
