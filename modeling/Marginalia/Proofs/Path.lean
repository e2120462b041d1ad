import Marginalia.Path
import Marginalia.Proofs.Text.Words

/-
  This file shows how paths are spelled and read again, and
  what is left of a path when each `..` is taken together with
  the segment before it.

  Key definitions include:
    * `Path.IsStored`
    * `Path.IsName`
    * `Path.Returns`

  Main results:
    * `Path.isStored_ofText`
    * `Path.ofText_toText`
    * `Path.collapse_append`
    * `Path.up_mem_of_returns`
-/

namespace Marginalia

namespace Path

------------------------------------------------------------
-- Stored Paths
------------------------------------------------------------

/- A path with segments as they are read: kept, without slash. -/
structure IsStored
    (path : Path) : Prop where
  isKept : ∀ segment ∈ path.segments, keeps segment = true
  no_slash : ∀ segment ∈ path.segments, '/' ∉ segment

/-
  A segment that is the name of a file or directory, without
  slashes in either direction.
-/
structure IsName
    (segment : Text) : Prop where
  isKept : keeps segment = true
  ne_up : segment ≠ up
  no_slash : '/' ∉ segment
  no_backslash : '\\' ∉ segment

/- A kept segment is not empty. -/
theorem ne_nil_of_keeps
    {segment : Text}
    (hKept : keeps segment = true) :
    segment ≠ [] := by
  rintro rfl
  exact absurd hKept (by decide)

/- Every path that is read is stored. -/
theorem isStored_ofText
    (text : Text) :
    (ofText text).IsStored := by
  constructor
  · intro segment hSegment
    exact (List.mem_filter.mp hSegment).2
  · intro segment hSegment
    exact Text.separator_notMem_of_mem_splitAt
      (List.mem_filter.mp hSegment).1

/- A stored path that goes on through names is stored. -/
theorem IsStored.append
    {path : Path}
    (hPath : path.IsStored)
    {names : List Text}
    (hNames : ∀ name ∈ names, IsName name) :
    (path.append { segments := names }).IsStored := by
  constructor
  · intro segment hSegment
    rcases List.mem_append.mp hSegment with hSegment | hSegment
    · exact hPath.isKept segment hSegment
    · exact (hNames segment hSegment).isKept
  · intro segment hSegment
    rcases List.mem_append.mp hSegment with hSegment | hSegment
    · exact hPath.no_slash segment hSegment
    · exact (hNames segment hSegment).no_slash

/- A path may go on in two steps. -/
theorem append_append
    (path : Path)
    (names more : List Text) :
    path.append { segments := names ++ more } =
      (path.append { segments := names }).append
        { segments := more } := by
  simp [append]

/- The directory of a path is the path without its last name. -/
theorem parent_append
    (path : Path)
    (names : List Text)
    (last : Text) :
    (path.append { segments := names ++ [last] }).parent =
      path.append { segments := names } := by
  simp [append, parent, ← List.append_assoc]

------------------------------------------------------------
-- Spelling Paths
------------------------------------------------------------

/- A path with segments is its origin and these segments. -/
theorem toText_of_ne_nil
    {path : Path}
    (hSegments : path.segments ≠ []) :
    path.toText =
      path.origin.toText ++ Text.join ['/'] path.segments := by
  rcases path with ⟨origin, segments⟩
  cases segments with
  | nil => exact absurd rfl hSegments
  | cons first rest => cases origin <;> rfl

/- The origin of a path is spelled in slashes. -/
theorem Origin.eq_slash_of_mem_toText
    {origin : Origin}
    {c : Char}
    (hMember : c ∈ origin.toText) :
    (c == '/') = true := by
  cases origin <;> simp_all [Origin.toText]

/- The origin is read from the slashes before the first segment. -/
theorem Origin.ofText_append
    (origin : Origin)
    {text : Text}
    (hText : text.head? ≠ some '/') :
    Origin.ofText (origin.toText ++ text) = origin := by
  have hNone : text.takeWhile (· == '/') = [] := by
    cases text with
    | nil => rfl
    | cons c rest =>
        apply List.takeWhile_cons_of_neg
        simpa using hText
  have hTake :
      (origin.toText ++ text).takeWhile (· == '/') =
        origin.toText := by
    rw [List.takeWhile_append_of_pos
      fun c hMember => eq_slash_of_mem_toText hMember, hNone,
      List.append_nil]
  unfold Origin.ofText
  rw [hTake]
  cases origin <;> rfl

/- The segments are the pieces between slashes that are kept. -/
theorem segments_ofText
    (text : Text) :
    (ofText text).segments =
      (text.pieces (· == '/')).filter keeps := by
  rw [← Text.filter_splitAt, List.filter_filter]
  apply List.filter_congr
  intro segment _
  cases segment <;> simp [keeps]

/- Joined segments do not open with a slash. -/
theorem head?_join_ne_slash
    {first : Text}
    (hKept : keeps first = true)
    (hSlash : '/' ∉ first)
    (rest : List Text) :
    (Text.join ['/'] (first :: rest)).head? ≠ some '/' := by
  rcases Text.exists_join_cons ['/'] first rest with ⟨tail, hJoin⟩
  rw [hJoin,
    List.head?_append_of_ne_nil first (ne_nil_of_keeps hKept)]
  intro hHead
  exact hSlash (List.mem_of_head? hHead)

/- A stored path is read again from its spelling. -/
theorem ofText_toText
    {path : Path}
    (hPath : path.IsStored) :
    ofText path.toText = path := by
  rcases path with ⟨origin, segments⟩
  cases segments with
  | nil => cases origin <;> decide
  | cons first rest =>
      have hText := toText_of_ne_nil
        (show (Path.mk origin (first :: rest)).segments ≠ [] from
          List.cons_ne_nil first rest)
      have hHead :=
        head?_join_ne_slash
          (hPath.isKept first List.mem_cons_self)
          (hPath.no_slash first List.mem_cons_self) rest
      have hOrigin :
          Origin.ofText (Path.mk origin (first :: rest)).toText =
            origin := by
        rw [hText]
        exact Origin.ofText_append origin hHead
      have hParts :
          ∀ part ∈ first :: rest,
            part ≠ [] ∧ ∀ c ∈ part, (c == '/') = false := by
        intro part hPart
        refine ⟨ne_nil_of_keeps (hPath.isKept part hPart), ?_⟩
        intro c hMember
        rw [beq_eq_false_iff_ne]
        rintro rfl
        exact hPath.no_slash part hPart hMember
      have hSegments :
          (ofText (Path.mk origin (first :: rest)).toText).segments =
            first :: rest := by
        rw [segments_ofText, hText,
          Text.pieces_cut_append fun c hMember =>
            Origin.eq_slash_of_mem_toText hMember,
          Text.pieces_join, Text.flatMap_pieces_of_uncut hParts]
        exact List.filter_eq_self.mpr hPath.isKept
      exact congrArg₂ Path.mk hOrigin hSegments

/- A stored path is spelled somehow. -/
theorem toText_ne_nil
    {path : Path}
    (hPath : path.IsStored) :
    path.toText ≠ [] := by
  intro hEmpty
  have hRead := ofText_toText hPath
  rw [hEmpty] at hRead
  rw [← hRead] at hEmpty
  exact absurd hEmpty (by decide)

/- A path that goes on is spelled with a slash between. -/
theorem toText_append
    {path : Path}
    (hPath : path.segments ≠ [])
    {names : List Text}
    (hNames : names ≠ []) :
    (path.append { segments := names }).toText =
      path.toText ++ '/' :: Text.join ['/'] names := by
  have hSome :
      (path.append { segments := names }).segments ≠ [] :=
    List.append_ne_nil_of_left_ne_nil hPath names
  rw [toText_of_ne_nil hSome, toText_of_ne_nil hPath,
    List.append_assoc]
  exact congrArg _
    ((Text.join_append ['/'] hPath hNames).trans
      (List.append_assoc _ _ _))

/-
  At the place where a path starts, names are not spelled with
  that place and a slash before them.
-/
theorem not_prefix_append
    {path : Path}
    (hPath : path.segments = [])
    {names : List Text}
    (hNames : ∀ name ∈ names, IsName name)
    (hSome : names ≠ []) :
    ¬(path.toText ++ ['/'] <+:
      (path.append { segments := names }).toText) := by
  rcases path with ⟨origin, segments⟩
  cases hPath
  cases names with
  | nil => exact absurd rfl hSome
  | cons first rest =>
      have hFirst : IsName first :=
        hNames first List.mem_cons_self
      have hHead :=
        head?_join_ne_slash hFirst.isKept hFirst.no_slash rest
      rintro ⟨behind, hEq⟩
      cases origin with
      | here =>
          rcases Text.exists_join_cons ['/'] first rest with
            ⟨tail, hJoin⟩
          have hSpelled :
              '.' :: '/' :: behind = first ++ tail :=
            hEq.trans hJoin
          -- The name would be a point, or have a slash in it.
          match first, hFirst, hSpelled with
          | [], hName, _ => exact ne_nil_of_keeps hName.isKept rfl
          | [c], hName, hSpelled =>
              rw [← (List.cons.inj hSpelled).1] at hName
              exact absurd hName.isKept (by decide)
          | c :: d :: more, hName, hSpelled =>
              have hSlash : '/' = d :=
                (List.cons.inj (List.cons.inj hSpelled).2).1
              apply hName.no_slash
              rw [hSlash]
              simp
      | root =>
          have hSpelled :
              '/' :: behind = Text.join ['/'] (first :: rest) :=
            (List.cons.inj hEq).2
          rw [← hSpelled] at hHead
          exact hHead rfl
      | doubleRoot =>
          have hSpelled :
              '/' :: behind = Text.join ['/'] (first :: rest) :=
            (List.cons.inj (List.cons.inj hEq).2).2
          rw [← hSpelled] at hHead
          exact hHead rfl

------------------------------------------------------------
-- Collapsing
------------------------------------------------------------

/- A segment other than `..` leads one further. -/
theorem collapseStep_of_ne_up
    (origin : Origin)
    (way : List Text)
    {segment : Text}
    (hSegment : segment ≠ up) :
    collapseStep origin way segment = segment :: way := by
  unfold collapseStep
  rw [if_neg hSegment]

/- Names are put on a way one after the other. -/
theorem foldl_collapseStep
    (origin : Origin)
    {names : List Text}
    (hNames : up ∉ names)
    (way : List Text) :
    names.foldl (collapseStep origin) way =
      names.reverse ++ way := by
  induction names generalizing way with
  | nil => rfl
  | cons name rest ih =>
      have hName : name ≠ up := by
        rintro rfl
        exact hNames List.mem_cons_self
      have hRest : up ∉ rest := by
        intro hMember
        exact hNames (List.mem_cons_of_mem name hMember)
      rw [List.foldl_cons, collapseStep_of_ne_up origin way hName,
        ih hRest]
      simp

/- Names behind a path are kept when it is collapsed. -/
theorem collapse_append
    (path : Path)
    {names : List Text}
    (hNames : up ∉ names) :
    (path.append { segments := names }).collapse =
      path.collapse.append { segments := names } := by
  unfold collapse append
  simp only [List.foldl_append, foldl_collapseStep _ hNames,
    List.reverse_append, List.reverse_reverse]

/-
  A path that goes through segments and collapses to where it
  starts.
-/
def Returns
    (path : Path) : Prop :=
  path.segments ≠ [] ∧ path.collapse.segments = []

instance
    (path : Path) :
    Decidable path.Returns := by
  unfold Returns
  infer_instance

/- Only with `..` does a path return. -/
theorem up_mem_of_returns
    {path : Path}
    (hReturns : path.Returns) :
    up ∈ path.segments := by
  by_contra hNames
  rcases hReturns with ⟨hSegments, hCollapse⟩
  unfold collapse at hCollapse
  rw [foldl_collapseStep path.origin hNames, List.append_nil,
    List.reverse_reverse] at hCollapse
  exact hSegments hCollapse

end Path

end Marginalia
