import Marginalia.ModuleDoc
import Marginalia.Proofs.Source.Dissection
import Marginalia.Proofs.Source.Grammar
import Marginalia.Proofs.Text.Lines

/-
  This file reads signatures back. The arguments that are read
  from a text have a trimmed name and a trimmed type, and so
  they are read again from what is written of them. A function
  that is declared by its own signature is the same function,
  except that a type which was empty is then missing.

  Key definitions include:
    * `Argument.Proper`
    * `Argument.listToText`
    * `Argument.dropEmptyType`
    * `FunctionDoc.declared`

  Main results:
    * `Argument.ofText?_eq_some_iff`
    * `Argument.proper_of_mem_listOfText`
    * `Argument.listOfText_listToText`
    * `Roles.head?_functions`
    * `ModuleDoc.functions_declared`
-/

namespace Marginalia

namespace Argument

------------------------------------------------------------
-- Arguments That Are Read
------------------------------------------------------------

/-
  An argument is read from a name without a colon, or from
  such a name, a colon and a type; both are trimmed, and the
  name must not be blank.
-/
theorem ofText?_eq_some_iff
    {text : Text}
    {argument : Argument} :
    ofText? text = some argument ↔
      ∃ front : Text,
        ':' ∉ front ∧ front.trim ≠ [] ∧
          (text = front ∧ argument = ⟨front.trim, none⟩ ∨
            ∃ back : Text,
              text = front ++ [':'] ++ back ∧
                argument = ⟨front.trim, some back.trim⟩) := by
  constructor
  · intro hRead
    unfold ofText? at hRead
    cases hCut : Text.cut? [':'] text with
    | none =>
        simp only [hCut, List.isEmpty_iff, Option.ite_none_left_eq_some,
          Option.some.injEq] at hRead
        exact ⟨text, Text.cut?_singleton_eq_none_iff.mp hCut, hRead.1,
          Or.inl ⟨rfl, hRead.2.symm⟩⟩
    | some parts =>
        rcases parts with ⟨front, back⟩
        rcases Text.cut?_singleton_eq_some_iff.mp hCut with
          ⟨hText, hFront⟩
        simp only [hCut, List.isEmpty_iff, Option.ite_none_left_eq_some,
          Option.some.injEq] at hRead
        exact ⟨front, hFront, hRead.1,
          Or.inr ⟨back, hText, hRead.2.symm⟩⟩
  · intro hParts
    rcases hParts with ⟨front, hFront, hNamed, hText | hText⟩
    · rcases hText with ⟨rfl, rfl⟩
      have hCut := Text.cut?_singleton_eq_none_iff.mpr hFront
      simp [ofText?, hCut, hNamed]
    · rcases hText with ⟨back, hText, rfl⟩
      have hCut := Text.cut?_singleton_eq_some_iff.mpr ⟨hText, hFront⟩
      simp [ofText?, hCut, hNamed]

/-
  An argument as it is read: the name is not empty, it and the
  type are trimmed, and no mark in them ends them too early.
-/
structure Proper
    (argument : Argument) : Prop where
  named : argument.name ≠ []
  trimmed : argument.name.Trimmed
  no_colon : ':' ∉ argument.name
  typed : ∀ datatype ∈ argument.datatype, datatype.Trimmed
  no_comma : ',' ∉ argument.toText

/- What is written of an argument is its name, or has its type too. -/
theorem toText_eq
    (name : Text)
    (datatype : Option Text) :
    toText ⟨name, datatype⟩ = name ∨
      ∃ value ∈ datatype,
        toText ⟨name, datatype⟩ = name ++ [':', ' '] ++ value := by
  rcases datatype with _ | _ | ⟨c, value⟩
  · exact Or.inl rfl
  · exact Or.inl rfl
  · exact Or.inr ⟨c :: value, rfl, rfl⟩

/-
  Writing an argument adds no characters to those it was read
  from, a colon and a space apart.
-/
theorem mem_of_mem_toText
    {text : Text}
    {argument : Argument}
    (hRead : ofText? text = some argument)
    {c : Char}
    (hMember : c ∈ argument.toText) :
    c ∈ text ∨ c = ':' ∨ c = ' ' := by
  rcases ofText?_eq_some_iff.mp hRead with
    ⟨front, -, -, ⟨rfl, rfl⟩ | ⟨back, rfl, rfl⟩⟩
  · exact Or.inl ((Text.trim_isInfix text).subset hMember)
  · have hFront : c ∈ front.trim → c ∈ front ++ [':'] ++ back := by
      intro hName
      exact List.mem_append_left _ (List.mem_append_left _
        ((Text.trim_isInfix front).subset hName))
    have hBack : c ∈ back.trim → c ∈ front ++ [':'] ++ back := by
      intro hType
      exact List.mem_append_right _
        ((Text.trim_isInfix back).subset hType)
    rcases toText_eq front.trim (some back.trim) with
      hText | ⟨value, hValue, hText⟩
    · rw [hText] at hMember
      exact Or.inl (hFront hMember)
    · cases hValue
      rw [hText] at hMember
      simp only [List.mem_append, List.mem_cons, List.not_mem_nil,
        or_false] at hMember
      rcases hMember with (hName | hMark) | hType
      · exact Or.inl (hFront hName)
      · exact Or.inr hMark
      · exact Or.inl (hBack hType)

/- What is read from a text without commas is a proper argument. -/
theorem proper_of_ofText?
    {text : Text}
    (hComma : ',' ∉ text)
    {argument : Argument}
    (hRead : ofText? text = some argument) :
    argument.Proper := by
  have hNoComma : ',' ∉ argument.toText := by
    intro hMember
    rcases mem_of_mem_toText hRead hMember with hText | hMark | hMark
    · exact hComma hText
    · exact absurd hMark (by decide)
    · exact absurd hMark (by decide)
  have hNoColon {front : Text} (hFront : ':' ∉ front) :
      ':' ∉ front.trim := by
    intro hMember
    exact hFront ((Text.trim_isInfix front).subset hMember)
  rcases ofText?_eq_some_iff.mp hRead with
    ⟨front, hFront, hNamed, ⟨-, rfl⟩ | ⟨back, -, rfl⟩⟩
  · exact
      { named := hNamed
        trimmed := Text.trimmed_trim front
        no_colon := hNoColon hFront
        typed := by
          intro datatype hType
          cases hType
        no_comma := hNoComma }
  · exact
      { named := hNamed
        trimmed := Text.trimmed_trim front
        no_colon := hNoColon hFront
        typed := by
          intro datatype hType
          cases hType
          exact Text.trimmed_trim back
        no_comma := hNoComma }

/- Every argument of a list that is read is proper. -/
theorem proper_of_mem_listOfText
    {text : Text}
    {argument : Argument}
    (hArgument : argument ∈ listOfText text) :
    argument.Proper := by
  rcases List.mem_filterMap.mp hArgument with ⟨part, hPart, hRead⟩
  exact proper_of_ofText?
    (Text.separator_notMem_of_mem_splitAt hPart) hRead

------------------------------------------------------------
-- Arguments That Are Written
------------------------------------------------------------

/- Arguments as they stand between the parentheses. -/
def listToText
    (arguments : List Argument) : Text :=
  Text.join [',', ' '] (arguments.map toText)

/- The argument without its type if that is empty. -/
def dropEmptyType
    (argument : Argument) : Argument :=
  { argument with
    datatype := argument.datatype.filter (!·.isEmpty) }

/- An empty type is not written. -/
theorem toText_dropEmptyType
    (argument : Argument) :
    argument.dropEmptyType.toText = argument.toText := by
  rcases argument with ⟨name, _ | _ | ⟨c, datatype⟩⟩
  · rfl
  · rfl
  · rfl

/- Empty types are not written in a list. -/
theorem listToText_dropEmptyType
    (arguments : List Argument) :
    listToText (arguments.map dropEmptyType) =
      listToText arguments := by
  have hText : toText ∘ dropEmptyType = toText :=
    funext toText_dropEmptyType
  unfold listToText
  rw [List.map_map, hText]

/- What is written of a proper argument is read as the argument. -/
theorem ofText?_append_toText
    {blanks : Text}
    (hBlanks : blanks.AllBlank)
    {argument : Argument}
    (hProper : argument.Proper) :
    ofText? (blanks ++ argument.toText) =
      some argument.dropEmptyType := by
  rcases argument with ⟨name, datatype⟩
  have hColon : ':' ∉ blanks ++ name := by
    intro hMember
    rcases List.mem_append.mp hMember with hBlank | hName
    · exact absurd (hBlanks ':' hBlank) (by decide)
    · exact hProper.no_colon hName
  have hName : Text.trim (blanks ++ name) = name :=
    (Text.trim_blank_append hBlanks name).trans hProper.trimmed
  have hNamed : Text.trim (blanks ++ name) ≠ [] := by
    rw [hName]
    exact hProper.named
  apply ofText?_eq_some_iff.mpr
  refine ⟨blanks ++ name, hColon, hNamed, ?_⟩
  rw [hName]
  rcases datatype with _ | _ | ⟨c, datatype⟩
  · exact Or.inl ⟨rfl, rfl⟩
  · exact Or.inl ⟨rfl, rfl⟩
  · right
    have hSpace : Text.AllBlank [' '] := by decide
    have hType : Text.trim (' ' :: c :: datatype) = c :: datatype :=
      (Text.trim_blank_append hSpace _).trans (hProper.typed _ rfl)
    refine ⟨' ' :: c :: datatype, ?_, ?_⟩
    · simp [toText]
    · rw [hType]
      rfl

/- With a space behind each comma, parts are split at the commas. -/
theorem splitAt_join_spaced
    {first : Text}
    {rest : List Text}
    (hParts : ∀ part ∈ first :: rest, ',' ∉ part) :
    Text.splitAt ',' (Text.join [',', ' '] (first :: rest)) =
      first :: rest.map ([' '] ++ ·) := by
  induction rest generalizing first with
  | nil =>
      rcases List.forall_mem_cons.mp hParts with ⟨hFirst, -⟩
      have hSplit := Text.splitAt_append hFirst []
      rw [List.append_nil] at hSplit
      rw [Text.join_singleton, hSplit, Text.splitAt, Text.prepend,
        List.append_nil, List.map_nil]
  | cons second rest ih =>
      rcases List.forall_mem_cons.mp hParts with ⟨hFirst, hRest⟩
      have hSpace : ',' ∉ [' '] := by decide
      have hJoin :
          Text.join [',', ' '] (first :: second :: rest) =
            first ++ (',' :: ([' '] ++
              Text.join [',', ' '] (second :: rest))) := by
        rw [Text.join_cons _ _ (List.cons_ne_nil second rest),
          List.append_assoc]
        rfl
      rw [hJoin, Text.splitAt_append hFirst, Text.splitAt, if_pos rfl,
        Text.splitAt_append hSpace, ih hRest, Text.prepend,
        Text.prepend, List.append_nil, List.map_cons]

/-
  Arguments that can be read are read back from what is written
  of them, and empty types are missing then.
-/
theorem listOfText_listToText
    {arguments : List Argument}
    (hProper : ∀ argument ∈ arguments, argument.Proper) :
    listOfText (listToText arguments) =
      arguments.map dropEmptyType := by
  cases arguments with
  | nil => rfl
  | cons first rest =>
      rcases List.forall_mem_cons.mp hProper with ⟨hFirst, hRest⟩
      have hSpace : Text.AllBlank [' '] := by decide
      have hComma :
          ∀ part ∈ (first :: rest).map toText, ',' ∉ part := by
        intro part hPart
        rcases List.mem_map.mp hPart with ⟨argument, hArgument, rfl⟩
        exact (hProper argument hArgument).no_comma
      have hReadFirst : ofText? first.toText = some first.dropEmptyType :=
        ofText?_append_toText (List.forall_mem_nil _) hFirst
      have hReadRest :
          rest.filterMap (ofText? ∘ ([' '] ++ ·) ∘ toText) =
            rest.map dropEmptyType := by
        rw [← List.filterMap_eq_map]
        apply List.filterMap_congr
        intro argument hArgument
        exact ofText?_append_toText hSpace (hRest argument hArgument)
      unfold listOfText listToText
      rw [List.map_cons] at hComma ⊢
      rw [splitAt_join_spaced hComma, List.map_map,
        List.filterMap_cons_some hReadFirst, List.filterMap_map,
        hReadRest, List.map_cons]

/-
  What is written of a list that was read is read as this list
  without its empty types, and written as it was.
-/
theorem listOfText_stable
    (text : Text) :
    listOfText (listToText (listOfText text)) =
        (listOfText text).map dropEmptyType ∧
      listToText (listOfText (listToText (listOfText text))) =
        listToText (listOfText text) := by
  have hProper :
      ∀ argument ∈ listOfText text, argument.Proper := by
    intro argument hArgument
    exact proper_of_mem_listOfText hArgument
  have hRead := listOfText_listToText hProper
  refine ⟨hRead, ?_⟩
  rw [hRead, listToText_dropEmptyType]

/- A parenthesis that no argument was read from is not written. -/
theorem parenthesis_notMem_listToText
    {text : Text}
    (hText : ')' ∉ text) :
    ')' ∉ listToText (listOfText text) := by
  intro hMember
  rcases Text.mem_or_mem_of_mem_join hMember with
    hSeparator | ⟨part, hPart, hMember⟩
  · exact absurd hSeparator (by decide)
  · rcases List.mem_map.mp hPart with ⟨argument, hArgument, rfl⟩
    rcases List.mem_filterMap.mp hArgument with ⟨front, hFront, hRead⟩
    rcases mem_of_mem_toText hRead hMember with hMember | hMark | hMark
    · apply hText
      rw [← Text.join_splitAt ',' text]
      exact Text.mem_join [','] hFront hMember
    · exact absurd hMark (by decide)
    · exact absurd hMark (by decide)

end Argument

------------------------------------------------------------
-- Functions Declared by Their Signatures
------------------------------------------------------------

namespace Roles

/-
  A comment at the start of a text with a function written
  behind it documents that function before any other.
-/
theorem head?_functions
    {body after name arguments : Text}
    (hBody : ¬Block.closeMark <:+: body)
    (hAfter : Declaration.Written (.function name arguments) after) :
    (ofText
        (Block.openMark ++ body ++ Block.closeMark ++
          after)).functions.head? =
      some (Block.Piece.block [] ⟨[], body⟩, name, arguments) := by
  let piece : Block.Piece := ⟨[], body⟩
  have hGap : ¬Block.openMark <:+: [] := by decide
  have hProper : piece.Proper := ⟨hGap, hBody⟩
  have hScan :
      Block.scan (piece.text ++ after) =
        piece.block [] ::
          Block.scanFrom (piece.block []).stop
            ((piece.block []).line + body.count '\n') after :=
    Block.scanFrom_of_some (Block.next?_piece hProper [] after)
  have hFollowing :
      (piece.block []).following (piece.text ++ after) = after :=
    List.drop_left
  have hFound :
      Locator.functionAt?
          ((piece.block []).following (piece.text ++ after)) =
        some (name, arguments) := by
    rw [hFollowing]
    exact Declaration.functionAt?_eq_some_iff_written.mpr hAfter
  change (ofText (piece.text ++ after)).functions.head? = _
  rw [functions_ofText, Locator.functions, hScan, List.head?_filterMap,
    List.findSome?_cons, hFound]
  rfl

end Roles

namespace FunctionDoc

@[simp] theorem name_ofBlock
    (block : Block)
    (name arguments : Text) :
    (ofBlock (block, name, arguments)).name = name :=
  rfl

@[simp] theorem arguments_ofBlock
    (block : Block)
    (name arguments : Text) :
    (ofBlock (block, name, arguments)).arguments =
      Argument.listOfText arguments :=
  rfl

/- A comment, and behind it the function by its signature. -/
def declared
    (body : Text)
    (function : FunctionDoc) : Text :=
  Block.openMark ++ body ++ Block.closeMark ++
    ("\nfun ".toList ++ function.signature)

/- A documented function was read from a declaration of it. -/
theorem exists_written_of_mem
    {text fileName root fileExtension : Text}
    {function : FunctionDoc}
    (hFunction :
      function ∈
        (ModuleDoc.ofText text fileName root
          fileExtension).functions) :
    ∃ arguments following,
      Declaration.Written (.function function.name arguments)
          following ∧
        function.arguments = Argument.listOfText arguments := by
  rcases List.mem_map.mp hFunction with
    ⟨⟨block, name, arguments⟩, hRole, rfl⟩
  rw [Roles.functions_ofText, Locator.mem_functions] at hRole
  exact ⟨arguments, block.following text,
    Declaration.functionAt?_eq_some_iff_written.mp hRole.2, rfl⟩

/- The signature of a documented function declares it. -/
theorem written_signature
    {name arguments following : Text}
    (hWritten :
      Declaration.Written (.function name arguments) following) :
    Declaration.Written
      (.function name
        (Argument.listToText (Argument.listOfText arguments)))
      ("\nfun ".toList ++
        Argument.signature name (Argument.listOfText arguments)) := by
  rcases hWritten with
    _ | @⟨_, _, _, _, _, _, _, _, _, hName, _, hArguments⟩
  have hBreak : Text.AllBlank ['\n'] := by decide
  have hSpace : Text.AllBlank [' '] := by decide
  have hNone : Text.AllBlank [] := List.forall_mem_nil _
  have hSignature :=
    @Declaration.Written.function ['\n'] [' '] name []
      (Argument.listToText (Argument.listOfText arguments)) []
      hBreak hSpace hNone hName (Or.inl (List.cons_ne_nil ' ' []))
      (Argument.parenthesis_notMem_listToText hArguments)
  simpa [Argument.signature, Argument.listToText] using hSignature

end FunctionDoc

namespace ModuleDoc

/-
  A documented function is read back from its signature: behind
  any comment, it is the first function of the module, with the
  same name and signature, and with the same arguments, where
  an empty type is missing. Any list of arguments that is read,
  written and read again loses no more than its empty types,
  and is written as before.
-/
theorem functions_declared
    {text fileName root fileExtension : Text}
    {function : FunctionDoc}
    (hFunction :
      function ∈
        (ofText text fileName root fileExtension).functions)
    {body : Text}
    (hBody : ¬Block.closeMark <:+: body)
    (otherName otherRoot otherExtension : Text) :
    (∃ first,
      (ofText (function.declared body) otherName otherRoot
          otherExtension).functions.head? =
        some first ∧
      first.name = function.name ∧
      first.signature = function.signature ∧
      first.arguments =
        function.arguments.map Argument.dropEmptyType) ∧
    ∀ list : Text,
      Argument.listOfText
          (Argument.listToText (Argument.listOfText list)) =
        (Argument.listOfText list).map Argument.dropEmptyType ∧
      Argument.listToText
          (Argument.listOfText
            (Argument.listToText (Argument.listOfText list))) =
        Argument.listToText (Argument.listOfText list) := by
  refine ⟨?_, Argument.listOfText_stable⟩
  rcases FunctionDoc.exists_written_of_mem hFunction with
    ⟨arguments, following, hWritten, hArguments⟩
  have hRoles :=
    Roles.head?_functions hBody (FunctionDoc.written_signature hWritten)
  rcases Argument.listOfText_stable arguments with ⟨hRead, hText⟩
  rw [← hArguments] at hRoles hRead hText
  have hFirst :
      (ofText (function.declared body) otherName otherRoot
          otherExtension).functions.head? =
        some
          (FunctionDoc.ofBlock
            (Block.Piece.block [] ⟨[], body⟩, function.name,
              Argument.listToText function.arguments)) := by
    unfold ofText
    rw [List.head?_map]
    exact congrArg (Option.map FunctionDoc.ofBlock) hRoles
  have hSignature :
      Argument.signature function.name
          (Argument.listOfText
            (Argument.listToText function.arguments)) =
        function.signature :=
    congrArg (fun list => function.name ++ ['('] ++ list ++ [')']) hText
  refine ⟨_, hFirst, FunctionDoc.name_ofBlock _ _ _, ?_, ?_⟩
  · rw [FunctionDoc.signature, FunctionDoc.name_ofBlock,
      FunctionDoc.arguments_ofBlock, hSignature]
  · rw [FunctionDoc.arguments_ofBlock, hRead]

/-
  An empty type, a colon in a type and an empty argument, and
  a comment that ends in a star.
-/
theorem functions_declared_colons :
    let text : Text := "/***/ fun f(a :, b: T:U,, c )".toList
    let function : FunctionDoc :=
      { name := ['f']
        arguments :=
          [⟨['a'], some []⟩, ⟨['b'], some "T:U".toList⟩,
            ⟨['c'], none⟩]
        line := 1 }
    function ∈ (ofText text [] [] []).functions ∧
      ¬Block.closeMark <:+: ['x', '*'] ∧
      function.declared ['x', '*'] =
        "/**x**/\nfun f(a, b: T:U, c)".toList ∧
      ∃ first,
        (ofText "/**x**/\nfun f(a, b: T:U, c)".toList [] []
            []).functions.head? =
          some first ∧
        first.name = ['f'] ∧
        first.signature = "f(a, b: T:U, c)".toList ∧
        first.arguments =
          [⟨['a'], none⟩, ⟨['b'], some "T:U".toList⟩,
            ⟨['c'], none⟩] := by
  intro text function
  have hFunction :
      function ∈ (ofText text [] [] []).functions := by
    decide +kernel
  have hBody : ¬Block.closeMark <:+: ['x', '*'] := by
    decide
  exact ⟨hFunction, hBody, rfl,
    (functions_declared hFunction hBody [] [] []).1⟩

end ModuleDoc

end Marginalia
