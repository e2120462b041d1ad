import Marginalia.Proofs.Source.Scan
import Marginalia.Source.Role

/-
  This file searches a text for each kind of documented block
  by itself: every search scans the text again and looks only
  for its own kind of declaration. What is left is told apart
  by the blocks that those searches claim. The roles of the
  blocks, which are assigned in one pass, are shown to be
  exactly the outcomes of these searches.

  Key definitions include:
    * `Locator.functions`
    * `Locator.vars`
    * `Locator.header?`
    * `Locator.tables`
    * `Locator.detached`

  Agreement with the roles is proven by:
    * `Roles.functions_ofText`
    * `Roles.vars_ofText`
    * `Roles.header?_ofText`
    * `Roles.tables_ofText`
    * `Roles.detached_ofText`
-/

namespace Marginalia

------------------------------------------------------------
-- Searches
------------------------------------------------------------

namespace Locator

/- The function that a text declares, after its blanks. -/
def functionAt?
    (text : Text) : Option (Text × Text) :=
  match
    (Declaration.afterKeyword? "fun".toList
      (Text.trimStart text)).bind Declaration.functionRest? with
  | some (.function name arguments) => some (name, arguments)
  | _ => none

/- The variable that a text declares, after its blanks. -/
def variableAt?
    (text : Text) : Option Text :=
  match
    (Declaration.afterKeyword? "var".toList
      (Text.trimStart text)).bind Declaration.variableRest? with
  | some (.variable name) => some name
  | _ => none

/- A text that opens, after its blanks, a module. -/
def headerAt
    (text : Text) : Bool :=
  "%dw".toList.isPrefixOf (Text.trimStart text)

/- The blocks before functions. -/
def functions
    (text : Text) : List (Block × Text × Text) :=
  (Block.scan text).filterMap fun block =>
    (functionAt? (block.following text)).map
      fun (name, arguments) => (block, name, arguments)

/- The blocks before variables. -/
def vars
    (text : Text) : List (Block × Text) :=
  (Block.scan text).filterMap fun block =>
    (variableAt? (block.following text)).map
      fun name => (block, name)

/- The first block before a module header. -/
def header?
    (text : Text) : Option Block :=
  (Block.scan text).find? fun block =>
    headerAt (block.following text)

/- The starts of the blocks that document a declaration. -/
def claimed
    (text : Text) : List Nat :=
  (functions text).map (·.1.start) ++
    (vars text).map (·.1.start) ++
    (header? text).toList.map (·.start)

/- A block that starts in the body of the text. -/
def inBody
    (text : Text)
    (block : Block) : Bool :=
  match bodyStart? text with
  | some start => start ≤ block.start
  | none => false

/- The unclaimed blocks of the body. -/
def tables
    (text : Text) : List Block :=
  (Block.scan text).filter fun block =>
    inBody text block && !(claimed text).contains block.start

/- The unclaimed blocks above the body. -/
def detached
    (text : Text) : List Block :=
  (Block.scan text).filter fun block =>
    !inBody text block && !(claimed text).contains block.start

end Locator

------------------------------------------------------------
-- Declarations of One Kind
------------------------------------------------------------

namespace Declaration

/- What follows a keyword comes after exactly that keyword. -/
theorem afterKeyword?_eq_some_iff
    {keyword text rest : Text} :
    afterKeyword? keyword text = some rest ↔
      text = keyword ++ rest := by
  unfold afterKeyword?
  constructor
  · intro hAfter
    split at hAfter
    · rename_i hKeyword
      rcases List.isPrefixOf_iff_prefix.mp hKeyword with ⟨tail, rfl⟩
      simpa using hAfter
    · simp at hAfter
  · rintro rfl
    simp

/- Two keywords with different first characters exclude each other. -/
theorem afterKeyword?_eq_none_of_ne
    {c d : Char}
    {keyword other text rest : Text}
    (hNe : c ≠ d)
    (hAfter : afterKeyword? (c :: keyword) text = some rest) :
    afterKeyword? (d :: other) text = none := by
  rw [Option.eq_none_iff_forall_ne_some]
  intro rest' hOther
  rw [afterKeyword?_eq_some_iff] at hAfter hOther
  rw [hAfter] at hOther
  simp only [List.cons_append, List.cons.injEq] at hOther
  exact hNe hOther.1

/- The parenthesis of a function is read like a keyword. -/
theorem functionRest?_eq
    (text : Text) :
    functionRest? text =
      if endsName text then
        (afterKeyword? ['(']
          (Text.trimStart
            ((Text.trimStart text).dropWhile isWord))).bind
          fun inner =>
            (Text.cut? [')'] inner).map fun (arguments, _) =>
              .function ((Text.trimStart text).takeWhile isWord)
                arguments
      else none := by
  unfold functionRest? afterKeyword?
  dsimp only
  split
  · cases Text.trimStart
        ((Text.trimStart text).dropWhile isWord) with
    | nil => rfl
    | cons c inner =>
        by_cases hOpen : c = '('
        · subst hOpen
          rfl
        · have hOther : '(' ≠ c := fun hEq => hOpen hEq.symm
          simp [hOpen, hOther]
  · rfl

/- After the keyword of a function stands a function. -/
theorem functionRest?_isFunction
    {text : Text}
    {declaration : Declaration}
    (hRest : functionRest? text = some declaration) :
    ∃ name arguments, declaration = .function name arguments := by
  unfold functionRest? at hRest
  split at hRest
  · simp only at hRest
    split at hRest
    · rcases Option.map_eq_some_iff.mp hRest with
        ⟨⟨arguments, -⟩, -, rfl⟩
      exact ⟨_, arguments, rfl⟩
    · simp at hRest
  · simp at hRest

/- After the keyword of a variable stands a variable. -/
theorem variableRest?_isVariable
    {text : Text}
    {declaration : Declaration}
    (hRest : variableRest? text = some declaration) :
    ∃ name, declaration = .variable name := by
  unfold variableRest? at hRest
  split at hRest
  · simp at hRest
  · simp only at hRest
    split at hRest
    · exact ⟨_, (Option.some.inj hRest).symm⟩
    · simp at hRest

/- After the keyword of a function only a function is read. -/
theorem ofText?_of_fun
    {text rest : Text}
    (hFun :
      afterKeyword? "fun".toList (Text.trimStart text) =
        some rest) :
    ofText? text = functionRest? rest := by
  unfold ofText?
  simp only [hFun]

/- After the keyword of a variable only a variable is read. -/
theorem ofText?_of_var
    {text rest : Text}
    (hVar :
      afterKeyword? "var".toList (Text.trimStart text) =
        some rest) :
    ofText? text = variableRest? rest := by
  have hFun :
      afterKeyword? "fun".toList (Text.trimStart text) = none :=
    afterKeyword?_eq_none_of_ne (by decide) hVar
  unfold ofText?
  simp only [hFun, hVar]

/- Without these keywords only a module header is read. -/
theorem ofText?_of_none
    {text : Text}
    (hFun :
      afterKeyword? "fun".toList (Text.trimStart text) = none)
    (hVar :
      afterKeyword? "var".toList (Text.trimStart text) = none) :
    ofText? text =
      if Locator.headerAt text then some .moduleHeader
      else none := by
  unfold ofText? Locator.headerAt
  simp only [hFun, hVar]
  unfold afterKeyword?
  split <;> rfl

/- The functions that are read are those found by their keyword. -/
theorem ofText?_eq_function_iff
    {text name arguments : Text} :
    ofText? text = some (.function name arguments) ↔
      Locator.functionAt? text = some (name, arguments) := by
  unfold Locator.functionAt?
  cases hFun :
      afterKeyword? "fun".toList (Text.trimStart text) with
  | some rest =>
      rw [ofText?_of_fun hFun, Option.bind_some]
      cases hRest : functionRest? rest with
      | none => simp
      | some declaration =>
          rcases functionRest?_isFunction hRest with
            ⟨name', arguments', rfl⟩
          simp
  | none =>
      simp only [Option.bind_none, reduceCtorEq, iff_false]
      cases hVar :
          afterKeyword? "var".toList (Text.trimStart text) with
      | some rest =>
          rw [ofText?_of_var hVar]
          intro hRest
          rcases variableRest?_isVariable hRest with ⟨name', hEq⟩
          simp at hEq
      | none =>
          rw [ofText?_of_none hFun hVar]
          split <;> simp

/- The variables that are read are those found by their keyword. -/
theorem ofText?_eq_variable_iff
    {text name : Text} :
    ofText? text = some (.variable name) ↔
      Locator.variableAt? text = some name := by
  unfold Locator.variableAt?
  cases hVar :
      afterKeyword? "var".toList (Text.trimStart text) with
  | some rest =>
      rw [ofText?_of_var hVar, Option.bind_some]
      cases hRest : variableRest? rest with
      | none => simp
      | some declaration =>
          rcases variableRest?_isVariable hRest with ⟨name', rfl⟩
          simp
  | none =>
      simp only [Option.bind_none, reduceCtorEq, iff_false]
      cases hFun :
          afterKeyword? "fun".toList (Text.trimStart text) with
      | some rest =>
          rw [ofText?_of_fun hFun]
          intro hRest
          rcases functionRest?_isFunction hRest with
            ⟨name', arguments', hEq⟩
          simp at hEq
      | none =>
          rw [ofText?_of_none hFun hVar]
          split <;> simp

/- A text at a module header is at no other keyword. -/
theorem afterKeyword?_eq_none_of_headerAt
    {c : Char}
    {keyword text : Text}
    (hNe : '%' ≠ c)
    (hHeader : Locator.headerAt text = true) :
    afterKeyword? (c :: keyword) (Text.trimStart text) = none := by
  rcases List.isPrefixOf_iff_prefix.mp hHeader with ⟨rest, hRest⟩
  exact afterKeyword?_eq_none_of_ne hNe
    (afterKeyword?_eq_some_iff.mpr hRest.symm)

/- The module headers that are read are those found by their mark. -/
theorem ofText?_eq_moduleHeader_iff
    {text : Text} :
    ofText? text = some .moduleHeader ↔
      Locator.headerAt text = true := by
  constructor
  · intro hRead
    cases hFun :
        afterKeyword? "fun".toList (Text.trimStart text) with
    | some rest =>
        rw [ofText?_of_fun hFun] at hRead
        rcases functionRest?_isFunction hRead with
          ⟨name, arguments, hEq⟩
        simp at hEq
    | none =>
        cases hVar :
            afterKeyword? "var".toList (Text.trimStart text) with
        | some rest =>
            rw [ofText?_of_var hVar] at hRead
            rcases variableRest?_isVariable hRead with ⟨name, hEq⟩
            simp at hEq
        | none =>
            rw [ofText?_of_none hFun hVar] at hRead
            by_contra hHeader
            simp [hHeader] at hRead
  · intro hHeader
    rw [ofText?_of_none
      (afterKeyword?_eq_none_of_headerAt (by decide) hHeader)
      (afterKeyword?_eq_none_of_headerAt (by decide) hHeader)]
    simp [hHeader]

end Declaration

------------------------------------------------------------
-- Roles of Single Blocks
------------------------------------------------------------

namespace Role

/- The roles of blocks that document a declaration. -/
def isClaim : Role → Bool
  | .header | .function _ _ | .variable _ => true
  | .table | .detached => false

/- By its place a block is a table in the body, or detached. -/
theorem ofPlace_bodyStart?
    (text : Text)
    (block : Block) :
    ofPlace (bodyStart? text) block =
      if Locator.inBody text block then .table
      else .detached := by
  unfold ofPlace Locator.inBody
  cases bodyStart? text with
  | none => rfl
  | some start => simp

/-
  Everything that can give a block its role: a function, a
  variable or the first module header behind the block, and
  the place of the block when none of them stands there.
-/
theorem ofBlock_cases
    (body : Option Nat)
    (headerSeen : Bool)
    (block : Block)
    (following : Text) :
    (∃ name arguments,
      Locator.functionAt? following = some (name, arguments) ∧
      Locator.variableAt? following = none ∧
      Locator.headerAt following = false ∧
      ofBlock body headerSeen block following =
        .function name arguments) ∨
    (∃ name,
      Locator.functionAt? following = none ∧
      Locator.variableAt? following = some name ∧
      Locator.headerAt following = false ∧
      ofBlock body headerSeen block following =
        .variable name) ∨
    (Locator.functionAt? following = none ∧
      Locator.variableAt? following = none ∧
      Locator.headerAt following = true ∧
      headerSeen = false ∧
      ofBlock body headerSeen block following = .header) ∨
    (Locator.functionAt? following = none ∧
      Locator.variableAt? following = none ∧
      (headerSeen = true ∨ Locator.headerAt following = false) ∧
      ofBlock body headerSeen block following =
        ofPlace body block) := by
  have hNoFunction :
      (∀ name arguments, Declaration.ofText? following ≠
        some (.function name arguments)) →
      Locator.functionAt? following = none := by
    intro hNe
    rw [Option.eq_none_iff_forall_ne_some]
    rintro ⟨name, arguments⟩ hAt
    exact hNe name arguments
      (Declaration.ofText?_eq_function_iff.mpr hAt)
  have hNoVariable :
      (∀ name, Declaration.ofText? following ≠
        some (.variable name)) →
      Locator.variableAt? following = none := by
    intro hNe
    rw [Option.eq_none_iff_forall_ne_some]
    intro name hAt
    exact hNe name (Declaration.ofText?_eq_variable_iff.mpr hAt)
  have hNoHeader :
      Declaration.ofText? following ≠ some .moduleHeader →
      Locator.headerAt following = false := by
    intro hNe
    rw [← Bool.not_eq_true,
      ← Declaration.ofText?_eq_moduleHeader_iff]
    exact hNe
  cases hRead : Declaration.ofText? following with
  | none =>
      refine Or.inr (Or.inr (Or.inr
        ⟨hNoFunction (by simp [hRead]),
          hNoVariable (by simp [hRead]),
          Or.inr (hNoHeader (by simp [hRead])), ?_⟩))
      simp [ofBlock, hRead]
  | some declaration =>
      rcases declaration with _ | ⟨name, arguments⟩ | name
      · have hFunction := hNoFunction (by simp [hRead])
        have hVariable := hNoVariable (by simp [hRead])
        have hHeader :=
          Declaration.ofText?_eq_moduleHeader_iff.mp hRead
        cases headerSeen with
        | false =>
            refine Or.inr (Or.inr (Or.inl
              ⟨hFunction, hVariable, hHeader, rfl, ?_⟩))
            simp [ofBlock, hRead]
        | true =>
            refine Or.inr (Or.inr (Or.inr
              ⟨hFunction, hVariable, Or.inl rfl, ?_⟩))
            simp [ofBlock, hRead]
      · refine Or.inl ⟨name, arguments, ?_,
          hNoVariable (by simp [hRead]),
          hNoHeader (by simp [hRead]), ?_⟩
        · exact Declaration.ofText?_eq_function_iff.mp hRead
        · simp [ofBlock, hRead]
      · refine Or.inr (Or.inl ⟨name,
          hNoFunction (by simp [hRead]), ?_,
          hNoHeader (by simp [hRead]), ?_⟩)
        · exact Declaration.ofText?_eq_variable_iff.mp hRead
        · simp [ofBlock, hRead]

end Role

------------------------------------------------------------
-- Roles of a Whole Text
------------------------------------------------------------

namespace Roles

/- Assigning roles keeps the blocks and their order. -/
theorem map_fst_assign
    (text : Text)
    (body : Option Nat)
    (headerSeen : Bool)
    (blocks : List Block) :
    (assign text body headerSeen blocks).map Prod.fst = blocks := by
  induction blocks generalizing headerSeen with
  | nil => rfl
  | cons block rest ih => simp [assign, ih]

/- The roles of a text are those of its blocks, in order. -/
theorem map_fst_ofText
    (text : Text) :
    (ofText text).map Prod.fst = Block.scan text :=
  map_fst_assign text (bodyStart? text) false (Block.scan text)

/- Every assigned role is read off what follows its block. -/
theorem role_of_mem_assign
    {text : Text}
    {body : Option Nat}
    {headerSeen : Bool}
    {blocks : List Block}
    {block : Block}
    {role : Role}
    (hMember : (block, role) ∈ assign text body headerSeen blocks) :
    ∃ seen, role = Role.ofBlock body seen block
      (block.following text) := by
  induction blocks generalizing headerSeen with
  | nil => simp [assign] at hMember
  | cons first rest ih =>
      simp only [assign] at hMember
      rcases List.mem_cons.mp hMember with hFirst | hRest
      · rcases Prod.mk.inj hFirst with ⟨rfl, rfl⟩
        exact ⟨headerSeen, rfl⟩
      · exact ih hRest

/-
  A search that answers for each block as its role does
  finds the same over the text as over the roles.
-/
theorem filterMap_ofText
    {α : Type}
    {text : Text}
    {byRole : Block × Role → Option α}
    {byBlock : Block → Option α}
    (hSame :
      ∀ entry ∈ ofText text, byRole entry = byBlock entry.1) :
    (ofText text).filterMap byRole =
      (Block.scan text).filterMap byBlock := by
  rw [← map_fst_ofText text, List.filterMap_map]
  exact List.filterMap_congr hSame

/- The function blocks are those that a search finds. -/
theorem functions_ofText
    (text : Text) :
    (ofText text).functions = Locator.functions text := by
  apply filterMap_ofText
  rintro ⟨block, role⟩ hMember
  rcases role_of_mem_assign hMember with ⟨seen, rfl⟩
  rcases Role.ofBlock_cases (bodyStart? text) seen block
      (block.following text) with
    ⟨name, arguments, hFunction, -, -, hRole⟩ |
    ⟨name, hFunction, -, -, hRole⟩ |
    ⟨hFunction, -, -, -, hRole⟩ |
    ⟨hFunction, -, -, hRole⟩
  · simp [hRole, hFunction]
  · simp [hRole, hFunction]
  · simp [hRole, hFunction]
  · rw [hRole, Role.ofPlace_bodyStart?]
    cases Locator.inBody text block with
    | false => simp [hFunction]
    | true => simp [hFunction]

/- The variable blocks are those that a search finds. -/
theorem vars_ofText
    (text : Text) :
    (ofText text).vars = Locator.vars text := by
  apply filterMap_ofText
  rintro ⟨block, role⟩ hMember
  rcases role_of_mem_assign hMember with ⟨seen, rfl⟩
  rcases Role.ofBlock_cases (bodyStart? text) seen block
      (block.following text) with
    ⟨name, arguments, -, hVariable, -, hRole⟩ |
    ⟨name, -, hVariable, -, hRole⟩ |
    ⟨-, hVariable, -, -, hRole⟩ |
    ⟨-, hVariable, -, hRole⟩
  · simp [hRole, hVariable]
  · simp [hRole, hVariable]
  · simp [hRole, hVariable]
  · rw [hRole, Role.ofPlace_bodyStart?]
    cases Locator.inBody text block with
    | false => simp [hVariable]
    | true => simp [hVariable]

/- The blocks with the role of the header. -/
def headers
    (roles : Roles) : List Block :=
  roles.filterMap fun
    | (block, .header) => some block
    | _ => none

/- A block of another role adds no header. -/
theorem headers_cons_of_ne
    {block : Block}
    {role : Role}
    {rest : Roles}
    (hRole : role ≠ .header) :
    headers ((block, role) :: rest) = headers rest := by
  unfold headers
  cases role <;> simp_all

/- The header block is the first with the role of the header. -/
theorem header?_eq_head?
    (roles : Roles) :
    roles.header? = roles.headers.head? := by
  unfold header? headers
  exact List.head?_filterMap.symm

/-
  At most one block is assigned the role of the header: the
  first before a module header, if none was seen earlier.
-/
theorem headers_assign
    (text : Text)
    (headerSeen : Bool)
    (blocks : List Block) :
    headers (assign text (bodyStart? text) headerSeen blocks) =
      if headerSeen then []
      else
        (blocks.find? fun block =>
          Locator.headerAt (block.following text)).toList := by
  induction blocks generalizing headerSeen with
  | nil => cases headerSeen <;> rfl
  | cons block rest ih =>
      simp only [assign]
      rcases Role.ofBlock_cases (bodyStart? text) headerSeen block
          (block.following text) with
        ⟨name, arguments, -, -, hHeader, hRole⟩ |
        ⟨name, -, -, hHeader, hRole⟩ |
        ⟨-, -, hHeader, rfl, hRole⟩ |
        ⟨-, -, hHeader, hRole⟩
      · rw [hRole, headers_cons_of_ne (by simp), ih]
        simp [hHeader]
      · rw [hRole, headers_cons_of_ne (by simp), ih]
        simp [hHeader]
      · rw [hRole, Bool.false_or, beq_self_eq_true]
        have hRest :
            headers
              (assign text (bodyStart? text) true rest) = [] := by
          rw [ih]
          rfl
        unfold headers at hRest ⊢
        simp [hHeader, hRest]
      · have hPlace :
            Role.ofPlace (bodyStart? text) block ≠ .header := by
          rw [Role.ofPlace_bodyStart?]
          split <;> simp
        rw [hRole, headers_cons_of_ne hPlace, ih,
          beq_false_of_ne hPlace, Bool.or_false]
        rcases hHeader with rfl | hHeader
        · rfl
        · simp [hHeader]

/- The one header block is the one that a search finds. -/
theorem headers_ofText
    (text : Text) :
    (ofText text).headers = (Locator.header? text).toList :=
  headers_assign text false (Block.scan text)

/- The block of the module is the one that a search finds. -/
theorem header?_ofText
    (text : Text) :
    (ofText text).header? = Locator.header? text := by
  rw [header?_eq_head?, headers_ofText]
  cases Locator.header? text <;> rfl

------------------------------------------------------------
-- Claimed and Unclaimed Blocks
------------------------------------------------------------

/- The functions are the entries with the role of a function. -/
theorem mem_functions_iff
    {roles : Roles}
    {block : Block}
    {name arguments : Text} :
    (block, name, arguments) ∈ roles.functions ↔
      (block, .function name arguments) ∈ roles := by
  unfold functions
  rw [List.mem_filterMap]
  constructor
  · rintro ⟨⟨other, role⟩, hMember, hEq⟩
    cases role <;> simp_all
  · intro hMember
    exact ⟨_, hMember, rfl⟩

/- The variables are the entries with the role of a variable. -/
theorem mem_vars_iff
    {roles : Roles}
    {block : Block}
    {name : Text} :
    (block, name) ∈ roles.vars ↔
      (block, .variable name) ∈ roles := by
  unfold vars
  rw [List.mem_filterMap]
  constructor
  · rintro ⟨⟨other, role⟩, hMember, hEq⟩
    cases role <;> simp_all
  · intro hMember
    exact ⟨_, hMember, rfl⟩

/- The headers are the entries with the role of the header. -/
theorem mem_headers_iff
    {roles : Roles}
    {block : Block} :
    block ∈ roles.headers ↔ (block, .header) ∈ roles := by
  unfold headers
  rw [List.mem_filterMap]
  constructor
  · rintro ⟨⟨other, role⟩, hMember, hEq⟩
    cases role <;> simp_all
  · intro hMember
    exact ⟨_, hMember, rfl⟩

/- The claims are the starts of the entries that claim. -/
theorem mem_claimed
    {text : Text}
    {start : Nat} :
    start ∈ Locator.claimed text ↔
      ∃ entry ∈ ofText text,
        entry.2.isClaim = true ∧ entry.1.start = start := by
  unfold Locator.claimed
  rw [← functions_ofText, ← vars_ofText, ← headers_ofText,
    List.mem_append, List.mem_append]
  constructor
  · rintro ((hFunction | hVariable) | hHeader)
    · rcases List.mem_map.mp hFunction with
        ⟨⟨block, name, arguments⟩, hMember, hStart⟩
      exact ⟨_, mem_functions_iff.mp hMember, rfl, hStart⟩
    · rcases List.mem_map.mp hVariable with
        ⟨⟨block, name⟩, hMember, hStart⟩
      exact ⟨_, mem_vars_iff.mp hMember, rfl, hStart⟩
    · rcases List.mem_map.mp hHeader with ⟨block, hMember, hStart⟩
      exact ⟨_, mem_headers_iff.mp hMember, rfl, hStart⟩
  · rintro ⟨⟨block, role⟩, hMember, hClaim, rfl⟩
    rcases role with _ | ⟨name, arguments⟩ | name | _ | _
    · exact Or.inr (List.mem_map_of_mem
        (mem_headers_iff.mpr hMember))
    · exact Or.inl (Or.inl (List.mem_map.mpr
        ⟨_, mem_functions_iff.mpr hMember, rfl⟩))
    · exact Or.inl (Or.inr (List.mem_map.mpr
        ⟨_, mem_vars_iff.mpr hMember, rfl⟩))
    · simp [Role.isClaim] at hClaim
    · simp [Role.isClaim] at hClaim

/- Entries whose blocks start together are the same. -/
theorem entry_eq_of_start_eq
    {text : Text}
    {left right : Block × Role}
    (hLeft : left ∈ ofText text)
    (hRight : right ∈ ofText text)
    (hStart : left.1.start = right.1.start) :
    left = right := by
  have hBlocks : ((ofText text).map Prod.fst).Nodup := by
    rw [map_fst_ofText]
    exact Block.scan_nodup text
  have hMem :
      ∀ entry ∈ ofText text, entry.1 ∈ Block.scan text := by
    intro entry hEntry
    rw [← map_fst_ofText]
    exact List.mem_map_of_mem hEntry
  exact List.inj_on_of_nodup_map hBlocks hLeft hRight
    (Block.eq_of_start_eq (hMem left hLeft) (hMem right hRight)
      hStart)

/-
  The search for claimed blocks goes by their starts alone;
  since no two blocks start together, it finds exactly the
  blocks whose roles claim.
-/
theorem contains_claimed
    {text : Text}
    {entry : Block × Role}
    (hMember : entry ∈ ofText text) :
    (Locator.claimed text).contains entry.1.start =
      entry.2.isClaim := by
  rw [Bool.eq_iff_iff, List.contains_iff_mem, mem_claimed]
  constructor
  · rintro ⟨other, hOther, hClaim, hStart⟩
    rwa [← entry_eq_of_start_eq hOther hMember hStart]
  · intro hClaim
    exact ⟨entry, hMember, hClaim, rfl⟩

/- A block that claims nothing has its role by its place. -/
theorem role_eq_of_not_isClaim
    {text : Text}
    {block : Block}
    {role : Role}
    (hMember : (block, role) ∈ ofText text)
    (hClaim : role.isClaim = false) :
    role =
      if Locator.inBody text block then .table
      else .detached := by
  rcases role_of_mem_assign hMember with ⟨seen, rfl⟩
  rcases Role.ofBlock_cases (bodyStart? text) seen block
      (block.following text) with
    ⟨name, arguments, -, -, -, hRole⟩ |
    ⟨name, -, -, -, hRole⟩ |
    ⟨-, -, -, -, hRole⟩ |
    ⟨-, -, -, hRole⟩
  · simp [hRole, Role.isClaim] at hClaim
  · simp [hRole, Role.isClaim] at hClaim
  · simp [hRole, Role.isClaim] at hClaim
  · rw [hRole, Role.ofPlace_bodyStart?]

/-
  A search through the roles that passes over those that claim
  and keeps a block by its place finds the unclaimed blocks of
  that place.
-/
theorem filterMap_unclaimed
    {text : Text}
    {byRole : Block × Role → Option Block}
    {byPlace : Block → Bool}
    (hClaim :
      ∀ entry, entry.2.isClaim = true → byRole entry = none)
    (hPlace :
      ∀ block,
        byRole (block,
          if Locator.inBody text block then .table
          else .detached) =
        if byPlace block then some block else none) :
    (ofText text).filterMap byRole =
      (Block.scan text).filter fun block =>
        byPlace block &&
          !(Locator.claimed text).contains block.start := by
  rw [← List.filterMap_eq_filter]
  apply filterMap_ofText
  rintro ⟨block, role⟩ hMember
  have hContains :
      (Locator.claimed text).contains block.start =
        role.isClaim :=
    contains_claimed hMember
  simp only [Option.guard, hContains]
  cases hRole : role.isClaim with
  | true =>
      rw [hClaim (block, role) hRole]
      simp
  | false =>
      rw [role_eq_of_not_isClaim hMember hRole, hPlace]
      simp

/- The table blocks are those that a search finds. -/
theorem tables_ofText
    (text : Text) :
    (ofText text).tables = Locator.tables text := by
  apply filterMap_unclaimed
  · rintro ⟨block, role⟩ hClaim
    cases role <;> simp_all [Role.isClaim]
  · intro block
    cases Locator.inBody text block <;> simp

/- The detached blocks are those that a search finds. -/
theorem detached_ofText
    (text : Text) :
    (ofText text).detached = Locator.detached text := by
  apply filterMap_unclaimed
  · rintro ⟨block, role⟩ hClaim
    cases role <;> simp_all [Role.isClaim]
  · intro block
    cases Locator.inBody text block <;> simp

end Roles

end Marginalia
