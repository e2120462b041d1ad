import Marginalia.Source.Block
import Marginalia.Source.Declaration

/-
  This file decides what each comment block of a source text
  documents. Every block gets exactly one role, and the lists
  of documented functions, variables and tables are read off
  the roles in the order of the text.

  Key definitions include:
    * `bodyStart?`
    * `Role`
    * `Roles`
    * `Roles.ofText`
    * `Roles.header?`
    * `Roles.functions`
    * `Roles.vars`
    * `Roles.tables`
    * `Roles.detached`
-/

namespace Marginalia

------------------------------------------------------------
-- The Body of a Source Text
------------------------------------------------------------

/- The mark that separates the declarations from the body. -/
def bodyMark : Text :=
  ['-', '-', '-']

/- The offset just past the first separator, if there is one. -/
def bodyStart?
    (text : Text) : Option Nat :=
  (Text.cut? bodyMark text).map fun (before, _) =>
    before.length + bodyMark.length

------------------------------------------------------------
-- Roles of Comment Blocks
------------------------------------------------------------

/-
  What a comment block documents: the module, a function, a
  variable, or, by itself in the body of the text, a table. A
  detached block documents nothing.
-/
inductive Role where
  | header
  | function (name arguments : Text)
  | variable (name : Text)
  | table
  | detached
  deriving DecidableEq, Repr

namespace Role

/- The role of a block that documents no declaration. -/
def ofPlace
    (body : Option Nat)
    (block : Block) : Role :=
  match body with
  | some start => if start ≤ block.start then .table else .detached
  | none => .detached

/-
  The role of a block, given where the body starts, whether an
  earlier block documents the module, and what follows it.
-/
def ofBlock
    (body : Option Nat)
    (headerSeen : Bool)
    (block : Block)
    (following : Text) : Role :=
  match Declaration.ofText? following with
  | some (.function name arguments) => .function name arguments
  | some (.variable name) => .variable name
  | some .moduleHeader =>
      if headerSeen then ofPlace body block else .header
  | none => ofPlace body block

end Role

------------------------------------------------------------
-- Roles of a Source Text
------------------------------------------------------------

/- Comment blocks with their roles. -/
abbrev Roles :=
  List (Block × Role)

namespace Roles

/-
  Give each of some blocks of a text its role, given where the
  body of the text starts. The first block before a module
  header is the one that documents the module.
-/
def assign
    (text : Text)
    (body : Option Nat)
    (headerSeen : Bool) : List Block → Roles
  | [] => []
  | block :: rest =>
      let role :=
        Role.ofBlock body headerSeen block (block.following text)
      (block, role) ::
        assign text body (headerSeen || role == .header) rest

/- The comment blocks of a text with their roles, in order. -/
def ofText
    (text : Text) : Roles :=
  assign text (bodyStart? text) false (Block.scan text)

------------------------------------------------------------
-- Blocks of One Role
------------------------------------------------------------

/- The block that documents the module. -/
def header?
    (roles : Roles) : Option Block :=
  roles.findSome? fun
    | (block, .header) => some block
    | _ => none

/- The blocks that document functions. -/
def functions
    (roles : Roles) : List (Block × Text × Text) :=
  roles.filterMap fun
    | (block, .function name arguments) =>
        some (block, name, arguments)
    | _ => none

/- The blocks that document variables. -/
def vars
    (roles : Roles) : List (Block × Text) :=
  roles.filterMap fun
    | (block, .variable name) => some (block, name)
    | _ => none

/- The blocks that stand for tables. -/
def tables
    (roles : Roles) : List Block :=
  roles.filterMap fun
    | (block, .table) => some block
    | _ => none

/- The blocks that document nothing. -/
def detached
    (roles : Roles) : List Block :=
  roles.filterMap fun
    | (block, .detached) => some block
    | _ => none

end Roles

end Marginalia
