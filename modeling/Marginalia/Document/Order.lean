import Marginalia.ModuleDoc

/-
  This file puts the modules of a document in order: first
  those that a list of names asks for, then the others.

  Key definitions include:
    * `ModuleOrder.listed`
    * `ModuleOrder.positions`
    * `ModuleOrder.unmatched`
    * `ModuleOrder.apply`
-/

namespace Marginalia

namespace ModuleOrder

------------------------------------------------------------
-- Order of Modules
------------------------------------------------------------

/- The position of the first module with a name. -/
def position?
    (modules : List ModuleDoc)
    (name : Text) : Option Nat :=
  modules.findIdx? (·.name == name)

/-
  The positions of the modules that a list of names asks for,
  in the order of the list. A name stands for the first module
  that has it, and asking twice changes nothing.
-/
def listed
    (modules : List ModuleDoc)
    (names : List Text) : List Nat :=
  (names.filterMap (position? modules)).eraseDups

/- The positions of all modules: the listed ones come first. -/
def positions
    (modules : List ModuleDoc)
    (names : List Text) : List Nat :=
  let first := listed modules names
  first ++
    (List.range modules.length).filter (!first.contains ·)

/- The names that no module has. -/
def unmatched
    (modules : List ModuleDoc)
    (names : List Text) : List Text :=
  names.filter fun name => (position? modules name).isNone

/- The modules with the listed ones first. -/
def apply
    (modules : List ModuleDoc)
    (names : List Text) : List ModuleDoc :=
  (positions modules names).filterMap (modules[·]?)

/- The events of putting modules in order. -/
def events
    (modules : List ModuleDoc)
    (names : List Text) : List Event :=
  (unmatched modules names).map Event.moduleListEntryUnmatched

end ModuleOrder

end Marginalia
