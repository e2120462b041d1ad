import Marginalia.Text

/-
  This file defines the events that a run reports besides its
  result, with their levels.

  Key definitions include:
    * `Level`
    * `Level.ofName?`
    * `Event`
    * `Event.level`
    * `Event.name`
    * `Event.details`
-/

namespace Marginalia

------------------------------------------------------------
-- Levels
------------------------------------------------------------

/- How grave an event is, from the least to the most. -/
inductive Level where
  | debug
  | info
  | warning
  | error
  | critical
  deriving DecidableEq, Repr

namespace Level

/- The rank of a level; a graver level has a higher rank. -/
def rank : Level → Nat
  | .debug => 0
  | .info => 1
  | .warning => 2
  | .error => 3
  | .critical => 4

/- The levels in order. -/
def all : List Level :=
  [.debug, .info, .warning, .error, .critical]

/- The name of a level. -/
def name : Level → Text
  | .debug => "DEBUG".toList
  | .info => "INFO".toList
  | .warning => "WARNING".toList
  | .error => "ERROR".toList
  | .critical => "CRITICAL".toList

/-
  The capital form of a character, where it consists of ASCII
  letters. Any other character is kept: it has no capital form
  that could stand in the name of a level.
-/
def capital
    (c : Char) : Text :=
  match c with
  | 'ß' => ['S', 'S']
  | 'ı' => ['I']
  | 'ſ' => ['S']
  | 'ﬀ' => ['F', 'F']
  | 'ﬁ' => ['F', 'I']
  | 'ﬂ' => ['F', 'L']
  | 'ﬃ' => ['F', 'F', 'I']
  | 'ﬄ' => ['F', 'F', 'L']
  | 'ﬅ' => ['S', 'T']
  | 'ﬆ' => ['S', 'T']
  | c => [c.toUpper]

/- The level of a name, which may be written in any case. -/
def ofName?
    (text : Text) : Option Level :=
  all.find? fun level => level.name == text.flatMap capital

end Level

------------------------------------------------------------
-- Events
------------------------------------------------------------

/- Something that happened during a run. -/
inductive Event where
  | tagLineIgnored (line : Text)
  | commentNotAttached (file : Text) (line : Nat)
  | sourceParsed (file : Text) (functions vars tables : Nat)
  | directoryNotFound (directory : Text)
  | notADirectory (directory : Text)
  | parsingSources (count : Nat)
  | moduleListEntryUnmatched (name : Text)
  | documentWritten (path : Text) (modules size : Nat)
  | generationSkipped
  | generationFailed (category : Text)
  deriving DecidableEq, Repr

namespace Event

/- The level of an event. -/
def level : Event → Level
  | .tagLineIgnored _ => .debug
  | .commentNotAttached _ _ => .debug
  | .sourceParsed _ _ _ _ => .debug
  | .directoryNotFound _ => .warning
  | .notADirectory _ => .warning
  | .parsingSources _ => .info
  | .moduleListEntryUnmatched _ => .debug
  | .documentWritten _ _ _ => .info
  | .generationSkipped => .info
  | .generationFailed _ => .error

/- The name under which an event is logged. -/
def name : Event → Text
  | .tagLineIgnored _ => "annotation_line_ignored".toList
  | .commentNotAttached _ _ => "comment_not_attached".toList
  | .sourceParsed _ _ _ _ => "source_parsed".toList
  | .directoryNotFound _ => "directory_not_found".toList
  | .notADirectory _ => "not_a_directory".toList
  | .parsingSources _ => "parsing_sources".toList
  | .moduleListEntryUnmatched _ =>
      "module_list_entry_unmatched".toList
  | .documentWritten _ _ _ => "document_written".toList
  | .generationSkipped => "generation_skipped".toList
  | .generationFailed _ => "generation_failed".toList

/- A detail that is logged with an event. -/
inductive Detail where
  | text (value : Text)
  | number (value : Nat)
  deriving DecidableEq, Repr

/- The details of an event, by name. -/
def details : Event → List (Text × Detail)
  | .tagLineIgnored line => [("line".toList, .text line)]
  | .commentNotAttached file line =>
      [("file".toList, .text file), ("line".toList, .number line)]
  | .sourceParsed file functions vars tables =>
      [("file".toList, .text file),
       ("functions".toList, .number functions),
       ("variables".toList, .number vars),
       ("tables".toList, .number tables)]
  | .directoryNotFound directory =>
      [("directory".toList, .text directory)]
  | .notADirectory directory =>
      [("directory".toList, .text directory)]
  | .parsingSources count => [("count".toList, .number count)]
  | .moduleListEntryUnmatched name =>
      [("module".toList, .text name)]
  | .documentWritten path modules size =>
      [("path".toList, .text path),
       ("modules".toList, .number modules),
       ("size".toList, .number size)]
  | .generationSkipped => [("reason".toList, .text "skip=true".toList)]
  | .generationFailed category =>
      [("category".toList, .text category)]

end Event

end Marginalia
