import Marginalia.Event
import Marginalia.Settings
import Marginalia.Value.Json

/-
  This file writes the events of a run as lines of a log.

  Key definitions include:
    * `Log.line`
-/

namespace Marginalia

namespace Log

------------------------------------------------------------
-- Lines of a Log
------------------------------------------------------------

/- A detail of an event as it is shown. -/
def detail : Event.Detail → Text
  | .text value => value
  | .number value => Text.ofNat value

/- A detail of an event in JSON. -/
def jsonDetail : Event.Detail → Text
  | .text value => Json.quoted value
  | .number value => Text.ofNat value

/- The level of an event as it is shown. -/
def levelName
    (event : Event) : Text :=
  event.level.name.map Char.toLower

/- An event for a reader. -/
def consoleLine
    (event : Event) : Text :=
  ['['] ++ levelName event ++ "] ".toList ++ event.name ++
    event.details.flatMap fun (name, value) =>
      [' '] ++ name ++ ['='] ++ detail value

/- An event as a JSON object. -/
def jsonLine
    (event : Event) : Text :=
  let fields :=
    event.details.map (fun (name, value) => (name, jsonDetail value)) ++
      [("event".toList, Json.quoted event.name),
        ("level".toList, Json.quoted (levelName event))]
  ['{'] ++
    Text.join ", ".toList
      (fields.map fun (name, value) =>
        Json.quoted name ++ ": ".toList ++ value) ++
    ['}']

/- The line of an event in a format. -/
def line
    (format : LogFormat)
    (event : Event) : Text :=
  match format with
  | .console => consoleLine event
  | .json => jsonLine event

end Log

end Marginalia
