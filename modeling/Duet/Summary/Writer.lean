import Duet.Json.Value
import Duet.Summary.Basic

/-!
# Summaries as JSON

A summary is an object of six members in a fixed order; what is absent is `null`. The same six
values in the same order also make up a list.
-/

namespace Duet

namespace Status

/-- A status as JSON is its name. -/
def toJson (s : Status) : Json :=
  .str s.name.toList

end Status

namespace Duration

/-- A duration as JSON. -/
def toJson (d : Duration) : Json :=
  .obj [("secs".toList, .int d.secs.toNat), ("nanos".toList, .int d.nanos)]

end Duration

namespace Summary

/-- A part of a summary. -/
inductive Field where
  | status
  | code
  | failure
  | spawned
  | joined
  | elapsed
  deriving DecidableEq, Repr

/-- The name a part has in data. -/
def Field.name : Field → String
  | .status => "status"
  | .code => "code"
  | .failure => "failure"
  | .spawned => "threads_spawned"
  | .joined => "threads_joined"
  | .elapsed => "realtime_elapsed"

/-- The parts in the order they are written. -/
def Field.all : List Field :=
  [.status, .code, .failure, .spawned, .joined, .elapsed]

/-- The part with the given name. -/
def Field.ofName? (name : List Char) : Option Field :=
  Field.all.find? (·.name.toList = name)

/-- One part of a summary as JSON. -/
def fieldJson (s : Summary) : Field → Json
  | .status => s.status.toJson
  | .code => .int s.code.toInt
  | .failure => (s.failure.map fun text => Json.str text.toList).getD .null
  | .spawned => .int s.spawned.toNat
  | .joined => .int s.joined.toNat
  | .elapsed => (s.elapsed.map Duration.toJson).getD .null

/-- A summary as a JSON object. -/
def toJson (s : Summary) : Json :=
  .obj (Field.all.map fun f => (f.name.toList, s.fieldJson f))

/-- A summary as a JSON list. -/
def toJsonList (s : Summary) : Json :=
  .arr (Field.all.map s.fieldJson)

/-- The compact text of a summary. -/
def compact (s : Summary) : String :=
  String.ofList s.toJson.compact

/-- The indented text of a summary. -/
def pretty (s : Summary) : String :=
  String.ofList (s.toJson.pretty 0)

theorem Field.ofName?_name (f : Field) : Field.ofName? f.name.toList = some f := by
  cases f <;> decide

end Summary

end Duet
