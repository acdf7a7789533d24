import Duet.Json.Shape
import Duet.Summary.Writer

/-!
# Reading summaries

A summary is read from an object, whose members may come in any order and among others, or from
a list of its six parts. A status is a string or an object with the one member `name: null`; a
duration is an object of two members or a list of two numbers.

**Members that are not parts of a summary are passed over; a part that comes twice is refused,
and so is a summary without one of the four parts that have no absent form.**
-/

namespace Duet

open Json (Reader Failure Problem Inside Halt)

namespace Status

/-- The names a status may have. -/
def names : List String :=
  all.map name

/-- The status with a name, or the failure to be noted where the name ends. -/
def named (cs rest : List Char) : Except Failure (Status × List Char) :=
  match all.find? (·.name.toList = cs) with
  | some status => .ok (status, rest)
  | none => .error (.here (.unknownVariant cs names) rest)

/-- Reads the rest of the object form after its opening bracket. -/
def readObject (text : List Char) : Except Failure (Status × List Char) := do
  let (key, rest) ← Json.readKey true text
  match key with
  | none => .error (.peek .expectedValue rest)
  | some cs =>
    let (status, rest) ← named cs rest
    let rest ← Json.readColon rest
    let ((), rest) ← Json.readNull rest
    match Json.skipBlank rest with
    | [] => .error (.here .endInObject [])
    | d :: more =>
      if d = '\x7d' then .ok (status, more) else .error (.here .expectedValue (d :: more))

/-- Reads a status. -/
def read : Reader Status := fun text =>
  match Json.skipBlank text with
  | [] => .error (.peek .endInValue [])
  | c :: rest =>
    if c = '\x7b' then readObject rest
    else if c = '"' then do
      let (cs, rest) ← Json.readString rest
      named cs rest
    else .error (.peek .expectedValue (c :: rest))

/-- Reads a status that makes up a whole text. -/
def parse (text : List Char) : Except Failure Status :=
  Json.readWhole read text

end Status

namespace Duration

/-- What is expected where a duration should be. -/
def expected : String := "struct Duration"

/-- The parts of a duration that have been read. -/
structure Draft where
  secs : Option Int := none
  nanos : Option Int := none
  deriving DecidableEq, Repr

/-- The duration of two parts, unless its seconds are too many. -/
def ofDraft (secs nanos : Int) (rest : List Char) : Inside Duration :=
  match ofParts? secs.toNat nanos.toNat with
  | some d => .ok (d, rest)
  | none => .error (.unplaced .durationOverflow rest)

/-- Reads the inside of the list form. -/
def readList (text : List Char) : Except Halt (Duration × List Char) := do
  let (secs, rest) ← Json.readElement 0 expected (Json.readInteger Json.uint64Range) text
  let (nanos, rest) ← Json.readElement 1 expected (Json.readInteger Json.uint32Range) rest
  ofDraft secs nanos rest

/-- Reads the value of a member that must not have been there before. -/
def readPart (name : String) (range : Json.IntRange) (before : Option Int) (rest : List Char) :
    Inside Int :=
  if before.isSome then .error (.unplaced (.duplicateField name) rest)
  else Json.placing (Json.readAfterKey (Json.readInteger range) rest)

/-- Reads what follows a key. -/
def readMember (draft : Draft) (key rest : List Char) : Except Halt (Draft × List Char) :=
  if key = "secs".toList then do
    let (n, rest) ← readPart "secs" Json.uint64Range draft.secs rest
    .ok ({ draft with secs := some n }, rest)
  else if key = "nanos".toList then do
    let (n, rest) ← readPart "nanos" Json.uint32Range draft.nanos rest
    .ok ({ draft with nanos := some n }, rest)
  else .error (.unplaced (.unknownField key ["secs", "nanos"]) rest)

/-- The duration of the parts that have been read, if both are there. -/
def conclude (draft : Draft) (rest : List Char) : Inside Duration :=
  match draft.secs, draft.nanos with
  | none, _ => .error (.unplaced (.missingField "secs") rest)
  | _, none => .error (.unplaced (.missingField "nanos") rest)
  | some secs, some nanos => ofDraft secs nanos rest

/-- Reads the inside of the object form. -/
def readObject (text : List Char) : Except Halt (Duration × List Char) := do
  let (draft, rest) ← Json.readAllMembers readMember {} text
  conclude draft rest

/-- Reads a duration. -/
def read : Reader Duration :=
  Json.readBracketed expected readList readObject

end Duration

namespace Summary

/-- The parts of a summary that have been read. -/
structure Draft where
  status : Option Status := none
  code : Option Int := none
  failure : Option (Option (List Char)) := none
  spawned : Option Int := none
  joined : Option Int := none
  elapsed : Option (Option Duration) := none
  deriving DecidableEq, Repr

namespace Draft

/-- Whether a part has been read. -/
def has (d : Draft) : Field → Bool
  | .status => d.status.isSome
  | .code => d.code.isSome
  | .failure => d.failure.isSome
  | .spawned => d.spawned.isSome
  | .joined => d.joined.isSome
  | .elapsed => d.elapsed.isSome

/-- Reads the value of a part. -/
def readField (d : Draft) (field : Field) : Reader Draft := fun text =>
  match field with
  | .status => do
    let (x, rest) ← Status.read text
    .ok ({ d with status := some x }, rest)
  | .code => do
    let (x, rest) ← Json.readInteger Json.int32Range text
    .ok ({ d with code := some x }, rest)
  | .failure => do
    let (x, rest) ← Json.readOptional Json.readText text
    .ok ({ d with failure := some x }, rest)
  | .spawned => do
    let (x, rest) ← Json.readInteger Json.uint64Range text
    .ok ({ d with spawned := some x }, rest)
  | .joined => do
    let (x, rest) ← Json.readInteger Json.uint64Range text
    .ok ({ d with joined := some x }, rest)
  | .elapsed => do
    let (x, rest) ← Json.readOptional Duration.read text
    .ok ({ d with elapsed := some x }, rest)

/-- The summary, if no part is missing that has no absent form. -/
def finish (d : Draft) : Except Problem Summary :=
  match d.status, d.code, d.spawned, d.joined with
  | none, _, _, _ => .error (.missingField Field.status.name)
  | _, none, _, _ => .error (.missingField Field.code.name)
  | _, _, none, _ => .error (.missingField Field.spawned.name)
  | _, _, _, none => .error (.missingField Field.joined.name)
  | some status, some code, some spawned, some joined =>
    .ok {
      status
      code := Int32.ofInt code
      failure := (d.failure.getD none).map String.ofList
      spawned := UInt64.ofNat spawned.toNat
      joined := UInt64.ofNat joined.toNat
      elapsed := d.elapsed.getD none }

end Draft

/-- What is expected where a summary should be. -/
def expected : String := "struct RunSummary"

/-- The finished summary, or its problem to be placed at the bracket's end. -/
def conclude (d : Draft) (rest : List Char) : Inside Summary :=
  match d.finish with
  | .ok s => .ok (s, rest)
  | .error problem => .error (.unplaced problem rest)

/-- Reads what follows a key. -/
def readMember (draft : Draft) (key rest : List Char) : Inside Draft :=
  match Field.ofName? key with
  | none => Json.placing (Json.readAfterKey (Json.readAnything draft) rest)
  | some field =>
    if draft.has field then .error (.unplaced (.duplicateField field.name) rest)
    else Json.placing (Json.readAfterKey (draft.readField field) rest)

/-- Reads the inside of the object form. -/
def readObject (text : List Char) : Except Halt (Summary × List Char) := do
  let (draft, rest) ← Json.readAllMembers readMember {} text
  conclude draft rest

/-- Reads the parts of the list form in order, the given number of them being read already. -/
def readElements : (count : Nat) → List Field → Draft → List Char →
    Except Halt (Draft × List Char)
  | _, [], draft, text => .ok (draft, text)
  | count, field :: fields, draft, text => do
    let (draft, rest) ←
      Json.readElement count (expected ++ " with 6 elements") (draft.readField field) text
    readElements (count + 1) fields draft rest

/-- Reads the inside of the list form. -/
def readList (text : List Char) : Except Halt (Summary × List Char) := do
  let (draft, rest) ← readElements 0 Field.all {} text
  conclude draft rest

/-- Reads a summary. -/
def read : Reader Summary :=
  Json.readBracketed expected readList readObject

/-- Reads a summary that makes up a whole text. -/
def parse (text : List Char) : Except Failure Summary :=
  Json.readWhole read text

end Summary

end Duet
