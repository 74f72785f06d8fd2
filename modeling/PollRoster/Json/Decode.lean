import PollRoster.Bounds
import PollRoster.Json.Value

/-!
# Decoding JSON

Decoders turn a value into a datum of a known type. They walk the value in text order, so that of
two flaws the earlier one decides.

* `Flaw`: a value is either no JSON from some place on, or JSON of the wrong shape.
* `RecordField`: a named part of a record with its decoder and what stands in when it is missing.
* `record`: reads the members of a record. Members that the record does not have are passed over.
-/

namespace PollRoster.Json

/-- Why a value could not be decoded. -/
inductive Flaw where
  | malformed
  | illTyped
  deriving DecidableEq, Repr

abbrev Decoder (α : Type) := Json → Except Flaw α

/-- The flaw of a value of another type than the one asked for. -/
def mismatch : Json → Flaw
  | .broken | .huge | .text none => .malformed
  | _ => .illTyped

/-! ## Plain values -/

def intBetween (low high : Int) : Decoder Int
  | .integer i => if low ≤ i && i ≤ high then .ok i else .error .illTyped
  | j => .error j.mismatch

/-- An identifier: a signed integer of 64 bits. -/
def asId : Decoder Int := intBetween minId maxId

/-- A number: an unsigned integer of 32 bits. -/
def asNumber (j : Json) : Except Flaw Nat :=
  (intBetween 0 maxNumber j).map Int.toNat

/-- A count: an unsigned integer of 64 bits. -/
def asCount (j : Json) : Except Flaw Nat :=
  (intBetween 0 maxCount j).map Int.toNat

def asString : Decoder String
  | .text (some s) => .ok s
  | j => .error j.mismatch

def asBool : Decoder Bool
  | .bool b => .ok b
  | j => .error j.mismatch

/-- A value that may be `null`. -/
def asOption (decode : Decoder α) : Decoder (Option α)
  | .null => .ok none
  | j => (decode j).map some

/-- Decodes the items of an array in order. -/
def decodeItems (decode : Decoder α) : List Json → Except Flaw (List α)
  | [] => .ok []
  | j :: rest => do
    let a ← decode j
    let as ← decodeItems decode rest
    return a :: as

def asList (decode : Decoder α) : Decoder (List α)
  | .array items => decodeItems decode items
  | j => .error j.mismatch

def asNothing : Decoder Unit
  | .null => .ok ()
  | j => .error j.mismatch

/-- Nothing, written as `null` or as an object without members. -/
def asNothingOrEmpty : Decoder Unit
  | .object [] => .ok ()
  | j => asNothing j

/-- One of some named cases, written as its name or as an object that gives its name nothing. -/
def asCaseWith (nothing : Decoder Unit) (cases : List (String × α)) : Decoder α
  | .text (some name) =>
    match cases.lookup name with
    | some a => .ok a
    | none => .error .illTyped
  | .object [(some name, j)] =>
    match cases.lookup name with
    | some a => (nothing j).map fun () => a
    | none => .error .illTyped
  | j => .error j.mismatch

def asCase (cases : List (String × α)) : Decoder α := asCaseWith asNothing cases

/-- One of some named cases in a value that was kept for later: an object without members is nothing
there. -/
def asKeptCase (cases : List (String × α)) : Decoder α := asCaseWith asNothingOrEmpty cases

/-- The tag that tells the cases of a record apart, written as its name. -/
def asTag (names : List String) : Decoder String
  | .text (some name) => if names.contains name then .ok name else .error .illTyped
  | j => .error j.mismatch

/-- A tag that may also be written as its position among the names. -/
def asTagOrPosition (names : List String) : Decoder String
  | .integer i =>
    match (if i < 0 then none else names[i.toNat]?) with
    | some name => .ok name
    | none => .error .illTyped
  | j => asTag names j

/-! ## Values that are not looked at -/

mutual

/-- Whether the text of the value does not break off inside it. -/
def isWhole : Json → Bool
  | .array items => areWhole items
  | .object members => areWholeMembers members
  | .broken => false
  | _ => true

def areWhole : List Json → Bool
  | [] => true
  | j :: rest => isWhole j && areWhole rest

def areWholeMembers : List (Option String × Json) → Bool
  | [] => true
  | (_, j) :: rest => isWhole j && areWholeMembers rest

end

mutual

/-- Whether the value can be kept for later: every literal has a text, every number is finite and
arrays and objects are nested at most `depth` deep. -/
def isKeepable (depth : Nat) : Json → Bool
  | .array items => 0 < depth && areKeepable (depth - 1) items
  | .object members => 0 < depth && areKeepableMembers (depth - 1) members
  | .broken | .huge | .text none => false
  | _ => true

def areKeepable (depth : Nat) : List Json → Bool
  | [] => true
  | j :: rest => isKeepable depth j && areKeepable depth rest

def areKeepableMembers (depth : Nat) : List (Option String × Json) → Bool
  | [] => true
  | (key, j) :: rest => key.isSome && isKeepable depth j && areKeepableMembers depth rest

end

/-! ## Records -/

structure RecordField (α : Type) where
  name : String
  decode : Decoder α
  /-- The value of a missing member, if it may be missing. -/
  absent : Option α

namespace RecordField

/-- A member that has to be there. -/
def required (name : String) (decode : Decoder α) : RecordField α := ⟨name, decode, none⟩

/-- A member that may be missing or `null`. -/
def optional (name : String) (decode : Decoder α) : RecordField (Option α) :=
  ⟨name, asOption decode, some none⟩

/-- A member that has the value `absent` when it is missing. -/
def withDefault (name : String) (decode : Decoder α) (absent : α) : RecordField α :=
  ⟨name, decode, some absent⟩

end RecordField

/-- What reading a record has to know of a field: its name, the flaw of a value, and whether it may
be missing. -/
structure RecordField.Check where
  name : String
  flaw : Json → Option Flaw
  mayBeAbsent : Bool

def RecordField.check (f : RecordField α) : RecordField.Check where
  name := f.name
  flaw j := match f.decode j with
    | .ok _ => none
    | .error e => some e
  mayBeAbsent := f.absent.isSome

/-- The members of a record that belong to its fields, each at most once. -/
abbrev Members := List (String × Json)

/-- Reads members in order. A member of a field must not be repeated and must decode; any other
member passes when `passes` holds of it. -/
def readMembers (checks : List RecordField.Check) (passes : Json → Bool) (seen : Members) :
    List (Option String × Json) → Except Flaw Members
  | [] => .ok seen
  | (none, _) :: _ => .error .malformed
  | (some key, j) :: rest =>
    match checks.find? (·.name == key) with
    | none => if passes j then readMembers checks passes seen rest else .error .malformed
    | some check =>
      if (seen.lookup key).isSome then .error .illTyped
      else match check.flaw j with
        | some flaw => .error flaw
        | none => readMembers checks passes (seen ++ [(key, j)]) rest

/-- Reads the fields of a record from the items of an array, in the order of the fields. -/
def readPositions (seen : Members) : List RecordField.Check → List Json → Except Flaw Members
  | [], [] => .ok seen
  | [], _ :: _ => .error .malformed
  | check :: checks, [] =>
    if check.mayBeAbsent then readPositions seen checks [] else .error .illTyped
  | check :: checks, j :: rest =>
    match check.flaw j with
    | some flaw => .error flaw
    | none => readPositions (seen ++ [(check.name, j)]) checks rest

/-- Reads a record, written as an object or as the array of its fields in order. -/
def record (checks : List RecordField.Check) : Decoder Members
  | .object members => readMembers checks isWhole [] members
  | .array items => readPositions [] checks items
  | j => .error j.mismatch

/-- The deepest nesting of a value that is kept for later. -/
def keepableDepth : Nat := 126

/-- Reads the members of an object: those of the given fields in order, as `readMembers` does, and
all others as they are, to be looked at later. -/
def splitMembers (checks : List RecordField.Check) (seen : Members)
    (kept : List (Option String × Json)) :
    List (Option String × Json) → Except Flaw (Members × List (Option String × Json))
  | [] => .ok (seen, kept)
  | (none, _) :: _ => .error .malformed
  | (some key, j) :: rest =>
    match checks.find? (·.name == key) with
    | none =>
      if isKeepable keepableDepth j then splitMembers checks seen (kept ++ [(some key, j)]) rest
      else .error .malformed
    | some check =>
      if (seen.lookup key).isSome then .error .illTyped
      else match check.flaw j with
        | some flaw => .error flaw
        | none => splitMembers checks (seen ++ [(key, j)]) kept rest

/-- The flaw of a value that was kept for later: as the text of it was read whole, it can only have
the wrong shape. -/
def whenKept (x : Except Flaw α) : Except Flaw α := x.mapError fun _ => .illTyped

/-- Reads a record that has the fields `inner` of another record among its own fields `outer`. The
inner ones are looked at once the whole object was read. -/
def nestedRecord (outer inner : List RecordField.Check) : Decoder (Members × Members)
  | .object members => do
    let (seen, kept) ← splitMembers outer [] [] members
    let nested ← whenKept (readMembers inner (fun _ => true) [] kept)
    return (seen, nested)
  | j => .error (match j with | .array _ => .illTyped | j => j.mismatch)

/-- The value of a field among the members of its record. -/
def Members.get (members : Members) (f : RecordField α) : Except Flaw α :=
  match members.lookup f.name with
  | some j => f.decode j
  | none => match f.absent with
    | some a => .ok a
    | none => .error .illTyped

/-- The value `a` of a record without fields. -/
def fieldless (a : α) (j : Json) : Except Flaw α := (record [] j).map fun _ => a

/-- The tag of a record that comes in several cases, and the fields of its case. The tag is a member
among the fields of an object, or stands in front of the fields of an array. -/
def splitTag (name : String) (names : List String) : Decoder (String × Json)
  | .array [] => .error .illTyped
  | .array (tag :: fields) => do return (← asTag names tag, .array fields)
  | j => do
    let tag := RecordField.required name (asTag names)
    return (← (← j.record [tag.check]).get tag, j)

end PollRoster.Json
