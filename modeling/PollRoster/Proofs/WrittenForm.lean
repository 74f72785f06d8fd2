import PollRoster.Proofs.Json.Members
import PollRoster.Proofs.Json.Writing

/-!
# Written forms

Data have a written form: a value that they are written as, and a decoder that reads them back from
it. The form of a record is put together from the forms of its fields.

* `Carries`: a value that a decoder reads as a given datum, and that has a text.
* `IsDefault`: a member that may be left out, as it is read when it is missing.
* `Survives`: data that come back from every text of their written form.
-/

namespace PollRoster.Json

/-! ## Forms -/

/-- Whether a decoder reads the value as the given datum, and the value is made as records are. -/
structure Carries (depth : Nat) (decode : Decoder α) (value : Json) (a : α) : Prop where
  isDatum : IsDatum depth value
  decode_eq : decode value = .ok a

/-- Whether a missing member of an object is read as if it were there with the given value, whatever
other members there are. -/
def IsDefault (decode : Decoder α) (m : String × Json) : Prop :=
  ∀ pre post, Lacks m.1 pre → Lacks m.1 post →
    decode (.object (pre ++ post)) = decode (.object (pre ++ (some m.1, m.2) :: post))

/-- The datum that a whole text stands for. -/
def decodeText? (decode : Decoder α) (text : String) : Option α :=
  let document := read text
  if document.endsThere then (decode document.value).toOption else none

/-- Whether data survive their written form: they have a text, they are read back from each of their
texts, and the members that may be left out stand for the given values. -/
structure Survives (write : α → Json) (decode : Decoder α) (InBounds : α → Prop)
    (defaults : Members) : Prop where
  spelled : ∀ a, InBounds a → Spells (write a) (render (write a))
  read_back : ∀ a, InBounds a → ∀ text, Spells (write a) text → decodeText? decode text = some a
  omitted : ∀ m ∈ defaults, IsDefault decode m

theorem survives_of_carries {write : α → Json} {decode : Decoder α} {InBounds : α → Prop}
    (h : ∀ a, InBounds a → Carries depth decode (write a) a)
    (hOmitted : ∀ m ∈ defaults, IsDefault decode m) : Survives write decode InBounds defaults where
  spelled a ha := spells_render (h a ha).isDatum
  read_back a ha text hText := by
    rw [decodeText?, read_of_spells hText]
    simp only [(h a ha).decode_eq]
    rfl
  omitted := hOmitted

/-! ## Plain values -/

/-- Whether 64 bits hold the identifier. -/
def IsId (i : Int) : Prop := minId ≤ i ∧ i ≤ maxId

/-- Whether 32 bits hold the number. -/
def IsNumber (n : Nat) : Prop := n ≤ maxNumber

instance (i : Int) : Decidable (IsId i) := inferInstanceAs (Decidable (_ ∧ _))

instance (n : Nat) : Decidable (IsNumber n) := inferInstanceAs (Decidable (_ ≤ _))

theorem carries_id (h : IsId i) : Carries 0 asId (.integer i) i where
  isDatum := ⟨h.1, h.2.trans (by decide)⟩
  decode_eq := by
    have hBounds : (minId ≤ i && i ≤ maxId) = true := by simpa [IsId] using h
    rw [asId, intBetween, if_pos hBounds]

theorem carries_number (h : IsNumber n) : Carries 0 asNumber (ofNat n) n where
  isDatum := by
    rw [IsNumber, maxNumber] at h
    constructor
    · rw [minId]; omega
    · rw [maxCount]; omega
  decode_eq := by
    have hBounds : (0 ≤ (n : Int) && (n : Int) ≤ maxNumber) = true := by
      simpa [IsNumber] using h
    rw [asNumber, ofNat, intBetween, if_pos hBounds]
    rfl

theorem carries_string (s : String) : Carries 0 asString (string s) s := ⟨rfl, rfl⟩

theorem carries_bool (b : Bool) : Carries 0 asBool (.bool b) b := ⟨trivial, rfl⟩

theorem carries_option {encode : α → Json} {decode : Decoder α} {o : Option α}
    (hSome : ∀ a, encode a ≠ .null) (h : ∀ a ∈ o, Carries depth decode (encode a) a) :
    Carries depth (asOption decode) (ofOption encode o) o := by
  cases o with
  | none => exact ⟨trivial, rfl⟩
  | some a =>
    obtain ⟨hDatum, hDecode⟩ := h a rfl
    refine ⟨hDatum, ?_⟩
    rw [ofOption, asOption.eq_def]
    split
    case h_1 hNull => exact absurd hNull (hSome a)
    case h_2 => rw [hDecode]; rfl

theorem decodeItems_map {encode : α → Json} {decode : Decoder α} {xs : List α}
    (h : ∀ x ∈ xs, decode (encode x) = .ok x) : decodeItems decode (xs.map encode) = .ok xs := by
  induction xs with
  | nil => rfl
  | cons x xs ih =>
    obtain ⟨hHead, hTail⟩ := List.forall_mem_cons.mp h
    rw [List.map_cons, decodeItems, hHead, ih hTail]
    rfl

theorem carries_list {encode : α → Json} {decode : Decoder α} {xs : List α}
    (h : ∀ x ∈ xs, Carries depth decode (encode x) x) :
    Carries (depth + 1) (asList decode) (ofList encode xs) xs where
  isDatum := by
    refine ⟨Nat.succ_pos _, areData_iff.mpr fun value hValue => ?_⟩
    obtain ⟨x, hx, rfl⟩ := List.mem_map.mp hValue
    exact (h x hx).isDatum
  decode_eq := decodeItems_map fun x hx => (h x hx).decode_eq

/-! ## Records -/

/-- Whether the member is what a field is written as. -/
structure IsWritten (depth : Nat) (check : RecordField.Check) (m : String × Json) : Prop where
  takes : check.Takes m
  isDatum : IsDatum depth m.2

theorem Carries.written {f : RecordField α} (h : Carries depth f.decode value a) :
    IsWritten depth f.check (f.name, value) :=
  ⟨RecordField.check_takes h.decode_eq, h.isDatum⟩

variable {checks : List RecordField.Check} {members : Members}

theorem forall₂_takes (h : List.Forall₂ (IsWritten depth) checks members) :
    List.Forall₂ RecordField.Check.Takes checks members :=
  h.imp fun _ _ hWritten => hWritten.takes

theorem isDatum_ofMembers (h : ∀ m ∈ members, IsDatum depth m.2) :
    IsDatum (depth + 1) (ofMembers members) := by
  refine ⟨Nat.succ_pos _, areMembers_iff.mpr fun m hm => ?_⟩
  obtain ⟨m, hMem, rfl⟩ := List.mem_map.mp hm
  exact ⟨rfl, h m hMem⟩

theorem isDatum_of_written (h : List.Forall₂ (IsWritten depth) checks members) :
    ∀ m ∈ members, IsDatum depth m.2 := by
  induction h with
  | nil => exact List.forall_mem_nil _
  | cons hHead _ ih => exact List.forall_mem_cons.mpr ⟨hHead.isDatum, ih⟩

/-- A record with one member for each field carries what its fields make. -/
theorem carries_record {make : Members → Except Flaw α}
    (hNames : (checks.map RecordField.Check.name).Nodup)
    (hWritten : List.Forall₂ (IsWritten depth) checks members) (hMake : make members = .ok a) :
    Carries (depth + 1) (fun j => j.record checks >>= make) (ofMembers members) a where
  isDatum := isDatum_ofMembers (isDatum_of_written hWritten)
  decode_eq := by
    rw [record_ofMembers hNames (forall₂_takes hWritten)]
    exact hMake

/-- A member can be left out if what is made of the members does not tell whether it is there. -/
theorem isDefault_of_overlooked {make : Members → Except Flaw α}
    (hFind : checks.find? (·.name == key) = some check) (hFlaw : check.flaw value = none)
    (hMake : ∀ members supplied, IsSupplied key value members supplied →
      make members = make supplied) :
    IsDefault (fun j => j.record checks >>= make) (key, value) :=
  fun _ _ hPre hPost => (record_supply hFind hFlaw hPre hPost).bind_eq hMake

/-- A field that may be missing can be left out. -/
theorem isDefault_record {make : Members → Except Flaw α} (f : RecordField β)
    (hFind : checks.find? (·.name == f.name) = some f.check)
    (hAbsent : f.absent = some b) (hDecode : f.decode value = .ok b)
    (hMake : ∀ members supplied, IsSupplied f.name value members supplied →
      members.get f = supplied.get f → make members = make supplied) :
    IsDefault (fun j => j.record checks >>= make) (f.name, value) := by
  refine isDefault_of_overlooked hFind (RecordField.check_takes hDecode).2 ?_
  exact fun members supplied h => hMake members supplied h (h.get_of_absent f hAbsent hDecode)

end PollRoster.Json
