import Mathlib.Data.List.Nodup
import PollRoster.Json.Decode

/-!
# The members of a record

A record is read from the members of an object. The members that a record is written with are taken
as they are, and a member that may be missing stands for the value that it would otherwise have.

Main results:

* `record_ofMembers` — an object with one member for each field is read as its members.
* `record_supply` — a missing member is read as the one that stands for it.
* `nestedRecord_supply` — so it is where the fields of one record stand among those of another.
-/

namespace PollRoster.Json

variable {checks outer inner : List RecordField.Check} {members seen : Members}

/-! ## Members as they are written -/

/-- The members of an object with one of the given members each. -/
def keyed (members : Members) : List (Option String × Json) :=
  members.map fun (key, value) => (some key, value)

/-- Whether the member is one of the field that is checked. -/
def RecordField.Check.Takes (check : RecordField.Check) (m : String × Json) : Prop :=
  check.name = m.1 ∧ check.flaw m.2 = none

theorem RecordField.check_takes {f : RecordField α} (h : f.decode j = .ok a) :
    f.check.Takes (f.name, j) := by
  refine ⟨rfl, ?_⟩
  simp only [check, h]

/-- The field of a name is found where no two fields have the same name. -/
theorem find?_name (hNames : (checks.map RecordField.Check.name).Nodup) (h : check ∈ checks) :
    checks.find? (·.name == check.name) = some check := by
  cases hFind : checks.find? (·.name == check.name) with
  | none => exact absurd (List.find?_eq_none.mp hFind check h) (by simp)
  | some found =>
    have hName : found.name = check.name := by simpa using List.find?_some hFind
    rw [List.inj_on_of_nodup_map hNames (List.mem_of_find?_eq_some hFind) h hName]

theorem lookup_eq_none {seen : Members} (h : key ∉ seen.map Prod.fst) : seen.lookup key = none := by
  rw [List.lookup_eq_none_iff]
  intro m hm
  simpa using fun hKey => h (List.mem_map.mpr ⟨m, hm, hKey.symm⟩)

/-- Members of which each is one of some field are read in the order in which they stand. -/
theorem readMembers_keyed (hNames : (checks.map RecordField.Check.name).Nodup)
    (hKeys : ((seen ++ members).map Prod.fst).Nodup)
    (hTaken : ∀ m ∈ members, ∃ check ∈ checks, check.Takes m) (passes : Json → Bool) :
    readMembers checks passes seen (keyed members) = .ok (seen ++ members) := by
  induction members generalizing seen with
  | nil => rw [List.append_nil]; rfl
  | cons m members ih =>
    obtain ⟨⟨check, hCheck, hName, hFlaw⟩, hTail⟩ := List.forall_mem_cons.mp hTaken
    have hFind := find?_name hNames hCheck
    have hNew : seen.lookup m.1 = none := by
      refine lookup_eq_none fun hMem => ?_
      rw [List.map_append, List.map_cons] at hKeys
      exact List.disjoint_of_nodup_append hKeys hMem List.mem_cons_self
    have hSplit : seen ++ m :: members = (seen ++ [m]) ++ members := by simp
    rw [hSplit] at hKeys ⊢
    rw [hName] at hFind
    rw [keyed, List.map_cons, readMembers, hFind]
    simp only [hNew, hFlaw, Option.isSome_none, Bool.false_eq_true, if_false]
    exact ih hKeys hTail

theorem map_fst_of_takes (h : List.Forall₂ RecordField.Check.Takes checks members) :
    members.map Prod.fst = checks.map RecordField.Check.name := by
  induction h with
  | nil => rfl
  | cons hHead _ ih => rw [List.map_cons, List.map_cons, ih, hHead.1]

theorem exists_takes (h : List.Forall₂ RecordField.Check.Takes checks members) :
    ∀ m ∈ members, ∃ check ∈ checks, check.Takes m := by
  induction h with
  | nil => exact List.forall_mem_nil _
  | cons hHead _ ih =>
    refine List.forall_mem_cons.mpr ⟨⟨_, List.mem_cons_self, hHead⟩, fun m hm => ?_⟩
    obtain ⟨check, hCheck, hTakes⟩ := ih m hm
    exact ⟨check, List.mem_cons_of_mem _ hCheck, hTakes⟩

/-- One member for each field, in the order of the fields, is read as it stands. -/
theorem readMembers_of_takes (hNames : (checks.map RecordField.Check.name).Nodup)
    (h : List.Forall₂ RecordField.Check.Takes checks members) (passes : Json → Bool) :
    readMembers checks passes [] (keyed members) = .ok members :=
  readMembers_keyed hNames (by rwa [List.nil_append, map_fst_of_takes h]) (exists_takes h) passes

/-- An object with one member for each field is read as its members. -/
theorem record_ofMembers (hNames : (checks.map RecordField.Check.name).Nodup)
    (h : List.Forall₂ RecordField.Check.Takes checks members) :
    record checks (ofMembers members) = .ok members :=
  readMembers_of_takes hNames h isWhole

/-! ## Fields -/

namespace RecordField

variable (name : String) (decode : Decoder α) (absent : α)

@[simp] theorem decode_required : (required name decode).decode = decode := rfl

@[simp] theorem decode_optional : (optional name decode).decode = asOption decode := rfl

@[simp] theorem decode_withDefault : (withDefault name decode absent).decode = decode := rfl

end RecordField

@[simp] theorem Members.get_cons_self {f : RecordField α} (hName : f.name = key) :
    Members.get ((key, value) :: members) f = f.decode value := by
  rw [Members.get, hName, List.lookup_cons_self]

@[simp] theorem Members.get_cons_of_ne {f : RecordField α} (hName : f.name ≠ key) :
    Members.get ((key, value) :: members) f = members.get f := by
  rw [Members.get, Members.get, List.lookup_cons, beq_false_of_ne hName]

/-! ## Members that are missing -/

/-- Whether two readings fail with the same flaw or give results that are related by `R`. -/
inductive Alike (R : α → β → Prop) : Except Flaw α → Except Flaw β → Prop
  | error (flaw : Flaw) : Alike R (.error flaw) (.error flaw)
  | ok (h : R a b) : Alike R (.ok a) (.ok b)

theorem Alike.bind_eq (h : Alike R x y) (hNext : ∀ a b, R a b → f a = g b) :
    x >>= f = y >>= g := by
  cases h with
  | error flaw => rfl
  | ok h => exact hNext _ _ h

theorem Alike.bind (h : Alike R x y) (hNext : ∀ a b, R a b → Alike S (f a) (g b)) :
    Alike S (x >>= f) (y >>= g) := by
  cases h with
  | error flaw => exact .error flaw
  | ok h => exact hNext _ _ h

theorem Alike.refl {R : α → α → Prop} (h : ∀ a, R a a) (x : Except Flaw α) : Alike R x x := by
  cases x with
  | error flaw => exact .error flaw
  | ok a => exact .ok (h a)

theorem Alike.whenKept (h : Alike R x y) : Alike R (whenKept x) (whenKept y) := by
  cases h with
  | error => exact .error _
  | ok h => exact .ok h

/-- Whether `supplied` are the given members with one more, `value` for a key that they lack. -/
structure IsSupplied (key : String) (value : Json) (members supplied : Members) : Prop where
  missing : members.lookup key = none
  there : supplied.lookup key = some value
  others : ∀ other, other ≠ key → members.lookup other = supplied.lookup other

namespace IsSupplied

/-- A field reads the same without the member that is its value when it is missing. -/
theorem get_of_absent (f : RecordField α) (h : IsSupplied f.name value members supplied)
    (hAbsent : f.absent = some a) (hDecode : f.decode value = .ok a) :
    members.get f = supplied.get f := by
  rw [Members.get, Members.get, h.missing, h.there]
  simp only [hAbsent, hDecode]

theorem get_of_ne (h : IsSupplied key value members supplied) {f : RecordField α}
    (hName : f.name ≠ key) : members.get f = supplied.get f := by
  rw [Members.get, Members.get, h.others _ hName]

theorem of_missing (h : members.lookup key = none) (value : Json) :
    IsSupplied key value members (members ++ [(key, value)]) where
  missing := h
  there := by rw [List.lookup_append, h, Option.none_or, List.lookup_cons_self]
  others other hOther := by
    have hLast : List.lookup other [(key, value)] = none := by
      rw [List.lookup_cons, beq_false_of_ne hOther]
      rfl
    rw [List.lookup_append, hLast, Option.or_none]

theorem append (h : IsSupplied key value members supplied) (hOther : other ≠ key) (j : Json) :
    IsSupplied key value (members ++ [(other, j)]) (supplied ++ [(other, j)]) where
  missing := by
    have hLast : List.lookup key [(other, j)] = none := by
      rw [List.lookup_cons, beq_false_of_ne hOther.symm]
      rfl
    rw [List.lookup_append, h.missing, hLast]
    rfl
  there := by rw [List.lookup_append, h.there, Option.some_or]
  others name hName := by rw [List.lookup_append, List.lookup_append, h.others name hName]

end IsSupplied

/-- Whether no member has the key. -/
def Lacks (key : String) (members : List (Option String × Json)) : Prop :=
  some key ∉ members.map Prod.fst

theorem lacks_cons : Lacks key (m :: rest) ↔ m.1 ≠ some key ∧ Lacks key rest := by
  rw [Lacks, Lacks, List.map_cons, List.mem_cons, not_or, ne_comm]

/-- Members that are read behind a supplied one make no difference to it. -/
theorem readMembers_after (h : IsSupplied key value seen supplied) (hPost : Lacks key post) :
    Alike (IsSupplied key value) (readMembers checks passes seen post)
      (readMembers checks passes supplied post) := by
  induction post generalizing seen supplied with
  | nil => exact .ok h
  | cons m post ih =>
    obtain ⟨hKey, hRest⟩ := lacks_cons.mp hPost
    obtain ⟨name, j⟩ := m
    cases name with
    | none => exact .error _
    | some name =>
      have hOther : name ≠ key := fun hSame => hKey (congrArg some hSame)
      rw [readMembers, readMembers, h.others name hOther]
      cases checks.find? (·.name == name) with
      | none =>
        cases passes j with
        | true => exact ih h hRest
        | false => exact .error _
      | some check =>
        cases (supplied.lookup name).isSome with
        | true => exact .error _
        | false =>
          dsimp only
          cases check.flaw j with
          | some flaw => exact .error flaw
          | none => exact ih (h.append hOther j) hRest

/-- A missing member is read as the one that stands for it. -/
theorem readMembers_supply (hFind : checks.find? (·.name == key) = some check)
    (hFlaw : check.flaw value = none) (hSeen : seen.lookup key = none) (hPre : Lacks key pre)
    (hPost : Lacks key post) :
    Alike (IsSupplied key value) (readMembers checks passes seen (pre ++ post))
      (readMembers checks passes seen (pre ++ (some key, value) :: post)) := by
  induction pre generalizing seen with
  | nil =>
    have hThere : readMembers checks passes seen ((some key, value) :: post) =
        readMembers checks passes (seen ++ [(key, value)]) post := by
      rw [readMembers, hFind]
      simp only [hSeen, hFlaw, Option.isSome_none, Bool.false_eq_true, if_false]
    rw [List.nil_append, List.nil_append, hThere]
    exact readMembers_after (.of_missing hSeen value) hPost
  | cons m pre ih =>
    obtain ⟨hKey, hRest⟩ := lacks_cons.mp hPre
    obtain ⟨name, j⟩ := m
    cases name with
    | none => exact .error _
    | some name =>
      have hOther : key ≠ name := fun hSame => hKey (congrArg some hSame.symm)
      rw [List.cons_append, List.cons_append, readMembers, readMembers]
      cases checks.find? (·.name == name) with
      | none =>
        cases passes j with
        | true => exact ih hSeen hRest
        | false => exact .error _
      | some other =>
        cases (seen.lookup name).isSome with
        | true => exact .error _
        | false =>
          dsimp only
          cases other.flaw j with
          | some flaw => exact .error flaw
          | none =>
            refine ih ?_ hRest
            rw [List.lookup_append, hSeen, Option.none_or, List.lookup_cons, beq_false_of_ne hOther]
            rfl

theorem record_supply (hFind : checks.find? (·.name == key) = some check)
    (hFlaw : check.flaw value = none) (hPre : Lacks key pre) (hPost : Lacks key post) :
    Alike (IsSupplied key value) (record checks (.object (pre ++ post)))
      (record checks (.object (pre ++ (some key, value) :: post))) :=
  readMembers_supply hFind hFlaw rfl hPre hPost

/-! ## Members of a record among those of another -/

/-- The members that are none of the given fields. -/
def others (checks : List RecordField.Check) (members : List (Option String × Json)) :
    List (Option String × Json) :=
  members.filter fun m => m.1.all fun name => (checks.find? (·.name == name)).isNone

/-- Splitting a record reads its own members and keeps the others. -/
theorem splitMembers_eq (kept rest : List (Option String × Json)) :
    splitMembers checks seen kept rest =
      (readMembers checks (isKeepable keepableDepth) seen rest).map fun own =>
        (own, kept ++ others checks rest) := by
  induction rest generalizing seen kept with
  | nil => rw [others, List.filter_nil, List.append_nil]; rfl
  | cons m rest ih =>
    obtain ⟨name, j⟩ := m
    cases name with
    | none => rfl
    | some name =>
      rw [splitMembers, readMembers, others, List.filter_cons, ← others]
      cases hFind : checks.find? (·.name == name) with
      | none =>
        cases isKeepable keepableDepth j with
        | true => simpa [hFind] using ih (kept ++ [(some name, j)])
        | false => rfl
      | some check =>
        cases (seen.lookup name).isSome with
        | true => rfl
        | false =>
          dsimp only
          cases check.flaw j with
          | some flaw => rfl
          | none => simpa [hFind] using ih kept

theorem nestedRecord_object (rest : List (Option String × Json)) :
    nestedRecord outer inner (.object rest) = do
      let own ← readMembers outer (isKeepable keepableDepth) [] rest
      let nested ← whenKept (readMembers inner (fun _ => true) [] (others outer rest))
      return (own, nested) := by
  rw [nestedRecord, splitMembers_eq]
  cases readMembers outer (isKeepable keepableDepth) [] rest <;> rfl

/-- A member that is none of the fields is passed over. -/
theorem readMembers_insert {passes : Json → Bool}
    (hFind : checks.find? (·.name == key) = none) (hPasses : passes value)
    (pre post : List (Option String × Json)) :
    readMembers checks passes seen (pre ++ (some key, value) :: post) =
      readMembers checks passes seen (pre ++ post) := by
  induction pre generalizing seen with
  | nil =>
    rw [List.nil_append, List.nil_append, readMembers, hFind]
    simp only [hPasses, if_true]
  | cons m pre ih =>
    obtain ⟨name, j⟩ := m
    cases name with
    | none => rfl
    | some name =>
      rw [List.cons_append, List.cons_append, readMembers, readMembers]
      cases checks.find? (·.name == name) with
      | none => simp only [ih]
      | some => simp only [ih]

theorem readMembers_append_keyed {passes : Json → Bool}
    (h : ∀ m ∈ members, checks.find? (·.name == m.1) = none ∧ passes m.2)
    (rest : List (Option String × Json)) :
    readMembers checks passes seen (keyed members ++ rest) =
      readMembers checks passes seen rest := by
  induction members with
  | nil => rfl
  | cons m members ih =>
    obtain ⟨⟨hFind, hPasses⟩, hTail⟩ := List.forall_mem_cons.mp h
    exact (readMembers_insert hFind hPasses [] _).trans (ih hTail)

theorem others_append (front back : List (Option String × Json)) :
    others checks (front ++ back) = others checks front ++ others checks back :=
  List.filter_append ..

theorem others_keyed_of_none (h : ∀ m ∈ members, checks.find? (·.name == m.1) = none) :
    others checks (keyed members) = keyed members := by
  refine List.filter_eq_self.mpr fun m hm => ?_
  obtain ⟨m, hMem, rfl⟩ := List.mem_map.mp hm
  simp [h m hMem]

theorem others_keyed_of_takes (hNames : (checks.map RecordField.Check.name).Nodup)
    (h : ∀ m ∈ members, ∃ check ∈ checks, check.Takes m) : others checks (keyed members) = [] := by
  refine List.filter_eq_nil_iff.mpr fun m hm => ?_
  obtain ⟨m, hMem, rfl⟩ := List.mem_map.mp hm
  obtain ⟨check, hCheck, hName, -⟩ := h m hMem
  have hFind := find?_name hNames hCheck
  rw [hName] at hFind
  simp [hFind]

theorem lacks_others (checks : List RecordField.Check) (h : Lacks key rest) :
    Lacks key (others checks rest) :=
  fun hMem => h (List.map_subset _ (List.filter_subset_self _) hMem)

/-- An object with the members of the inner record in front of those of the outer one is read as
the two. -/
theorem nestedRecord_ofMembers {own nested : Members}
    (hOuterNames : (outer.map RecordField.Check.name).Nodup)
    (hInnerNames : (inner.map RecordField.Check.name).Nodup)
    (hOwn : List.Forall₂ RecordField.Check.Takes outer own)
    (hNested : List.Forall₂ RecordField.Check.Takes inner nested)
    (hApart : ∀ m ∈ nested, outer.find? (·.name == m.1) = none ∧ isKeepable keepableDepth m.2) :
    nestedRecord outer inner (ofMembers (nested ++ own)) = .ok (own, nested) := by
  have hSplit : ofMembers (nested ++ own) = .object (keyed nested ++ keyed own) :=
    congrArg Json.object List.map_append
  rw [hSplit, nestedRecord_object, readMembers_append_keyed hApart,
    readMembers_of_takes hOuterNames hOwn, others_append,
    others_keyed_of_none fun m hm => (hApart m hm).1,
    others_keyed_of_takes hOuterNames (exists_takes hOwn), List.append_nil]
  simp only [bind, Except.bind, readMembers_of_takes hInnerNames hNested]
  rfl

/-- A missing member of the outer record is read as the one that stands for it. -/
theorem nestedRecord_supply_own (hFind : outer.find? (·.name == key) = some check)
    (hFlaw : check.flaw value = none) (hPre : Lacks key pre) (hPost : Lacks key post) :
    Alike (fun x y => IsSupplied key value x.1 y.1 ∧ x.2 = y.2)
      (nestedRecord outer inner (.object (pre ++ post)))
      (nestedRecord outer inner (.object (pre ++ (some key, value) :: post))) := by
  have hOthers : others outer (pre ++ (some key, value) :: post) = others outer (pre ++ post) := by
    rw [others_append, others_append]
    congr 1
    simp [others, hFind]
  rw [nestedRecord_object, nestedRecord_object, hOthers]
  refine (readMembers_supply hFind hFlaw rfl hPre hPost).bind fun own supplied hOwn => ?_
  exact (Alike.refl (fun _ => rfl) _).bind fun _ _ hNested => .ok ⟨hOwn, hNested⟩

/-- A missing member of the inner record is read as the one that stands for it. -/
theorem nestedRecord_supply_nested (hOuter : outer.find? (·.name == key) = none)
    (hKeepable : isKeepable keepableDepth value) (hFind : inner.find? (·.name == key) = some check)
    (hFlaw : check.flaw value = none) (hPre : Lacks key pre) (hPost : Lacks key post) :
    Alike (fun x y => x.1 = y.1 ∧ IsSupplied key value x.2 y.2)
      (nestedRecord outer inner (.object (pre ++ post)))
      (nestedRecord outer inner (.object (pre ++ (some key, value) :: post))) := by
  have hOthers : others outer (pre ++ (some key, value) :: post) =
      others outer pre ++ (some key, value) :: others outer post := by
    rw [others_append]
    simp [others, hOuter]
  rw [nestedRecord_object, nestedRecord_object, hOthers, readMembers_insert hOuter hKeepable,
    others_append]
  refine (Alike.refl (fun _ => rfl) _).bind fun _ _ hOwn => ?_
  have hNested : Alike (IsSupplied key value)
      (readMembers inner (fun _ => true) [] (others outer pre ++ others outer post))
      (readMembers inner (fun _ => true) []
        (others outer pre ++ (some key, value) :: others outer post)) :=
    readMembers_supply hFind hFlaw rfl (lacks_others outer hPre) (lacks_others outer hPost)
  exact hNested.whenKept.bind fun _ _ hSupplied => .ok ⟨hOwn, hSupplied⟩

end PollRoster.Json
