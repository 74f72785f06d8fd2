import Mathlib.Data.List.Forall2
import Mathlib.Data.List.ReduceOption
import PollRoster.Proofs.Labels

/-!
# Narrowing a view

A needle restricts what is listed. Nodes are kept by their names. Of a building whose name or
address has the needle all rows are kept; of any other one those whose number has it, and a building
of which no row is left is not listed. To have a needle is a property of texts that no narrowing
changes, so needles can be applied again and in any order.

A blank needle occurs in every text and keeps everything by the same rule.

Main results:

* `Text.contains_iff` — what it is to contain a text.
* `BuildingView.leaves_narrow?`, `BuildingView.narrow?_comm` — what a needle leaves of a building,
  and what two of them leave.
* `Content.narrow_restricts` — the same of a view.
-/

namespace PollRoster

/-! ## Occurrence -/

namespace Text

theorem occursIn_iff {needle cs : List Char} : occursIn needle cs ↔ needle <:+: cs := by
  induction cs with
  | nil => rw [occursIn, List.isEmpty_iff, List.infix_nil]
  | cons c cs ih =>
    rw [occursIn, Bool.or_eq_true, List.isPrefixOf_iff_prefix, ih, List.infix_cons_iff]

/-- **Containing a text** is to have its characters next to each other. -/
theorem contains_iff {s needle : String} : contains s needle ↔ needle.toList <:+: s.toList :=
  occursIn_iff

theorem contains_empty (s : String) : contains s "" :=
  contains_iff.mpr (List.nil_infix)

end Text

/-- Whether a text has a needle, apart from letter case and the white space around the needle. -/
def HasNeedle (needle s : String) : Prop := (foldNeedle needle).toList <:+: (Text.toLower s).toList

instance (needle s : String) : Decidable (HasNeedle needle s) :=
  inferInstanceAs (Decidable (_ <:+: _))

theorem containsFolded_iff {needle s : String} :
    containsFolded s (foldNeedle needle) ↔ HasNeedle needle s := Text.contains_iff

/-- White space around a needle makes no difference to which texts have it. -/
theorem hasNeedle_surrounded {before after : String} (hBefore : Text.IsSpacing before.toList)
    (hAfter : Text.IsSpacing after.toList) {needle s : String} :
    HasNeedle (before ++ (needle ++ after)) s ↔ HasNeedle needle s := by
  rw [HasNeedle, foldNeedle_surrounded hBefore hAfter, HasNeedle]

/-- Apart from that white space, a text has a needle if it has it in lower case. -/
theorem hasNeedle_of_isTrimmed {needle s : String} (h : Text.IsTrimmed needle.toList) :
    HasNeedle needle s ↔ (Text.toLower needle).toList <:+: (Text.toLower s).toList := by
  rw [HasNeedle, foldNeedle_of_isTrimmed h]

/-- Whether the decimal number of a section has a needle. -/
def SectionRow.HasNumber (needle : String) (row : SectionRow) : Prop :=
  (foldNeedle needle).toList <:+: (toString row.pollingSection.number).toList

instance (needle : String) (row : SectionRow) : Decidable (row.HasNumber needle) :=
  inferInstanceAs (Decidable (_ <:+: _))

/-! ## Buildings -/

namespace BuildingView

/-- Whether the name or the address of a building has a needle. -/
def HasLabel (needle : String) (b : BuildingView) : Prop :=
  HasNeedle needle b.building.name ∨ HasNeedle needle b.building.address

/-- What a needle leaves of a building. -/
inductive Leaves (needle : String) (b : BuildingView) : Option BuildingView → Prop
  | whole (labelled : b.HasLabel needle) : Leaves needle b (some b)
  | part (unlabelled : ¬b.HasLabel needle)
      (found : ∃ row ∈ b.rows, row.HasNumber needle) :
      Leaves needle b (some { b with rows := b.rows.filter (·.HasNumber needle) })
  | nothing (unlabelled : ¬b.HasLabel needle)
      (notFound : ∀ row ∈ b.rows, ¬row.HasNumber needle) : Leaves needle b none

/-- Whether a building is another one without some of its rows. -/
def Restricts (b' b : BuildingView) : Prop :=
  b'.rows.Sublist b.rows ∧ b' = { b with rows := b'.rows }

/-- The building with the given rows, if there are any. -/
def withRows? (b : BuildingView) (rows : List SectionRow) : Option BuildingView :=
  if rows.isEmpty then none else some { b with rows := rows }

variable {needle : String} {b b' : BuildingView} {rows : List SectionRow}

theorem isNamed_iff : b.isNamed (foldNeedle needle) ↔ b.HasLabel needle := by
  rw [isNamed, Bool.or_eq_true, containsFolded_iff, containsFolded_iff]
  rfl

theorem narrow?_of_hasLabel (h : b.HasLabel needle) : b.narrow? (foldNeedle needle) = some b := by
  rw [narrow?, if_pos (isNamed_iff.mpr h)]

theorem narrow?_of_not_hasLabel (h : ¬b.HasLabel needle) :
    b.narrow? (foldNeedle needle) = b.withRows? (b.rows.filter (·.HasNumber needle)) := by
  have hNumbers : (fun row : SectionRow =>
      Text.contains (toString row.pollingSection.number) (foldNeedle needle)) =
        fun row => decide (row.HasNumber needle) :=
    funext fun row => Bool.eq_iff_iff.mpr (Text.contains_iff.trans decide_eq_true_iff.symm)
  rw [narrow?, if_neg (isNamed_iff.not.mpr h), hNumbers]
  rfl

/-- **What is left of a building.** -/
theorem leaves_narrow? (needle : String) (b : BuildingView) :
    b.Leaves needle (b.narrow? (foldNeedle needle)) := by
  by_cases hLabel : b.HasLabel needle
  · rw [narrow?_of_hasLabel hLabel]
    exact .whole hLabel
  · rw [narrow?_of_not_hasLabel hLabel, withRows?]
    split
    next hNone =>
      rw [List.isEmpty_iff, List.filter_eq_nil_iff] at hNone
      exact .nothing hLabel fun row hRow hNumber => hNone row hRow (decide_eq_true hNumber)
    next hSome =>
      rw [List.isEmpty_iff] at hSome
      obtain ⟨row, hRow⟩ := List.exists_mem_of_ne_nil _ hSome
      obtain ⟨hMem, hNumber⟩ := List.mem_filter.mp hRow
      exact .part hLabel ⟨row, hMem, of_decide_eq_true hNumber⟩

theorem Leaves.restricts (h : b.Leaves needle (some b')) : b'.Restricts b := by
  cases h with
  | whole => exact ⟨.refl _, rfl⟩
  | part => exact ⟨List.filter_sublist, rfl⟩

/-! ### Two needles -/

theorem withRows?_cons (b : BuildingView) (row : SectionRow) (rest : List SectionRow) :
    b.withRows? (row :: rest) = some { b with rows := row :: rest } := rfl

/-- A needle finds name and address as they were, whatever rows are left. -/
theorem bind_narrow?_of_hasLabel (h : b.HasLabel needle) :
    (b.withRows? rows).bind (narrow? (foldNeedle needle)) = b.withRows? rows := by
  cases rows with
  | nil => rfl
  | cons row rest =>
    rw [withRows?_cons, Option.bind_some]
    exact narrow?_of_hasLabel h

theorem bind_narrow?_of_not_hasLabel (h : ¬b.HasLabel needle) :
    (b.withRows? rows).bind (narrow? (foldNeedle needle)) =
      b.withRows? (rows.filter (·.HasNumber needle)) := by
  cases rows with
  | nil => rfl
  | cons row rest =>
    rw [withRows?_cons, Option.bind_some]
    exact narrow?_of_not_hasLabel h

theorem narrow?_idem (needle : String) (b : BuildingView) :
    (b.narrow? (foldNeedle needle)).bind (narrow? (foldNeedle needle)) =
      b.narrow? (foldNeedle needle) := by
  by_cases hLabel : b.HasLabel needle
  · rw [narrow?_of_hasLabel hLabel, Option.bind_some, narrow?_of_hasLabel hLabel]
  · rw [narrow?_of_not_hasLabel hLabel, bind_narrow?_of_not_hasLabel hLabel, List.filter_filter]
    simp only [Bool.and_self]

/-- **Needles in either order.** What one needle keeps as a whole is left to the other one, and of
rows that both look at those are left that have both. -/
theorem narrow?_comm (needle needle' : String) (b : BuildingView) :
    (b.narrow? (foldNeedle needle)).bind (narrow? (foldNeedle needle')) =
      (b.narrow? (foldNeedle needle')).bind (narrow? (foldNeedle needle)) := by
  by_cases hLabel : b.HasLabel needle
  -- the first needle keeps the building as it is, before the second one or after it
  · rw [narrow?_of_hasLabel hLabel, Option.bind_some]
    by_cases hLabel' : b.HasLabel needle'
    · rw [narrow?_of_hasLabel hLabel', Option.bind_some, narrow?_of_hasLabel hLabel]
    · rw [narrow?_of_not_hasLabel hLabel', bind_narrow?_of_hasLabel hLabel]
  · rw [narrow?_of_not_hasLabel hLabel]
    by_cases hLabel' : b.HasLabel needle'
    · rw [bind_narrow?_of_hasLabel hLabel', narrow?_of_hasLabel hLabel', Option.bind_some,
        narrow?_of_not_hasLabel hLabel]
    -- both look at the numbers, row by row
    · rw [bind_narrow?_of_not_hasLabel hLabel', narrow?_of_not_hasLabel hLabel',
        bind_narrow?_of_not_hasLabel hLabel, List.filter_comm]

end BuildingView

/-! ## Views -/

/-- What is left of a list, each member changed within `R`, is a restriction of the list. -/
theorem sublistForall₂_filterMap {R : β → α → Prop} {f : α → Option β}
    (h : ∀ x y, f x = some y → R y x) (xs : List α) : (xs.filterMap f).SublistForall₂ R xs := by
  induction xs with
  | nil => exact .nil
  | cons x xs ih =>
    rw [List.filterMap_cons]
    cases hx : f x with
    | none => exact .cons_right ih
    | some y => exact .cons (h x y hx) ih

namespace Content

/-- Whether what is listed is taken out of another list: some of the nodes, or some of the rows of
some of the buildings. -/
inductive Restricts : Content → Content → Prop
  | nodes {ns' ns : List Node} (some_of : ns'.Sublist ns) : Restricts (.nodes ns') (.nodes ns)
  | sections {bs' bs : List BuildingView}
      (some_of : bs'.SublistForall₂ BuildingView.Restricts bs) :
      Restricts (.sections bs') (.sections bs)

/-- What a needle leaves of what is listed. -/
inductive Leaves (needle : String) : Content → Content → Prop
  | nodes (ns : List Node) :
      Leaves needle (.nodes ns) (.nodes (ns.filter (HasNeedle needle ·.name)))
  | sections {bs : List BuildingView} {outcomes : List (Option BuildingView)}
      (each : List.Forall₂ (BuildingView.Leaves needle) bs outcomes) :
      Leaves needle (.sections bs) (.sections outcomes.reduceOption)

/-- A needle without characters is nowhere missing. -/
theorem containsFolded_of_isEmpty {needle : String} (h : (foldNeedle needle).isEmpty) (s : String) :
    containsFolded s (foldNeedle needle) := by
  rw [String.isEmpty_iff.mp h]
  exact Text.contains_empty _

theorem narrow_nodes (ns : List Node) (needle : String) :
    (nodes ns).narrow needle = .nodes (ns.filter (HasNeedle needle ·.name)) := by
  have hNames : (fun n : Node => containsFolded n.name (foldNeedle needle)) =
      fun n => decide (HasNeedle needle n.name) :=
    funext fun n => Bool.eq_iff_iff.mpr (containsFolded_iff.trans decide_eq_true_iff.symm)
  by_cases hBlank : (foldNeedle needle).isEmpty
  · have hAll : ns.filter (fun n => containsFolded n.name (foldNeedle needle)) = ns :=
      List.filter_eq_self.mpr fun n _ => containsFolded_of_isEmpty hBlank n.name
    rw [narrow, if_pos hBlank, ← hNames, hAll]
  · rw [narrow, if_neg hBlank, hNames]

theorem narrow_sections (bs : List BuildingView) (needle : String) :
    (sections bs).narrow needle =
      .sections (bs.filterMap (BuildingView.narrow? (foldNeedle needle))) := by
  by_cases hBlank : (foldNeedle needle).isEmpty
  · have hAll : BuildingView.narrow? (foldNeedle needle) = some := by
      refine funext fun b => BuildingView.narrow?_of_hasLabel (.inl ?_)
      exact containsFolded_iff.mp (containsFolded_of_isEmpty hBlank _)
    rw [narrow, if_pos hBlank, hAll, List.filterMap_some]
  · rw [narrow, if_neg hBlank]

theorem narrow_surrounded {before after : String} (hBefore : Text.IsSpacing before.toList)
    (hAfter : Text.IsSpacing after.toList) (c : Content) (needle : String) :
    c.narrow (before ++ (needle ++ after)) = c.narrow needle := by
  unfold narrow
  rw [foldNeedle_surrounded hBefore hAfter]

theorem leaves_narrow (needle : String) (c : Content) : c.Leaves needle (c.narrow needle) := by
  cases c with
  | nodes ns =>
    rw [narrow_nodes]
    exact .nodes ns
  | sections bs =>
    have hEach : List.Forall₂ (BuildingView.Leaves needle) bs
        (bs.map (BuildingView.narrow? (foldNeedle needle))) :=
      List.forall₂_map_right_iff.mpr
        (List.forall₂_same.mpr fun b _ => BuildingView.leaves_narrow? needle b)
    have hLeft : (bs.map (BuildingView.narrow? (foldNeedle needle))).reduceOption =
        bs.filterMap (BuildingView.narrow? (foldNeedle needle)) := by
      rw [List.reduceOption, List.filterMap_map, Function.id_comp]
    rw [narrow_sections, ← hLeft]
    exact .sections hEach

/-- **Narrowing restricts.** A needle takes entries out of a view and changes none of them, in the
way that `Leaves` says. To apply it again changes nothing, and two needles may be applied in either
order. -/
theorem narrow_restricts (c : Content) (a b : String) :
    (c.narrow a).Restricts c ∧ c.Leaves a (c.narrow a) ∧ (c.narrow a).narrow a = c.narrow a ∧
      (c.narrow b).narrow a = (c.narrow a).narrow b := by
  refine ⟨?_, leaves_narrow a c, ?_⟩
  · cases c with
    | nodes ns =>
      rw [narrow_nodes]
      exact .nodes List.filter_sublist
    | sections bs =>
      rw [narrow_sections]
      refine .sections (sublistForall₂_filterMap (fun x y hxy => ?_) bs)
      have hLeaves := BuildingView.leaves_narrow? a x
      rw [hxy] at hLeaves
      exact hLeaves.restricts
  · cases c with
    | nodes ns =>
      simp only [narrow_nodes, List.filter_filter, Bool.and_self, true_and]
      rw [← List.filter_filter, List.filter_comm, List.filter_filter]
    | sections bs =>
      simp only [narrow_sections, List.filterMap_filterMap, BuildingView.narrow?_idem, true_and]
      rw [funext (BuildingView.narrow?_comm b a)]

end Content

end PollRoster
