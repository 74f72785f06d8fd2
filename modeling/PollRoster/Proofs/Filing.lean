import PollRoster.Proofs.Counting

/-!
# What is filed and what is stored

All reading goes by a slot table that is filed from the list of assignments, and all writing by the
slots that the repository looks up itself. Over any list the table has the last assignment of each
slot; a repository never stores two, so there the two look-ups are one.

Main results:

* `isFiled_ofAssignments` — what a table has, over any list.
* `table_agrees` — the same beside what a repository finds that has come about by calls.
-/

namespace PollRoster

namespace SlotTable

/-- Whether a table has what a list of assignments says: the last one of each slot, and those of
each representative in their order. -/
structure IsFiled (t : SlotTable) (as : List Assignment) : Prop where
  occupant : ∀ sectionId role,
    IsLast (fun a => a.sectionId = sectionId ∧ a.role = role) as (t.occupant? sectionId role)
  held : ∀ representativeId,
    t.heldBy representativeId = as.filter (·.representativeId = representativeId)
  count : ∀ r : Representative, (t.heldBy r.id).length = r.sectionsHeld as

/-- Every list is filed, also one that repeats slots and identifiers. -/
theorem isFiled_ofAssignments (as : List Assignment) : (ofAssignments as).IsFiled as where
  occupant sectionId role := by
    have hLast := findLast?_isLast (fun a => a.sectionId = sectionId ∧ a.role = role) as
    rw [occupant?_ofAssignments]
    simpa only [Bool.decide_and] using hLast
  held representativeId := heldBy_ofAssignments as representativeId
  count r := by rw [heldBy_ofAssignments, Representative.sectionsHeld]

/-- **The table agrees with the list.** A table has what its list says, and over the assignments of
a repository that has come about by calls it has in each slot what the repository finds there. -/
theorem table_agrees :
    (∀ as : List Assignment, (ofAssignments as).IsFiled as) ∧
      ∀ l : Ledger, l.Reachable → ∀ sectionId role,
        (ofAssignments l.assignments).occupant? sectionId role = l.findSlot sectionId role :=
  ⟨isFiled_ofAssignments, fun _ hReachable sectionId role =>
    Ledger.occupant?_snapshot hReachable.orderly.slots sectionId role⟩

/-- A ledger after five calls, of which the second one is refused. -/
def reassigned : Ledger :=
  let calls : List RepositoryCall := [.insert 1 1 .primary, .insert 1 2 .primary,
    .insert 1 2 .alternate, .delete 1, .insert 1 3 .primary]
  calls.foldl (fun l c => (l.answer c).2) (.start (.ofData ⟨[], [], [], [], []⟩) [])

theorem reachable_reassigned : reassigned.Reachable :=
  .call (.insert 1 3 .primary) (.call (.delete 1) (.call (.insert 1 2 .alternate)
    (.call (.insert 1 2 .primary) (.call (.insert 1 1 .primary) (.start _ _)))))

/-- The primary of the section was exchanged, and both look-ups know the new one. -/
theorem table_agrees_reassigned :
    reassigned.Reachable ∧
      (ofAssignments reassigned.assignments).occupant? 1 .primary =
        reassigned.findSlot 1 .primary ∧
      reassigned.findSlot 1 .primary = some ⟨3, 1, 3, .primary⟩ :=
  ⟨reachable_reassigned, table_agrees.2 reassigned reachable_reassigned 1 .primary, by decide⟩

/-- Of two assignments of one slot under one identifier, the later one counts. -/
example : (ofAssignments [⟨1, 1, 1, .primary⟩, ⟨1, 1, 2, .primary⟩]).occupant? 1 .primary =
    some ⟨1, 1, 2, .primary⟩ := by decide

end SlotTable

end PollRoster
