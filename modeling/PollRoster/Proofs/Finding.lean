import PollRoster.Proofs.LetterCase
import PollRoster.Proofs.Narrowing
import PollRoster.Proofs.Search

/-!
# What a needle finds

Nodes, buildings and representatives are looked for by one rule: the lower case of the needle has to
occur in the lower case of the text. A text that contains the needle as it is written should be
found, and is found unless a capital sigma comes in between. At the end of the needle it may be
final while the word goes on in the text, and then its two lower cases differ.

Nothing else is lost. Which needles find every text that contains them can be told from the needle
alone.

Main results:

* `finds_iff` — one rule for all that is looked for.
* `finds_of_contains` — a needle without a capital sigma finds every text that contains it.
* `finds_contained_iff` — which texts and which needles the sigmas leave alone.
-/

namespace PollRoster

/-- Whether a needle finds a text. It keeps a node of that name, and as a whole a building with that
name or address; and a search lists a representative with that name or email in each scope that the
representative is declared in. -/
structure Finds (needle text : String) : Prop where
  node : ∀ ns : List Node, ∀ n ∈ ns, n.name = text →
    ∃ ns', (Content.nodes ns).narrow needle = .nodes ns' ∧ n ∈ ns'
  building : ∀ bs : List BuildingView, ∀ b ∈ bs,
    b.building.name = text ∨ b.building.address = text →
      ∃ bs', (Content.sections bs).narrow needle = .sections bs' ∧ b ∈ bs'
  representative : ∀ (s : Snapshot) (scope k : Scope), s.territory.resolve scope = .ok k →
    ∀ r ∈ s.representatives, s.declaredWithin k r → r.fullName = text ∨ r.email = text →
      ∃ found, s.search scope (some needle) = .ok found ∧ s.summary s.slots r ∈ found

variable {needle text : String}

/-! ## One rule -/

theorem hasNeedle_iff : HasNeedle needle text ↔
    Text.lowerFrom [] (Text.trim needle).toList <:+: Text.lowerFrom [] text.toList := by
  rw [HasNeedle, foldNeedle, Text.toLower, Text.toLower, String.toList_ofList, String.toList_ofList]

theorem matchesText_iff {r : Representative} : r.matchesText (Text.trim needle) ↔
    HasNeedle needle r.fullName ∨ HasNeedle needle r.email := by
  rw [Representative.matchesText, Bool.or_eq_true, Text.contains_iff, Text.contains_iff]
  rfl

/-- Whose name or email has the needle meets the filter of a search. -/
theorem meets_of_hasNeedle {r : Representative}
    (h : HasNeedle needle r.fullName ∨ HasNeedle needle r.email) :
    (Snapshot.needle? (some needle)).all r.matchesText := by
  rw [Snapshot.needle?, Option.map_some, Option.filter_some]
  split
  · rw [Option.all_some]
    exact matchesText_iff.mpr h
  -- a blank needle asks for nothing
  · rfl

/-- **One rule** for all that is looked for. -/
theorem finds_iff : Finds needle text ↔ HasNeedle needle text := by
  constructor
  -- any node of that name tells
  · intro h
    let n : Node := ⟨.region, .root, 1, text, ⟨0, 0, 0, 0⟩⟩
    obtain ⟨ns', hNarrowed, hKept⟩ := h.node [n] n List.mem_cons_self rfl
    rw [Content.narrow_nodes, Content.nodes.injEq] at hNarrowed
    rw [← hNarrowed, List.mem_filter] at hKept
    exact of_decide_eq_true hKept.2
  · refine fun h => ⟨?_, ?_, ?_⟩
    · rintro ns n hn rfl
      exact ⟨_, Content.narrow_nodes ns needle, List.mem_filter.mpr ⟨hn, decide_eq_true h⟩⟩
    · intro bs b hb hText
      refine ⟨_, Content.narrow_sections bs needle, List.mem_filterMap.mpr ⟨b, hb, ?_⟩⟩
      refine BuildingView.narrow?_of_hasLabel ?_
      rcases hText with rfl | rfl
      · exact .inl h
      · exact .inr h
    · intro s scope k hResolve r hr hWithin hText
      refine ⟨_, Snapshot.search_of_resolve hResolve _, Snapshot.mem_found.mpr
        ⟨hWithin, hr, meets_of_hasNeedle ?_, rfl⟩⟩
      rcases hText with rfl | rfl
      · exact .inl h
      · exact .inr h

/-- White space typed around a needle changes nothing about what it finds. -/
theorem finds_surrounded {before after : String} (hBefore : Text.IsSpacing before.toList)
    (hAfter : Text.IsSpacing after.toList) :
    Finds (before ++ (needle ++ after)) text ↔ Finds needle text := by
  rw [finds_iff, finds_iff, hasNeedle_surrounded hBefore hAfter]

/-! ## Texts that contain the needle -/

/-- **Without a capital sigma** a needle finds every text that contains it. -/
theorem finds_of_contains (hSigma : 'Σ' ∉ (Text.trim needle).toList)
    (h : Text.contains text (Text.trim needle)) : Finds needle text :=
  finds_iff.mpr (hasNeedle_iff.mpr (Text.lower_infix_of_not_mem hSigma (Text.contains_iff.mp h)))

/-- **Which texts are found.** A needle finds a text that contains it somewhere with the same
capital sigmas final. It finds all texts that contain it exactly if its own characters settle, for
each of its capital sigmas, whether it is final. -/
theorem finds_contained_iff (needle : String) :
    (∀ text before after, text.toList = before ++ ((Text.trim needle).toList ++ after) →
      Text.KeepsSigmas before.reverse (Text.trim needle).toList after → Finds needle text) ∧
    ((∀ text, Text.contains text (Text.trim needle) → Finds needle text) ↔
      Text.EachSigma Text.IsSettled [] (Text.trim needle).toList) := by
  refine ⟨fun text before after hText hKept => ?_, ?_⟩
  · rw [finds_iff, hasNeedle_iff, hText]
    exact hKept.lower_infix
  · rw [← Text.lower_infix_iff]
    constructor
    · intro hAll cs hContains
      have hFinds := hAll (String.ofList cs)
        (Text.contains_iff.mpr (by rwa [String.toList_ofList]))
      rwa [finds_iff, hasNeedle_iff, String.toList_ofList] at hFinds
    · intro hAll text hContains
      exact finds_iff.mpr (hasNeedle_iff.mpr (hAll _ (Text.contains_iff.mp hContains)))

/-- The first letters of a name need not find it: at their end the sigma is final, within the name
it is not. -/
theorem kas_misses_kasos :
    Text.trim "ΚΑΣ" = "ΚΑΣ" ∧ Text.contains "ΚΑΣΟΣ" "ΚΑΣ" ∧
    (Content.nodes [⟨.municipality, .ofMunicipality 1, 1, "ΚΑΣΟΣ", ⟨0, 0, 0, 0⟩⟩]).narrow "ΚΑΣ" =
      .nodes [] ∧ ¬Finds "ΚΑΣ" "ΚΑΣΟΣ" := by
  refine ⟨by decide +kernel, by decide +kernel, by decide +kernel, ?_⟩
  rw [finds_iff]
  decide +kernel

end PollRoster
