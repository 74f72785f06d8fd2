import PollRoster.Building
import PollRoster.Proofs.Words
import PollRoster.View

/-!
# Labels and needles

Names and addresses are written by hand, so they are compared by their labels: a label is what the
words are in upper case, and tells nothing of the white space between and around them. A needle is
typed by an operator. Only the white space around it is passed over, since that between its words is
looked for.

Main results:

* `words_normalizeLabel`, `normalizeLabel_eq_iff` — what a label keeps of a text.
* `normalizeLabel_gap`, `normalizeLabel_surrounded` — what it leaves out.
* `BuildingKey.ofSection_eq_iff_sameWords` — which sections have one building.
* `foldNeedle_surrounded`, `foldNeedle_of_isTrimmed` — what is looked for.
-/

namespace PollRoster

open Text (words toUpper trim toLower IsSpacing IsTrimmed)

/-! ## Labels -/

/-- Whether two texts have the same words, up to letter case. -/
def SameWords (s t : String) : Prop := (words s).map toUpper = (words t).map toUpper

instance (s t : String) : Decidable (SameWords s t) := inferInstanceAs (Decidable (_ = _))

/-- A label is made of the words in upper case, joined by single blanks. -/
theorem normalizeLabel_eq (s : String) :
    normalizeLabel s = " ".intercalate ((words s).map toUpper) := by
  rw [normalizeLabel, Text.toUpper_intercalate]

/-- **The words of a label** are those of the text in upper case. -/
theorem words_normalizeLabel (s : String) : words (normalizeLabel s) = (words s).map toUpper := by
  rw [normalizeLabel_eq]
  refine Text.words_intercalate (List.forall_mem_map.mpr fun w hw => ?_)
  rw [Text.toList_toUpper]
  exact (Text.isWord_of_mem_words hw).upper

/-- **Labels are the same** for texts with the same words, and for no others. -/
theorem normalizeLabel_eq_iff {s t : String} :
    normalizeLabel s = normalizeLabel t ↔ SameWords s t := by
  constructor
  · intro h
    rw [SameWords, ← words_normalizeLabel, h, words_normalizeLabel]
  · intro h
    rw [normalizeLabel_eq, h, normalizeLabel_eq]

variable {before after gap gap' : String}

/-- One white space is as good as another, and as good as many. -/
theorem normalizeLabel_gap (hGap : IsSpacing gap.toList) (hSome : gap ≠ "")
    (hGap' : IsSpacing gap'.toList) (hSome' : gap' ≠ "") (s t : String) :
    normalizeLabel (s ++ (gap ++ t)) = normalizeLabel (s ++ (gap' ++ t)) := by
  rw [normalizeLabel, Text.words_append_gap hGap hSome, normalizeLabel,
    Text.words_append_gap hGap' hSome']

theorem normalizeLabel_surrounded (hBefore : IsSpacing before.toList)
    (hAfter : IsSpacing after.toList) (s : String) :
    normalizeLabel (before ++ (s ++ after)) = normalizeLabel s := by
  rw [normalizeLabel, Text.words_surrounded hBefore hAfter, normalizeLabel]

/-- The name of a building is shown trimmed, and that makes no difference to its label. -/
theorem normalizeLabel_trim (s : String) : normalizeLabel (trim s) = normalizeLabel s := by
  obtain ⟨before, after, hBefore, hAfter, hSplit, -⟩ := Text.exists_eq_surrounded_trim s
  conv_rhs => rw [hSplit, normalizeLabel_surrounded hBefore hAfter]

/-- **Sections have one building** if they are in one municipality and their names and addresses
have the same words. -/
theorem BuildingKey.ofSection_eq_iff_sameWords {x y : PollingSection} :
    ofSection x = ofSection y ↔ x.municipalityId = y.municipalityId ∧
      SameWords x.buildingName y.buildingName ∧ SameWords x.address y.address := by
  rw [ofSection, ofSection, BuildingKey.mk.injEq, normalizeLabel_eq_iff, normalizeLabel_eq_iff]

-- a tabulator, a no-break space and an ideographic space are white space like any other
example : SameWords " scuola\tGaribaldi " "SCUOLA\u00A0\u3000garibaldi" := by decide +kernel

/-! ## Needles -/

/-- White space around a needle is not looked for. -/
theorem foldNeedle_surrounded (hBefore : IsSpacing before.toList) (hAfter : IsSpacing after.toList)
    (needle : String) : foldNeedle (before ++ (needle ++ after)) = foldNeedle needle := by
  rw [foldNeedle, Text.trim_surrounded hBefore hAfter, foldNeedle]

/-- Everything else is, in lower case. -/
theorem foldNeedle_of_isTrimmed {needle : String} (h : IsTrimmed needle.toList) :
    foldNeedle needle = toLower needle := by
  rw [foldNeedle, Text.trim_of_isTrimmed h]

end PollRoster
