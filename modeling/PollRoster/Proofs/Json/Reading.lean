import PollRoster.Json.Reader
import PollRoster.Proofs.Json.Spelling

/-!
# Reading JSON that is spelled right

The stack of open arrays and objects gives back the value that the tokens were taken from.

Main result: `read_of_spells` — a text that spells a value is read as that value, and ends there.
-/

namespace PollRoster.Json

/-- Whether the innermost open frame, if there is one, waits for a value. -/
def WantsValue (stack : List Frame) : Prop := ∀ members below, stack ≠ .object members :: below

theorem wantsValue_nil : WantsValue [] := nofun

theorem wantsValue_array (items : List Json) (stack : List Frame) :
    WantsValue (.array items :: stack) := nofun

theorem wantsValue_member (members : List (Option String × Json)) (key : Option String)
    (stack : List Frame) : WantsValue (.member members key :: stack) := nofun

/-- What is built once a value is finished. -/
def settle (value : Json) (rest : List Token) : List Frame → Json × List Token
  | [] => (value, rest)
  | .array items :: stack => build (.array (value :: items) :: stack) .commaOrEnd rest
  | .member members key :: stack =>
    build (.object ((key, value) :: members) :: stack) .commaOrEnd rest
  | .object members :: stack => (abandon (.object members :: stack) .broken, rest)

/-- A token that completes a value settles it. -/
theorem build_of_complete (hStack : WantsValue stack)
    (h : advance current await t = complete value stack) (rest : List Token) :
    build current await (t :: rest) = settle value rest stack := by
  rw [build, h]
  cases stack with
  | nil => rfl
  | cons frame stack =>
    cases frame with
    | array | member => rfl
    | object members => exact absurd rfl (hStack members stack)

/-- Whether a value may stand next. -/
def AwaitsValue : Await → Prop
  | .value | .itemOrEnd => True
  | _ => False

def AwaitsKey : Await → Prop
  | .key | .keyOrEnd => True
  | _ => False

/-- Whether the tokens of the value settle it, whatever is open around it. -/
def IsRebuilt (value : Json) : Prop :=
  ∀ stack await rest, WantsValue stack → AwaitsValue await →
    build stack await (tokensOf value ++ rest) = settle value rest stack

theorem advance_scalarToken (hScalar : IsScalar value) (h : AwaitsValue await)
    (stack : List Frame) : advance stack await (scalarToken value) = complete value stack := by
  have hStart : startValue stack (scalarToken value) = complete value stack := by
    cases value with
    | array | object => exact hScalar.elim
    | _ => rfl
  cases await with
  | value => exact hStart
  | itemOrEnd => cases value <;> exact hStart
  | _ => exact h.elim

theorem build_beginArray (h : AwaitsValue await) (stack : List Frame) (rest : List Token) :
    build stack await (.beginArray :: rest) = build (.array [] :: stack) .itemOrEnd rest := by
  cases await with
  | value | itemOrEnd => rfl
  | _ => exact h.elim

theorem build_beginObject (h : AwaitsValue await) (stack : List Frame) (rest : List Token) :
    build stack await (.beginObject :: rest) = build (.object [] :: stack) .keyOrEnd rest := by
  cases await with
  | value | itemOrEnd => rfl
  | _ => exact h.elim

/-- A key opens a member that waits for its value. -/
theorem build_key (h : AwaitsKey await) (members : List (Option String × Json))
    (stack : List Frame) (key : Option String) (rest : List Token) :
    build (.object members :: stack) await (.text key :: .colon :: rest) =
      build (.member members key :: stack) .value rest := by
  cases await with
  | key | keyOrEnd => rfl
  | _ => exact h.elim

theorem build_items (hStack : WantsValue stack) (hAwait : AwaitsValue await)
    (hItems : ∀ item ∈ value :: items, IsRebuilt item) (rest : List Token) :
    build (.array done :: stack) await (tokensOfItems (value :: items) ++ .endArray :: rest) =
      settle (.array (done.reverse ++ value :: items)) rest stack := by
  -- the items in front of `value` are done
  induction items generalizing value done await with
  | nil =>
    have hValue := hItems value List.mem_cons_self
    rw [tokensOfItems, hValue _ _ _ (wantsValue_array done stack) hAwait]
    refine build_of_complete hStack ?_ rest
    rw [← List.reverse_cons]
    rfl
  | cons next items ih =>
    obtain ⟨hValue, hRest⟩ := List.forall_mem_cons.mp hItems
    have hTokens : tokensOfItems (value :: next :: items) =
        tokensOf value ++ .comma :: tokensOfItems (next :: items) := rfl
    have hComma (ts : List Token) : settle value (.comma :: ts) (.array done :: stack) =
        build (.array (value :: done) :: stack) .value ts := rfl
    have hAwaitNext : AwaitsValue .value := trivial
    rw [hTokens, List.append_assoc, hValue _ _ _ (wantsValue_array done stack) hAwait,
      List.cons_append, hComma, ih hAwaitNext hRest, List.reverse_cons, List.append_assoc,
      List.singleton_append]

theorem build_members (hStack : WantsValue stack) (hAwait : AwaitsKey await)
    (hMembers : ∀ member ∈ m :: members, IsRebuilt member.2) (rest : List Token) :
    build (.object done :: stack) await (tokensOfMembers (m :: members) ++ .endObject :: rest) =
      settle (.object (done.reverse ++ m :: members)) rest stack := by
  induction members generalizing m done await with
  | nil =>
    have hValue := hMembers m List.mem_cons_self
    have hTokens : tokensOfMembers [m] = .text m.1 :: .colon :: tokensOf m.2 := rfl
    have hAwaitValue : AwaitsValue .value := trivial
    rw [hTokens, List.cons_append, List.cons_append, build_key hAwait,
      hValue _ _ _ (wantsValue_member done m.1 stack) hAwaitValue]
    refine build_of_complete hStack ?_ rest
    rw [← List.reverse_cons]
    rfl
  | cons next members ih =>
    obtain ⟨hValue, hRest⟩ := List.forall_mem_cons.mp hMembers
    have hTokens : tokensOfMembers (m :: next :: members) =
        .text m.1 :: .colon :: (tokensOf m.2 ++ .comma :: tokensOfMembers (next :: members)) := rfl
    have hComma (ts : List Token) : settle m.2 (.comma :: ts) (.member done m.1 :: stack) =
        build (.object (m :: done) :: stack) .key ts := rfl
    have hAwaitValue : AwaitsValue .value := trivial
    have hAwaitNext : AwaitsKey .key := trivial
    rw [hTokens, List.cons_append, List.cons_append, List.append_assoc, build_key hAwait,
      hValue _ _ _ (wantsValue_member done m.1 stack) hAwaitValue, List.cons_append, hComma,
      ih hAwaitNext hRest, List.reverse_cons, List.append_assoc, List.singleton_append]

theorem isRebuilt (value : Json) : IsRebuilt value := by
  induction value using induct with
  | scalar value hScalar =>
    intro stack await rest hStack hAwait
    rw [tokensOf_of_isScalar hScalar, List.singleton_append]
    exact build_of_complete hStack (advance_scalarToken hScalar hAwait stack) rest
  | array items ih =>
    intro stack await rest hStack hAwait
    have hAwaitItem : AwaitsValue .itemOrEnd := trivial
    rw [tokensOf, List.cons_append, List.append_assoc, build_beginArray hAwait]
    cases items with
    | nil => exact build_of_complete hStack rfl rest
    | cons item items => exact build_items hStack hAwaitItem ih rest
  | object members ih =>
    intro stack await rest hStack hAwait
    have hAwaitKey : AwaitsKey .keyOrEnd := trivial
    rw [tokensOf, List.cons_append, List.append_assoc, build_beginObject hAwait]
    cases members with
    | nil => exact build_of_complete hStack rfl rest
    | cons m members => exact build_members hStack hAwaitKey ih rest

/-- A text that spells a value is read as that value, and ends there. -/
theorem read_of_spells (h : Spells value s) : read s = ⟨value, true⟩ := by
  have hBuilt := isRebuilt value [] .value [] wantsValue_nil trivial
  rw [List.append_nil] at hBuilt
  rw [read, documentOf, tokens_of_spells h, hBuilt]
  rfl

end PollRoster.Json
