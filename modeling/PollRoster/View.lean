import PollRoster.Building
import PollRoster.Conflicts
import PollRoster.Counters

/-!
# Views

What an operator sees of a scope: the nodes below it, or its sections grouped by building. A view
can be narrowed by a needle that is looked for without regard to letter case.
-/

namespace PollRoster

/-- A child of the scope in view. -/
structure Node where
  level : Level
  scope : Scope
  /-- The identifier of its record; the number of a district. -/
  id : Int
  name : String
  counters : Counters
  deriving DecidableEq, Repr

structure SlotView where
  assignmentId : Int
  representativeId : Int
  /-- The name of the occupant, empty if unknown. -/
  representativeName : String
  flags : SlotFlags
  deriving DecidableEq, Repr

structure SectionRow where
  pollingSection : PollingSection
  primary : Option SlotView
  alternate : Option SlotView
  deriving DecidableEq, Repr

/-- A building with its sections and their tallies. -/
structure BuildingView where
  building : PollingBuilding
  rows : List SectionRow
  /-- Sections with an alternate but no primary. -/
  warnings : Nat
  primaryFilled : Nat
  alternateFilled : Nat
  deriving DecidableEq, Repr

inductive Content where
  | nodes (nodes : List Node)
  | sections (buildings : List BuildingView)
  deriving DecidableEq, Repr

/-- A step of the path to the scope in view. -/
structure Breadcrumb where
  scope : Scope
  label : String
  deriving DecidableEq, Repr

structure View where
  /-- The scope with its ancestors filled in. -/
  scope : Scope
  level : Level
  content : Content
  summary : Counters
  /-- The path from the root, outermost first. -/
  breadcrumbs : List Breadcrumb
  /-- Whether there is exactly one child to go on to. -/
  autoSkip : Bool
  deriving DecidableEq, Repr

namespace Content

def size : Content → Nat
  | .nodes ns => ns.length
  | .sections bs => (bs.flatMap (·.rows)).length

def isEmpty (c : Content) : Bool := c.size = 0

/-- The nodes; a list of sections has none. -/
def nodeList : Content → List Node
  | .nodes ns => ns
  | .sections _ => []

end Content

/-- The path into the only child of a view that may be passed over. -/
def View.onlyChild? (v : View) : Option Scope :=
  if v.autoSkip then
    match v.content.nodeList with
    | [only] => some only.scope
    | _ => none
  else none

/-! ## Narrowing -/

/-- Whether a text in lower case contains a needle that is in lower case already. -/
def containsFolded (s needle : String) : Bool := Text.contains (Text.toLower s) needle

/-- Whether a building is kept as a whole. -/
def BuildingView.isNamed (b : BuildingView) (needle : String) : Bool :=
  containsFolded b.building.name needle || containsFolded b.building.address needle

/-- The building with the rows that a needle keeps: all of them when it occurs in name or address,
else those whose number contains it. A building without rows is dropped. -/
def BuildingView.narrow? (needle : String) (b : BuildingView) : Option BuildingView :=
  if b.isNamed needle then some b
  else
    let rows := b.rows.filter fun row => Text.contains (toString row.pollingSection.number) needle
    if rows.isEmpty then none else some { b with rows := rows }

/-- A needle as it is looked for. -/
def foldNeedle (needle : String) : String := Text.toLower (Text.trim needle)

/-- The entries whose text contains the needle; a blank needle keeps everything. -/
def Content.narrow (c : Content) (needle : String) : Content :=
  let needle := foldNeedle needle
  if needle.isEmpty then c
  else match c with
    | .nodes ns => .nodes (ns.filter fun n => containsFolded n.name needle)
    | .sections bs => .sections (bs.filterMap (BuildingView.narrow? needle))

end PollRoster
