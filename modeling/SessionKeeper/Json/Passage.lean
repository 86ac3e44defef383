import SessionKeeper.Json.Document

/-!
How a reader that looks at every part of a value gets through it. A part that denotes nothing stops
the reader. Whoever set it to work can go on only if it stands right behind the value then: the
part is the last of the value, and its own defect shows at its end.

Lists and objects may stand inside one another only so deep: `room` is how many more may be opened.
-/

namespace SessionKeeper.Json

inductive Passage where
  /-- Every part denotes something. -/
  | clear
  /-- The reader stopped at the end of the value. -/
  | stopped
  /-- The reader stopped before the end of the value. -/
  | lost
  deriving DecidableEq, Repr

namespace Passage

def ofDefect? : Option Defect → Passage
  | none => .clear
  | some .atEnd => .stopped
  | some .inside => .lost

/-- The way through a part and then through the rest, which `last` says is empty. -/
def andThen (part : Passage) (last : Bool) (rest : Passage) : Passage :=
  match part with
  | .clear => rest
  | .stopped => if last then .stopped else .lost
  | .lost => .lost

end Passage

mutual

/-- The way through a value. -/
def passage : Json → Nat → Passage
  | .null, _ | .flag _, _ | .text _, _ => .clear
  | .number n, _ => .ofDefect? n.defect?
  | .unreadable defect, _ => .ofDefect? (some defect)
  | .list items, room + 1 => itemsPassage items room
  | .object members, room + 1 => membersPassage members room
  | .list _, 0 | .object _, 0 | .malformed, _ => .lost

def itemsPassage : List Json → Nat → Passage
  | [], _ => .clear
  | item :: rest, room => (item.passage room).andThen rest.isEmpty (itemsPassage rest room)

/-- A name is never the last of an object. -/
def membersPassage : List (Option String × Json) → Nat → Passage
  | [], _ => .clear
  | (none, _) :: _, _ => .lost
  | (some _, value) :: rest, room =>
    (value.passage room).andThen rest.isEmpty (membersPassage rest room)

end

/-- How deep a text may open lists and objects inside the one that it is. -/
def maxRoom : Nat := 126

end SessionKeeper.Json
