import ApiGateway.Json.Tree

/-!
# Reading records from JSON trees

A record is read from a JSON object by field name, or from an array by position. Field
names must be text; a field the record knows may appear once; fields it does not know
are passed over whatever they hold.

Some fields are read leniently: their value may be present and readable, present but
unreadable, or absent, and an unreadable value does not fail the record. A strict reader
that meets an unreadable value mid-way may still lose its place in the text, and then
the record fails after all. Where it stops decides:

* a scalar is read whole before it is judged, so the reader keeps its place;
* a string that is not UTF-8 is judged after its closing quote, so the reader keeps its
  place; a string with half a surrogate pair keeps it only when the half stands right
  before the closing quote;
* a container that is refused at its opening bracket keeps the place only when it is
  empty, for then the closing bracket follows at once;
* inside a container that is read element by element, a failing element keeps the place
  only when it is the last one, so that the closing bracket follows it;
* the strict reader keeps at most 127 containers open one inside another, and the 128th
  stops it at its opening bracket, inside the value. Values it passes over are skipped
  without this limit, so it counts only for values read whole (`Tree.outcomeWithin`).

Main statements:
* `outcome_text`: a text string reads whole.
-/

namespace ApiGateway.Json

/-- A leniently read value. -/
inductive Presence (α : Type) where
  /-- The value is present and readable. -/
  | parsed (a : α)
  /-- The value is present but not of the expected kind. -/
  | unreadable
  /-- The field is absent or null. -/
  | absent
  deriving DecidableEq, Repr

/-- How reading a value whole ends: it is read, or it fails keeping or losing the
reader's place. -/
inductive Outcome where
  | read
  | failedInPlace
  | failedOutOfPlace
  deriving DecidableEq, Repr

/-- How a string reads as text. -/
def StringForm.outcome : StringForm → Outcome
  | .text _ => .read
  | .invalidUtf8 => .failedInPlace
  | .loneSurrogate atEnd => if atEnd then .failedInPlace else .failedOutOfPlace

mutual

/-- How reading a value whole as text, numbers and containers ends. -/
def Tree.outcome : Tree → Outcome
  | .string s => s.outcome
  | .array items => itemsOutcome items
  | .object fields => fieldsOutcome fields
  | _ => .read

/-- How reading the items of an array ends: a failing item keeps the place only when it
is the last. -/
def itemsOutcome : List Tree → Outcome
  | [] => .read
  | [t] => t.outcome
  | t :: rest =>
    match t.outcome with
    | .read => itemsOutcome rest
    | _ => .failedOutOfPlace

/-- How reading the members of an object ends: a failing name always loses the place,
as the colon follows it; a failing value keeps it only in the last member. -/
def fieldsOutcome : List (StringForm × Tree) → Outcome
  | [] => .read
  | (k, v) :: rest =>
    match k.outcome with
    | .read =>
      match rest with
      | [] => v.outcome
      | _ =>
        match v.outcome with
        | .read => fieldsOutcome rest
        | _ => .failedOutOfPlace
    | _ => .failedOutOfPlace

end

/-- A text string reads whole. -/
theorem outcome_text (s : String) : (Tree.string (.text s)).outcome = .read := rfl

mutual

/-- The number of containers a value nests one inside another, its own included. -/
def Tree.depth : Tree → Nat
  | .array items => itemsDepth items + 1
  | .object fields => fieldsDepth fields + 1
  | _ => 0

/-- The greatest depth among items. -/
def itemsDepth : List Tree → Nat
  | [] => 0
  | t :: rest => max t.depth (itemsDepth rest)

/-- The greatest depth among the values of members. -/
def fieldsDepth : List (StringForm × Tree) → Nat
  | [] => 0
  | (_, v) :: rest => max v.depth (fieldsDepth rest)

end

/-- The most containers the strict reader keeps open one inside another. -/
def nestingLimit : Nat := 127

/-- How reading a value whole ends when `room` more containers may be opened: a value nested
deeper stops the reader at a bracket inside it, before any failure it holds deeper on, since
every element before that bracket was read. -/
def Tree.outcomeWithin (room : Nat) (t : Tree) : Outcome :=
  if room < t.depth then .failedOutOfPlace else t.outcome

-- Three arrays nested one inside another fit in three containers but not in two.
example : (Nat.repeat (fun t => Tree.array [t]) 3 .null).outcomeWithin 3 = .read ∧
    (Nat.repeat (fun t => Tree.array [t]) 3 .null).outcomeWithin 2 = .failedOutOfPlace := by
  decide

/-- Whether a container is empty. -/
def Tree.isEmptyContainer : Tree → Bool
  | .array [] => true
  | .object [] => true
  | _ => false

/-- A value that must be text. -/
def Tree.text? : Tree → Option String
  | .string (.text s) => some s
  | _ => none

/-- The name a value gives for a choice among names that carry no data: a text, or an object
with the name as its only field and null as its value. -/
def Tree.variantName? : Tree → Option String
  | .string (.text s) => some s
  | .object [(.text s, .null)] => some s
  | _ => none

/-- A value that must be text or null. -/
def Tree.optText? : Tree → Option (Option String)
  | .null => some none
  | .string (.text s) => some (some s)
  | _ => none

/-- A value that must be a list of texts or null. -/
def Tree.optTexts? : Tree → Option (Option (List String))
  | .null => some none
  | .array items => (items.mapM Tree.text?).map some
  | _ => none

/-- A value that must be a signed 64-bit integer. -/
def Tree.int64? : Tree → Option Int
  | .number (.unsigned n) => if n ≤ Text.maxI64 then some n else none
  | .number (.negative n) => some n
  | _ => none

/-- Reads a lenient non-negative integer: only an unsigned integer is readable. A
container refused at its bracket keeps the place only when empty. -/
def Tree.leniencyNat : Tree → Option (Presence Nat)
  | .number (.unsigned n) => some (.parsed n)
  | .array [] | .object [] => some .unreadable
  | .array _ | .object _ => none
  | .string s => if s.outcome == .failedOutOfPlace then none else some .unreadable
  | _ => some .unreadable

/-- Reads a lenient text: null is absent; containers are refused at their bracket without
being entered, so they lose the place even when empty. -/
def Tree.leniencyText : Tree → Option (Presence String)
  | .null => some .absent
  | .string (.text s) => some (.parsed s)
  | .string s => if s.outcome == .failedOutOfPlace then none else some .unreadable
  | .array _ | .object _ => none
  | _ => some .unreadable

/-- The members of an object as named fields: every name must be text and a known name
may appear once. Answers the known fields in order. -/
def knownFields (known : List String) : List (StringForm × Tree) → Option (List (String × Tree))
  | [] => some []
  | (.text k, v) :: rest => do
    let tail ← knownFields known rest
    if known.contains k then
      if tail.any (·.1 == k) then none else some ((k, v) :: tail)
    else some tail
  | _ :: _ => none

/-- The value of a named field. -/
def fieldValue (fields : List (String × Tree)) (k : String) : Option Tree :=
  (fields.find? (·.1 == k)).map (·.2)

end ApiGateway.Json
