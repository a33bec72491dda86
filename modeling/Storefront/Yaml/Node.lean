import Storefront.Yaml.Event

/-!
# Nodes of YAML

The tree of a document: a node is a scalar, a sequence or a mapping, or an alias that repeats an
anchored node. Since a node may be repeated inside itself, aliases keep the number of their anchor,
and the document knows the node under each number.

The events of a well-formed text make up one node and leave nothing over; other rows of events are
read as far as they go, and `void` stands for what they lack.
-/

namespace Storefront.Yaml

inductive Node where
  | scalar (tag : Option String) (isPlain : Bool) (text : String)
  | sequence (tag : Option String) (items : List Node)
  | mapping (tag : Option String) (entries : List (Node × Node))
  /-- The node under the anchor of a number. -/
  | reference (anchor : Nat)
  /-- The node of a text without any. -/
  | void

namespace Node

mutual

/-- The node at the front of a row of events, and the events behind it. -/
def ofEvents : (fuel : Nat) → List Event → Node × List Event
  | 0, es => (void, es)
  | _, [] => (void, [])
  | fuel + 1, e :: es =>
    match e with
    | .scalar _ tag isPlain text => (scalar tag isPlain text, es)
    | .reference n => (reference n, es)
    | .sequence _ tag =>
      let (items, es) := itemsOfEvents fuel es
      (sequence tag items, es)
    | .mapping _ tag =>
      let (entries, es) := entriesOfEvents fuel es
      (mapping tag entries, es)
    | .close => (void, es)

/-- The items of a sequence behind its start. -/
def itemsOfEvents : (fuel : Nat) → List Event → List Node × List Event
  | 0, es => ([], es)
  | _, [] => ([], [])
  | _, .close :: es => ([], es)
  | fuel + 1, es =>
    let (n, es) := ofEvents fuel es
    let (ns, es) := itemsOfEvents fuel es
    (n :: ns, es)

/-- The entries of a mapping behind its start. -/
def entriesOfEvents : (fuel : Nat) → List Event → List (Node × Node) × List Event
  | 0, es => ([], es)
  | _, [] => ([], [])
  | _, .close :: es => ([], es)
  | fuel + 1, es =>
    let (k, es) := ofEvents fuel es
    let (v, es) := ofEvents fuel es
    let (rest, es) := entriesOfEvents fuel es
    ((k, v) :: rest, es)

end

end Node

/-- The anchored nodes of a row of events, each with its number, the last first. -/
def anchored (fuel : Nat) : List Event → List (Nat × Node)
  | [] => []
  | e :: es =>
    anchored fuel es ++ (e.anchor?.map fun n => (n, (Node.ofEvents fuel (e :: es)).1)).toList

/-- A YAML text as a tree. -/
structure Document where
  root : Node
  /-- The anchored nodes by their numbers; of several under one number the first counts. -/
  anchors : List (Nat × Node)
  /-- The number of events. -/
  size : Nat

namespace Document

/-- The node under the anchor of a number. -/
def anchor (d : Document) (n : Nat) : Node :=
  (d.anchors.lookup n).getD .void

/-- The tree of a row of events. -/
def ofEvents (events : List Event) : Document :=
  let fuel := 2 * events.length + 2
  { root := (Node.ofEvents fuel events).1
    anchors := anchored fuel events
    size := max 1 events.length }

/-- The tree of a text, or `none` if the text is malformed or holds several documents. -/
def read? (text : List Char) : Option Document :=
  (Event.read? text).map ofEvents

end Document

end Storefront.Yaml
