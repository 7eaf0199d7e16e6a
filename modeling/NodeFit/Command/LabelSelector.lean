import NodeFit.Node
import NodeFit.Text.Quoted

/-!
# NodeFit.Command.LabelSelector

The choice of nodes by labels.

Unlike a filter, which is an error where a node lacks a label, a label selector leaves
out the nodes that do not carry all of its labels.  It is given as texts `key=value`; of
two with the same key the later one counts.

The first equals sign of a text ends the key, so that a value may hold equals signs and a key may
be empty.  A text without one is refused, and no nodes are read for it.
-/

namespace NodeFit

/-- Labels that chosen nodes carry. -/
structure LabelSelector where
  labels : Dictionary String
deriving DecidableEq, Repr

namespace LabelSelector

/-- The key and the value of a text, which its first equals sign parts. -/
def label? (s : String) : Option (String × String) :=
  let cs := s.toList
  match cs.dropWhile (· != '=') with
  | [] => none
  | _ :: value => some (String.ofList (cs.takeWhile (· != '=')), String.ofList value)

/-- The labels of some texts, or the first text that is no label. -/
def labelsOf : List String → Except String (List (String × String))
  | [] => .ok []
  | s :: rest =>
    match label? s with
    | none => .error s
    | some label => (labelsOf rest).map (label :: ·)

/-- The selector of some texts, or the first text that is no label. -/
def parse (texts : List String) : Except String LabelSelector :=
  (labelsOf texts).map fun labels => ⟨.ofList labels⟩

/-- Whether a node carries all labels. -/
def admits (s : LabelSelector) (node : ClusterNode) : Bool := s.labels.toList.all node.hasLabel

/-- The nodes that carry all labels, in their order. -/
def select (s : LabelSelector) (nodes : List ClusterNode) : List ClusterNode :=
  nodes.filter s.admits

end LabelSelector
end NodeFit
