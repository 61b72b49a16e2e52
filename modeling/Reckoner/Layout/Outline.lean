import Reckoner.Layout.Wrapped

/-!
# Outlines: a tree of labels

The label of a node stands on lines of its own, its children below it and four characters further in. A guide leads from each
child to the next and ends at the last. A label is wrapped to what its indentation leaves of the page.
-/

namespace Reckoner.Layout

/-- A label and the outlines below it. -/
inductive Outline where
  | node (label : String) (children : List Outline)

/-- Sets lines below a node: the first gets a branch, the others get the guide that goes on beside them. -/
def Outline.indent (isLast : Bool) : List String → List String
  | [] => []
  | first :: rest =>
    ((if isLast then "└── " else "├── ") ++ first) :: rest.map ((if isLast then "    " else "│   ") ++ ·)

mutual

/-- The lines of an outline on a page of a given width. -/
def Outline.lines (page : Nat) : Outline → List String
  | .node label children => wrap page label ++ Outline.childLines (page - 4) children

/-- The lines of the children of a node, each on a page of a given width before it is set below the node. -/
def Outline.childLines (page : Nat) : List Outline → List String
  | [] => []
  | child :: children =>
    Outline.indent children.isEmpty (child.lines page) ++ Outline.childLines page children

end

end Reckoner.Layout
