import StyleLift.Markup.Tags

/-! # Documents

The tree that the tags of a text build. An end tag closes the innermost open element of its name,
with all that is open inside it, and nothing where no such element is open. An element that is never
closed ends with the document. Void elements are closed at once, and so their end tags close
nothing.
-/
namespace StyleLift.Markup

/-- An element and the elements in it. -/
inductive Node
  | element (tag : StartTag) (children : List Node)

/-- An element that is still open, with what it has so far, the latest first. -/
structure OpenElement where
  tag : StartTag
  children : List Node

def StartTag.elementName (t : StartTag) : Text := Text.lowercase t.name

/-- A document that is not complete: its elements, latest first, the open ones, innermost first, and
the names of void elements whose end tag may still come. -/
structure Draft where
  nodes : List Node
  opened : List OpenElement
  void : List Text

namespace Draft

def empty : Draft := ⟨[], [], []⟩

/-- Adds an element with all that is in it. -/
def add (d : Draft) (n : Node) : Draft :=
  match d.opened with
  | [] => { d with nodes := n :: d.nodes }
  | inner :: outer => { d with opened := { inner with children := n :: inner.children } :: outer }

/-- Closes the innermost element. -/
def closeOne (d : Draft) : Draft :=
  match d.opened with
  | [] => d
  | inner :: outer =>
    { d with opened := outer }.add (.element inner.tag inner.children.reverse)

/-- Closes the innermost element of a name, and what is open in it. -/
def closeNamed (name : Text) (d : Draft) : Draft :=
  match d.opened.findIdx? fun e => e.tag.elementName == name with
  | none => d
  | some i => Nat.repeat closeOne (i + 1) d

/-- Takes an end tag. -/
def stop (name : Text) (d : Draft) : Draft :=
  if d.void.contains name then { d with void := d.void.erase name } else d.closeNamed name

def voidElements : List Text := [
  "area", "base", "basefont", "bgsound", "br", "col", "command", "embed", "frame", "hr", "image",
  "img", "input", "isindex", "keygen", "link", "menuitem", "meta", "nextid", "param", "source",
  "spacer", "track", "wbr"]

/-- Takes a start tag. One that closes itself is an end tag as well. -/
def start (t : StartTag) (d : Draft) : Draft :=
  let name := t.elementName
  let d := { d with opened := ⟨t, []⟩ :: d.opened }
  if t.selfClosing then d.stop name
  else if voidElements.contains name then
    let d := d.closeNamed name
    { d with void := name :: d.void }
  else d

def take (d : Draft) : Tag → Draft
  | .start t => d.start t
  | .stop name => d.stop name

/-- Closes what is still open. -/
def finish (d : Draft) : List Node := (Nat.repeat closeOne d.opened.length d).nodes.reverse

end Draft

/-- The tree that some tags build. -/
def build (tags : List Tag) : List Node := (tags.foldl Draft.take .empty).finish

/-- The elements of a document. -/
def document (html : Text) : Except DocumentError (List Node) := (tags html).map build

mutual

/-- The start tags of an element and of those in it, in the order of the document. -/
def Node.tags : Node → List StartTag
  | .element tag children => tag :: tagsOf children

def tagsOf : List Node → List StartTag
  | [] => []
  | n :: rest => n.tags ++ tagsOf rest

end

end StyleLift.Markup
