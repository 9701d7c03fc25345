import StyleLift.Markup.Document

/-! # Class names of a document

The class names that the elements of a document have, in the order of the document.
-/
namespace StyleLift.Markup

/-- The words of a tag's last class attribute. -/
def StartTag.classes (t : StartTag) : List Text :=
  match t.attributes.reverse.find? fun a => a.1.asciiLower == Text.ofString "class" with
  | some (_, value) => Text.words value
  | none => []

/-- The class names of a document in order of first use. -/
def classNames (html : Text) : Except DocumentError (List Text) :=
  (document html).map fun nodes => ((tagsOf nodes).flatMap StartTag.classes).eraseDups

end StyleLift.Markup
