import StyleLift.Markup.ClassNames
import StyleLift.Proofs.Run.Outcome

/-! # The order of a document

Whatever end tags do, the elements of a document come in the order of their start tags when each
comes before those in it: nothing that a draft closes changes that order, and a start tag stands
last in it. So the class names of a document are those of its start tags. Tags that are written from
a tree build that tree.
-/
namespace StyleLift.Markup

/-- The start tag that a tag is. -/
def Tag.start? : Tag → Option StartTag
  | .start t => some t
  | .stop _ => none

theorem tagsOf_append (nodes others : List Node) :
    tagsOf (nodes ++ others) = tagsOf nodes ++ tagsOf others := by
  induction nodes with
  | nil => rfl
  | cons n nodes ih => rw [List.cons_append,tagsOf,tagsOf,ih,List.append_assoc]

/-! ## What closing keeps -/

/-- The start tags of an open element and of those in it. -/
def OpenElement.tags (e : OpenElement) : List StartTag := e.tag :: tagsOf e.children.reverse

namespace Draft
variable {d : Draft} {name : Text} {n : Node} {t : StartTag}

/-- The start tags of a draft: those of what is closed, then those of the open elements from the
outermost on. -/
def tags (d : Draft) : List StartTag :=
  tagsOf d.nodes.reverse ++ d.opened.reverse.flatMap OpenElement.tags

theorem add_tags (d : Draft) (n : Node) : (d.add n).tags = d.tags ++ n.tags := by
  obtain ⟨nodes,opened,void⟩ := d
  cases opened with
  | nil => simp [add,tags,tagsOf_append,tagsOf]
  | cons inner outer => simp [add,tags,OpenElement.tags,tagsOf_append,tagsOf]

theorem closeOne_tags (d : Draft) : d.closeOne.tags = d.tags := by
  obtain ⟨nodes,opened,void⟩ := d
  cases opened with
  | nil => rfl
  | cons inner outer =>
    rw [closeOne,add_tags,Node.tags]
    simp [tags,OpenElement.tags]

theorem repeat_closeOne_tags (count : Nat) (d : Draft) :
    (Nat.repeat closeOne count d).tags = d.tags := by
  induction count with
  | zero => rfl
  | succ count ih => rw [Nat.repeat,closeOne_tags,ih]

theorem closeNamed_tags (name : Text) (d : Draft) : (d.closeNamed name).tags = d.tags := by
  rw [closeNamed]
  split
  · rfl
  · exact repeat_closeOne_tags _ d

theorem stop_tags (name : Text) (d : Draft) : (d.stop name).tags = d.tags := by
  rw [stop]
  split
  · rfl
  · exact closeNamed_tags name d

theorem start_tags (t : StartTag) (d : Draft) : (d.start t).tags = d.tags ++ [t] := by
  have hopened : Draft.tags { d with opened := ⟨t,[]⟩ :: d.opened } = d.tags ++ [t] := by
    simp [tags,OpenElement.tags,tagsOf]
  rw [start]
  dsimp only
  split
  · rw [stop_tags,hopened]
  · split
    · exact (closeNamed_tags _ _).trans hopened
    · exact hopened

theorem take_tags (d : Draft) (tag : Tag) : (d.take tag).tags = d.tags ++ tag.start?.toList := by
  cases tag with
  | start t => exact start_tags t d
  | stop name => exact (stop_tags name d).trans (List.append_nil _).symm

theorem foldl_take_tags (found : List Tag) (d : Draft) :
    (found.foldl take d).tags = d.tags ++ found.filterMap Tag.start? := by
  induction found generalizing d with
  | nil => exact (List.append_nil _).symm
  | cons tag found ih =>
    rw [List.foldl_cons,ih,take_tags,List.append_assoc]
    cases tag <;> rfl

/-- Closing goes from the innermost open element outwards. -/
theorem closeOne_opened (d : Draft) : d.closeOne.opened.length = d.opened.length - 1 := by
  obtain ⟨nodes,opened,void⟩ := d
  rcases opened with _ | ⟨inner,_ | ⟨next,outer⟩⟩ <;> rfl

theorem repeat_closeOne_opened (count : Nat) (d : Draft) :
    (Nat.repeat closeOne count d).opened.length = d.opened.length - count := by
  induction count with
  | zero => rfl
  | succ count ih => rw [Nat.repeat,closeOne_opened,ih,Nat.sub_sub]

theorem finish_tags (d : Draft) : tagsOf d.finish = d.tags := by
  have hnone : (Nat.repeat closeOne d.opened.length d).opened = [] :=
    List.length_eq_zero_iff.mp (by rw [repeat_closeOne_opened,Nat.sub_self])
  rw [← repeat_closeOne_tags d.opened.length d,tags,hnone,finish]
  exact (List.append_nil _).symm

end Draft

/-- The elements of the tree that tags build come in the order of the start tags. -/
theorem tagsOf_build (found : List Tag) : tagsOf (build found) = found.filterMap Tag.start? := by
  rw [build,Draft.finish_tags,Draft.foldl_take_tags]
  rfl

/-- The class names of a document are those of its start tags. -/
theorem classNames_eq (html : Text) : classNames html = (tags html).map fun found =>
    ((found.filterMap Tag.start?).flatMap StartTag.classes).eraseDups := by
  rw [classNames,document]
  cases tags html with
  | error e => rfl
  | ok found =>
    change Except.ok ((tagsOf (build found)).flatMap StartTag.classes).eraseDups = _
    rw [tagsOf_build]
    rfl

/-! ## Trees that are written and built again -/

mutual

/-- The tags of an element: its start tag, those of what is in it, and its end tag. -/
def Node.written : Node → List Tag
  | .element t children => .start t :: (writtenOf children ++ [.stop t.elementName])

def writtenOf : List Node → List Tag
  | [] => []
  | n :: rest => n.written ++ writtenOf rest

end

mutual

/-- No element of a tree is void or closes itself. -/
def Node.Closable : Node → Prop
  | .element t children =>
    t.selfClosing = false ∧ Draft.voidElements.contains t.elementName = false ∧ ClosableAll children

def ClosableAll : List Node → Prop
  | [] => True
  | n :: rest => n.Closable ∧ ClosableAll rest

end

mutual

/-- The tags of an element add it to a draft that waits for no end tag of a void element. -/
theorem foldl_take_written (n : Node) (h : n.Closable) (d : Draft) (hd : d.void = []) :
    n.written.foldl Draft.take d = d.add n := by
  cases n with
  | element t children =>
    obtain ⟨hself,hvoid,hchildren⟩ := h
    have hstart : d.start t = { d with opened := ⟨t,[]⟩ :: d.opened } := by
      rw [Draft.start]
      simp only [hself,hvoid,Bool.false_eq_true,if_false]
    have hinside := foldl_take_writtenOf children hchildren ⟨t,[]⟩ d hd
    rw [List.append_nil] at hinside
    rw [Node.written,List.foldl_cons,List.foldl_append,Draft.take,hstart,hinside]
    have hinner : ({ d with opened := ⟨t,children.reverse⟩ :: d.opened } :
        Draft).opened.findIdx? (fun e => e.tag.elementName == t.elementName) = some 0 := by
      simp [List.findIdx?_cons]
    change Draft.stop t.elementName { d with opened := ⟨t,children.reverse⟩ :: d.opened } = _
    rw [Draft.stop,if_neg (by simp [hd]),Draft.closeNamed,hinner]
    change Draft.add d (.element t children.reverse.reverse) = _
    rw [List.reverse_reverse]

/-- The tags of some elements add them to the innermost open element. -/
theorem foldl_take_writtenOf (nodes : List Node) (h : ClosableAll nodes) (e : OpenElement)
    (d : Draft) (hd : d.void = []) :
    (writtenOf nodes).foldl Draft.take { d with opened := e :: d.opened } =
      { d with opened := { e with children := nodes.reverse ++ e.children } :: d.opened } := by
  cases nodes with
  | nil => rfl
  | cons n nodes =>
    obtain ⟨hn,hnodes⟩ := h
    rw [writtenOf,List.foldl_append,foldl_take_written n hn { d with opened := e :: d.opened } hd]
    refine (foldl_take_writtenOf nodes hnodes ⟨e.tag,n :: e.children⟩ d hd).trans ?_
    rw [List.reverse_cons,List.append_assoc]
    rfl

end

theorem foldl_take_roots (nodes : List Node) (h : ClosableAll nodes) (before : List Node) :
    (writtenOf nodes).foldl Draft.take ⟨before,[],[]⟩ = ⟨nodes.reverse ++ before,[],[]⟩ := by
  induction nodes generalizing before with
  | nil => rfl
  | cons n nodes ih =>
    obtain ⟨hn,hnodes⟩ := h
    rw [writtenOf,List.foldl_append,foldl_take_written n hn _ rfl]
    refine (ih hnodes (n :: before)).trans ?_
    rw [List.reverse_cons,List.append_assoc]
    rfl

/-- The tags that are written from a tree build it. -/
theorem build_written (nodes : List Node) (h : ClosableAll nodes) :
    build (writtenOf nodes) = nodes := by
  rw [build,Draft.empty,foldl_take_roots nodes h]
  change (nodes.reverse ++ []).reverse = nodes
  rw [List.append_nil,List.reverse_reverse]

end StyleLift.Markup
