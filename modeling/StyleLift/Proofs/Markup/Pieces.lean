import StyleLift.Proofs.Markup.Order
import StyleLift.Proofs.Text.Blanks

/-! # Documents put together from pieces

A document of start tags, end tags, text and comments in any order. A pass goes over each piece to
the next one, and only a tag adds to what it finds. So the class names of the document are those of
its start tags, however its elements are nested or closed.
-/
namespace StyleLift.Markup

/-! ## Pieces -/

def commonElements : List Text := ["div","span","p","a","section"]

structure Element where
  name : Text
  common : name ∈ commonElements

/-- The value of a class attribute, which needs no references. -/
structure ClassValue where
  text : Text
  plain : ∀ c ∈ text, c ≠ .char '"' ∧ c ≠ .char '&' ∧ c ≠ .char '<' ∧ c ≠ .char '>' ∧
    c ≠ .char '\x00'

/-- What holds no markup. -/
structure PlainText where
  text : Text
  plain : ∀ c ∈ text, c ≠ .char '<' ∧ c ≠ .char '&'

/-- What a comment holds; it may look like markup. -/
structure CommentText where
  text : Text
  plain : ∀ c ∈ text, c ≠ .char '-' ∧ c ≠ .char '>'

inductive Piece
  | opening (e : Element) (classes : Option ClassValue)
  | closing (e : Element)
  | text (t : PlainText)
  | comment (t : CommentText)

/-- A class attribute with its value in double quotes, and the blank before it. -/
def ClassValue.source (v : ClassValue) : Text :=
  Text.ofString " class=\"" ++ v.text ++ Text.ofString "\""

def Piece.source : Piece → Text
  | .opening e classes =>
    .char '<' :: (e.name ++ (classes.elim [] ClassValue.source ++ [.char '>']))
  | .closing e => .char '<' :: .char '/' :: (e.name ++ [.char '>'])
  | .text t => t.text
  | .comment t => Text.ofString "<!--" ++ (t.text ++ Text.ofString "-->")

/-- The words of the class attribute that a piece has. -/
def Piece.classes : Piece → List Text
  | .opening _ (some v) => Text.words v.text
  | _ => []

/-! ## Start tags -/

section Names

variable {name : Text} (h : name ∈ commonElements)

include h

theorem isTagNamePart_of_mem_common : ∀ c ∈ name, isTagNamePart c = true :=
  (by decide : ∀ n ∈ commonElements, ∀ c ∈ n, isTagNamePart c = true) name h

theorem common_head : ∃ c tail, name = c :: tail ∧ c.isAsciiLetter = true := by
  have hhead : name.head?.any CodePoint.isAsciiLetter = true :=
    (by decide : ∀ n ∈ commonElements, n.head?.any CodePoint.isAsciiLetter = true) name h
  cases name with
  | nil => cases hhead
  | cons c tail => exact ⟨c,tail,rfl,hhead⟩

theorem endTagName?_common (rest : Text) :
    endTagName? (name ++ .char '>' :: rest) = some name := by
  have hparts : ∀ c ∈ name, isEndTagNamePart c = true :=
    (by decide : ∀ n ∈ commonElements, ∀ c ∈ n, isEndTagNamePart c = true) name h
  have hblank : ∀ c ∈ name, c.isBlank = false :=
    (by decide : ∀ n ∈ commonElements, ∀ c ∈ n, c.isBlank = false) name h
  have hlower : Text.lowercase name = name :=
    (by decide : ∀ n ∈ commonElements, Text.lowercase n = n) name h
  have hstop : ∀ c ∈ (CodePoint.char '>' :: rest).head?, isEndTagNamePart c = false := by
    rintro c ⟨⟩
    rfl
  obtain ⟨htake,hdrop⟩ := Text.span_of_run hparts hstop
  obtain ⟨c,tail,hname,hc⟩ := common_head h
  have hstart : (name ++ .char '>' :: rest).dropWhile CodePoint.isBlank =
      name ++ .char '>' :: rest := by
    rw [hname,List.cons_append,List.dropWhile_cons_of_neg]
    simp [hblank c (hname ▸ List.mem_cons_self)]
  have hhead : (name ++ .char '>' :: rest).head?.any CodePoint.isAsciiLetter = true := by
    rw [hname]
    exact hc
  have hmark : (dropMark? (.char '>') (.char '>' :: rest)).isSome = true := rfl
  rw [endTagName?]
  simp only [hstart,htake,hdrop,hhead,hmark,hlower,Bool.and_self,if_true]

theorem not_raw_of_mem_common : rawElements.contains name.asciiLower = false :=
  (by decide : ∀ n ∈ commonElements, rawElements.contains (Text.asciiLower n) = false) name h

end Names

theorem takeAttributes_none {opens : Bool} {s : Text} (h : takeAttribute opens s = none) :
    takeAttributes opens s = ([],s) := by
  rw [takeAttributes]
  split
  · rfl
  · next hsome =>
    rw [h] at hsome
    cases hsome

theorem takeAttributes_some {opens next : Bool} {s rest : Text} {a : Text × Text}
    (h : takeAttribute opens s = some (a,next,rest)) :
    takeAttributes opens s = (a :: (takeAttributes next rest).1,(takeAttributes next rest).2) := by
  rw [takeAttributes]
  split
  · next hnone =>
    rw [h] at hnone
    cases hnone
  · next hsome =>
    rw [h] at hsome
    cases hsome
    rfl

/-- No attribute starts at a closing bracket. -/
theorem takeAttributes_bracket (opens : Bool) (rest : Text) :
    takeAttributes opens (.char '>' :: rest) = ([],.char '>' :: rest) := by
  have hstart : isAttributeStart (.char '>') = false := by decide
  apply takeAttributes_none
  simp [takeAttribute,hstart]

section Attribute

variable {value : Text} (h : ∀ c ∈ value, c ≠ .char '"') (rest : Text)

include h

theorem takeAssignment_quoted :
    takeAssignment (.char '=' :: .char '"' :: (value ++ .char '"' :: rest)) =
      some (value,true,rest) := by
  have hstop : ∀ c ∈ (CodePoint.char '"' :: rest).head?, (c != .char '"') = false := by
    rintro c ⟨⟩
    rfl
  obtain ⟨htake,hdrop⟩ := Text.span_of_run (p := (· != .char '"')) (by simpa using h) hstop
  have hequals : isEquals (.char '=') = true ∧ CodePoint.isBlank (.char '=') = false := by decide
  have hquote : isEquals (.char '"') = false ∧ CodePoint.isBlank (.char '"') = false ∧
      isQuote (.char '"') = true := by decide
  simp [takeAssignment,takeValue,hequals,hquote,htake,hdrop]

theorem takeAttribute_class :
    takeAttribute true (Text.ofString "class=\"" ++ (value ++ .char '"' :: .char '>' :: rest)) =
      some ((Text.ofString "class",value),true,.char '>' :: rest) := by
  have hname : ∀ c ∈ Text.ofString "lass", isAttributePart c = true := by decide
  have hstop : ∀ c ∈ (CodePoint.char '=' ::
      .char '"' :: (value ++ .char '"' :: .char '>' :: rest)).head?, isAttributePart c = false := by
    rintro c ⟨⟩
    rfl
  obtain ⟨htake,hdrop⟩ := Text.span_of_run hname hstop
  have hstart : isAttributeStart (.char 'c') = true := by decide
  have hgap : startsGap (.char '>' :: rest) = false := rfl
  change takeAttribute true (.char 'c' :: (Text.ofString "lass" ++
    .char '=' :: .char '"' :: (value ++ .char '"' :: .char '>' :: rest))) = _
  simp only [takeAttribute,htake,hdrop,takeAssignment_quoted h]
  simp [hstart,skipGaps,hgap]
  rfl

end Attribute

theorem readStartTag_bare (e : Element) (rest : Text) :
    readStartTag (e.name ++ .char '>' :: rest) = .complete ⟨e.name,[],false⟩ rest := by
  have hstop : ∀ c ∈ (CodePoint.char '>' :: rest).head?, isTagNamePart c = false := by
    rintro c ⟨⟩
    rfl
  obtain ⟨htake,hdrop⟩ := Text.span_of_run (isTagNamePart_of_mem_common e.common) hstop
  have hblank : CodePoint.isBlank (.char '>') = false := by decide
  have hslash : isSlash (.char '>') = false := by decide
  simp [readStartTag,htake,hdrop,hblank,hslash,takeAttributes_bracket]

theorem readStartTag_class (e : Element) (v : ClassValue) (rest : Text) :
    readStartTag (e.name ++ (v.source ++ .char '>' :: rest)) =
      .complete ⟨e.name,[(Text.ofString "class",v.text)],false⟩ rest := by
  have hvalue : ∀ c ∈ v.text, c ≠ .char '"' := fun c hc => (v.plain c hc).1
  have hsource : v.source ++ .char '>' :: rest =
      .char ' ' :: (Text.ofString "class=\"" ++ (v.text ++ .char '"' :: .char '>' :: rest)) := by
    simp [ClassValue.source,Text.ofString]
  have hstop : ∀ c ∈ (v.source ++ .char '>' :: rest).head?, isTagNamePart c = false := by
    rw [hsource]
    rintro c ⟨⟩
    rfl
  obtain ⟨htake,hdrop⟩ := Text.span_of_run (isTagNamePart_of_mem_common e.common) hstop
  have hgap : ∀ c ∈ [CodePoint.char ' '], (c.isBlank || isSlash c) = true := by decide
  have hclass : ∀ c ∈
      (Text.ofString "class=\"" ++ (v.text ++ .char '"' :: .char '>' :: rest)).head?,
      (c.isBlank || isSlash c) = false := by
    rintro c ⟨⟩
    rfl
  obtain ⟨hgaptake,hgapdrop⟩ := Text.span_of_run hgap hclass
  rw [List.singleton_append,← hsource] at hgaptake hgapdrop
  have hopens : ∀ b, opensAfter b [.char ' '] = true := by decide
  have hblank : CodePoint.isBlank (.char '>') = false := by decide
  rw [readStartTag]
  simp only [htake,hdrop,hgaptake,hgapdrop,hopens,
    takeAttributes_some (takeAttribute_class hvalue rest),takeAttributes_bracket]
  simp [hblank]

/-! ## One piece after another -/

/-- The tag that a piece is. -/
def Piece.tags : Piece → List Tag
  | .opening e none => [.start ⟨e.name,[],false⟩]
  | .opening e (some v) => [.start ⟨e.name,[(Text.ofString "class",v.text)],false⟩]
  | .closing e => [.stop e.name]
  | _ => []

theorem decodeReferences_plain {s : Text} (h : ∀ c ∈ s, c ≠ .char '&') :
    decodeReferences s = .ok s := by
  rw [decodeReferences]
  induction s with
  | nil => rfl
  | cons c s ih =>
    obtain ⟨hc,hs⟩ := List.forall_mem_cons.mp h
    rw [decodeFrom,if_neg hc,ih hs]
    rfl

/-- The first end is where the mark that it starts with stands for the first time. -/
theorem afterFirst?_mark {ends : Text → Option Text} {mark : CodePoint} {s t after : Text}
    (hends : ∀ c rest, c ≠ mark → ends (c :: rest) = none) (hs : ∀ c ∈ s, c ≠ mark)
    (ht : ends (mark :: t) = some after) : afterFirst? ends (s ++ mark :: t) = some after := by
  induction s with
  | nil => rw [List.nil_append,afterFirst?,ht]
  | cons c s ih =>
    obtain ⟨hc,hs⟩ := List.forall_mem_cons.mp hs
    rw [List.cons_append,afterFirst?,hends c _ hc]
    exact ih hs

theorem tagEnd?_other {c : CodePoint} (h : c ≠ .char '>') (rest : Text) :
    tagEnd? (c :: rest) = none := by
  simp [tagEnd?,Text.ofString,Text.dropPrefix?,h.symm]

theorem commentEnd?_other {c : CodePoint} (h : c ≠ .char '-') (rest : Text) :
    commentEnd? (c :: rest) = none := by
  simp [commentEnd?,Text.ofString,Text.dropPrefix?,h.symm]

/-! ## Constructs -/

theorem construct_name (e : Element) {s rest : Text} {t : StartTag}
    (h : readStartTag (e.name ++ s) = .complete t rest) :
    construct (e.name ++ s) = .tag t rest := by
  obtain ⟨c,tail,hname,hc⟩ := common_head e.common
  rw [hname] at h ⊢
  rw [List.cons_append] at h ⊢
  rw [construct,if_pos hc,h]

theorem construct_closing (e : Element) (rest : Text) :
    construct (.char '/' :: (e.name ++ .char '>' :: rest)) = .endTag e.name rest := by
  have hname : ∀ c ∈ e.name, c ≠ .char '>' :=
    (by decide : ∀ n ∈ commonElements, ∀ c ∈ n, c ≠ .char '>') e.name e.common
  have hend : afterFirst? tagEnd? (e.name ++ .char '>' :: rest) = some rest :=
    afterFirst?_mark (fun _ _ hc => tagEnd?_other hc _) hname rfl
  rw [construct,if_neg (by decide),if_pos rfl,endTag,hend,endTagName?_common e.common]

theorem construct_comment (t : CommentText) (rest : Text) :
    construct (Text.ofString "!--" ++ (t.text ++ (Text.ofString "-->" ++ rest))) =
      .skipped rest := by
  have hend : afterFirst? commentEnd? (t.text ++ (Text.ofString "-->" ++ rest)) = some rest :=
    afterFirst?_mark (fun _ _ hc => commentEnd?_other hc _) (fun c hc => (t.plain c hc).1) rfl
  change construct (.char '!' :: .char '-' :: .char '-' ::
    (t.text ++ (Text.ofString "-->" ++ rest))) = _
  rw [construct,if_neg (by decide),if_neg (by decide),if_neg (by decide),if_pos rfl]
  simp [Text.ofString,Text.dropPrefix?,skipTo] at hend ⊢
  rw [hend]

/-! ## Passes -/

theorem pass_skipped {final : Bool} {s after : Text} (h : construct s = .skipped after) :
    pass final (.char '<' :: s) = pass final after := by
  rw [pass,if_pos rfl]
  · split <;> rename_i hc <;> rw [h] at hc <;> cases hc
    rfl
  · rintro _ ⟨⟩

theorem pass_tag {final : Bool} {s after : Text} {t u : StartTag} (h : construct s = .tag t after)
    (ht : t.decoded = .ok u) : pass final (.char '<' :: s) =
      (pass final (t.skipContent after)).map fun found =>
        (.start u :: (t.readContent after).1 ++ found.1,found.2) := by
  rw [pass,if_pos rfl]
  · split <;> rename_i hc <;> rw [h] at hc <;> cases hc
    rw [ht]
    rfl
  · rintro _ ⟨⟩

theorem pass_endTag {final : Bool} {s after name : Text} (h : construct s = .endTag name after) :
    pass final (.char '<' :: s) =
      (pass final after).map fun found => (.stop name :: found.1,found.2) := by
  rw [pass,if_pos rfl]
  · split <;> rename_i hc <;> rw [h] at hc <;> cases hc
    rfl
  · rintro _ ⟨⟩

theorem pass_plain {final : Bool} {s : Text} (h : ∀ c ∈ s, c ≠ .char '<' ∧ c ≠ .char '&')
    (rest : Text) : pass final (s ++ rest) = pass final rest := by
  induction s with
  | nil => rfl
  | cons c s ih =>
    obtain ⟨⟨hbracket,hreference⟩,hs⟩ := List.forall_mem_cons.mp h
    rw [List.cons_append,pass,if_neg hbracket]
    · exact ih hs
    · intro after hc
      exact (hreference hc).elim

theorem readContent_common (e : Element) (attributes : List (Text × Text)) (s : Text) :
    StartTag.readContent ⟨e.name,attributes,false⟩ s = ([],s) := by
  rw [StartTag.readContent]
  simp only [not_raw_of_mem_common e.common,Bool.and_false,Bool.false_eq_true,if_false]

/-- A pass goes over a piece, whatever stands after it, and finds its tag there. -/
theorem pass_piece (final : Bool) (p : Piece) (rest : Text) : pass final (p.source ++ rest) =
    (pass final rest).map fun found => (p.tags ++ found.1,found.2) := by
  have hsilent : pass final rest =
      (pass final rest).map fun found => ([] ++ found.1,found.2) := by
    cases pass final rest <;> rfl
  cases p with
  | opening e classes =>
    cases classes with
    | none =>
      have hconstruct := construct_name e (readStartTag_bare e rest)
      simp only [Piece.source,Option.elim_none,List.nil_append,List.cons_append,List.append_assoc]
      rw [pass_tag hconstruct rfl,StartTag.skipContent,readContent_common]
      rfl
    | some v =>
      have hconstruct := construct_name e (readStartTag_class e v rest)
      have hdecoded : StartTag.decoded ⟨e.name,[(Text.ofString "class",v.text)],false⟩ =
          .ok ⟨e.name,[(Text.ofString "class",v.text)],false⟩ := by
        have hvalue := decodeReferences_plain fun c hc => (v.plain c hc).2.1
        rw [StartTag.decoded,decodeAttributes,hvalue]
        rfl
      simp only [Piece.source,Option.elim_some,List.nil_append,List.cons_append,List.append_assoc]
      rw [pass_tag hconstruct hdecoded,StartTag.skipContent,readContent_common]
      rfl
  | closing e =>
    simp only [Piece.source,List.nil_append,List.cons_append,List.append_assoc]
    rw [pass_endTag (construct_closing e rest)]
    rfl
  | text t =>
    rw [Piece.source,pass_plain t.plain]
    exact hsilent
  | comment t =>
    have hsource : Piece.source (.comment t) ++ rest = .char '<' ::
        (Text.ofString "!--" ++ (t.text ++ (Text.ofString "-->" ++ rest))) := by
      simp [Piece.source,Text.ofString]
    rw [hsource,pass_skipped (construct_comment t rest)]
    exact hsilent

/-- A pass over a document of pieces comes to its end. -/
theorem pass_pieces (final : Bool) (pieces : List Piece) :
    pass final (pieces.flatMap Piece.source) = .ok (pieces.flatMap Piece.tags,[]) := by
  induction pieces with
  | nil => rw [List.flatMap_nil,pass]; rfl
  | cons p pieces ih =>
    rw [List.flatMap_cons,pass_piece,ih]
    rfl

theorem tags_pieces (pieces : List Piece) :
    tags (pieces.flatMap Piece.source) = .ok (pieces.flatMap Piece.tags) := by
  have hnil : pass true [] = .ok ([],[]) := by rw [pass]
  rw [tags]
  refine bind_eq_ok.mpr ⟨_,pass_pieces false pieces,?_⟩
  refine bind_eq_ok.mpr ⟨_,hnil,?_⟩
  exact congrArg Except.ok (List.append_nil _)

theorem Piece.classes_tags (p : Piece) :
    (p.tags.filterMap Tag.start?).flatMap StartTag.classes = p.classes := by
  cases p with
  | opening e classes =>
    cases classes with
    | none => rfl
    | some v => exact List.append_nil _
  | _ => rfl

theorem classes_pieces (pieces : List Piece) :
    ((pieces.flatMap Piece.tags).filterMap Tag.start?).flatMap StartTag.classes =
      pieces.flatMap Piece.classes := by
  induction pieces with
  | nil => rfl
  | cons p pieces ih =>
    rw [List.flatMap_cons,List.filterMap_append,List.flatMap_append,Piece.classes_tags,ih,
      List.flatMap_cons]

/-- The class names of a document of pieces are those of its start tags in order, each where it is
used first. -/
theorem classNames_pieces (pieces : List Piece) :
    classNames (pieces.flatMap Piece.source) = .ok (pieces.flatMap Piece.classes).eraseDups := by
  rw [classNames_eq,tags_pieces,← classes_pieces]
  rfl

end StyleLift.Markup
