import StyleLift.Proofs.Text.Newlines
import StyleLift.Proofs.Text.Occurrences

/-! # Template literals

The value of a template literal of JavaScript. Its raw text ends at the first backtick that no
backslash escapes, and a substitution ends the reading; then line ends become newlines and escapes
what they stand for. A literal is its own raw text just if it has nothing of all this.
-/
namespace StyleLift

/-- The line ends that an escape takes away. -/
def CodePoint.isLineTerminator (c : CodePoint) : Bool :=
  c.val == 0x0A || c.val == 0x0D || c.val == 0x2028 || c.val == 0x2029

namespace Literal
variable {s t rest value body : Text} {c : CodePoint} {n : Nat}

def backslash : CodePoint := .char '\\'

def backtick : CodePoint := .char '\x60'

/-! ## Reading -/

/-- The raw text of a literal, from behind the backtick that starts it. -/
def raw : Text → Option Text
  | [] => none
  | [c] => if c = backtick then some [] else none
  | c :: d :: rest =>
    if c = backtick then some []
    else if c = backslash then (raw rest).map fun s => c :: d :: s
    else if c = .char '$' ∧ d = .char '{' then none
    else (raw (d :: rest)).map (c :: ·)

/-- The letters that an escape turns into control codes. -/
def controls : List (CodePoint × CodePoint) := [
  (.char 'b', .char '\x08'), (.char 't', .char '\t'), (.char 'n', .char '\n'),
  (.char 'v', .char '\x0b'), (.char 'f', .char '\x0c'), (.char 'r', .char '\r')]

/-- The code point of as many hexadecimal digits as there have to be. -/
def fixedEscape? (width : Nat) (s : Text) : Option CodePoint :=
  let digits := s.take width
  if digits.length = width ∧ digits.all CodePoint.isHexDigit then
    some (.ofNat (Text.hexValue digits))
  else none

/-- The code point of hexadecimal digits up to a brace, and how much of the text they take. -/
def bracedEscape? (s : Text) : Option (CodePoint × Nat) :=
  let digits := s.takeWhile CodePoint.isHexDigit
  if digits ≠ [] ∧ Text.hexValue digits < 0x110000 ∧
      (s.drop digits.length).head? = some (.char '}') then
    some (.ofNat (Text.hexValue digits),digits.length + 1)
  else none

/-- What an escape stands for, from behind its backslash, and how much of the text it takes. The two
halves of a pair stay apart. -/
def escape? : Text → Option (Text × Nat)
  | [] => none
  | c :: rest =>
    if c.isLineTerminator then some ([],1)
    else if c = .char 'x' then (fixedEscape? 2 rest).map fun d => ([d],3)
    else if c = .char 'u' then
      if rest.head? = some (.char '{') then
        (bracedEscape? rest.tail).map fun (d,taken) => ([d],taken + 2)
      else (fixedEscape? 4 rest).map fun d => ([d],5)
    else if c.isAsciiDigit then
      if c = .char '0' ∧ ¬ rest.head?.any CodePoint.isAsciiDigit then some ([.char '\x00'],1)
      else none
    else some ([(controls.lookup c).getD c],1)

/-- A text with every escape replaced, but for code points at its start that are taken already. -/
def unescape : Nat → Text → Option Text
  | _, [] => some []
  | n + 1, _ :: rest => unescape n rest
  | 0, c :: rest =>
    if c = backslash then
      match escape? rest with
      | some (value,taken) => (unescape taken rest).map (value ++ ·)
      | none => none
    else (unescape 0 rest).map (c :: ·)

/-- The value of a literal, from behind the backtick that starts it. -/
def value? (s : Text) : Option Text := (raw s).bind fun s => unescape 0 s.normalizeNewlines

/-- Nothing in a text has a meaning in a literal. -/
structure IsPlain (s : Text) : Prop where
  noEscape : backslash ∉ s
  noEnd : backtick ∉ s
  noReturn : .char '\r' ∉ s
  noSubstitution : Text.occursIn "$\x7b" s = false

/-! ## What a value is made from -/

theorem fixedEscape?_length {width : Nat} (h : fixedEscape? width s = some c) :
    width ≤ s.length := by
  rw [fixedEscape?] at h
  split at h
  · next hdigits =>
    rw [← hdigits.1]
    exact List.length_take_le' _ _
  · cases h

theorem bracedEscape?_length (h : bracedEscape? s = some (c,n)) : n ≤ s.length := by
  rw [bracedEscape?] at h
  split at h
  · next hdigits =>
    obtain ⟨-,rfl⟩ := Prod.mk.inj (Option.some.inj h)
    obtain ⟨rest,hrest⟩ := List.head?_eq_some_iff.mp hdigits.2.2
    have hlength := congrArg List.length hrest
    rw [List.length_drop,List.length_cons] at hlength
    omega
  · cases h

/-- An escape stands for one code point at most, and takes some of the text. -/
theorem escape?_bounds (h : escape? s = some (value,n)) :
    value.length ≤ 1 ∧ 1 ≤ n ∧ n ≤ s.length := by
  cases s with
  | nil => cases h
  | cons c rest =>
    rw [escape?] at h
    split at h
    · obtain ⟨rfl,rfl⟩ := Prod.mk.inj (Option.some.inj h)
      exact ⟨by decide,Nat.le_refl 1,Nat.succ_pos _⟩
    split at h
    · obtain ⟨d,hd,hform⟩ := Option.map_eq_some_iff.mp h
      obtain ⟨rfl,rfl⟩ := Prod.mk.inj hform
      exact ⟨Nat.le_refl 1,by decide,Nat.succ_le_succ (fixedEscape?_length hd)⟩
    split at h
    · split at h
      · next hbrace =>
        obtain ⟨⟨d,taken⟩,hd,hform⟩ := Option.map_eq_some_iff.mp h
        obtain ⟨rfl,rfl⟩ := Prod.mk.inj hform
        obtain ⟨more,rfl⟩ := List.head?_eq_some_iff.mp hbrace
        have htaken := bracedEscape?_length hd
        exact ⟨Nat.le_refl 1,Nat.succ_pos _,Nat.succ_le_succ (Nat.succ_le_succ htaken)⟩
      · obtain ⟨d,hd,hform⟩ := Option.map_eq_some_iff.mp h
        obtain ⟨rfl,rfl⟩ := Prod.mk.inj hform
        exact ⟨Nat.le_refl 1,by decide,Nat.succ_le_succ (fixedEscape?_length hd)⟩
    split at h
    · split at h
      · obtain ⟨rfl,rfl⟩ := Prod.mk.inj (Option.some.inj h)
        exact ⟨Nat.le_refl 1,Nat.le_refl 1,Nat.succ_pos _⟩
      · cases h
    · obtain ⟨rfl,rfl⟩ := Prod.mk.inj (Option.some.inj h)
      exact ⟨Nat.le_refl 1,Nat.le_refl 1,Nat.succ_pos _⟩

/-- The value of a text with a backslash is shorter than the text. -/
theorem unescape_length (h : unescape n s = some value) :
    value.length ≤ s.length - n ∧
      (backslash ∈ s.drop n → value.length < s.length - n) := by
  fun_induction unescape n s generalizing value with
  | case1 n =>
    obtain rfl := Option.some.inj h
    exact ⟨Nat.zero_le _,fun hmem => by rw [List.drop_nil] at hmem; cases hmem⟩
  | case2 n c rest ih =>
    rw [List.length_cons,Nat.succ_sub_succ]
    exact ih h
  | case3 rest v taken hescape ih =>
    obtain ⟨tail,htail,rfl⟩ := Option.map_eq_some_iff.mp h
    obtain ⟨hone,htaken,hfits⟩ := escape?_bounds hescape
    have hrest := (ih htail).1
    have hshort : (v ++ tail).length < (backslash :: rest).length - 0 := by
      rw [List.length_append,List.length_cons]
      omega
    exact ⟨Nat.le_of_lt hshort,fun _ => hshort⟩
  | case4 rest hescape => cases h
  | case5 c rest hc ih =>
    obtain ⟨tail,htail,rfl⟩ := Option.map_eq_some_iff.mp h
    obtain ⟨hle,hlt⟩ := ih htail
    refine ⟨Nat.succ_le_succ hle,fun hmem => Nat.succ_lt_succ (hlt ?_)⟩
    exact (List.mem_cons.mp hmem).resolve_left (Ne.symm hc)

theorem unescape_plain (h : backslash ∉ s) : unescape 0 s = some s := by
  induction s with
  | nil => rfl
  | cons c s ih =>
    obtain ⟨hc,hs⟩ := List.ne_and_not_mem_of_not_mem_cons h
    rw [unescape,if_neg (Ne.symm hc),ih hs]
    rfl

/-! ## Raw texts -/

theorem raw_backtick (rest : Text) : raw (backtick :: rest) = some [] := by
  cases rest <;> rfl

theorem raw_cons (hend : c ≠ backtick) (hescape : c ≠ backslash)
    (hopen : ¬ (c = .char '$' ∧ s.head? = some (.char '{'))) :
    raw (c :: s) = (raw s).map (c :: ·) := by
  cases s with
  | nil =>
    rw [raw.eq_2,if_neg hend]
    rfl
  | cons d rest =>
    have hboth : ¬ (c = .char '$' ∧ d = .char '{') := by
      rintro ⟨rfl,rfl⟩
      exact hopen ⟨rfl,rfl⟩
    rw [raw,if_neg hend,if_neg hescape,if_neg hboth]

/-- The backtick behind a body ends the raw text, unless an earlier one does. -/
theorem raw_prefix (h : raw (body ++ backtick :: rest) = some s)
    (hlast : ¬ [backslash] <:+ body) : s <+: body := by
  generalize hsource : body ++ backtick :: rest = source at h
  fun_induction raw source generalizing body s with
  | case1 => cases h
  | case2 =>
    obtain rfl := Option.some.inj h
    exact List.nil_prefix
  | case3 => cases h
  | case4 =>
    obtain rfl := Option.some.inj h
    exact List.nil_prefix
  | case5 d more _ ih =>
    obtain ⟨tail,htail,rfl⟩ := Option.map_eq_some_iff.mp h
    match body, hsource with
    | [], hsource => exact absurd (List.cons.inj hsource).1 (by decide)
    | [b], hsource =>
      obtain rfl := (List.cons.inj hsource).1
      exact absurd List.suffix_rfl hlast
    | b :: b' :: body, hsource =>
      have hheads := List.cons.inj hsource
      have hmore := List.cons.inj hheads.2
      have hinner : ¬ [backslash] <:+ body := by
        intro hsuffix
        exact hlast (hsuffix.trans ((List.suffix_cons b' body).trans (List.suffix_cons b _)))
      rw [hheads.1,hmore.1]
      exact List.prefix_append_right_inj [backslash,d] |>.mpr (ih hinner hmore.2 htail)
  | case6 => cases h
  | case7 c d more hend _ _ ih =>
    obtain ⟨tail,htail,rfl⟩ := Option.map_eq_some_iff.mp h
    cases body with
    | nil => exact absurd (List.cons.inj hsource).1.symm hend
    | cons b body =>
      have hheads := List.cons.inj hsource
      have hinner : ¬ [backslash] <:+ body := fun hsuffix =>
        hlast (hsuffix.trans (List.suffix_cons b body))
      rw [hheads.1]
      exact List.cons_prefix_cons.mpr ⟨rfl,ih hinner hheads.2 htail⟩

/-- A body is its own raw text just if nothing in it ends the reading. -/
theorem raw_eq_self (hescape : backslash ∉ body) : raw (body ++ backtick :: rest) = some body ↔
    backtick ∉ body ∧ Text.occursIn "$\x7b" body = false := by
  induction body with
  | nil => exact iff_of_true (raw_backtick rest) ⟨List.not_mem_nil,rfl⟩
  | cons c body ih =>
    obtain ⟨hc,hbody⟩ := List.ne_and_not_mem_of_not_mem_cons hescape
    by_cases hend : c = backtick
    · subst hend
      rw [List.cons_append,raw_backtick]
      exact iff_of_false (fun h => by cases h) fun h => h.1 List.mem_cons_self
    by_cases hopen : c = .char '$' ∧ body.head? = some (.char '{')
    · obtain ⟨rfl,hbrace⟩ := hopen
      obtain ⟨more,rfl⟩ := List.head?_eq_some_iff.mp hbrace
      exact iff_of_false (fun h => by cases h) fun h => by cases h.2
    have hnext : ¬ (c = .char '$' ∧ (body ++ backtick :: rest).head? = some (.char '{')) := by
      rintro ⟨hdollar,hbrace⟩
      cases body with
      | nil => exact absurd (Option.some.inj hbrace) (by decide)
      | cons d body => exact hopen ⟨hdollar,hbrace⟩
    have hstart : List.isPrefixOf (Text.ofString "$\x7b") (c :: body) = false := by
      rw [Bool.eq_false_iff,ne_eq,List.isPrefixOf_iff_prefix]
      rintro ⟨more,hmore⟩
      obtain ⟨hdollar,hrest⟩ := List.cons.inj hmore
      refine hopen ⟨hdollar.symm,?_⟩
      rw [← hrest]
      rfl
    rw [List.cons_append,raw_cons hend (Ne.symm hc) hnext,Text.occursIn,hstart,Bool.false_or,
      List.mem_cons,not_or,and_iff_right (Ne.symm hend),← ih hbody,Option.map_eq_some_iff]
    simp

/-- A body with an end behind it is the value of a literal just if nothing in it has a meaning
there. -/
theorem value?_eq_self (hlast : ¬ [backslash] <:+ body) :
    value? (body ++ backtick :: rest) = some body ↔ IsPlain body := by
  constructor
  · intro h
    obtain ⟨s,hraw,hvalue⟩ := Option.bind_eq_some_iff.mp h
    obtain ⟨more,rfl⟩ := raw_prefix hraw hlast
    have hshort := Text.normalizeNewlines_length s
    obtain ⟨hle,hlt⟩ := unescape_length hvalue
    rw [List.length_append] at hle hlt
    obtain rfl : more = [] := List.length_eq_zero_iff.mp (by omega)
    have hescape : backslash ∉ s.normalizeNewlines := by
      intro hmem
      have := hlt hmem
      omega
    rw [List.append_nil] at hraw hvalue ⊢
    have hsame : s.normalizeNewlines = s :=
      Option.some.inj ((unescape_plain hescape).symm.trans hvalue)
    rw [hsame] at hescape
    obtain ⟨hend,hopen⟩ := (raw_eq_self hescape).mp hraw
    exact ⟨hescape,hend,hsame ▸ Text.return_not_mem_normalizeNewlines s,hopen⟩
  · rintro ⟨hescape,hend,hreturn,hopen⟩
    rw [value?,(raw_eq_self hescape).mpr ⟨hend,hopen⟩,Option.bind_some,
      Text.normalizeNewlines_plain hreturn]
    exact unescape_plain hescape

end Literal
end StyleLift
