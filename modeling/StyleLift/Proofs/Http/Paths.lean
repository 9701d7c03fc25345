import Mathlib.Data.List.TakeWhile
import StyleLift.Http.Target
import StyleLift.Proofs.Text.Encoding
import StyleLift.Proofs.Text.Joining

/-! # Paths of plain steps

A path whose steps are made of ASCII letters, digits, low lines and hyphens is written as it is and
read back as it is: nothing in it is encoded, and none of its steps stays or goes up.
-/
namespace StyleLift.Http

/-- An ASCII letter or digit, a low line or a hyphen. -/
def isStepPart (c : CodePoint) : Bool :=
  c.isAsciiLetter || c.isAsciiDigit || c == .char '_' || c == .char '-'

/-- A step that is not empty, of such code points. -/
structure IsPlainStep (step : Text) : Prop where
  nonempty : step ≠ []
  plain : ∀ c ∈ step, isStepPart c = true

/-- The path of some steps. -/
def pathOfSteps (steps : List Text) : Text := steps.flatMap fun step => slash :: step

variable {c : CodePoint} {step : Text} {steps : List Text}

theorem isStepPart_ascii (h : isStepPart c = true) : c.val < 0x80 := by
  simp only [isStepPart,CodePoint.isAsciiLetter,CodePoint.isAsciiDigit,Bool.or_eq_true,
    Bool.and_eq_true,decide_eq_true_eq,beq_iff_eq] at h
  rcases h with (h | rfl) | rfl
  · omega
  · decide
  · decide

/-- What a path of plain steps is made of. -/
def isPathPart (c : CodePoint) : Bool := isStepPart c || c == slash

theorem isPathPart_ascii (h : isPathPart c = true) : c.val < 0x80 := by
  simp only [isPathPart,Bool.or_eq_true,beq_iff_eq] at h
  rcases h with h | rfl
  · exact isStepPart_ascii h
  · decide

/-- Such code points stand for themselves, and none of them ends a path or starts a code. -/
theorem isPathPart_plain (h : isPathPart c = true) : isPathPlain c = true ∧ isControl c = false ∧
    c ≠ questionMark ∧ c ≠ .char '#' ∧ c ≠ .char '%' ∧ Text.isSurrogate c = false := by
  have hall : ∀ n < 0x80, isPathPart (CodePoint.ofNat n) = true →
      isPathPlain (CodePoint.ofNat n) = true ∧ isControl (CodePoint.ofNat n) = false ∧
        CodePoint.ofNat n ≠ questionMark ∧ CodePoint.ofNat n ≠ .char '#' ∧
          CodePoint.ofNat n ≠ .char '%' ∧ Text.isSurrogate (CodePoint.ofNat n) = false := by decide
  have := hall c.val (isPathPart_ascii h)
  rw [c.ofNat_val] at this
  exact this h

theorem isStepPart_ne (h : isStepPart c = true) : c ≠ slash ∧ c ≠ .char '.' := by
  constructor
  · rintro rfl
    cases h
  · rintro rfl
    cases h

theorem isPathPart_of_mem (hs : ∀ step ∈ steps, IsPlainStep step) :
    ∀ c ∈ pathOfSteps steps, isPathPart c = true := by
  intro c hc
  obtain ⟨step,hstep,hmem⟩ := List.mem_flatMap.mp hc
  rw [isPathPart,Bool.or_eq_true]
  rcases List.mem_cons.mp hmem with rfl | h
  · exact .inr (beq_self_eq_true _)
  · exact .inl ((hs step hstep).plain c h)

/-! ## Steps -/

theorem splitOn_step (h : IsPlainStep step) (rest : Text) :
    Text.splitOn slash (step ++ slash :: rest) = step :: Text.splitOn slash rest :=
  List.splitOnP_append_cons_of_forall_mem
    (fun c hc => beq_eq_false_iff_ne.mpr (isStepPart_ne (h.plain c hc)).1) slash
      (beq_self_eq_true _) rest

theorem splitOn_pathOfSteps (hs : ∀ step ∈ steps, IsPlainStep step) :
    Text.splitOn slash (pathOfSteps steps) = [] :: steps := by
  have htail : ∀ (step : Text) (steps : List Text), IsPlainStep step →
      (∀ s ∈ steps, IsPlainStep s) →
        Text.splitOn slash (step ++ pathOfSteps steps) = step :: steps := by
    intro step steps hstep hs
    induction steps generalizing step with
    | nil =>
      rw [pathOfSteps,List.flatMap_nil,List.append_nil]
      exact List.splitOnP_eq_singleton fun c hc =>
        beq_eq_false_iff_ne.mpr (isStepPart_ne (hstep.plain c hc)).1
    | cons next steps ih =>
      obtain ⟨hnext,hsteps⟩ := List.forall_mem_cons.mp hs
      rw [pathOfSteps,List.flatMap_cons,List.cons_append,splitOn_step hstep]
      rw [← pathOfSteps,ih next hnext hsteps]
  cases steps with
  | nil => rfl
  | cons step steps =>
    obtain ⟨hstep,hsteps⟩ := List.forall_mem_cons.mp hs
    have hslash : ∀ rest, Text.splitOn slash ([] ++ slash :: rest) =
        [] :: Text.splitOn slash rest :=
      List.splitOnP_append_cons_of_forall_mem (fun c hc => by cases hc) slash (beq_self_eq_true _)
    simp only [List.nil_append] at hslash
    rw [pathOfSteps,List.flatMap_cons,List.cons_append,hslash,← pathOfSteps,
      htail step steps hstep hsteps]

theorem removeDots_of_ne
    (hs : ∀ step ∈ steps, step ≠ Text.ofString "." ∧ step ≠ Text.ofString "..") :
    removeDots steps = steps := by
  have hfold : ∀ kept : List Text, steps.foldl (fun (kept : List Text) step =>
      if step = Text.ofString "." then kept
      else if step = Text.ofString ".." then (if kept = [[]] then kept else kept.dropLast)
      else kept ++ [step]) kept = kept ++ steps := by
    induction steps with
    | nil => exact fun kept => (List.append_nil kept).symm
    | cons step steps ih =>
      intro kept
      obtain ⟨⟨hstay,hup⟩,hsteps⟩ := List.forall_mem_cons.mp hs
      rw [List.foldl_cons,if_neg hstay,if_neg hup,ih hsteps,List.append_assoc]
      rfl
  exact hfold []

theorem IsPlainStep.ne_dots (h : IsPlainStep step) :
    step ≠ Text.ofString "." ∧ step ≠ Text.ofString ".." := by
  constructor
  · rintro rfl
    exact (isStepPart_ne (h.plain (.char '.') (by decide))).2 rfl
  · rintro rfl
    exact (isStepPart_ne (h.plain (.char '.') (by decide))).2 rfl

/-! ## Writing and reading -/

variable {s : Text}

theorem percentEncode_of_plain {plain : CodePoint → Bool} (h : ∀ c ∈ s, plain c = true) :
    Text.percentEncode plain s = s := by
  induction s with
  | nil => rfl
  | cons c s ih =>
    obtain ⟨hc,hs⟩ := List.forall_mem_cons.mp h
    rw [Text.percentEncode,List.flatMap_cons,if_pos hc]
    exact congrArg _ (ih hs)

theorem percentBytes_of_ne (h : ∀ c ∈ s, c ≠ .char '%') : Text.percentBytes s = Text.utf8 s := by
  induction s with
  | nil => rfl
  | cons c s ih =>
    obtain ⟨hc,hs⟩ := List.forall_mem_cons.mp h
    rw [Text.percentBytes,ih hs]
    · simp [Text.utf8]
    · rintro a b rest rfl
      exact fun _ => hc rfl

theorem beforeQuery_eq (h : ∀ c ∈ s, c ≠ questionMark ∧ c ≠ .char '#') : beforeQuery s = s :=
  List.takeWhile_eq_self_iff.mpr fun c hc => decide_eq_true (h c hc)

theorem queryPart_eq (h : ∀ c ∈ s, c ≠ questionMark ∧ c ≠ .char '#') : queryPart s = [] := by
  rw [queryPart,List.takeWhile_eq_self_iff.mpr fun c hc => decide_eq_true (h c hc).2]
  exact List.dropWhile_eq_nil_iff.mpr fun c hc => decide_eq_true (h c hc).1

/-- A path of plain steps that is not too long is its own target. -/
theorem writeTarget?_pathOfSteps (hs : ∀ step ∈ steps, IsPlainStep step) (hne : steps ≠ [])
    (hlength : (pathOfSteps steps).length ≤ maxLength) :
    writeTarget? (pathOfSteps steps) = some (pathOfSteps steps) := by
  have hparts := isPathPart_of_mem hs
  have hends : ∀ c ∈ pathOfSteps steps, c ≠ questionMark ∧ c ≠ .char '#' := fun c hc =>
    ⟨(isPathPart_plain (hparts c hc)).2.2.1,(isPathPart_plain (hparts c hc)).2.2.2.1⟩
  have hplain := percentEncode_of_plain fun c hc => (isPathPart_plain (hparts c hc)).1
  have hcontrol : (pathOfSteps steps).any isControl = false :=
    List.any_eq_false.mpr fun c hc => by rw [(isPathPart_plain (hparts c hc)).2.1]; decide
  have hdots : removeDots ([] :: steps) = [] :: steps :=
    removeDots_of_ne (List.forall_mem_cons.mpr ⟨by decide,fun step h => (hs step h).ne_dots⟩)
  have hjoin : Text.joinWith [slash] ([] :: steps) = pathOfSteps steps :=
    Text.joinWith_cons slash [] steps
  rw [writeTarget?,beforeQuery_eq hends,queryPart_eq hends,hplain,hcontrol,
    splitOn_pathOfSteps hs,hdots,hjoin]
  rw [if_neg (by simpa [Text.percentEncode] using hlength)]
  split
  · next heq =>
    obtain ⟨step,rest,rfl⟩ := List.exists_cons_of_ne_nil hne
    rw [pathOfSteps,List.flatMap_cons] at heq
    cases heq
  · rw [Text.percentEncode,List.flatMap_nil,List.append_nil]

/-- What is too long is no target. -/
theorem writeTarget?_of_long (h : maxLength < s.length) : writeTarget? s = none := by
  rw [writeTarget?]
  simp [h]

theorem fromRoot_pathOfSteps (hs : ∀ step ∈ steps, IsPlainStep step) (hne : steps ≠ []) :
    fromRoot (pathOfSteps steps) = pathOfSteps steps := by
  obtain ⟨step,rest,rfl⟩ := List.exists_cons_of_ne_nil hne
  have hstep := hs step List.mem_cons_self
  obtain ⟨c,cs,rfl⟩ := List.exists_cons_of_ne_nil hstep.nonempty
  have hc := (isStepPart_ne (hstep.plain c List.mem_cons_self)).1
  rw [fromRoot,pathOfSteps,List.flatMap_cons,List.cons_append,List.cons_append,
    List.dropWhile_cons_of_pos (by decide),List.dropWhile_cons_of_neg (by simpa using hc)]

section Reading
variable (hs : ∀ step ∈ steps, IsPlainStep step)
include hs

theorem beforeQuery_pathOfSteps : beforeQuery (pathOfSteps steps) = pathOfSteps steps :=
  beforeQuery_eq fun c hc =>
    have hplain := isPathPart_plain (isPathPart_of_mem hs c hc)
    ⟨hplain.2.2.1,hplain.2.2.2.1⟩

theorem decodeLossy_pathOfSteps :
    Text.decodeLossy (Text.utf8 (pathOfSteps steps)) = pathOfSteps steps :=
  Text.decodeLossy_utf8 fun c hc => (isPathPart_plain (isPathPart_of_mem hs c hc)).2.2.2.2.2

theorem percentDecode_pathOfSteps : Text.percentDecode (pathOfSteps steps) = pathOfSteps steps := by
  rw [Text.percentDecode,
    percentBytes_of_ne fun c hc => (isPathPart_plain (isPathPart_of_mem hs c hc)).2.2.2.2.1,
    decodeLossy_pathOfSteps hs]

/-- A path of plain steps is handed over as it is. -/
theorem handedPath?_pathOfSteps (hne : steps ≠ []) :
    handedPath? (pathOfSteps steps) = some (pathOfSteps steps) := by
  have hascii : ∀ c ∈ pathOfSteps steps, c.val < 0x80 := fun c hc =>
    isPathPart_ascii (isPathPart_of_mem hs c hc)
  have hbytes : ((pathOfSteps steps).mapM fun c =>
      if c.val < 256 then some (UInt8.ofNat c.val) else none) =
        some (Text.utf8 (pathOfSteps steps)) := by
    rw [Text.utf8_ascii hascii]
    have hsmall : ∀ c ∈ pathOfSteps steps, c.val < 256 := fun c hc =>
      Nat.lt_trans (hascii c hc) (by decide)
    generalize pathOfSteps steps = s at hsmall
    induction s with
    | nil => rfl
    | cons c s ih =>
      obtain ⟨hc,hs⟩ := List.forall_mem_cons.mp hsmall
      rw [List.mapM_cons,if_pos hc,ih hs]
      rfl
  rw [handedPath?,beforeQuery_pathOfSteps hs,percentDecode_pathOfSteps hs]
  rw [hbytes]
  change some (fromRoot (Text.decodeLossy _)) = _
  rw [decodeLossy_pathOfSteps hs,fromRoot_pathOfSteps hs hne]

/-- A path of plain steps starts neither a scheme nor an authority. -/
theorem splitAuthority_pathOfSteps (hne : steps ≠ []) :
    splitAuthority (pathOfSteps steps) = ([],pathOfSteps steps) := by
  obtain ⟨step,rest,rfl⟩ := List.exists_cons_of_ne_nil hne
  have hstep := hs step List.mem_cons_self
  obtain ⟨c,cs,rfl⟩ := List.exists_cons_of_ne_nil hstep.nonempty
  have hc := (isStepPart_ne (hstep.plain c List.mem_cons_self)).1
  have hscheme : dropScheme (pathOfSteps ((c :: cs) :: rest)) =
      pathOfSteps ((c :: cs) :: rest) := by
    rw [pathOfSteps,List.flatMap_cons,List.cons_append,dropScheme,
      List.takeWhile_cons_of_neg (by decide)]
  have hdouble : Text.dropPrefix? "//" (pathOfSteps ((c :: cs) :: rest)) = none := by
    rw [Option.eq_none_iff_forall_ne_some]
    intro more hmore
    rw [Text.dropPrefix?_eq_some_iff,pathOfSteps,List.flatMap_cons,List.cons_append,
      List.cons_append] at hmore
    exact hc (List.cons.inj (List.cons.inj hmore).2).1
  rw [splitAuthority,hscheme,hdouble]

/-- A path of plain steps is read as it is. -/
theorem pathOf_pathOfSteps (hne : steps ≠ []) :
    pathOf (pathOfSteps steps) = .ok (pathOfSteps steps) := by
  have hkept : (pathOfSteps steps).filter (fun c => !isIgnored c) = pathOfSteps steps := by
    refine List.filter_eq_self.mpr fun c hc => ?_
    have hcontrol := (isPathPart_plain (isPathPart_of_mem hs c hc)).2.1
    have hignored : ∀ c, isIgnored c = true → isControl c = true := by
      intro c h
      simp only [isIgnored,Bool.or_eq_true,beq_iff_eq] at h
      rcases h with (rfl | rfl) | rfl <;> decide
    by_contra h
    rw [Bool.not_eq_true,Bool.not_eq_false'] at h
    exact absurd (hignored c h) (by rw [hcontrol]; decide)
  rw [pathOf,hkept,beforeQuery_pathOfSteps hs,splitAuthority_pathOfSteps hs hne]
  dsimp only
  rw [splitAuthority_pathOfSteps hs hne]
  dsimp only
  rw [splitAuthority_pathOfSteps hs hne,percentDecode_pathOfSteps hs,fromRoot_pathOfSteps hs hne]
  rfl

end Reading

end StyleLift.Http
