import StyleLift.Proofs.Json.Bytes
import StyleLift.Proofs.Run.Outcome
import StyleLift.Verify.Tailwind

/-! # How a compilation fails

Whatever becomes of the program that compiles, the compiler ends in a value or in an error of its
own, but for two outcomes that its errors have no words for: a program that is missing where no
program was named, and an exit status with too many digits to be written.
-/
namespace StyleLift

namespace Shell
variable {line : Text} {state : SplitState}

/-- Inside a word there is always a word to come. -/
theorem splitFrom_eq_nil (h : splitFrom state line = .ok []) :
    state = .between ∧ ∀ c ∈ line, isSpace c = true := by
  have henter : ∀ read c, SplitState.enter read c ≠ .between := by
    intro read c
    rw [SplitState.enter]
    repeat' split
    all_goals exact fun h => by cases h
  fun_induction splitFrom state line with
  | case1 => exact ⟨rfl,fun _ h => by cases h⟩
  | case2 => cases h
  | case3 => cases h
  | case4 => cases h
  | case5 => cases h
  | case6 c rest hspace ih => exact ⟨rfl,List.forall_mem_cons.mpr ⟨hspace,(ih h).2⟩⟩
  | case7 c rest _ ih => exact absurd (ih h).1 (henter _ _)
  | case8 =>
    obtain ⟨_,-,hwords⟩ := map_eq_ok.mp h
    cases hwords
  | case9 read c rest _ ih => exact absurd (ih h).1 (henter _ _)
  | _ => simp_all

/-- Only a line of spaces names no program. -/
theorem split_eq_nil_iff : split line = .ok [] ↔ ∀ c ∈ line, isSpace c = true := by
  refine ⟨fun h => (splitFrom_eq_nil h).2,fun h => ?_⟩
  unfold split
  induction line with
  | nil => rfl
  | cons c line ih =>
    obtain ⟨hc,hline⟩ := List.forall_mem_cons.mp h
    rw [splitFrom,if_pos hc]
    exact ih hline

end Shell

/-- Only a surrogate keeps a text from its bytes. -/
theorem Text.encode_returns {s : Text} : (∃ bytes, encode s = .ok bytes) ↔ s.IsScalar := by
  refine ⟨fun ⟨bytes,h⟩ => ?_,fun h => ⟨_,encode_of_not_surrogate h⟩⟩
  have hdrop : s.drop (s.takeWhile fun c => !isSurrogate c).length =
      s.dropWhile fun c => !isSurrogate c := by
    have hleft : ((s.takeWhile fun c => !isSurrogate c) ++ s.dropWhile fun c => !isSurrogate c).drop
        (s.takeWhile fun c => !isSurrogate c).length = s.dropWhile fun c => !isSurrogate c :=
      List.drop_left
    rwa [List.takeWhile_append_dropWhile] at hleft
  rw [encode,hdrop] at h
  split at h
  · next hrest => simpa [List.dropWhile_eq_nil_iff,Text.IsScalar] using hrest
  · cases h

/-- An outcome that is a value or a compiler's error. -/
def Described {α : Type} (x : Except Fault α) : Prop :=
  (∃ a, x = .ok a) ∨ ∃ e, x = .error (.compiler e)

namespace Described
variable {α β : Type} {x : Except Fault α}

theorem bind_iff {f : α → Except Fault β} (h : ∀ a, Described (f a)) :
    Described (x >>= f) ↔ Described x := by
  cases x with
  | ok a => exact iff_of_true (h a) (.inl ⟨a,rfl⟩)
  | error fault => simp [Described,bind,Except.bind]

theorem map_iff {f : α → β} : Described (x.map f) ↔ Described x := by
  cases x <;> simp [Described,Except.map]

end Described

namespace Tailwind
variable {t : Tailwind} {m : Machine} {o : Outcome} {fault : Fault}

/-! ## The program -/

/-- An outcome that the compiler's errors have no words for, after a command line. -/
def Unforeseen (executable : Text) : Outcome → Prop
  | .programMissing => ∀ c ∈ executable, Shell.isSpace c = true
  | .completed c => Numeral.isWritten c.status = false
  | _ => False

/-- A fault that is no compiler's error. -/
def IsStray (fault : Fault) : Prop :=
  fault = .other .outOfRange "list index out of range" ∨ fault = statusUnwritten

theorem completion_described {executable : Text}
    (hcommand : t.command = [] ↔ ∀ c ∈ executable, Shell.isSpace c = true) :
    Described (t.completion o) ↔ ¬ Unforeseen executable o := by
  cases o with
  | programMissing =>
    rw [Unforeseen,← hcommand,completion,programMissing]
    cases t.command <;> simp [Described,failure]
  | notPermitted => exact iff_of_true (.inr ⟨_,rfl⟩) id
  | timedOut => exact iff_of_true (.inr ⟨_,rfl⟩) id
  | completed c =>
    rw [Unforeseen,completion]
    by_cases hzero : c.status = 0
    · have hwritten : Numeral.isWritten 0 = true := by decide
      rw [if_pos hzero,hzero,hwritten]
      exact iff_of_true (.inl ⟨c,rfl⟩) (by decide)
    · rw [if_neg hzero,exited]
      cases Numeral.isWritten c.status <;> simp [Described,statusUnwritten]

theorem completion_eq_error (h : t.completion o = .error fault) :
    (∃ e, fault = .compiler e) ∨ IsStray fault := by
  cases o with
  | programMissing =>
    obtain rfl := Except.error.inj h
    rw [programMissing]
    split
    · exact .inl ⟨_,rfl⟩
    · exact .inr (.inl rfl)
  | notPermitted => exact .inl ⟨_,(Except.error.inj h).symm⟩
  | timedOut => exact .inl ⟨_,(Except.error.inj h).symm⟩
  | completed c =>
    rw [completion] at h
    split at h
    · cases h
    · obtain rfl := Except.error.inj h
      rw [exited]
      split
      · exact .inl ⟨_,rfl⟩
      · exact .inr (.inr rfl)

theorem run_outcome (t : Tailwind) (m : Machine) (i : Invocation) :
    (t.run m i).outcome = t.completion (m.run i) := by
  simp only [run,Action.outcome_bind,Action.outcome_log,Action.outcome_emit,
    Action.outcome_ofExcept]
  cases t.completion (m.run i) <;> rfl

/-! ## Compiling -/

theorem checkEncodable_returns {texts : List Text} :
    checkEncodable texts = .ok () ↔ ∀ s ∈ texts, s.IsScalar := by
  rw [checkEncodable,forM_eq_ok]
  simp only [map_eq_ok,and_true,Text.encode_returns]

theorem readOutput_described (m : Machine) (output : OutputFile) :
    Described (readOutput m output) := by
  cases output with
  | missing => exact .inr ⟨_,rfl⟩
  | directory => exact .inr ⟨_,rfl⟩
  | bytes content =>
    rw [readOutput]
    cases Text.decode content with
    | ok text => exact .inl ⟨_,rfl⟩
    | error e => exact .inr ⟨_,rfl⟩

theorem compile_outcome (t : Tailwind) (m : Machine) (stylesheet : Text) (documents : List Text) :
    (t.compile m stylesheet documents).outcome =
      (checkEncodable (stylesheet :: documents)).mapError unwritable >>= fun _ =>
        t.completion (m.run (t.invocation m stylesheet documents)) >>= fun c =>
          readOutput m c.output := by
  have hread : ∀ c : Completion, (readOutput m c.output).mapError id = readOutput m c.output :=
    fun c => by cases readOutput m c.output <;> rfl
  simp only [compile,Action.outcome_bind,Action.outcome_ofExcept,run_outcome,hread]

/-- The help that names the version. -/
def helpInvocation (t : Tailwind) : Invocation :=
  ⟨t.command ++ [Text.ofString "--help"],t.timeout,none,[]⟩

theorem version_outcome (t : Tailwind) (m : Machine) : (t.version m).outcome =
    (t.completion (m.run t.helpInvocation)).map fun c =>
      (versionIn? c.stdout).orElse fun () => versionIn? c.stderr := by
  simp only [version,Action.outcome_bind,run_outcome]
  rfl

theorem remarkVersion_outcome (t : Tailwind) (v : Option Text) :
    (t.remarkVersion v).outcome = .ok () := by
  cases v with
  | none => rfl
  | some v =>
    rw [remarkVersion,Action.outcome_bind]
    split <;> rfl

/-- A compiler's error is all that the check of the version keeps to itself. -/
theorem checkVersion_outcome (t : Tailwind) (m : Machine) : (t.checkVersion m).outcome =
    match (t.version m).outcome with
    | .ok v => .ok v
    | .error (.compiler _) => .ok none
    | .error fault => .error fault := by
  have hremarked : (do
      let v ← t.version m
      t.remarkVersion v
      return v : Action (Option Text)).outcome = (t.version m).outcome := by
    simp only [Action.outcome_bind,remarkVersion_outcome,Action.outcome_pure]
    cases (t.version m).outcome <;> rfl
  rw [checkVersion,Action.outcome_tryCatch,hremarked]
  cases (t.version m).outcome with
  | ok v => rfl
  | error fault => cases fault <;> rfl

theorem checkVersion_returns :
    (∃ v, (t.checkVersion m).outcome = .ok v) ↔ Described (t.version m).outcome := by
  rw [checkVersion_outcome]
  cases (t.version m).outcome with
  | ok v => simp [Described]
  | error fault => cases fault <;> simp [Described]

/-! ## What escapes -/

theorem compile_eq_error {stylesheet : Text} {documents : List Text}
    (h : (t.compile m stylesheet documents).outcome = .error fault) :
    (∃ e, fault = .compiler e) ∨ IsStray fault := by
  rw [compile_outcome] at h
  rcases bind_eq_error.mp h with hwrite | ⟨_,-,hrest⟩
  · obtain ⟨e,-,rfl⟩ := mapError_eq_error.mp hwrite
    exact .inl ⟨_,rfl⟩
  rcases bind_eq_error.mp hrest with hrun | ⟨c,-,hread⟩
  · exact completion_eq_error hrun
  · rcases readOutput_described m c.output with ⟨text,htext⟩ | ⟨e,he⟩
    · cases hread.symm.trans htext
    · exact .inl ⟨e,Except.error.inj (hread.symm.trans he)⟩

theorem completion_status {e : CompilerError} {status : Int}
    (h : t.completion o = .error (.compiler e)) (hstatus : e.status = some status) :
    Numeral.isWritten status = true := by
  cases o with
  | programMissing =>
    rw [completion,programMissing] at h
    split at h <;> cases h
    cases hstatus
  | notPermitted =>
    cases h
    cases hstatus
  | timedOut =>
    cases h
    cases hstatus
  | completed c =>
    rw [completion] at h
    split at h
    · cases h
    · rw [exited] at h
      split at h
      · next hwritten =>
        cases h
        obtain rfl := Option.some.inj hstatus
        exact hwritten
      · cases h

/-- The exit status in the error of a compilation is one that can be written. -/
theorem compile_status {stylesheet : Text} {documents : List Text}
    {e : CompilerError} {status : Int}
    (h : (t.compile m stylesheet documents).outcome = .error (.compiler e))
    (hstatus : e.status = some status) : Numeral.isWritten status = true := by
  rw [compile_outcome] at h
  rcases bind_eq_error.mp h with hwrite | ⟨_,-,hrest⟩
  · obtain ⟨_,-,he⟩ := mapError_eq_error.mp hwrite
    cases he
    cases hstatus
  rcases bind_eq_error.mp hrest with hrun | ⟨c,-,hread⟩
  · exact completion_status hrun hstatus
  · cases hout : c.output with
    | missing =>
      rw [hout] at hread
      cases hread
      cases hstatus
    | directory =>
      rw [hout] at hread
      cases hread
      cases hstatus
    | bytes content =>
      rw [hout,readOutput] at hread
      split at hread <;> cases hread
      cases hstatus

theorem version_eq_error (h : (t.version m).outcome = .error fault) :
    (∃ e, fault = .compiler e) ∨ IsStray fault := by
  rw [version_outcome] at h
  exact completion_eq_error (map_eq_error.mp h)

theorem checkVersion_eq_error (h : (t.checkVersion m).outcome = .error fault) :
    (t.version m).outcome = .error fault := by
  rw [checkVersion_outcome] at h
  cases hversion : (t.version m).outcome with
  | ok v =>
    rw [hversion] at h
    cases h
  | error found =>
    rw [hversion] at h
    cases found <;> first | exact h | cases h

variable {executable : Text} {configPath : Option Text} {timeout : Binary64} {vendor : Bool}

theorem command_eq_nil (ht : ofExecutable executable configPath timeout vendor = .ok t) :
    t.command = [] ↔ ∀ c ∈ executable, Shell.isSpace c = true := by
  obtain ⟨command,hcommand,rfl⟩ := map_eq_ok.mp ht
  rw [← Shell.split_eq_nil_iff,hcommand]
  exact ⟨congrArg _,fun h => Except.ok.inj h⟩

section Escaping
variable (ht : ofExecutable executable configPath timeout vendor = .ok t)
include ht

theorem compile_described (m : Machine) (stylesheet : Text) (documents : List Text) :
    Described (t.compile m stylesheet documents).outcome ↔
      ¬ ((∀ s ∈ stylesheet :: documents, s.IsScalar) ∧
        Unforeseen executable (m.run (t.invocation m stylesheet documents))) := by
  rw [compile_outcome,← checkEncodable_returns,not_and]
  cases hencodable : checkEncodable (stylesheet :: documents) with
  | error e => exact iff_of_true (.inr ⟨_,rfl⟩) fun h => by cases h
  | ok u =>
    refine (Described.bind_iff fun c : Completion => readOutput_described m c.output).trans ?_
    rw [completion_described (command_eq_nil ht)]
    exact ⟨fun h _ => h,fun h => h rfl⟩

theorem version_described (m : Machine) :
    Described (t.version m).outcome ↔ ¬ Unforeseen executable (m.run t.helpInvocation) := by
  rw [version_outcome,Described.map_iff,completion_described (command_eq_nil ht)]

/-- A compilation, the version and the check of the version end in a value or in a compiler's error
(the check in a value alone) unless the program is run and its outcome is unforeseen; what they end
with then is one of two faults. -/
theorem failures_described_iff (m : Machine) (stylesheet : Text) (documents : List Text) :
    (Described (t.compile m stylesheet documents).outcome ↔
      ¬ ((∀ s ∈ stylesheet :: documents, s.IsScalar) ∧
        Unforeseen executable (m.run (t.invocation m stylesheet documents)))) ∧
    (Described (t.version m).outcome ↔ ¬ Unforeseen executable (m.run t.helpInvocation)) ∧
    ((∃ v, (t.checkVersion m).outcome = .ok v) ↔
      ¬ Unforeseen executable (m.run t.helpInvocation)) ∧
    (∀ fault, (t.compile m stylesheet documents).outcome = .error fault ∨
        (t.version m).outcome = .error fault ∨ (t.checkVersion m).outcome = .error fault →
      (∃ e, fault = .compiler e) ∨ IsStray fault) := by
  refine ⟨compile_described ht m stylesheet documents,version_described ht m,?_,?_⟩
  · rw [checkVersion_returns,version_described ht]
  · rintro fault (h | h | h)
    · exact compile_eq_error h
    · exact version_eq_error h
    · exact version_eq_error (checkVersion_eq_error h)

end Escaping

/-! A command line of nothing but spaces, where the program is missing and where it is slow. -/

def gone : Machine := ⟨fun _ => .programMissing,"/tmp"⟩

/-- Only what is run in a directory is missing. -/
def slowHelp : Machine :=
  ⟨fun i => if i.directory.isSome then .programMissing else .timedOut,"/tmp"⟩

/-- The version is described, and a compilation only of a text without bytes. -/
theorem failures_described_iff_spaces :
    ofExecutable "  " none defaultTimeout true = .ok ⟨[],none,defaultTimeout,true⟩ ∧
    ¬ Described (compile ⟨[],none,defaultTimeout,true⟩ slowHelp "" ["<p>"]).outcome ∧
    Described (compile ⟨[],none,defaultTimeout,true⟩ slowHelp "" [[.surrogate 0]]).outcome ∧
    Described (version ⟨[],none,defaultTimeout,true⟩ slowHelp).outcome := by
  have ht : ofExecutable "  " none defaultTimeout true = .ok ⟨[],none,defaultTimeout,true⟩ := rfl
  have hspaces : ∀ c ∈ ("  " : Text), Shell.isSpace c = true := by decide
  refine ⟨ht,?_,?_,?_⟩
  · rw [(failures_described_iff ht slowHelp "" ["<p>"]).1,not_not]
    exact ⟨by decide,hspaces⟩
  · rw [(failures_described_iff ht slowHelp "" [[.surrogate 0]]).1]
    rintro ⟨hscalar,-⟩
    exact absurd (hscalar _ (.tail _ (.head _)) _ (.head _)) (by decide)
  · exact (failures_described_iff ht slowHelp "" []).2.1.mpr id

/-- Where the program is missing, nothing that a command line without a word runs is described. -/
theorem spaces_not_described :
    ofExecutable "" none defaultTimeout true = .ok ⟨[],none,defaultTimeout,true⟩ ∧
    ¬ Described (compile ⟨[],none,defaultTimeout,true⟩ gone "" []).outcome ∧
    ¬ Described (version ⟨[],none,defaultTimeout,true⟩ gone).outcome ∧
    ¬ ∃ v, (checkVersion ⟨[],none,defaultTimeout,true⟩ gone).outcome = .ok v := by
  have ht : ofExecutable "" none defaultTimeout true = .ok ⟨[],none,defaultTimeout,true⟩ := rfl
  have hspaces : ∀ c ∈ ("" : Text), Shell.isSpace c = true := by decide
  rw [checkVersion_returns,version_described ht,compile_described ht,not_not,not_not]
  exact ⟨ht,⟨by decide,hspaces⟩,hspaces,hspaces⟩

end Tailwind
end StyleLift
