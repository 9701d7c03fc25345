import StyleLift.Text.Blank

/-! # Trimming and words

Blanks around a text are trimmed away, and blanks between words part them.
-/
namespace StyleLift.Text

variable {a b s v w : Text}

/-- A run of code points with a property, up to one without it. -/
theorem span_of_run {p : CodePoint → Bool} {run s : Text} (hr : ∀ c ∈ run, p c = true)
    (hs : ∀ c ∈ s.head?, p c = false) :
    (run ++ s).takeWhile p = run ∧ (run ++ s).dropWhile p = s := by
  rw [List.takeWhile_append_of_pos hr,List.dropWhile_append_of_pos hr]
  cases s with
  | nil => simp
  | cons c s => simp [hs c rfl]

theorem trimStart_append (h : ∀ c ∈ a, c.isBlank = true) (s : Text) :
    trimStart (a ++ s) = trimStart s :=
  List.dropWhile_append_of_pos h

theorem trimEnd_append (h : ∀ c ∈ b, c.isBlank = true) (s : Text) :
    trimEnd (s ++ b) = trimEnd s := by
  have hb : ∀ c ∈ b.reverse, c.isBlank = true := fun c hc => h c (List.mem_reverse.mp hc)
  rw [trimEnd,List.reverse_append,List.dropWhile_append_of_pos hb,trimEnd]

theorem trimStart_eq_self (h : ∀ c ∈ s.head?, c.isBlank = false) : trimStart s = s := by
  cases s with
  | nil => rfl
  | cons c s => exact List.dropWhile_cons_of_neg (by simp [h c rfl])

theorem trimEnd_eq_self (h : ∀ c ∈ s.getLast?, c.isBlank = false) : trimEnd s = s := by
  have hr : trimStart s.reverse = s.reverse := trimStart_eq_self (by simpa using h)
  rw [trimStart] at hr
  rw [trimEnd,hr,List.reverse_reverse]

theorem trim_append (h : ∀ c ∈ b, c.isBlank = true) (s : Text) : trim (s ++ b) = trim s := by
  cases hs : trimStart s with
  | nil =>
    have hb : trimStart b = [] := by
      have := trimStart_append h []
      rwa [List.append_nil] at this
    have hsb : trimStart (s ++ b) = [] := by
      unfold trimStart at hs hb ⊢
      rw [List.dropWhile_append,hs]
      exact hb
    rw [trim,trim,hs,hsb]
  | cons c tail =>
    have hsb : trimStart (s ++ b) = c :: tail ++ b := by
      unfold trimStart at hs ⊢
      rw [List.dropWhile_append,hs]
      rfl
    rw [trim,trim,hs,hsb,trimEnd_append h]

/-- A text that starts and ends with no blank is what is left of it among blanks. -/
theorem trim_padded (ha : ∀ c ∈ a, c.isBlank = true) (hb : ∀ c ∈ b, c.isBlank = true)
    (hne : v ≠ []) (hfirst : ∀ c ∈ v.head?, c.isBlank = false)
    (hlast : ∀ c ∈ v.getLast?, c.isBlank = false) : trim (a ++ (v ++ b)) = v := by
  have hhead : (v ++ b).head? = v.head? := by
    cases v with
    | nil => exact (hne rfl).elim
    | cons c v => rfl
  rw [trim,trimStart_append ha,trimStart_eq_self (by rwa [hhead]),trimEnd_append hb,
    trimEnd_eq_self hlast]

theorem getLast?_trim (s : Text) : ∀ c ∈ (trim s).getLast?, c.isBlank = false := by
  intro c hc
  have h := List.head?_dropWhile_not CodePoint.isBlank (trimStart s).reverse
  rw [trim,trimEnd,List.getLast?_reverse] at hc
  rwa [Option.mem_def.mp hc] at h

theorem trimEnd_prefix (s : Text) : trimEnd s <+: s := by
  have h := List.reverse_prefix.mpr (List.dropWhile_suffix (l := s.reverse) CodePoint.isBlank)
  rwa [List.reverse_reverse] at h

theorem head?_trim (s : Text) : ∀ c ∈ (trim s).head?, c.isBlank = false := by
  intro c hc
  obtain ⟨rest,hrest⟩ := trimEnd_prefix (trimStart s)
  obtain ⟨tail,htail⟩ := List.head?_eq_some_iff.mp (Option.mem_def.mp hc)
  have h := List.head?_dropWhile_not CodePoint.isBlank s
  rw [trim] at htail
  rw [htail] at hrest
  rwa [← trimStart,← hrest] at h

theorem trim_trim (s : Text) : trim (trim s) = trim s :=
  calc trim (trim s) = trimEnd (trimStart (trim s)) := rfl
    _ = trimEnd (trim s) := by rw [trimStart_eq_self (head?_trim s)]
    _ = trim s := trimEnd_eq_self (getLast?_trim s)

@[simp] theorem words_nil : words [] = [] := rfl

theorem words_cons_blank {c : CodePoint} (h : c.isBlank = true) (s : Text) :
    words (c :: s) = words s := by
  simp [words,List.splitOnP_cons_eq_if_modifyHead,h]

theorem words_blanks (h : ∀ c ∈ b, c.isBlank = true) (s : Text) : words (b ++ s) = words s := by
  induction b with
  | nil => rfl
  | cons c b ih =>
    rw [List.cons_append,words_cons_blank (h c List.mem_cons_self),
      ih fun d hd => h d (List.mem_cons_of_mem _ hd)]

theorem words_word (hne : w ≠ []) (hw : ∀ c ∈ w, c.isBlank = false)
    (hs : ∀ c ∈ s.head?, c.isBlank = true) : words (w ++ s) = w :: words s := by
  cases s with
  | nil => simp [words,List.splitOnP_eq_singleton hw,hne]
  | cons c s =>
    have hc := hs c rfl
    rw [words_cons_blank hc,words,List.splitOnP_append_cons_of_forall_mem hw c hc,words]
    simp [hne]

end StyleLift.Text
