import StyleLift.Json.Printer
import StyleLift.Json.Reader
import StyleLift.Proofs.Number.Digits
import StyleLift.Proofs.Number.Shortest
import StyleLift.Proofs.Text.Blanks

/-! # Numbers in JSON text

A written number is read back, if what follows it cannot be taken for a part of it: an integer by
its digits, a real number by the decimal that its shortest digits and their place amount to.
-/
namespace StyleLift
namespace Json

/-- Whether a text goes on in another way than a number does. -/
def EndsNumber (rest : Text) : Prop := ∀ c ∈ rest.head?,
  c.isAsciiDigit = false ∧ c ≠ .char '.' ∧ c ≠ .char 'e' ∧ c ≠ .char 'E'

/-- Whether a text does not start with a digit. -/
def NoDigitHead (rest : Text) : Prop := ∀ c ∈ rest.head?, c.isAsciiDigit = false

theorem EndsNumber.noDigitHead {rest : Text} (h : EndsNumber rest) : NoDigitHead rest :=
  fun c hc => (h c hc).1

variable (negative : Bool) {whole fraction digits rest tail : Text} {x : Int}

theorem takeAsciiDigits_append (hd : digits.IsDigits) (hr : NoDigitHead rest) :
    takeAsciiDigits (digits ++ rest) = (digits,rest) := by
  obtain ⟨htake,hdrop⟩ := Text.span_of_run hd hr
  rw [takeAsciiDigits,htake,hdrop]

/-- The digits before a point: some, with no zero in front of others. -/
structure IsWhole (whole : Text) : Prop where
  numeric : whole.IsDigits
  nonempty : whole ≠ []
  head : whole = [.char '0'] ∨ whole.head? ≠ some (.char '0')

theorem takeWhole_append (hw : IsWhole whole) (hr : NoDigitHead rest) :
    takeWhole (whole ++ rest) = (whole,rest) := by
  rcases hw.head with rfl | hhead
  · rfl
  · obtain ⟨c,cs,rfl⟩ := List.exists_cons_of_ne_nil hw.nonempty
    have hne : ∀ tail, c :: (cs ++ rest) ≠ .char '0' :: tail := fun tail heq => by
      obtain ⟨rfl,-⟩ := List.cons.inj heq
      exact hhead rfl
    rw [List.cons_append,takeWhole.eq_2 _ hne,← List.cons_append,
      takeAsciiDigits_append hw.numeric hr]

theorem takeFraction?_none (h : rest.head? ≠ some (.char '.')) : takeFraction? rest = none := by
  cases rest with
  | nil => rfl
  | cons c rest =>
    rw [takeFraction?]
    rintro tail heq
    obtain ⟨rfl,-⟩ := List.cons.inj heq
    exact h rfl

theorem takeExponent?_none (h : EndsNumber rest) : takeExponent? rest = none := by
  cases rest with
  | nil => rfl
  | cons c rest =>
    obtain ⟨-,-,hlower,hupper⟩ := h c rfl
    rw [takeExponent?]
    · rintro tail heq
      exact hlower (List.cons.inj heq).1
    · rintro tail heq
      exact hupper (List.cons.inj heq).1

/-- Digits alone are an integer, if they are not too many. -/
theorem readNumber_whole (hw : IsWhole whole) (hlimit : whole.length ≤ Numeral.digitLimit)
    (hr : EndsNumber rest) : readNumber negative (whole ++ rest) =
      .ok (.int (if negative then -(whole.decimalValue : Int) else whole.decimalValue),rest) := by
  have hpoint : rest.head? ≠ some (.char '.') := fun h => (hr _ h).2.1 rfl
  have hcheck : Numeral.checkDigits whole.length = .ok () := by
    rw [Numeral.checkDigits,if_neg (by omega)]
  rw [readNumber,takeWhole_append hw hr.noDigitHead]
  dsimp only
  rw [if_neg (by simpa using hw.nonempty),takeFraction?_none hpoint,takeExponent?_none hr]
  dsimp only
  rw [hcheck]

/-- Digits and an exponent are a decimal. -/
theorem readNumber_exponent (hw : IsWhole whole) (he : takeExponent? rest = some (x,tail))
    (hr : NoDigitHead rest) (hpoint : rest.head? ≠ some (.char '.')) :
    readNumber negative (whole ++ rest) =
      .ok (.real (.ofDecimal negative whole.decimalValue x),tail) := by
  rw [readNumber,takeWhole_append hw hr]
  dsimp only
  rw [if_neg (by simpa using hw.nonempty),takeFraction?_none hpoint,he]

/-- Digits around a point are a decimal, with an exponent or without. -/
theorem readNumber_point (hw : IsWhole whole) (hf : fraction.IsDigits) (hne : fraction ≠ [])
    (hr : NoDigitHead rest) (he : (takeExponent? rest).getD (0,rest) = (x,tail)) :
    readNumber negative (whole ++ .char '.' :: (fraction ++ rest)) =
      .ok (.real (.ofDecimal negative (whole ++ fraction).decimalValue (x - fraction.length)),
        tail) := by
  have hstop : NoDigitHead (.char '.' :: (fraction ++ rest)) := fun c hc => by
    obtain rfl := Option.some.inj hc
    rfl
  have htake : takeFraction? (.char '.' :: (fraction ++ rest)) = some (fraction,rest) := by
    rw [takeFraction?,takeAsciiDigits_append hf hr]
    cases fraction with
    | nil => exact absurd rfl hne
    | cons c cs => rfl
  rw [readNumber,takeWhole_append hw hstop]
  dsimp only
  rw [if_neg (by simpa using hw.nonempty),htake]
  dsimp only
  rw [he]

/-! ## Integers -/

theorem isWhole_ofNat (n : Nat) : IsWhole (Text.ofNat n) where
  numeric := Text.isDigits_ofNat n
  nonempty := Text.ofNat_ne_nil n
  head := by
    rcases Nat.eq_zero_or_pos n with rfl | h
    · exact .inl rfl
    · exact .inr (Text.ofNat_head h)

theorem readNumber_ofNat {n : Nat} (hlimit : (Text.ofNat n).length ≤ Numeral.digitLimit)
    (hr : EndsNumber rest) : readNumber negative (Text.ofNat n ++ rest) =
      .ok (.int (if negative then -(n : Int) else n),rest) := by
  rw [readNumber_whole negative (isWhole_ofNat n) hlimit hr,Text.decimalValue_ofNat]

/-! ## Shortest digits -/

theorem decimalValue_zero_cons (s : Text) :
    Text.decimalValue (.char '0' :: s) = s.decimalValue := by
  have := Text.decimalValue_append [.char '0'] s
  rw [List.singleton_append] at this
  rw [this,show Text.decimalValue [.char '0'] = 0 from rfl,Nat.zero_mul,Nat.zero_add]

/-- The digits of a number, with a zero in front or none. -/
theorem padded_ofNat {n : Nat} {padded : Text}
    (h : padded = Text.ofNat n ∨ padded = .char '0' :: Text.ofNat n) :
    padded.IsDigits ∧ padded.decimalValue = n ∧ padded ≠ [] := by
  have hn := isWhole_ofNat n
  rcases h with rfl | rfl
  · exact ⟨hn.numeric,Text.decimalValue_ofNat n,hn.nonempty⟩
  · refine ⟨List.forall_mem_cons.mpr ⟨rfl,hn.numeric⟩,?_,List.cons_ne_nil _ _⟩
    rw [decimalValue_zero_cons,Text.decimalValue_ofNat]

theorem takeExponent?_exponentText (hr : NoDigitHead rest) :
    takeExponent? (.char 'e' :: ((Binary64.exponentText x).map CodePoint.char ++ rest)) =
      some (x,rest) := by
  obtain ⟨padded,hpadded⟩ : ∃ padded : Text, padded =
      ((if (Nat.toDigits 10 x.natAbs).length < 2 then '0' :: Nat.toDigits 10 x.natAbs
        else Nat.toDigits 10 x.natAbs).map .char : Text) := ⟨_,rfl⟩
  have hparts : padded = Text.ofNat x.natAbs ∨ padded = .char '0' :: Text.ofNat x.natAbs := by
    rw [hpadded]
    split
    · exact .inr rfl
    · exact .inl rfl
  obtain ⟨hdigits,hvalue,hne⟩ := padded_ofNat hparts
  obtain ⟨c,cs,hcons⟩ := List.exists_cons_of_ne_nil hne
  have htext : ((Binary64.exponentText x).map CodePoint.char ++ rest : Text) =
      .char (if x < 0 then '-' else '+') :: (padded ++ rest) := by
    rw [Binary64.exponentText,hpadded]
    rfl
  have htake := takeAsciiDigits_append hdigits hr
  rw [htext,takeExponent?]
  by_cases hneg : x < 0
  · rw [if_pos hneg,Numeral.takeSign]
    dsimp only
    rw [htake,hcons]
    dsimp only
    rw [← hcons,hvalue,if_pos rfl]
    congr 2
    omega
  · rw [if_neg hneg,Numeral.takeSign]
    dsimp only
    rw [htake,hcons]
    dsimp only
    rw [← hcons,hvalue,if_neg (by decide)]
    congr 2
    omega

theorem noDigitHead_cons {c : CodePoint} (h : c.isAsciiDigit = false) : NoDigitHead (c :: rest) :=
  fun d hd => by
    obtain rfl := Option.some.inj hd
    exact h

theorem EndsNumber.takeExponent? (h : EndsNumber rest) :
    (Json.takeExponent? rest).getD (0,rest) = (0,rest) := by
  rw [takeExponent?_none h]
  rfl

/-- Digits without zeros at either end, as they are laid out. -/
structure IsTrimmed (digits : Text) : Prop where
  numeric : digits.IsDigits
  nonempty : digits ≠ []
  head : digits.head? ≠ some (.char '0')

theorem IsTrimmed.isWhole_append (h : IsTrimmed digits) {k : Nat} :
    IsWhole (digits ++ List.replicate k (.char '0')) where
  numeric := Text.isDigits_append.mpr ⟨h.numeric,Text.isDigits_zeros k⟩
  nonempty := List.append_ne_nil_of_left_ne_nil h.nonempty _
  head := .inr (by rw [List.head?_append_of_ne_nil _ h.nonempty]; exact h.head)

theorem IsTrimmed.isWhole_take (h : IsTrimmed digits) (k : Nat) :
    IsWhole (digits.take (k + 1)) := by
  obtain ⟨c,cs,rfl⟩ := List.exists_cons_of_ne_nil h.nonempty
  rw [List.take_succ_cons]
  exact ⟨fun d hd => h.numeric d (List.mem_of_mem_take (i := k + 1) (by rwa [List.take_succ_cons])),
    List.cons_ne_nil _ _,.inr h.head⟩

/-- The decimal that a run of digits amounts to, with the place of the first one. -/
def IsDecimal (digits : Text) (leading : Int) (found : Nat × Int) : Prop :=
  (found.1 : ℚ) * 10 ^ found.2 = digits.decimalValue * 10 ^ (leading + 1 - digits.length)

theorem readNumber_scientific (hd : IsTrimmed digits) (hr : NoDigitHead rest) :
    ∃ found, IsDecimal digits x found ∧
      readNumber negative (digits.take 1 ++ ((if (digits.drop 1).isEmpty then []
        else .char '.' :: digits.drop 1) ++
          .char 'e' :: ((Binary64.exponentText x).map CodePoint.char ++ rest))) =
        .ok (.real (.ofDecimal negative found.1 found.2),rest) := by
  have hwhole := hd.isWhole_take 0
  have hexp := takeExponent?_exponentText (x := x) hr
  obtain ⟨c,cs,rfl⟩ := List.exists_cons_of_ne_nil hd.nonempty
  rw [List.take_succ_cons,List.take_zero] at hwhole ⊢
  rw [List.drop_succ_cons,List.drop_zero]
  rcases List.eq_nil_or_concat cs with rfl | ⟨_,_,hcs⟩
  · refine ⟨(Text.decimalValue [c],x),by simp [IsDecimal],?_⟩
    exact readNumber_exponent negative hwhole hexp (noDigitHead_cons rfl) (by simp)
  · have hne : cs ≠ [] := by rw [hcs]; simp
    refine ⟨(Text.decimalValue (c :: cs),x - cs.length),?_,?_⟩
    · rw [IsDecimal,List.length_cons]
      congr 2
      push_cast
      ring
    · rw [if_neg (by simpa using hne)]
      exact readNumber_point negative hwhole
        (fun d hd' => hd.numeric d (List.mem_cons_of_mem _ hd')) hne
        (noDigitHead_cons rfl) (by rw [hexp]; rfl)

theorem readNumber_small (hd : IsTrimmed digits) (hx : x < 0) (hr : EndsNumber rest) :
    ∃ found, IsDecimal digits x found ∧
      readNumber negative (.char '0' :: .char '.' ::
        (List.replicate (x.natAbs - 1) (.char '0') ++ (digits ++ rest))) =
        .ok (.real (.ofDecimal negative found.1 found.2),rest) := by
  obtain ⟨fraction,hfraction⟩ : ∃ fraction : Text, fraction =
    List.replicate (x.natAbs - 1) (.char '0') ++ digits := ⟨_,rfl⟩
  have hdigits : fraction.IsDigits := by
    rw [hfraction]
    exact Text.isDigits_append.mpr ⟨Text.isDigits_zeros _,hd.numeric⟩
  have hne : fraction ≠ [] := by
    rw [hfraction]
    exact List.append_ne_nil_of_right_ne_nil _ hd.nonempty
  refine ⟨(Text.decimalValue (.char '0' :: fraction),0 - fraction.length),?_,?_⟩
  · rw [IsDecimal,decimalValue_zero_cons,hfraction,Text.decimalValue_append,Text.decimalValue_zeros,
      List.length_append,List.length_replicate,Nat.zero_mul,Nat.zero_add]
    congr 2
    omega
  · rw [← List.append_assoc,← hfraction]
    exact readNumber_point negative (isWhole_ofNat 0) hdigits hne hr.noDigitHead hr.takeExponent?

theorem readNumber_positional (hd : IsTrimmed digits) {count : Nat} (hx : x = count)
    (hr : EndsNumber rest) : ∃ found, IsDecimal digits x found ∧
      readNumber negative (digits.take (count + 1) ++
        (List.replicate (count + 1 - digits.length) (.char '0') ++
          ((if (digits.drop (count + 1)).isEmpty then [.char '.',.char '0']
            else .char '.' :: digits.drop (count + 1)) ++ rest))) =
        .ok (.real (.ofDecimal negative found.1 found.2),rest) := by
  rcases Nat.lt_or_ge (count + 1) digits.length with hlt | hge
  · have hne : digits.drop (count + 1) ≠ [] := by simpa using hlt
    have hread := readNumber_point negative (hd.isWhole_take count)
      (fun d hd' => hd.numeric d (List.mem_of_mem_drop hd')) hne hr.noDigitHead hr.takeExponent?
    rw [List.take_append_drop] at hread
    refine ⟨(digits.decimalValue,0 - (digits.drop (count + 1)).length),?_,?_⟩
    · rw [IsDecimal,List.length_drop]
      congr 2
      omega
    · rw [if_neg (by simpa using hne),Nat.sub_eq_zero_of_le hlt.le]
      exact hread
  · have hread := readNumber_point negative
      (hd.isWhole_append (k := count + 1 - digits.length)) (Text.isDigits_zeros 1)
      (List.cons_ne_nil _ _) hr.noDigitHead hr.takeExponent?
    rw [List.append_assoc] at hread
    refine ⟨(Text.decimalValue (digits ++ List.replicate (count + 1 - digits.length) (.char '0') ++
      List.replicate 1 (.char '0')),0 - (1 : Nat)),?_,?_⟩
    · rw [IsDecimal,Text.decimalValue_append,Text.decimalValue_append,Text.decimalValue_zeros,
        Text.decimalValue_zeros,List.length_replicate,List.length_replicate,
        show x + 1 - (digits.length : Int) = ((count + 1 - digits.length : Nat) : Int) by omega,
        zpow_natCast]
      push_cast
      rw [add_zero,add_zero,zpow_neg_one,mul_inv_cancel_right₀ (by norm_num)]
    · rw [List.drop_of_length_le hge,if_pos List.isEmpty_nil,List.take_of_length_le hge]
      exact hread

theorem dropTrailingZeros_append (digits : List Char) :
    ∃ k, digits = Binary64.dropTrailingZeros digits ++ List.replicate k '0' := by
  refine ⟨(digits.reverse.takeWhile (· == '0')).length,?_⟩
  have hzeros : digits.reverse.takeWhile (· == '0') =
      List.replicate (digits.reverse.takeWhile (· == '0')).length '0' :=
    List.eq_replicate_iff.mpr ⟨rfl,fun c hc => by simpa using List.mem_takeWhile_imp hc⟩
  rw [← List.reverse_replicate,← hzeros,Binary64.dropTrailingZeros,← List.reverse_append,
    List.takeWhile_append_dropWhile,List.reverse_reverse]

/-- The digits of a positive number, apart from the zeros at their end. -/
theorem exists_trimmed {n : Nat} (hpos : 0 < n) : ∃ k,
    Text.ofNat n = (Binary64.dropTrailingZeros (Nat.toDigits 10 n)).map CodePoint.char ++
      List.replicate k (.char '0') ∧
    IsTrimmed ((Binary64.dropTrailingZeros (Nat.toDigits 10 n)).map CodePoint.char) := by
  obtain ⟨k,hk⟩ := dropTrailingZeros_append (Nat.toDigits 10 n)
  have htext : Text.ofNat n = (Binary64.dropTrailingZeros (Nat.toDigits 10 n)).map CodePoint.char ++
      List.replicate k (.char '0') := by
    rw [Text.ofNat,← List.map_replicate,← List.map_append,← hk]
  generalize (Binary64.dropTrailingZeros (Nat.toDigits 10 n)).map CodePoint.char = digits at htext
  have hall := Text.isDigits_ofNat n
  have hhead := Text.ofNat_head hpos
  have hne : digits ≠ [] := by
    rintro rfl
    have := Text.decimalValue_ofNat n
    rw [htext,List.nil_append,Text.decimalValue_zeros] at this
    exact hpos.ne this
  rw [htext] at hall hhead
  rw [List.head?_append_of_ne_nil _ hne] at hhead
  exact ⟨k,htext,(Text.isDigits_append.mp hall).1,hne,hhead⟩

/-- What is laid out is read as a decimal of its value. -/
theorem readNumber_layout {number : Nat × Int} (hpos : 0 < number.1) (hr : EndsNumber rest) :
    ∃ found : Nat × Int, (found.1 : ℚ) * 10 ^ found.2 = number.1 * 10 ^ number.2 ∧
      readNumber negative
          ((Binary64.DecimalForm.layout ⟨16,true⟩ number).map CodePoint.char ++ rest) =
        .ok (.real (.ofDecimal negative found.1 found.2),rest) := by
  obtain ⟨k,htext,htrimmed⟩ := exists_trimmed hpos
  have hlen : ((Binary64.dropTrailingZeros (Nat.toDigits 10 number.1)).map CodePoint.char).length =
    (Binary64.dropTrailingZeros (Nat.toDigits 10 number.1)).length := List.length_map _
  obtain ⟨digits,hdigits⟩ : ∃ digits : Text, digits =
    (Binary64.dropTrailingZeros (Nat.toDigits 10 number.1)).map CodePoint.char := ⟨_,rfl⟩
  rw [← hdigits] at htext htrimmed hlen
  have hvalue : number.1 = digits.decimalValue * 10 ^ k := by
    have := Text.decimalValue_ofNat number.1
    rw [htext,Text.decimalValue_append,Text.decimalValue_zeros,List.length_replicate] at this
    exact this.symm
  have hlength : (Nat.toDigits 10 number.1).length = digits.length + k := by
    have := congrArg List.length htext
    rwa [Text.ofNat,List.length_map,List.length_append,List.length_replicate] at this
  obtain ⟨leading,hleading⟩ : ∃ leading : Int, leading =
    number.2 + (Nat.toDigits 10 number.1).length - 1 := ⟨_,rfl⟩
  have hdecimal : ∀ {found}, IsDecimal digits leading found →
      (found.1 : ℚ) * 10 ^ found.2 = number.1 * 10 ^ number.2 := fun {found} h => by
    rw [h,hvalue,show leading + 1 - (digits.length : Int) = k + number.2 by omega,
      zpow_add₀ (by norm_num),zpow_natCast]
    push_cast
    ring
  rw [Binary64.DecimalForm.layout]
  dsimp only
  rw [← hleading]
  split
  · obtain ⟨found,hfound,hread⟩ := readNumber_scientific (x := leading) negative htrimmed
      hr.noDigitHead
    refine ⟨found,hdecimal hfound,hread ▸ congrArg _ ?_⟩
    simp only [hdigits,← List.map_take,← List.map_drop,List.isEmpty_map,List.append_assoc,
      List.map_append,List.map_cons,apply_ite (List.map CodePoint.char),
      List.map_nil,List.cons_append]
  split
  · next hneg =>
    obtain ⟨found,hfound,hread⟩ := readNumber_small (x := leading) negative htrimmed hneg hr
    refine ⟨found,hdecimal hfound,hread ▸ congrArg _ ?_⟩
    simp only [hdigits,List.append_assoc,List.map_append,List.map_cons,List.map_replicate,
      List.cons_append]
  · next hnonneg =>
    obtain ⟨count,hcount⟩ := Int.eq_ofNat_of_zero_le (not_lt.mp hnonneg)
    obtain ⟨found,hfound,hread⟩ := readNumber_positional negative htrimmed hcount hr
    refine ⟨found,hdecimal hfound,hread ▸ congrArg _ ?_⟩
    rw [← hlen,hcount,Int.toNat_natCast]
    simp only [hdigits,← List.map_take,← List.map_drop,List.isEmpty_map,List.append_assoc,
      List.map_append,List.map_cons,List.map_replicate,apply_ite (List.map CodePoint.char),
      List.map_nil,if_true]

/-! ## Scalars -/

variable {room : Room}

/-- Whether no word stands at the start of a text. -/
def NoWord (s : Text) : Prop := ∀ entry ∈ literals, Text.dropPrefix? entry.1 s = none

theorem NoWord.findSome?_eq_none {s : Text} (h : NoWord s) :
    (literals.findSome? fun entry => (Text.dropPrefix? entry.1 s).map (entry.2,·)) = none :=
  List.findSome?_eq_none_iff.mpr fun entry hentry => by
    rw [h entry hentry]
    rfl

theorem readScalar_minus (h : NoWord (.char '-' :: rest)) :
    readScalar room (.char '-' :: rest) = readNumber true rest := by
  rw [readScalar]
  split
  · next hfound => cases h.findSome?_eq_none.symm.trans hfound
  · rfl

theorem readScalar_digit {c : CodePoint} (hc : c ≠ .char '-') (h : NoWord (c :: rest)) :
    readScalar room (c :: rest) = readNumber false (c :: rest) := by
  rw [readScalar]
  split
  · next hfound => cases h.findSome?_eq_none.symm.trans hfound
  · rfl
  · exact fun tail heq => hc (List.cons.inj heq).1

theorem startsWith_digit {s : Text} {found : Json × Text}
    (h : readNumber negative s = .ok found) : ∃ c cs, s = c :: cs ∧ c.isAsciiDigit = true := by
  cases s with
  | nil => cases h
  | cons c cs =>
    refine ⟨c,cs,rfl,?_⟩
    by_contra hc
    have hne : ∀ tail, c :: cs ≠ .char '0' :: tail := fun tail heq => by
      obtain ⟨rfl,-⟩ := List.cons.inj heq
      exact hc rfl
    rw [readNumber,takeWhole.eq_2 _ hne,takeAsciiDigits,List.takeWhile_cons_of_neg hc] at h
    cases h

/-- A number is taken for no word. -/
theorem readScalar_number {s : Text} {found : Json × Text} (h : readNumber negative s = .ok found) :
    readScalar room ((if negative then [.char '-'] else []) ++ s) = .ok found := by
  obtain ⟨c,cs,rfl,hc⟩ := startsWith_digit negative h
  have hne : ∀ d : CodePoint, d.isAsciiDigit = false → d ≠ c := by
    rintro d hd rfl
    rw [hd] at hc
    cases hc
  have hwords : NoWord (c :: cs) := by
    intro entry hentry
    simp only [literals,List.mem_cons,List.not_mem_nil,or_false] at hentry
    rcases hentry with rfl | rfl | rfl | rfl | rfl | rfl
    all_goals exact if_neg (hne (.char _) rfl)
  have hminus : NoWord (.char '-' :: c :: cs) := by
    intro entry hentry
    simp only [literals,List.mem_cons,List.not_mem_nil,or_false] at hentry
    rcases hentry with rfl | rfl | rfl | rfl | rfl | rfl
    case inr.inr.inr.inr.inr => exact (if_pos rfl).trans (if_neg (hne (.char 'I') rfl))
    all_goals rfl
  cases negative with
  | false => exact (readScalar_digit (hne (.char '-') rfl).symm hwords).trans h
  | true => exact (readScalar_minus hminus).trans h

theorem readScalar_ofInt {n : Int} (hlimit : (Text.ofNat n.natAbs).length ≤ Numeral.digitLimit)
    (hr : EndsNumber rest) : readScalar room (Text.ofInt n ++ rest) = .ok (.int n,rest) := by
  cases n with
  | ofNat n => exact readScalar_number false (readNumber_ofNat false hlimit hr)
  | negSucc n => exact readScalar_number true (readNumber_ofNat true hlimit hr)

/-- A number that is not finite takes a level of its own. -/
theorem readScalar_real {y : Binary64} (hc : y.Canonical) (hroom : room.has (real y).depth = true)
    (hr : EndsNumber rest) : readScalar room (renderReal y ++ rest) = .ok (.real y,rest) := by
  cases y with
  | nan => exact if_pos hroom
  | infinity sign => cases sign <;> exact if_pos hroom
  | finite sign m e =>
    obtain ⟨body,hbody⟩ : ∃ body : List Char, body = if m = 0 then ['0','.','0'] else
      Binary64.DecimalForm.layout ⟨16,true⟩ (Binary64.shortestDigits m e) := ⟨_,rfl⟩
    have htext : renderReal (.finite sign m e) ++ rest =
        (if sign then [.char '-'] else []) ++ (body.map CodePoint.char ++ rest) := by
      rw [hbody]
      cases sign <;> rfl
    have hread : readNumber sign (body.map CodePoint.char ++ rest) =
        .ok (.real (.finite sign m e),rest) := by
      rw [hbody]
      rcases Nat.eq_zero_or_pos m with rfl | hm
      · have he : e = Binary64.minExponent := hc.2.2.2.resolve_left (by decide)
        rw [if_pos rfl,he]
        exact readNumber_point sign (isWhole_ofNat 0) (Text.isDigits_ofNat 0) (List.cons_ne_nil _ _)
          hr.noDigitHead hr.takeExponent?
      · obtain ⟨found,hfound,hread⟩ := readNumber_layout sign
          (Binary64.shortestDigits_pos (e := e) hm hc.1) hr
        rw [if_neg hm.ne',hread,Binary64.ofDecimal_shortestDigits hc hm hfound]
    rw [htext]
    exact readScalar_number sign hread

end Json
end StyleLift
