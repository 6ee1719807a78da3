import BandCanvas.Number.Literal
import BandCanvas.Proofs.Command.Reading
import BandCanvas.Proofs.Number.Scientific

namespace BandCanvas

namespace NumberText

section Longest

theorem splitDigits_true (s : List Char) :
    Numeral.splitDigits true s = (s.takeWhile Char.isDigit, s.dropWhile Char.isDigit) := by
  induction s with
  | nil => rfl
  | cons c s ih =>
    rw [Numeral.splitDigits, List.takeWhile_cons, List.dropWhile_cons]
    by_cases hc : c.isDigit
    · simp [hc, ih]
    · simp [hc]

theorem exists_magnitude (neg : Bool) (s : List Char) :
    ∃ n : NumberText, n.negative = neg ∧ n.magnitude = (Numeral.splitDigits false s).1 := by
  induction s with
  | nil => exact ⟨⟨neg, [], none, .comma, fun _ h => nomatch h⟩, rfl, rfl⟩
  | cons c s ih =>
    rw [Numeral.splitDigits]
    by_cases hc : c.isDigit
    · obtain ⟨n, hneg, hmagnitude⟩ := ih
      have hpoint : (c == '.') = false := beq_eq_false_iff_ne.2 (isDigit_ne_point hc)
      have hdigits : ∀ d ∈ (c :: n.whole) ++ n.fraction.getD [], d.isDigit := by
        intro d hd
        rcases List.mem_cons.1 hd with rfl | hd
        · exact hc
        · exact n.digits d hd
      refine ⟨⟨neg, c :: n.whole, n.fraction, .comma, hdigits⟩, rfl, ?_⟩
      rw [if_pos (by rw [hc]; rfl), hpoint, Bool.or_false]
      exact congrArg (c :: ·) hmagnitude
    · by_cases hpoint : c = '.'
      · subst hpoint
        have hdigits : ∀ d ∈ [] ++ (some (s.takeWhile Char.isDigit)).getD [], d.isDigit :=
          fun d hd => List.mem_takeWhile_imp hd
        refine ⟨⟨neg, [], some (s.takeWhile Char.isDigit), .comma, hdigits⟩, rfl, ?_⟩
        simp [magnitude, splitDigits_true]
      · exact ⟨⟨neg, [], none, .comma, fun _ h => nomatch h⟩, rfl, by simp [hc, hpoint, magnitude]⟩

theorem exists_numeral (s : List Char) : ∃ n : NumberText, n.numeral = (Numeral.split s).1 := by
  by_cases hminus : s.head? = some '-'
  · obtain ⟨t, rfl⟩ := List.head?_eq_some_iff.1 hminus
    obtain ⟨n, hneg, hmagnitude⟩ := exists_magnitude true t
    exact ⟨n, by rw [numeral, hneg, hmagnitude]; rfl⟩
  · obtain ⟨n, hneg, hmagnitude⟩ := exists_magnitude false s
    exact ⟨n, by rw [numeral, hneg, hmagnitude, Numeral.split_of_head_ne hminus]; rfl⟩

theorem magnitude_prefix (n : NumberText) (s : List Char) :
    n.magnitude <+: (Numeral.splitDigits false (n.magnitude ++ s)).1 := by
  have hplaces := n.isDigit_places
  unfold magnitude
  unfold places at hplaces
  cases hf : n.fraction with
  | none =>
    rw [List.append_nil, splitDigits_digits n.isDigit_whole rfl]
    exact List.prefix_append ..
  | some ds =>
    simp only [hf, Option.getD_some] at hplaces
    have hfraction := splitDigits_digits (b := true) (s := s) hplaces rfl
    have hpoint : Numeral.splitDigits false ('.' :: ds ++ s) =
        ('.' :: (ds ++ (Numeral.splitDigits true s).1), (Numeral.splitDigits true s).2) := by
      simp [Numeral.splitDigits, hfraction]
    rw [List.append_assoc, splitDigits_digits n.isDigit_whole hpoint]
    exact ⟨(Numeral.splitDigits true s).1, by simp⟩

/-- No numeral at the start of a text goes farther than the one that is split off. -/
theorem numeral_prefix (n : NumberText) (s : List Char) : n.numeral <+: (Numeral.split (n.numeral ++ s)).1 := by
  have hmagnitude := n.magnitude_prefix s
  rw [numeral]
  cases n.negative with
  | true => simpa [Numeral.split] using hmagnitude
  | false =>
    cases hm : n.magnitude with
    | nil => exact List.nil_prefix
    | cons c ds =>
      have hhead := n.head_magnitude_ne_minus
      rw [hm] at hhead hmagnitude
      have hsplit : Numeral.split (c :: ds ++ s) = Numeral.splitDigits false (c :: ds ++ s) :=
        Numeral.split_of_head_ne hhead
      show c :: ds <+: (Numeral.split (c :: ds ++ s)).1
      rwa [hsplit]

end Longest

section Denoted

/-- The rational number that a numeral stands for. -/
def exact (n : NumberText) : ℚ :=
  (if n.negative then -1 else 1) * (Decimal.natOfDigits (n.whole ++ n.places) / 10 ^ n.places.length)

/-- What a numeral is read as. Without a digit it is a zero; else it is a literal, which is never refused. -/
structure Denotes (n : NumberText) (v : Float) : Prop where
  nearest : Binary64.Nearest n.exact v
  sign : Binary64.negative v = n.negative
  zero (h : n.whole ++ n.places = []) : v = if n.negative then -0 else 0
  literal (h : n.whole ++ n.places ≠ []) : Literal.float? (String.ofList n.numeral) = some v

theorem value_decimal (n : NumberText) :
    Decimal.value ⟨Decimal.natOfDigits (n.whole ++ n.places), -n.places.length⟩ =
      Decimal.natOfDigits (n.whole ++ n.places) / 10 ^ n.places.length := by
  rw [Decimal.value, zpow_neg, zpow_natCast, div_eq_mul_inv]

theorem isDigit_or_point {c : Char} (n : NumberText) (h : c ∈ n.magnitude) : c.isDigit ∨ c = '.' := by
  rw [magnitude] at h
  rcases List.mem_append.1 h with hw | hf
  · exact .inl (n.isDigit_whole c hw)
  · have hplaces := n.isDigit_places
    unfold places at hplaces
    cases hfraction : n.fraction with
    | none =>
      rw [hfraction] at hf
      cases hf
    | some ds =>
      rw [hfraction] at hf hplaces
      exact (List.mem_cons.1 hf).symm.imp_left (hplaces c)

theorem sign_numeral (n : NumberText) : Literal.sign n.numeral = (n.negative, n.magnitude) := by
  rw [numeral]
  cases n.negative with
  | true => rfl
  | false =>
    show Literal.sign n.magnitude = (false, n.magnitude)
    cases hm : n.magnitude with
    | nil => rfl
    | cons c ds =>
      have hc := n.isDigit_or_point (c := c) (by rw [hm]; exact List.mem_cons_self)
      have hminus : c ≠ '-' := by
        rintro rfl
        revert hc
        decide
      have hplus : c ≠ '+' := by
        rintro rfl
        revert hc
        decide
      simp [Literal.sign, hminus, hplus]

theorem toLower_of_isDigit {c : Char} (h : c.isDigit) : c.toLower = c := by
  simp only [Char.isDigit, Bool.and_eq_true, decide_eq_true_eq] at h
  rw [Char.toLower, dif_neg]
  intro hupper
  exact absurd (UInt32.le_trans hupper.1 h.2) (by decide)

/-- No numeral is the name of infinity or NaN, as these have an `n`. -/
theorem named?_magnitude (n : NumberText) : Literal.named? n.magnitude = none := by
  have hn : 'n' ∉ n.magnitude.map Char.toLower := by
    intro hmem
    obtain ⟨d, hd, hlower⟩ := List.mem_map.1 hmem
    rcases n.isDigit_or_point hd with hdigit | rfl
    · rw [toLower_of_isDigit hdigit] at hlower
      rw [hlower] at hdigit
      cases hdigit
    · cases hlower
  have hname {name : String} (h : String.ofList (n.magnitude.map Char.toLower) = name) : 'n' ∉ name.toList := by
    rwa [← h, String.toList_ofList]
  rw [Literal.named?]
  split
  next h => exact absurd (by decide) (hname h)
  next h => exact absurd (by decide) (hname h)
  next h => exact absurd (by decide) (hname h)
  next => rfl

theorem span_magnitude (n : NumberText) : n.magnitude.takeWhile Char.isDigit = n.whole ∧
    (n.magnitude.dropWhile Char.isDigit = [] ∨ (n.magnitude.dropWhile Char.isDigit).head? = some '.') ∧
    (n.magnitude.dropWhile Char.isDigit).drop 1 = n.places := by
  rw [magnitude, places, List.takeWhile_append_of_pos n.isDigit_whole, List.dropWhile_append_of_pos n.isDigit_whole]
  cases n.fraction with
  | none => exact ⟨List.append_nil _, .inl rfl, rfl⟩
  | some ds => exact ⟨List.append_nil _, .inr rfl, rfl⟩

theorem parse?_magnitude (n : NumberText) (h : n.whole ++ n.places ≠ []) :
    Literal.parse? n.magnitude = some ⟨n.whole, n.places, false, []⟩ := by
  have hmark : ∀ c ∈ n.magnitude, (!Literal.isExponentMark c) = true := by
    intro c hc
    rcases n.isDigit_or_point hc with hdigit | rfl
    · rw [Literal.isExponentMark, Bool.not_eq_true', Bool.or_eq_false_iff, decide_eq_false_iff_not,
        decide_eq_false_iff_not]
      constructor <;> rintro rfl <;> cases hdigit
    · rfl
  have hmantissa : n.magnitude.takeWhile (!Literal.isExponentMark ·) = n.magnitude :=
    List.takeWhile_eq_self_iff.2 hmark
  have htail : n.magnitude.dropWhile (!Literal.isExponentMark ·) = [] :=
    List.dropWhile_eq_nil_iff.2 hmark
  obtain ⟨hwhole, hpoint, hfraction⟩ := n.span_magnitude
  have hdigits : n.places.all Char.isDigit = true := List.all_eq_true.2 n.isDigit_places
  simp only [Literal.parse?, hmantissa, htail, hwhole, hfraction, hdigits]
  rw [if_pos]
  · rfl
  · simpa [Literal.sign, h] using hpoint

theorem denotes_value (n : NumberText) : n.Denotes n.value := by
  obtain ⟨hnearest, hsign⟩ := Binary64.nearest_read n.negative
    ⟨Decimal.natOfDigits (n.whole ++ n.places), -n.places.length⟩
  constructor
  case nearest =>
    rw [value_decimal] at hnearest
    rw [exact, value]
    cases hneg : n.negative with
    | true => simpa [hneg] using hnearest
    | false => simpa [hneg] using hnearest
  case sign => exact hsign
  case zero =>
    intro hnone
    have hplaces : n.places = [] := (List.append_eq_nil_iff.1 hnone).2
    rw [value, hnone, hplaces]
    cases n.negative <;> decide
  case literal =>
    intro hsome
    rw [Literal.float?, String.toList_ofList, sign_numeral]
    simp only [named?_magnitude, parse?_magnitude n hsome]
    show some (Decimal.read n.negative ⟨Decimal.natOfDigits (n.whole ++ n.places), 0 - n.places.length⟩) = _
    rw [zero_sub, value]

end Denoted

section Integers

def ofInt (i : Int) (separator : Separator) : NumberText :=
  { ofNat i.natAbs with negative := i < 0, separator }

theorem numeral_ofInt (i : Int) (sep : Separator) : (ofInt i sep).numeral = (toString i).toList := by
  show (if decide (i < 0) then ['-'] else []) ++ (Nat.toDigits 10 i.natAbs ++ []) = _
  rw [List.append_nil, Int.toString_eq_repr, Int.repr_eq_if]
  rcases Int.lt_or_le i 0 with hneg | hnonneg
  · have habs : (-i).toNat = i.natAbs := by omega
    rw [decide_eq_true hneg, if_pos rfl, if_neg (by omega), habs, String.toList_append, Nat.toList_repr]
    rfl
  · have habs : i.toNat = i.natAbs := by omega
    rw [decide_eq_false (by omega), if_neg Bool.false_ne_true, if_pos hnonneg, habs, Nat.toList_repr]
    rfl

theorem exact_ofInt (i : Int) (sep : Separator) : (ofInt i sep).exact = i := by
  have hdigits : Decimal.natOfDigits (Nat.toDigits 10 i.natAbs ++ []) = i.natAbs := by
    rw [List.append_nil]
    exact Nat.ofDigitChars_ten_toDigits
  show (if decide (i < 0) then -1 else 1) * (Decimal.natOfDigits (Nat.toDigits 10 i.natAbs ++ []) / 10 ^ 0 : ℚ) = i
  have hcast : ((i.natAbs : Nat) : ℚ) = |(i : ℚ)| := by rw [← Int.cast_natCast, Int.natCast_natAbs, Int.cast_abs]
  rw [hdigits, pow_zero, div_one, hcast]
  rcases Int.lt_or_le i 0 with hneg | hnonneg
  · rw [decide_eq_true hneg, if_pos rfl, abs_of_neg (by exact_mod_cast hneg), neg_one_mul, neg_neg]
  · rw [decide_eq_false (by omega), if_neg Bool.false_ne_true, abs_of_nonneg (by exact_mod_cast hnonneg), one_mul]

theorem value_ofInt {i : Int} (hi : i.natAbs ≤ 2 ^ 53) (sep : Separator) : (ofInt i sep).value = Float.ofInt i := by
  obtain ⟨hnearest, hsign, -, -⟩ := (ofInt i sep).denotes_value
  rw [exact_ofInt] at hnearest
  exact hnearest.eq_ofInt hsign hi

end Integers

end NumberText

namespace Reader

/-- What reading a number gives, by the text after its numeral. -/
inductive Outcome (c : Cursor) (n : NumberText) : List Char → Except DecodeError Float × Cursor → Prop where
  | value (v : Float) (x : Char) (rest : List Char) (hx : x = ',' ∨ x = ';') (hv : n.Denotes v) :
    Outcome c n (x :: rest) (.ok v, c.past (n.numeral ++ [x]) rest)
  | invalid (x : Char) (rest : List Char) (hx : ¬ (x = ',' ∨ x = ';')) :
    Outcome c n (x :: rest)
      (.error (.invalidNumber (c.offset + byteLength n.numeral) x), c.past (n.numeral ++ [x]) rest)
  | ended : Outcome c n [] (.error (.unexpectedEnd c.length), c.finish)

variable {c : Cursor}

theorem outcome_number {n : NumberText} {rest : List Char} (h : Numeral.split c.rest = (n.numeral, rest)) :
    Outcome c n rest (number.run c) := by
  cases rest with
  | nil =>
    have happend := Numeral.split_append c.rest
    rw [h, List.append_nil] at happend
    have hend : (n.numeral, ([] : List Char)).1 = n.numeral := rfl
    rw [run_number_nil h, ← hend, happend]
    exact .ended
  | cons x rest =>
    rw [run_number_cons h]
    by_cases hx : x = ',' ∨ x = ';'
    · rw [if_pos hx]
      exact .value _ x rest hx (n.value_numeral ▸ n.denotes_value)
    · rw [if_neg hx]
      exact .invalid x rest hx

theorem number_ofInt {i : Int} {x : Char} {rest : List Char} (hi : i.natAbs ≤ 2 ^ 53) (hx : x = ',' ∨ x = ';')
    (h : c.rest = (toString i).toList ++ x :: rest) :
    number.run c = (.ok (Float.ofInt i), c.past ((toString i).toList ++ [x]) rest) := by
  obtain ⟨sep, rfl⟩ : ∃ sep : Separator, sep.char = x := by
    rcases hx with rfl | rfl
    · exact ⟨.comma, rfl⟩
    · exact ⟨.semicolon, rfl⟩
  have hread := Reads.number (.ofInt i sep)
  rw [NumberText.text, NumberText.numeral_ofInt, NumberText.value_ofInt hi] at hread
  apply hread
  rw [h, List.append_assoc]
  rfl

/-- A number is read from the longest numeral in front of it, and an integer of at most 53 bits exactly. -/
theorem number_reads_longest (c : Cursor) :
    (∃ (n : NumberText) (rest : List Char), c.rest = n.numeral ++ rest ∧
      (∀ m : NumberText, m.numeral <+: c.rest → m.numeral <+: n.numeral) ∧ Outcome c n rest (number.run c)) ∧
    ∀ (i : Int) (x : Char) (rest : List Char), i.natAbs ≤ 2 ^ 53 → (x = ',' ∨ x = ';') →
      c.rest = (toString i).toList ++ x :: rest →
        number.run c = (.ok (Float.ofInt i), c.past ((toString i).toList ++ [x]) rest) ∧
          (Float.ofInt i).isFinite = true ∧ Binary64.value (Float.ofInt i) = i := by
  constructor
  · obtain ⟨n, hn⟩ := NumberText.exists_numeral c.rest
    have hsplit : Numeral.split c.rest = (n.numeral, (Numeral.split c.rest).2) := Prod.ext hn.symm rfl
    refine ⟨n, (Numeral.split c.rest).2, ?_, fun m hm => ?_, outcome_number hsplit⟩
    · rw [hn, Numeral.split_append]
    · obtain ⟨s, hs⟩ := hm
      rw [hn, ← hs]
      exact m.numeral_prefix s
  · intro i x rest hi hx h
    exact ⟨number_ofInt hi hx h, Binary64.value_ofInt hi⟩

theorem number_reads_longest_least : (-9007199254740992 : Int).natAbs ≤ 2 ^ 53 ∧
    number.run (.start "-9007199254740992;1".toList) =
      (.ok (Float.ofInt (-9007199254740992)), ⟨18, some ';', ['1']⟩) ∧
    Binary64.value (Float.ofInt (-9007199254740992)) = (-9007199254740992 : Int) := by
  have hi : (-9007199254740992 : Int).natAbs ≤ 2 ^ 53 := by decide
  obtain ⟨hrun, -, hvalue⟩ := (number_reads_longest (.start "-9007199254740992;1".toList)).2 (-9007199254740992) ';'
    ['1'] hi (.inr rfl) (by decide +kernel)
  refine ⟨hi, hrun.trans ?_, hvalue⟩
  decide +kernel

end Reader

end BandCanvas
