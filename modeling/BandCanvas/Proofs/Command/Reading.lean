import BandCanvas.Proofs.Command.Grammar
import BandCanvas.Proofs.Command.Operand
import BandCanvas.Proofs.Number.Whole

namespace BandCanvas

namespace NumberText

theorem isDigit_whole (n : NumberText) : ∀ c ∈ n.whole, c.isDigit :=
  fun c hc => n.digits c (List.mem_append_left _ hc)

theorem isDigit_places (n : NumberText) : ∀ c ∈ n.places, c.isDigit :=
  fun c hc => n.digits c (List.mem_append_right _ hc)

theorem isDigit_ne_point {c : Char} (h : c.isDigit) : c ≠ '.' := by
  rintro rfl
  cases h

theorem isDigit_ne_minus {c : Char} (h : c.isDigit) : c ≠ '-' := by
  rintro rfl
  cases h

theorem splitDigits_separator (b : Bool) (sep : Separator) (t : List Char) :
    Numeral.splitDigits b (sep.char :: t) = ([], sep.char :: t) := by
  cases sep <;> rfl

theorem splitDigits_digits {b : Bool} {ds s u v : List Char} (hds : ∀ c ∈ ds, c.isDigit)
    (h : Numeral.splitDigits b s = (u, v)) :
    Numeral.splitDigits b (ds ++ s) = (ds ++ u, v) := by
  induction ds with
  | nil => exact h
  | cons c ds ih =>
    have hc : c.isDigit := hds c List.mem_cons_self
    have hpoint : (c == '.') = false := beq_eq_false_iff_ne.2 (isDigit_ne_point hc)
    have hrest := ih fun d hd => hds d (List.mem_cons_of_mem c hd)
    rw [List.cons_append, Numeral.splitDigits, if_pos (by rw [hc]; rfl), hpoint, Bool.or_false, hrest]
    rfl

theorem splitDigits_magnitude (n : NumberText) (t : List Char) :
    Numeral.splitDigits false (n.magnitude ++ n.separator.char :: t) =
      (n.magnitude, n.separator.char :: t) := by
  have hplaces := n.isDigit_places
  unfold magnitude
  unfold places at hplaces
  cases hf : n.fraction with
  | none =>
    simpa using splitDigits_digits n.isDigit_whole (splitDigits_separator false n.separator t)
  | some ds =>
    simp only [hf, Option.getD_some] at hplaces
    have hfraction := splitDigits_digits hplaces (splitDigits_separator true n.separator t)
    have hpoint : Numeral.splitDigits false ('.' :: (ds ++ n.separator.char :: t)) =
        ('.' :: ds, n.separator.char :: t) := by
      simp [Numeral.splitDigits, hfraction]
    simpa using splitDigits_digits n.isDigit_whole hpoint

theorem head_magnitude_ne_minus (n : NumberText) : n.magnitude.head? ≠ some '-' := by
  unfold magnitude
  cases hw : n.whole with
  | nil => cases n.fraction <;> simp
  | cons c ds =>
    have hc := isDigit_ne_minus (n.isDigit_whole c (by rw [hw]; exact List.mem_cons_self))
    simpa using hc

theorem split_text (n : NumberText) (t : List Char) :
    Numeral.split (n.text ++ t) = (n.numeral, n.separator.char :: t) := by
  have hmagnitude := n.splitDigits_magnitude t
  rw [text, numeral]
  cases n.negative with
  | true => simp [Numeral.split, hmagnitude]
  | false =>
    have hhead : (n.magnitude ++ n.separator.char :: t).head? ≠ some '-' := by
      have hfirst := n.head_magnitude_ne_minus
      rw [List.head?_append]
      cases hm : n.magnitude with
      | nil => cases n.separator <;> simp [Separator.char]
      | cons c s =>
        rw [hm] at hfirst
        simpa using hfirst
    simpa using (Numeral.split_of_head_ne hhead).trans hmagnitude

theorem filter_isDigit_numeral (n : NumberText) :
    n.numeral.filter Char.isDigit = n.whole ++ n.places := by
  have hwhole : n.whole.filter Char.isDigit = n.whole := List.filter_eq_self.2 n.isDigit_whole
  have hplaces : n.places.filter Char.isDigit = n.places := List.filter_eq_self.2 n.isDigit_places
  have hsign : (if n.negative then ['-'] else []).filter Char.isDigit = [] := by
    cases n.negative <;> rfl
  rw [numeral, magnitude, List.filter_append, List.filter_append, hsign, hwhole, List.nil_append]
  unfold places at hplaces ⊢
  cases hf : n.fraction with
  | none => rfl
  | some ds =>
    simp only [hf, Option.getD_some] at hplaces ⊢
    have hpoint : ('.' :: ds).filter Char.isDigit = ds.filter Char.isDigit := rfl
    rw [hpoint, hplaces]

theorem drop_point_numeral (n : NumberText) :
    (n.numeral.dropWhile (· != '.')).drop 1 = n.places := by
  have hbefore : ∀ c ∈ (if n.negative then ['-'] else []) ++ n.whole, (c != '.') = true := by
    intro c hc
    rw [bne_iff_ne]
    rcases List.mem_append.1 hc with hs | hw
    · cases hn : n.negative <;> simp_all
    · exact isDigit_ne_point (n.isDigit_whole c hw)
  rw [numeral, magnitude, ← List.append_assoc, List.dropWhile_append_of_pos hbefore, places]
  cases n.fraction <;> simp

theorem head_numeral (n : NumberText) : (n.numeral.head? == some '-') = n.negative := by
  rw [numeral]
  cases n.negative with
  | true => rfl
  | false =>
    have hhead := n.head_magnitude_ne_minus
    simpa using hhead

theorem value_numeral (n : NumberText) : Numeral.value n.numeral = n.value := by
  rw [Numeral.value, n.filter_isDigit_numeral, n.drop_point_numeral, n.head_numeral]
  rfl

def ofNat (n : Nat) : NumberText where
  negative := false
  whole := Nat.toDigits 10 n
  fraction := none
  separator := .comma
  digits c hc := by
    rw [Option.getD_none, List.append_nil] at hc
    exact Nat.isDigit_of_mem_toDigits (by decide) (by decide) hc

/-- The characters that a number may start with. -/
def Opening (c : Char) : Prop :=
  c = '-' ∨ c.isDigit ∨ c = '.' ∨ c = ',' ∨ c = ';'

instance : DecidablePred Opening :=
  fun c => inferInstanceAs (Decidable (c = '-' ∨ c.isDigit ∨ c = '.' ∨ c = ',' ∨ c = ';'))

theorem opening_text (n : NumberText) : ∃ c s, n.text = c :: s ∧ Opening c := by
  rw [text, numeral, magnitude]
  cases n.negative with
  | true => exact ⟨_, _, rfl, .inl rfl⟩
  | false =>
    cases hw : n.whole with
    | cons c ds =>
      have hc : c.isDigit := n.isDigit_whole c (by rw [hw]; exact List.mem_cons_self)
      exact ⟨c, _, rfl, .inr (.inl hc)⟩
    | nil =>
      cases n.fraction with
      | some ds => exact ⟨_, _, rfl, .inr (.inr (.inl rfl))⟩
      | none =>
        cases n.separator with
        | comma => exact ⟨_, _, rfl, .inr (.inr (.inr (.inl rfl)))⟩
        | semicolon => exact ⟨_, _, rfl, .inr (.inr (.inr (.inr rfl)))⟩

theorem Opening.ne {c x : Char} (h : Opening c) (hx : ¬ Opening x) : c ≠ x :=
  fun he => hx (he ▸ h)

end NumberText

namespace FieldsText

theorem splitOn_names (f : FieldsText) (hne : f.names ≠ []) :
    ([','].intercalate (f.names.map String.toList)).splitOn ',' = f.names.map String.toList := by
  refine List.splitOn_intercalate ',' (fun l hl => ?_) (by simpa using hne)
  obtain ⟨n, hn, rfl⟩ := List.mem_map.1 hl
  exact f.plain n hn

theorem fieldList_content (f : FieldsText) : Reader.fieldList f.list.content = f.value := by
  have hsplit := f.splitOn_names
  rw [Reader.fieldList, f.braced, value]
  generalize hj : [','].intercalate (f.names.map String.toList) = joined at hsplit ⊢
  cases joined with
  | nil =>
    have hnames : f.names = [] ∨ f.names = [""] := by
      by_cases hne : f.names = []
      · exact .inl hne
      · have hmap : f.names.map String.toList = [""].map String.toList := (hsplit hne).symm
        exact .inr ((List.map_inj_right fun _ _ => String.toList_inj.1).1 hmap)
    rcases hnames with h | h <;> simp [h]
  | cons c s =>
    have hne : f.names ≠ [] := by
      intro h
      simp [h] at hj
    have hempty : f.names ≠ [""] := by
      intro h
      simp [h] at hj
    have hback : (f.names.map String.toList).map String.ofList = f.names := by
      simp [Function.comp_def]
    have hinner : ('{' :: (c :: s) ++ ['}']).tail.dropLast = c :: s := List.dropLast_concat
    have hlast : ('{' :: (c :: s) ++ ['}']).getLast? = some '}' := List.getLast?_concat
    rw [if_neg (by simp), if_neg hempty, if_pos ⟨rfl, hlast⟩, hinner]
    simp only [hsplit hne, hback]

end FieldsText

namespace Reader

variable {α β : Type}

/-- Where the text goes on with `s`, the reader takes `s` and nothing more, and answers `a`. -/
def Reads (r : Reader α) (s : List Char) (a : α) : Prop :=
  ∀ ⦃c : Cursor⦄ ⦃t : List Char⦄, c.rest = s ++ t → r.run c = (.ok a, c.past s t)

variable {r : Reader α} {f : α → Reader β} {s s' : List Char} {a : α} {b : β}

theorem Reads.pure (a : α) : Reads (pure a) [] a := by
  intro c t hs
  rw [run_pure, ← List.nil_append t, ← hs]
  rfl

theorem Reads.bind (h : Reads r s a) (hf : Reads (f a) s' b) : Reads (r >>= f) (s ++ s') b := by
  intro c t hs
  rw [List.append_assoc] at hs
  rw [run_bind, h hs]
  simp only
  rw [hf rfl, Cursor.past_past]

theorem Reads.map (h : Reads r s a) (g : α → β) :
    Reads (r >>= fun x => Pure.pure (g x)) s (g a) := by
  have hbind : Reads (r >>= fun x => Pure.pure (g x)) (s ++ []) (g a) := h.bind (Reads.pure (g a))
  rwa [List.append_nil] at hbind

theorem Reads.position {f : Nat → Reader β} (h : ∀ o, Reads (f o) s b) :
    Reads (position >>= f) s b :=
  fun c _ hs => h c.offset hs

theorem Reads.peek {f : Option Char → Reader β} {x : Char} (h : Reads (f (some x)) (x :: s) b) :
    Reads (peek >>= f) (x :: s) b := by
  intro c t hs
  have hpeek : c.peek = some x := by rw [Cursor.peek, hs]; rfl
  rw [run_bind]
  simp only [Reader.peek, look, hpeek]
  exact h hs

theorem Reads.previous {f : Option Char → Reader β} {g : α → Reader β} {x : Char}
    (h : Reads r (s ++ [x]) a) (hg : g a = look Cursor.previous >>= f)
    (hf : Reads (f (some x)) s' b) : Reads (r >>= g) (s ++ [x] ++ s') b := by
  intro c t hs
  rw [List.append_assoc] at hs
  rw [run_bind, h hs]
  simp only [hg, run_bind, look, Cursor.past_previous, List.getLast?_append, List.getLast?_singleton,
    Option.some_or]
  rw [hf rfl, Cursor.past_past]

theorem Reads.take (s : List Char) : Reads (take s.length) s s := by
  intro c t hs
  rw [run_take, hs, List.take_left, List.drop_left]

theorem Reads.skip_one (x : Char) : Reads (skip 1) [x] () :=
  (Reads.take [x]).map fun _ => ()

theorem Reads.next (x : Char) : Reads next [x] (some x) :=
  (Reads.take [x]).map List.head?

theorem Reads.optional_present {f : Char → Option α} {x : Char} {d : α} {g : α → Reader β}
    (hf : f x = some a) (h : Reads (g a) s b) : Reads (optional f d >>= g) (x :: s) b := by
  have hopt : Reads (optional f d) [x] a := by
    refine .peek ?_
    rw [Option.bind_some, hf]
    exact (Reads.skip_one x).map fun _ => a
  exact hopt.bind h

theorem Reads.optional_absent {f : Char → Option α} {x : Char} {d : α} {g : α → Reader β}
    (hf : f x = none) (h : Reads (g d) (x :: s) b) : Reads (optional f d >>= g) (x :: s) b := by
  intro c t hs
  have hpeek : c.peek.bind f = none := by
    rw [Cursor.peek, hs]
    exact hf
  rw [run_bind, optional, run_bind]
  simp only [Reader.peek, look, hpeek, run_pure]
  exact h hs

theorem Reads.eat {x : Char} {g : Bool → Reader β} (h : Reads (g true) s b) :
    Reads (Reader.eat x >>= g) (x :: s) b := by
  rw [eat_eq]
  exact .optional_present (if_pos rfl) h

theorem Reads.eat_other {x y : Char} {g : Bool → Reader β} (hy : y ≠ x)
    (h : Reads (g false) (y :: s) b) : Reads (Reader.eat x >>= g) (y :: s) b := by
  rw [eat_eq]
  exact .optional_absent (if_neg hy) h

theorem Reads.number (n : NumberText) : Reads number n.text n.value := by
  intro c t hs
  have hsplit : Numeral.split c.rest = (n.numeral, n.separator.char :: t) := by
    rw [hs, n.split_text]
  have hsep : n.separator.char = ',' ∨ n.separator.char = ';' := by
    cases n.separator with
    | comma => exact .inl rfl
    | semicolon => exact .inr rfl
  rw [run_number_cons hsplit, if_pos hsep, n.value_numeral]
  rfl

theorem Reads.chars (s : List Char) : Reads (chars s.length) s s := by
  have h : Reads (Reader.take s.length >>= fun u =>
      if u.length < s.length then Reader.position >>= fun o => fail (.unexpectedEnd o)
      else Pure.pure u) (s ++ []) s := by
    refine (Reads.take s).bind ?_
    rw [if_neg (Nat.lt_irrefl _)]
    exact .pure s
  rwa [List.append_nil] at h

theorem Reads.payload (p : CountedText) : Reads payload p.text p.content := by
  have hwhole : p.count.value = Binary64.ofWhole p.content.toList.length := by
    rw [p.counts, String.length_toList]
    exact Binary64.ofScientific_eq_ofWhole p.short
  have hshort : p.content.toList.length < 2 ^ 53 := by
    rw [String.length_toList]
    exact p.short
  refine .position fun o => (Reads.number p.count).bind ?_
  rw [hwhole, Binary64.isIntegral_ofWhole hshort, Binary64.toNat64_ofWhole hshort,
    if_pos (by simpa using Binary64.ofWhole_nonneg hshort)]
  have h := (Reads.chars p.content.toList).map String.ofList
  rwa [String.ofList_toList] at h

theorem Reads.string (p : CountedText) (x : Char) : Reads string (p.text ++ [x]) p.content :=
  (Reads.payload p).bind ((Reads.skip_one x).map fun _ => p.content)

theorem Reads.of_eq {a' : α} (h : Reads r s a) (hs : s = s') (ha : a = a') : Reads r s' a' :=
  ha ▸ hs ▸ h

theorem Reads.rect (box : BoxText) : Reads rect box.text box.value := by
  refine .of_eq ((Reads.number box.x).bind <| (Reads.number box.y).bind <|
    (Reads.number box.width).bind <| (Reads.number box.height).map _) ?_ rfl
  simp [BoxText.text]

theorem value?_char (d : HexDigitText) : Hex.value? d.char = some d.value := by
  obtain ⟨v, u⟩ := d
  revert v u
  decide

theorem byte?_text (b : ByteText) : Hex.byte? b.high.char b.low.char = some b.value := by
  simp [Hex.byte?, value?_char, ByteText.value]

theorem ofDigits?_text (c : ColorText) :
    Color.ofDigits? (c.red.text ++ c.green.text ++ c.blue.text) = some c.value := by
  simp [Color.ofDigits?, ByteText.text, Hex.bytes?, byte?_text, ColorText.value]

theorem Reads.color (c : ColorText) : Reads color c.text c.value := by
  refine .position fun o => (Reads.chars (c.red.text ++ c.green.text ++ c.blue.text)).bind ?_
  rw [ofDigits?_text]
  exact (Reads.skip_one _).map fun _ => c.value

end Reader

end BandCanvas
