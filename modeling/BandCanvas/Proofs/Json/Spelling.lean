import BandCanvas.Proofs.Json.Numeral

namespace BandCanvas.Json.Written

section Blanks

variable {b s rest : List Char}

def Blanks (s : List Char) : Prop :=
  ∀ c ∈ s, isBlank c = true

theorem blanks_nil : Blanks [] :=
  fun _ h => nomatch h

theorem skipBlanks_append (hb : Blanks b) (s : List Char) : skipBlanks (b ++ s) = skipBlanks s :=
  List.dropWhile_append_of_pos hb

theorem skipBlanks_cons {c : Char} (hc : isBlank c = false) (s : List Char) : skipBlanks (c :: s) = c :: s :=
  List.dropWhile_cons_of_neg (by simp [hc])

theorem skipBlanks_skipBlanks (s : List Char) : skipBlanks (skipBlanks s) = skipBlanks s := by
  induction s with
  | nil => rfl
  | cons c s ih =>
    by_cases hc : isBlank c = true
    · rw [skipBlanks, skipBlanks, List.dropWhile_cons_of_pos hc]
      exact ih
    · rw [skipBlanks_cons (by simpa using hc), skipBlanks_cons (by simpa using hc)]

theorem blank_cases {c : Char} (h : isBlank c = true) : c = ' ' ∨ c = '\n' ∨ c = '\t' ∨ c = '\r' := by
  simpa [isBlank, or_assoc] using h

theorem EndsNumber.append (hb : Blanks b) (h : EndsNumber s) : EndsNumber (b ++ s) := by
  cases b with
  | nil => exact h
  | cons c b =>
    rcases blank_cases (hb c List.mem_cons_self) with rfl | rfl | rfl | rfl <;>
      exact EndsNumber.cons _ (by decide) (by decide) (by decide) (by decide)

end Blanks

section Strings

variable {rest : List Char}

theorem value?_lowerDigit {n : Nat} (h : n < 16) : Hex.value? (Hex.lowerDigit n) = some n := by
  have hall : ∀ n < 16, Hex.value? (Hex.lowerDigit n) = some n := by decide
  exact hall n h

theorem hex4?_ofNat {n : Nat} (h : n < 65536) (rest : List Char) :
    hex4? (Hex.ofNat 4 n ++ rest) = some (n, rest) := by
  have hdigits : Hex.ofNat 4 n = [Hex.lowerDigit (n >>> 12 % 16), Hex.lowerDigit (n >>> 8 % 16),
      Hex.lowerDigit (n >>> 4 % 16), Hex.lowerDigit (n >>> 0 % 16)] := rfl
  have hdigit (k : Nat) : Hex.value? (Hex.lowerDigit (n >>> k % 16)) = some (n >>> k % 16) :=
    value?_lowerDigit (Nat.mod_lt _ (by decide))
  have hsum : 4096 * (n >>> 12 % 16) + 256 * (n >>> 8 % 16) + 16 * (n >>> 4 % 16) + n >>> 0 % 16 = n := by
    simp only [Nat.shiftRight_eq_div_pow]
    omega
  simp only [hdigits, List.cons_append, List.nil_append, hex4?, hdigit, Option.bind_eq_bind, Option.bind_some,
    hsum]
  rfl

theorem toNat_lt_of_lt_blank {c : Char} (h : c < ' ') : c.toNat < 32 :=
  h

theorem ofUnit_toNat {c : Char} (h : c < ' ') : Piece.ofUnit c.toNat = .char c := by
  have hc := toNat_lt_of_lt_blank h
  rw [Piece.ofUnit, if_neg (by omega), if_neg (by omega), Char.ofNat_toNat]

theorem escape_cases (c : Char) :
    (escape c = [c] ∧ c ≠ '"' ∧ c ≠ '\\' ∧ ¬ c < ' ') ∨
      ∃ s, escape c = '\\' :: s ∧ ∀ rest, escaped? (s ++ rest) = some (.char c, rest) := by
  unfold escape
  split
  · exact .inr ⟨['"'], rfl, fun _ => rfl⟩
  · exact .inr ⟨['\\'], rfl, fun _ => rfl⟩
  · exact .inr ⟨['b'], rfl, fun _ => rfl⟩
  · exact .inr ⟨['f'], rfl, fun _ => rfl⟩
  · exact .inr ⟨['n'], rfl, fun _ => rfl⟩
  · exact .inr ⟨['r'], rfl, fun _ => rfl⟩
  · exact .inr ⟨['t'], rfl, fun _ => rfl⟩
  · split
    next hcontrol =>
      refine .inr ⟨'u' :: Hex.ofNat 4 c.toNat, rfl, fun rest => ?_⟩
      have hc := toNat_lt_of_lt_blank hcontrol
      rw [List.cons_append, escaped?, hex4?_ofNat (by omega), Option.map_some]
      simp only [ofUnit_toNat hcontrol]
    next hquote hbackslash _ _ _ _ _ hcontrol => exact .inl ⟨rfl, hquote, hbackslash, hcontrol⟩

theorem pieces?_escape (c : Char) (fuel : Nat) (s : List Char) :
    pieces? (fuel + 1) (escape c ++ s) = (pieces? fuel s).map fun (ps, rest) => (.char c :: ps, rest) := by
  rcases escape_cases c with ⟨hself, hquote, hbackslash, hprintable⟩ | ⟨t, hescape, hread⟩
  · rw [hself, List.cons_append, List.nil_append, pieces?]
    · rw [if_neg hprintable]
      cases pieces? fuel s <;> rfl
    · exact hquote
    · exact hbackslash
  · rw [hescape, List.cons_append, pieces?, hread]
    simp only [Option.bind_eq_bind, Option.bind_some]
    cases pieces? fuel s <;> rfl

theorem pieces?_chars (cs : List Char) {fuel : Nat} (hfuel : cs.length < fuel) (rest : List Char) :
    pieces? fuel (cs.flatMap escape ++ '"' :: rest) = some (cs.map .char, rest) := by
  induction cs generalizing fuel with
  | nil =>
    cases fuel with
    | zero => exact absurd hfuel (Nat.not_lt_zero _)
    | succ fuel => rfl
  | cons c cs ih =>
    cases fuel with
    | zero => exact absurd hfuel (Nat.not_lt_zero _)
    | succ fuel =>
      rw [List.flatMap_cons, List.append_assoc, pieces?_escape, ih (Nat.lt_of_succ_lt_succ hfuel)]
      rfl

theorem content?_chars (cs : List Char) : content? (cs.map .char) = some cs := by
  induction cs with
  | nil => rfl
  | cons c cs ih => rw [List.map_cons, content?, ih, Option.map_some]

theorem length_le_length_escape (cs : List Char) : cs.length ≤ (cs.flatMap escape).length := by
  induction cs with
  | nil => exact Nat.le_refl _
  | cons c cs ih =>
    have hc : 1 ≤ (escape c).length := by
      rcases escape_cases c with ⟨hself, -⟩ | ⟨t, hescape, -⟩
      · rw [hself]
        exact Nat.le_refl _
      · rw [hescape]
        exact Nat.le_add_left _ _
    rw [List.flatMap_cons, List.length_append, List.length_cons]
    omega

/-- Every string is read back from its quoted form. -/
theorem string?_quoted (s : String) (rest : List Char) :
    string? (s.toList.flatMap escape ++ '"' :: rest) = some (some s, rest) := by
  have hfuel : s.toList.length < (s.toList.flatMap escape ++ '"' :: rest).length + 1 := by
    have := length_le_length_escape s.toList
    rw [List.length_append]
    omega
  rw [string?, pieces?_chars _ hfuel]
  show some ((content? (s.toList.map .char)).map String.ofList, rest) = _
  rw [content?_chars, Option.map_some, String.ofList_toList]

end Strings

mutual

/-- A text that spells a value. -/
inductive Spells : Written → List Char → Prop
  | null : Spells .null "null".toList
  | bool_true : Spells (.bool true) "true".toList
  | bool_false : Spells (.bool false) "false".toList
  | number {n : JsonNumber} (h : n.WellFormed) : Spells (.number n) n.text
  | string (s : String) : Spells (.string (some s)) (quoted s)
  | emptyArray : Spells (.array []) ['[', ']']
  | array {ws : List Written} {t : List Char} (h : SpellsItems ws t) : Spells (.array ws) ('[' :: t ++ [']'])
  | emptyObject : Spells (.object []) ['\x7b', '\x7d']
  | object {ms : List (Option String × Written)} {t : List Char} (h : SpellsMembers ms t) :
    Spells (.object ms) ('\x7b' :: t ++ ['\x7d'])

/-- A text that spells the items of an array that has any. -/
inductive SpellsItems : List Written → List Char → Prop
  | last {w : Written} {b t b' : List Char} (hb : Blanks b) (h : Spells w t) (hb' : Blanks b') :
    SpellsItems [w] (b ++ t ++ b')
  | cons {w : Written} {ws : List Written} {b t ts : List Char} (hb : Blanks b) (h : Spells w t)
    (hs : SpellsItems ws ts) : SpellsItems (w :: ws) (b ++ t ++ ',' :: ts)

/-- A text that spells the members of an object that has any. -/
inductive SpellsMembers : List (Option String × Written) → List Char → Prop
  | last (name : String) {w : Written} {b gap t b' : List Char} (hb : Blanks b) (hgap : Blanks gap)
    (h : Spells w t) (hb' : Blanks b') :
    SpellsMembers [(some name, w)] (b ++ quoted name ++ ':' :: gap ++ t ++ b')
  | cons (name : String) {w : Written} {ms : List (Option String × Written)} {b gap t ts : List Char}
    (hb : Blanks b) (hgap : Blanks gap) (h : Spells w t) (hs : SpellsMembers ms ts) :
    SpellsMembers ((some name, w) :: ms) (b ++ quoted name ++ ':' :: gap ++ t ++ ',' :: ts)

end

section Reading

variable {w : Written} {ws : List Written} {ms : List (Option String × Written)} {b t rest : List Char}
  {fuel : Nat}

theorem Spells.head (h : Spells w t) : ∃ c s, t = c :: s ∧ isBlank c = false ∧ c ≠ ']' := by
  cases h with
  | number h =>
    obtain ⟨c, s, htext, hc⟩ := JsonNumber.text_head h
    refine ⟨c, s, htext, ?_, ?_⟩
    · cases hblank : isBlank c with
      | false => rfl
      | true =>
        exfalso
        rcases blank_cases hblank with rfl | rfl | rfl | rfl <;> exact absurd hc (by decide)
    · rintro rfl
      exact absurd hc (by decide)
  | null | bool_true | bool_false | string | emptyArray | array | emptyObject | object =>
    exact ⟨_, _, rfl, by decide, by decide⟩

theorem Spells.skipBlanks_eq (h : Spells w t) (hb : Blanks b) (rest : List Char) :
    skipBlanks (b ++ (t ++ rest)) = t ++ rest := by
  obtain ⟨c, s, rfl, hblank, -⟩ := h.head
  rw [skipBlanks_append hb, List.cons_append, skipBlanks_cons hblank]

theorem value_skipBlanks (fuel : Nat) (s : List Char) : value fuel (skipBlanks s) = value fuel s := by
  cases fuel with
  | zero => rfl
  | succ fuel => rw [value, value, skipBlanks_skipBlanks]

theorem items_skipBlanks (fuel : Nat) (s : List Char) : items fuel (skipBlanks s) = items fuel s := by
  cases fuel with
  | zero => rfl
  | succ fuel => rw [items, items, value_skipBlanks]

theorem members_skipBlanks (fuel : Nat) (s : List Char) : members fuel (skipBlanks s) = members fuel s := by
  cases fuel with
  | zero => rfl
  | succ fuel => rw [members, members, skipBlanks_skipBlanks]

theorem value_number {c : Char} {s : List Char} (hs : skipBlanks rest = c :: s)
    (hc : c = '-' ∨ c.isDigit = true) :
    value (fuel + 1) rest = (number? (c :: s)).map fun (n, rest) => (number n, rest) := by
  have hne (d : Char) (hd : ¬ (d = '-' ∨ d.isDigit = true)) : c ≠ d := by
    rintro rfl
    exact hd hc
  rw [value, hs]
  split
  case h_7 => rfl
  all_goals
    next heq =>
      simp only [List.cons.injEq] at heq
      exact absurd heq.1 (hne _ (by decide))

theorem value_array {s : List Char} (hs : skipBlanks rest = '[' :: s)
    (hopen : ∀ tail, skipBlanks s ≠ ']' :: tail) :
    value (fuel + 1) rest = (items fuel s).map fun (vs, rest) => (array vs, rest) := by
  rw [value, hs]
  split
  case h_5 heq =>
    obtain rfl := (List.cons.inj heq).2
    split
    next heq => exact absurd heq (hopen _)
    next => rw [items_skipBlanks]
  case h_7 hother _ => exact (hother _ rfl).elim
  all_goals
    next heq => simp at heq

theorem value_object {s : List Char} (hs : skipBlanks rest = '\x7b' :: s)
    (hopen : ∀ tail, skipBlanks s ≠ '\x7d' :: tail) :
    value (fuel + 1) rest = (members fuel s).map fun (ms, rest) => (object ms, rest) := by
  rw [value, hs]
  split
  case h_6 heq =>
    obtain rfl := (List.cons.inj heq).2
    split
    next heq => exact absurd heq (hopen _)
    next => rw [members_skipBlanks]
  case h_7 hother => exact (hother _ rfl).elim
  all_goals
    next heq => simp at heq

theorem separated?_close {close : Char} (hclose : isBlank close = false) (hcomma : close ≠ ',') (hb : Blanks b)
    (rest : List Char) : separated? close (b ++ close :: rest) = some (false, rest) := by
  rw [separated?, skipBlanks_append hb, skipBlanks_cons hclose]
  simp [hcomma]

theorem separated?_comma (close : Char) (rest : List Char) : separated? close (',' :: rest) = some (true, rest) :=
  rfl

theorem SpellsItems.not_closed (h : SpellsItems ws t) (rest tail : List Char) :
    skipBlanks (t ++ rest) ≠ ']' :: tail := by
  cases h with
  | last hb h _ | cons hb h _ =>
    rw [List.append_assoc, List.append_assoc, h.skipBlanks_eq hb]
    obtain ⟨c, s, rfl, -, hc⟩ := h.head
    intro heq
    exact hc (List.cons.inj heq).1

theorem SpellsMembers.not_closed (h : SpellsMembers ms t) (rest tail : List Char) :
    skipBlanks (t ++ rest) ≠ '\x7d' :: tail := by
  cases h with
  | last _ hb _ _ _ | cons _ hb _ _ _ =>
    simp only [List.append_assoc, skipBlanks_append hb, quoted, List.cons_append]
    rw [skipBlanks_cons (by decide)]
    simp

theorem members_name (name : String) (hb : Blanks b) (fuel : Nat) (s : List Char) :
    members (fuel + 1) (b ++ (quoted name ++ ':' :: s)) = (do
      let (v, s) ← value fuel s
      let (more, s) ← separated? '\x7d' s
      if more then
        let (ms, s) ← members fuel s
        pure ((some name, v) :: ms, s)
      else
        pure ([(some name, v)], s)) := by
  have hquoted : quoted name ++ ':' :: s = '"' :: (name.toList.flatMap escape ++ '"' :: ':' :: s) := by
    simp [quoted]
  rw [members, skipBlanks_append hb, hquoted, skipBlanks_cons (by decide)]
  simp only [string?_quoted, Option.bind_eq_bind, Option.bind_some, skipBlanks_cons (c := ':') (by decide)]

theorem fuel_pos {n : Nat} (h : 2 * (n + 1) ≤ fuel) : ∃ fuel', fuel = fuel' + 1 ∧ 2 * n + 1 ≤ fuel' := by
  cases fuel with
  | zero => exact absurd h (by omega)
  | succ fuel => exact ⟨fuel, rfl, by omega⟩

end Reading

mutual

/-- Every spelling of a value is read as that value. -/
theorem value_of_spells {w : Written} {b t rest : List Char} {fuel : Nat} (h : Spells w t) (hb : Blanks b)
    (hrest : EndsNumber rest) (hfuel : 2 * t.length ≤ fuel) : value fuel (b ++ (t ++ rest)) = some (w, rest) := by
  have hskip := h.skipBlanks_eq hb rest
  have hlength : ∃ n, t.length = n + 1 := by
    obtain ⟨c, s, rfl, -⟩ := h.head
    exact ⟨s.length, rfl⟩
  obtain ⟨n, hn⟩ := hlength
  obtain ⟨fuel, rfl, hfuel⟩ := fuel_pos (hn ▸ hfuel)
  cases h with
  | null | bool_true | bool_false | emptyArray | emptyObject =>
    rw [value, hskip]
    rfl
  | @number n h =>
    obtain ⟨c, s, htext, hc⟩ := JsonNumber.text_head h
    have hfirst : n.text ++ rest = c :: (s ++ rest) := by rw [htext, List.cons_append]
    rw [value_number (hskip.trans hfirst) hc, ← hfirst, JsonNumber.number?_text h hrest]
    rfl
  | string s =>
    rw [value, hskip]
    simp only [quoted, List.cons_append, List.append_assoc, List.nil_append, string?_quoted, Option.map_some]
  | @array ws ts h =>
    have hts : 2 * ts.length + 1 ≤ fuel := by
      simp only [List.cons_append, List.length_cons, List.length_append, List.length_nil] at hn
      omega
    have hopen := h.not_closed (']' :: rest)
    simp only [List.cons_append, List.append_assoc, List.nil_append] at hskip ⊢
    rw [value_array hskip hopen, items_of_spells h rest hts, Option.map_some]
  | @object ms ts h =>
    have hts : 2 * ts.length + 1 ≤ fuel := by
      simp only [List.cons_append, List.length_cons, List.length_append, List.length_nil] at hn
      omega
    have hopen := h.not_closed ('\x7d' :: rest)
    simp only [List.cons_append, List.append_assoc, List.nil_append] at hskip ⊢
    rw [value_object hskip hopen, members_of_spells h rest hts, Option.map_some]

theorem items_of_spells {ws : List Written} {t : List Char} {fuel : Nat} (h : SpellsItems ws t) (rest : List Char)
    (hfuel : 2 * t.length + 1 ≤ fuel) :
    items fuel (t ++ ']' :: rest) = some (ws, rest) := by
  obtain ⟨fuel, rfl⟩ := Nat.exists_eq_add_one_of_ne_zero (show fuel ≠ 0 by omega)
  cases h with
  | @last w b t b' hb h hb' =>
    have hend : EndsNumber (b' ++ ']' :: rest) :=
      .append hb' (.cons rest (by decide) (by decide) (by decide) (by decide))
    simp only [List.length_append] at hfuel
    rw [items, List.append_assoc, List.append_assoc, value_of_spells h hb hend (by omega)]
    simp only [Option.bind_eq_bind, Option.bind_some,
      separated?_close (show isBlank ']' = false by decide) (by decide) hb']
    rfl
  | @cons w ws b t ts hb h hs =>
    have hend : EndsNumber (',' :: (ts ++ ']' :: rest)) :=
      .cons _ (by decide) (by decide) (by decide) (by decide)
    simp only [List.length_append, List.length_cons] at hfuel
    have htail := items_of_spells hs rest (show 2 * ts.length + 1 ≤ fuel by omega)
    rw [items, List.append_assoc, List.append_assoc, List.cons_append, value_of_spells h hb hend (by omega)]
    simp only [Option.bind_eq_bind, Option.bind_some, separated?_comma, if_true, htail]
    rfl

theorem members_of_spells {ms : List (Option String × Written)} {t : List Char} {fuel : Nat}
    (h : SpellsMembers ms t) (rest : List Char) (hfuel : 2 * t.length + 1 ≤ fuel) :
    members fuel (t ++ '\x7d' :: rest) = some (ms, rest) := by
  obtain ⟨fuel, rfl⟩ := Nat.exists_eq_add_one_of_ne_zero (show fuel ≠ 0 by omega)
  cases h with
  | @last name w b gap t b' hb hgap h hb' =>
    have hend : EndsNumber (b' ++ '\x7d' :: rest) :=
      .append hb' (.cons rest (by decide) (by decide) (by decide) (by decide))
    simp only [List.length_append] at hfuel
    simp only [List.append_assoc, List.cons_append, members_name name hb,
      value_of_spells h hgap hend (show 2 * t.length ≤ fuel by omega), Option.bind_eq_bind, Option.bind_some,
      separated?_close (show isBlank '\x7d' = false by decide) (by decide) hb']
    rfl
  | @cons name w ms b gap t ts hb hgap h hs =>
    have hend : EndsNumber (',' :: (ts ++ '\x7d' :: rest)) :=
      .cons _ (by decide) (by decide) (by decide) (by decide)
    simp only [List.length_append, List.length_cons] at hfuel
    have htail := members_of_spells hs rest (show 2 * ts.length + 1 ≤ fuel by omega)
    simp only [List.append_assoc, List.cons_append, members_name name hb,
      value_of_spells h hgap hend (show 2 * t.length ≤ fuel by omega), Option.bind_eq_bind, Option.bind_some,
      separated?_comma, if_true, htail]
    rfl

end

theorem parse?_of_spells {w : Written} {b t b' : List Char} (h : Spells w t) (hb : Blanks b)
    (hb' : Blanks b') :
    parse? (String.ofList (b ++ (t ++ b'))) = some w := by
  have hend : EndsNumber b' := by
    have := EndsNumber.append hb' .nil
    rwa [List.append_nil] at this
  have hnone : skipBlanks b' = [] := by
    have := skipBlanks_append hb' []
    rwa [List.append_nil] at this
  have hfuel : 2 * t.length ≤ 2 * (b ++ (t ++ b')).length + 2 := by
    simp only [List.length_append]
    omega
  rw [parse?, String.toList_ofList]
  simp only [value_of_spells h hb hend hfuel, hnone, if_true]

end BandCanvas.Json.Written

namespace BandCanvas.Json

open Written

mutual

/-- A value as it is written. A number that is not finite is written as null. -/
def written : Json → Written
  | null => .null
  | bool b => .bool b
  | integer n => .number (.ofInt n)
  | number x => if x.isFinite then .number (.ofFloat x) else .null
  | string s => .string (some s)
  | array js => .array (writtenItems js)
  | object ms => .object (writtenMembers ms)

def writtenItems : List Json → List Written
  | [] => []
  | j :: js => j.written :: writtenItems js

def writtenMembers : List (String × Json) → List (Option String × Written)
  | [] => []
  | (n, j) :: ms => (some n, j.written) :: writtenMembers ms

end

theorem spells_number (x : Float) (t : List Char) (h : t = if x.isFinite then numberText x else "null".toList) :
    Spells (number x).written t := by
  subst h
  rw [written]
  split
  · rw [← JsonNumber.text_ofFloat]
    exact .number (JsonNumber.wellFormed_ofFloat x)
  · exact .null

theorem spells_integer (n : Int) : Spells (integer n).written (toString n).toList := by
  rw [written, ← JsonNumber.text_ofInt]
  exact .number (JsonNumber.wellFormed_ofInt n)

mutual

theorem spells_compactText (j : Json) : Spells j.written j.compactText := by
  cases j with
  | null => exact .null
  | bool b =>
    cases b with
    | true => exact .bool_true
    | false => exact .bool_false
  | integer n => exact spells_integer n
  | number x => exact spells_number x _ rfl
  | string s => exact .string s
  | array js =>
    rw [written, compactText]
    cases js with
    | nil => exact .emptyArray
    | cons j js => exact .array (spells_compactItems (j :: js) (List.cons_ne_nil j js))
  | object ms =>
    rw [written, compactText]
    cases ms with
    | nil => exact .emptyObject
    | cons m ms => exact .object (spells_compactMembers (m :: ms) (List.cons_ne_nil m ms))

theorem spells_compactItems (js : List Json) (hne : js ≠ []) :
    SpellsItems (writtenItems js) (compactItems js) := by
  cases js with
  | nil => exact absurd rfl hne
  | cons j js =>
    have hj := spells_compactText j
    rw [writtenItems]
    cases js with
    | nil => simpa [compactItems, writtenItems] using SpellsItems.last blanks_nil hj blanks_nil
    | cons j' js => exact .cons blanks_nil hj (spells_compactItems (j' :: js) (List.cons_ne_nil j' js))

theorem spells_compactMembers (ms : List (String × Json)) (hne : ms ≠ []) :
    SpellsMembers (writtenMembers ms) (compactMembers ms) := by
  cases ms with
  | nil => exact absurd rfl hne
  | cons m ms =>
    obtain ⟨name, j⟩ := m
    have hj := spells_compactText j
    rw [writtenMembers]
    cases ms with
    | nil =>
      simpa [compactMembers, writtenMembers] using SpellsMembers.last name blanks_nil blanks_nil hj blanks_nil
    | cons m' ms =>
      have hms := spells_compactMembers (m' :: ms) (List.cons_ne_nil m' ms)
      simpa [compactMembers] using SpellsMembers.cons name blanks_nil blanks_nil hj hms

end

theorem blanks_newLine (depth : Nat) : Blanks (newLine depth) := by
  intro c hc
  rcases List.mem_cons.1 hc with rfl | hc
  · rfl
  · rw [List.eq_of_mem_replicate hc]
    rfl

theorem blanks_space : Blanks [' '] := by
  intro c hc
  rw [List.mem_singleton.1 hc]
  rfl

mutual

theorem spells_prettyText (depth : Nat) (j : Json) : Spells j.written (prettyText depth j) := by
  cases j with
  | array js =>
    rw [written]
    cases js with
    | nil => exact .emptyArray
    | cons j js =>
      have hjs := spells_prettyItems depth (depth + 1) (j :: js) (List.cons_ne_nil j js)
      simpa [prettyText] using Spells.array hjs
  | object ms =>
    rw [written]
    cases ms with
    | nil => exact .emptyObject
    | cons m ms =>
      have hms := spells_prettyMembers depth (depth + 1) (m :: ms) (List.cons_ne_nil m ms)
      simpa [prettyText] using Spells.object hms
  | null | bool | integer | number | string => exact spells_compactText _

theorem spells_prettyItems (outer depth : Nat) (js : List Json) (hne : js ≠ []) :
    SpellsItems (writtenItems js) (prettyItems depth js ++ newLine outer) := by
  cases js with
  | nil => exact absurd rfl hne
  | cons j js =>
    have hj := spells_prettyText depth j
    have hline := blanks_newLine depth
    rw [writtenItems]
    cases js with
    | nil => exact .last hline hj (blanks_newLine outer)
    | cons j' js =>
      have hjs := spells_prettyItems outer depth (j' :: js) (List.cons_ne_nil j' js)
      simpa [prettyItems] using SpellsItems.cons hline hj hjs

theorem spells_prettyMembers (outer depth : Nat) (ms : List (String × Json)) (hne : ms ≠ []) :
    SpellsMembers (writtenMembers ms) (prettyMembers depth ms ++ newLine outer) := by
  cases ms with
  | nil => exact absurd rfl hne
  | cons m ms =>
    obtain ⟨name, j⟩ := m
    have hj := spells_prettyText depth j
    have hline := blanks_newLine depth
    rw [writtenMembers]
    cases ms with
    | nil =>
      simpa [prettyMembers, writtenMembers] using
        SpellsMembers.last name hline blanks_space hj (blanks_newLine outer)
    | cons m' ms =>
      have hms := spells_prettyMembers outer depth (m' :: ms) (List.cons_ne_nil m' ms)
      simpa [prettyMembers] using SpellsMembers.cons name hline blanks_space hj hms

end

theorem parse?_compact (j : Json) : Written.parse? j.compact = some j.written := by
  have h := parse?_of_spells (spells_compactText j) blanks_nil blanks_nil
  rwa [List.nil_append, List.append_nil] at h

theorem parse?_pretty (j : Json) : Written.parse? j.pretty = some j.written := by
  have h := parse?_of_spells (spells_prettyText 0 j) blanks_nil blanks_nil
  rwa [List.nil_append, List.append_nil] at h

end BandCanvas.Json
