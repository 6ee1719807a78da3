import BandCanvas.Proofs.Command.Operand

namespace BandCanvas

variable {α β : Type}

def DecodeError.withOffset (o : Nat) : DecodeError → DecodeError
  | unexpectedEnd _ => unexpectedEnd o
  | invalidNumber _ c => invalidNumber o c
  | invalidLength _ x => invalidLength o x
  | invalidColor _ => invalidColor o

/-- Two equal answers, but that an error of the second lies `k` bytes further on. -/
def MovedBy (k : Int) : Except DecodeError α → Except DecodeError α → Prop
  | .ok a, .ok b => a = b
  | .error e, .error e' => (e'.offset : Int) = e.offset + k ∧ e' = e.withOffset e'.offset
  | _, _ => False

namespace Reader

/-- What `r` does at a cursor, `r'` does `k` bytes further on where the same characters stand. -/
def Moves (k : Int) (r r' : Reader α) : Prop :=
  ∀ ⦃c c' : Cursor⦄ ⦃s t t' : List Char⦄,
    c.previous = c'.previous → (c'.offset : Int) = c.offset + k →
    c.rest = s ++ t → (r.run c).2 = c.past s t → (t = [] → t' = []) → c'.rest = s ++ t' →
      MovedBy k (r.run c).1 (r'.run c').1 ∧ (r'.run c').2 = c'.past s t'

def Local (r : Reader α) : Prop :=
  ∀ k, Moves k r r

/-- Where the text goes on, the reader takes at least one character. -/
def Consumes (r : Reader α) : Prop :=
  ∀ c : Cursor, c.rest ≠ [] → (r.run c).2.rest.length < c.rest.length

variable {k : Int} {r r' : Reader α} {f f' : α → Reader β}

theorem Moves.bind (h : Moves k r r') (hf : ∀ a, Moves k (f a) (f' a)) :
    Moves k (r >>= f) (r' >>= f') := by
  intro c c' s t t' hp ho hs he ht hs'
  obtain ⟨s₁, hs₁, hd⟩ := r.follows c
  cases hr : r.run c with
  | mk a d =>
  rw [hr] at hs₁ hd
  rw [run_bind, hr] at he
  rw [run_bind, run_bind, hr]
  cases a with
  | error e =>
    have hfirst := h hp ho hs (by rw [hr]; exact he) ht hs'
    rw [hr] at hfirst
    cases hr' : r'.run c' with
    | mk a' d' =>
    rw [hr'] at hfirst
    cases a' with
    | error e' => exact hfirst
    | ok a' => exact hfirst.1.elim
  | ok a =>
    obtain ⟨s₂, hs₂, hd₂⟩ := (f a).follows d
    simp only at he hd hs₁
    -- what is read falls into what `r` takes and what `f a` takes after it
    have hrest : ((f a).run d).2.rest = t := by rw [he]; rfl
    rw [hrest] at hs₂
    have hsplit : s = s₁ ++ s₂ := by
      apply (List.append_left_inj t).1
      rw [← hs, hs₁, hs₂, List.append_assoc]
    have hend : d.rest = [] → s₂ ++ t' = [] := by
      rw [hs₂]
      intro hnil
      obtain ⟨h₂, h₃⟩ := List.append_eq_nil_iff.1 hnil
      rw [h₂, ht h₃]
      rfl
    have hfirst := h hp ho hs₁ (by rw [hr]; exact hd) hend
      (by rw [hs', hsplit, List.append_assoc])
    rw [hr] at hfirst
    cases hr' : r'.run c' with
    | mk a' d' =>
    rw [hr'] at hfirst
    cases a' with
    | error e' => exact hfirst.1.elim
    | ok a' =>
      obtain ⟨ha, hd'⟩ := hfirst
      cases ha
      simp only at hd'
      have hd₁ : d = c.past s₁ (s₂ ++ t) := by rw [← hs₂]; exact hd
      have hp₂ : d.previous = d'.previous := by
        rw [hd₁, hd', Cursor.past_previous, Cursor.past_previous, hp]
      have ho₂ : (d'.offset : Int) = d.offset + k := by
        rw [hd₁, hd', Cursor.past_offset, Cursor.past_offset]
        omega
      have he₂ : ((f a).run d).2 = d.past s₂ t := by
        rw [he, hd₁, Cursor.past_past, hsplit]
      have hsecond := hf a hp₂ ho₂ hs₂ he₂ ht (by rw [hd']; rfl)
      refine ⟨hsecond.1, ?_⟩
      rw [hsecond.2, hd', Cursor.past_past, hsplit]

theorem eq_nil_of_past {c : Cursor} {s t : List Char} (hs : c.rest = s ++ t) (he : c = c.past s t) :
    s = [] := by
  have hrest : c.rest = t := congrArg Cursor.rest he
  rw [hrest] at hs
  exact List.self_eq_append_left.1 hs

theorem Moves.pure (k : Int) (a : α) : Moves k (pure a : Reader α) (pure a) := by
  intro c c' s t t' hp ho hs he ht hs'
  have hnil := eq_nil_of_past hs he
  subst hnil
  exact ⟨rfl, by rw [← List.nil_append t', ← hs']; rfl⟩

theorem Moves.fail {e e' : DecodeError} (h : MovedBy k (.error e : Except DecodeError α) (.error e')) :
    Moves k (fail e : Reader α) (fail e') := by
  intro c c' s t t' hp ho hs he ht hs'
  have hnil := eq_nil_of_past hs he
  subst hnil
  exact ⟨h, by rw [← List.nil_append t', ← hs']; rfl⟩

theorem Moves.position {f f' : Nat → Reader β}
    (h : ∀ o o' : Nat, (o' : Int) = o + k → Moves k (f o) (f' o')) :
    Moves k (position >>= f) (position >>= f') := by
  intro c c' s t t' hp ho hs he ht hs'
  exact h c.offset c'.offset ho hp ho hs he ht hs'

/-- The character before a reader is a character that its predecessors have consumed. -/
theorem Moves.previous {f f' : Option Char → Reader β} (h : ∀ o, Moves k (f o) (f' o)) :
    Moves k (look Cursor.previous >>= f) (look Cursor.previous >>= f') := by
  intro c c' s t t' hp ho hs he ht hs'
  have hmove := h c.previous hp ho hs he ht hs'
  rw [run_bind, run_bind]
  simp only [look] at hmove ⊢
  rw [← hp]
  exact hmove

/-- Looking at the next character is local if that character is then consumed. -/
theorem Moves.peek {f f' : Option Char → Reader β} (h : ∀ o, Moves k (f o) (f' o))
    (hc : ∀ o, Consumes (f o)) : Moves k (peek >>= f) (peek >>= f') := by
  intro c c' s t t' hp ho hs he ht hs'
  have hpeek : c.peek = c'.peek := by
    cases s with
    | cons x s => rw [Cursor.peek, Cursor.peek, hs, hs']; rfl
    | nil =>
      cases t with
      | nil => rw [Cursor.peek, Cursor.peek, hs, hs', ht rfl]
      | cons x t =>
        have hlt := hc c.peek c (by rw [hs]; exact List.cons_ne_nil x t)
        have hrest : ((f c.peek).run c).2 = c.past [] (x :: t) := he
        rw [hrest, hs] at hlt
        exact absurd hlt (Nat.lt_irrefl _)
  have hmove := h c.peek hp ho hs he ht hs'
  rw [run_bind, run_bind]
  simp only [Reader.peek, look] at hmove ⊢
  rw [← hpeek]
  exact hmove

theorem Consumes.bind (h : Consumes r) (f : α → Reader β) : Consumes (r >>= f) := by
  intro c hc
  have hlt := h c hc
  cases hr : r.run c with
  | mk a d =>
  rw [hr] at hlt
  rw [run_bind, hr]
  cases a with
  | error e => exact hlt
  | ok a => exact Nat.lt_of_le_of_lt ((f a).follows d).length_le hlt

theorem Consumes.position {f : Nat → Reader β} (h : ∀ o, Consumes (f o)) :
    Consumes (position >>= f) :=
  fun c hc => h c.offset c hc

theorem Consumes.skip_one : Consumes (skip 1) := by
  intro c hc
  obtain ⟨x, t, hs⟩ := List.exists_cons_of_ne_nil hc
  rw [run_skip, Cursor.past_rest, hs]
  exact Nat.lt_succ_self _

theorem Consumes.number : Consumes number := by
  intro c hc
  cases hn : Numeral.split c.rest with
  | mk u v =>
  have hs : u ++ v = c.rest := by simpa only [hn] using Numeral.split_append c.rest
  cases v with
  | nil =>
    rw [run_number_nil hn]
    exact List.length_pos_iff.2 hc
  | cons x v =>
    rw [run_number_cons hn, ← hs]
    simp
    omega

theorem Consumes.payload : Consumes payload :=
  .position fun _ => Consumes.number.bind _

theorem Consumes.rect : Consumes rect :=
  Consumes.number.bind _

theorem Local.bind (h : Local r) (hf : ∀ a, Local (f a)) : Local (r >>= f) :=
  fun k => (h k).bind fun a => hf a k

theorem Local.pure (a : α) : Local (pure a : Reader α) :=
  fun k => Moves.pure k a

theorem Local.previous {f : Option Char → Reader β} (h : ∀ o, Local (f o)) :
    Local (look Cursor.previous >>= f) :=
  fun k => Moves.previous fun o => h o k

theorem Local.peek {f : Option Char → Reader β} (h : ∀ o, Local (f o)) (hc : ∀ o, Consumes (f o)) :
    Local (peek >>= f) :=
  fun k => Moves.peek (fun o => h o k) hc

theorem Local.take (n : Nat) : Local (take n) := by
  intro k c c' s t t' hp ho hs he ht hs'
  have hdrop : c.rest.drop n = t := congrArg Cursor.rest he
  have htake : c.rest.take n = s := by
    apply (List.append_left_inj t).1
    rw [← hs, ← hdrop, List.take_append_drop]
  have hsame : c'.rest.take n = s ∧ c'.rest.drop n = t' := by
    cases t with
    | nil =>
      rw [ht rfl] at hs' ⊢
      rw [hs', ← hs]
      exact ⟨htake, hdrop⟩
    | cons x t =>
      have hlen : s.length = n := by
        have hlt : n < c.rest.length := by
          apply Nat.lt_of_not_le
          intro hle
          rw [List.drop_eq_nil_of_le hle] at hdrop
          cases hdrop
        rw [← htake, List.length_take, Nat.min_eq_left (Nat.le_of_lt hlt)]
      rw [hs', ← hlen]
      exact ⟨List.take_left, List.drop_left⟩
  rw [run_take, run_take]
  refine ⟨?_, by rw [hsame.1, hsame.2]⟩
  show c.rest.take n = c'.rest.take n
  rw [htake, hsame.1]

theorem Local.skip (n : Nat) : Local (skip n) :=
  (Local.take n).bind fun _ => .pure ()

theorem Local.next : Local next :=
  (Local.take 1).bind fun s => .pure s.head?

/-- A number takes the character that ends its numeral, and the numeral depends on nothing beyond. -/
theorem Local.number : Local number := by
  intro k c c' s t t' hp ho hs he ht hs'
  cases hn : Numeral.split c.rest with
  | mk u v =>
  have huv : u ++ v = c.rest := by simpa only [hn] using Numeral.split_append c.rest
  cases v with
  | nil =>
    rw [run_number_nil hn] at he ⊢
    have hnil : t = [] := (congrArg Cursor.rest he).symm
    have hu : c'.rest = c.rest := by rw [hs', hs, hnil, ht hnil]
    have hsu : s = u := by rw [hnil, ← huv] at hs; simpa using hs.symm
    rw [run_number_nil (hu ▸ hn), ht hnil, hsu]
    refine ⟨⟨?_, rfl⟩, rfl⟩
    simp only [DecodeError.offset]
    omega
  | cons x v =>
    rw [run_number_cons hn] at he ⊢
    have hv : t = v := (congrArg Cursor.rest he).symm
    have hsu : s = u ++ [x] := by
      apply (List.append_left_inj t).1
      rw [← hs, ← huv, hv, List.append_assoc]
      rfl
    have hn' : Numeral.split c'.rest = (u, x :: t') := by
      rw [hs', hsu, List.append_assoc]
      exact Numeral.split_stop (huv ▸ hn)
    rw [run_number_cons hn', hsu]
    refine ⟨?_, rfl⟩
    split
    · rfl
    · refine ⟨?_, rfl⟩
      simp only [DecodeError.offset]
      omega

theorem Local.chars (n : Nat) : Local (chars n) := by
  refine (Local.take n).bind fun s => ?_
  split
  · exact fun k => Moves.position fun o o' ho => .fail ⟨ho, rfl⟩
  · exact .pure s

theorem Local.payload : Local payload := by
  refine fun k => Moves.position fun o o' ho => (Local.number k).bind fun n => ?_
  split
  · exact (Local.chars _ k).bind fun s => .pure k _
  · exact .fail ⟨ho, rfl⟩

theorem Local.string : Local string :=
  Local.payload.bind fun s => (Local.skip 1).bind fun _ => .pure s

theorem Local.color : Local color := by
  refine fun k => Moves.position fun o o' ho => (Local.chars 6 k).bind fun s => ?_
  split
  · exact (Local.skip 1 k).bind fun _ => .pure k _
  · exact .fail ⟨ho, rfl⟩

theorem Local.rect : Local rect :=
  Local.number.bind fun _ => Local.number.bind fun _ => Local.number.bind fun _ =>
    Local.number.bind fun _ => .pure _

theorem optional_bind (g : Char → Option α) (a : α) (f : α → Reader β) :
    Reader.optional g a >>= f = Reader.peek >>= fun o => match o.bind g with
      | some b => Reader.skip 1 >>= fun _ => f b
      | none => f a := by
  apply ext_run
  intro c
  simp only [Reader.optional, run_bind, Reader.peek, look]
  cases c.peek.bind g <;> rfl

/-- An optional character is looked at; without it the continuation has to consume. -/
theorem Local.optional {g : Char → Option α} {a : α} (h : ∀ b, Local (f b)) (hc : Consumes (f a)) :
    Local (Reader.optional g a >>= f) := by
  rw [optional_bind]
  refine Local.peek (fun o => ?_) fun o => ?_
  · split
    · exact (Local.skip 1).bind fun _ => h _
    · exact h a
  · split
    · exact Consumes.skip_one.bind _
    · exact hc

theorem Consumes.optional {g : Char → Option α} {a : α} (h : Consumes (f a)) :
    Consumes (Reader.optional g a >>= f) := by
  intro c hc
  rw [optional_bind]
  show ((match c.peek.bind g with
    | some b => Reader.skip 1 >>= fun _ => f b
    | none => f a).run c).2.rest.length < c.rest.length
  split
  · exact Consumes.skip_one.bind _ c hc
  · exact h c hc

theorem Consumes.paintMode {m : PaintMode} {f : PaintMode → Reader β} (h : Consumes (f m)) :
    Consumes (Reader.paintMode m >>= f) := by
  rw [paintMode_eq]
  exact .optional h

theorem Local.eat {x : Char} {f : Bool → Reader β} (h : ∀ b, Local (f b)) (hc : Consumes (f false)) :
    Local (eat x >>= f) := by
  rw [eat_eq]
  exact .optional h hc

theorem Local.paintMode {m : PaintMode} {f : PaintMode → Reader β} (h : ∀ b, Local (f b))
    (hc : Consumes (f m)) : Local (paintMode m >>= f) := by
  rw [paintMode_eq]
  exact .optional h hc

end Reader

end BandCanvas
