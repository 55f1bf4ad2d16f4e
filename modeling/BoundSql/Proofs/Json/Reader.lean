import BoundSql.Proofs.Json.Valid

/-!
# Readers and the grammar

What a reader does on a text that begins with a document, and what it has met when it succeeds.
The loops over items and members are treated once for all readers.  `items_of_spelled` and
`foldMembers_of_spelled` run a loop over what is spelled.  `spelled_of_items` and
`spelled_of_foldMembers` find what is spelled behind a loop that has ended.

What is done with a member is given as a function on documents that may fail,
`σ → String × Json → Option σ`, and the loop does `List.foldlM` of it.
-/

namespace BoundSql.Json

section

variable {α β : Type} {cs cs' rest : List Char} {c : Char}

/-! ## Sequences -/

theorem bind_of_ok {x : Reader α} {f : α → Reader β} {a : α} (h : x cs = .ok (a, cs')) :
    (x >>= f) cs = f a cs' := by
  simp only [bind, StateT.bind, h, Except.bind]

theorem bind_eq_ok {x : Reader α} {f : α → Reader β} {r : β × List Char} :
    (x >>= f) cs = .ok r ↔ ∃ a cs', x cs = .ok (a, cs') ∧ f a cs' = .ok r := by
  constructor
  · intro h
    cases hx : x cs with
    | error fault =>
      simp only [bind, StateT.bind, hx, Except.bind] at h
      cases h
    | ok p => exact ⟨p.1, p.2, rfl, by rwa [bind_of_ok hx] at h⟩
  · rintro ⟨a, cs', hx, hf⟩
    rwa [bind_of_ok hx]

theorem map_of_ok {x : Reader α} {f : α → β} {a : α} (h : x cs = .ok (a, cs')) :
    (f <$> x) cs = .ok (f a, cs') := by
  simp only [Functor.map, StateT.map, bind, h, Except.bind]
  rfl

theorem map_eq_ok {x : Reader α} {f : α → β} {b : β} :
    (f <$> x) cs = .ok (b, cs') ↔ ∃ a, x cs = .ok (a, cs') ∧ b = f a := by
  constructor
  · intro h
    cases hx : x cs with
    | error fault =>
      simp only [Functor.map, StateT.map, bind, hx, Except.bind] at h
      cases h
    | ok p =>
      rw [map_of_ok hx] at h
      cases h
      exact ⟨p.1, rfl, rfl⟩
  · rintro ⟨a, hx, rfl⟩
    exact map_of_ok hx

/-! ## Tokens -/

theorem bind_peek {f : Char → Reader β} (h : Next c cs rest) :
    (peek >>= f) cs = f c (c :: rest) :=
  bind_of_ok (by rw [peek, h])

theorem bind_advance {f : Unit → Reader β} : (advance >>= f) (c :: cs) = f () cs := rfl

theorem peek_eq_ok : peek cs = .ok (c, cs') ↔ ∃ rest, Next c cs rest ∧ cs' = c :: rest := by
  unfold peek Next
  cases cs.dropWhile isSpace with
  | nil => simp
  | cons d ds =>
    constructor
    · intro h
      cases h
      exact ⟨ds, rfl, rfl⟩
    · rintro ⟨rest, h, rfl⟩
      cases h
      rfl

/-- What a reader does behind a look at the next character. -/
theorem bind_peek_eq_ok {f : Char → Reader β} {r : β × List Char} :
    (peek >>= f) cs = .ok r ↔ ∃ c rest, Next c cs rest ∧ f c (c :: rest) = .ok r := by
  rw [bind_eq_ok]
  constructor
  · rintro ⟨c, cs', hpeek, hf⟩
    obtain ⟨rest, hnext, rfl⟩ := peek_eq_ok.mp hpeek
    exact ⟨c, rest, hnext, hf⟩
  · rintro ⟨c, rest, hnext, hf⟩
    exact ⟨c, c :: rest, peek_eq_ok.mpr ⟨rest, hnext, rfl⟩, hf⟩

theorem word_eq_ok {es : List Char} {u : Unit} : word es cs = .ok (u, rest) ↔ cs = es ++ rest := by
  induction es generalizing cs with
  | nil =>
    constructor
    · intro h
      cases h
      rfl
    · rintro rfl
      rfl
  | cons e es ih =>
    cases cs with
    | nil => simp [word]
    | cons c cs =>
      by_cases hc : c = e
      · rw [word, if_pos hc, ih, hc, List.cons_append, List.cons.injEq]
        exact (and_iff_right rfl).symm
      · rw [word, if_neg hc, List.cons_append, List.cons.injEq]
        constructor
        · intro h
          cases h
        · exact fun h => absurd h.1 hc

theorem bind_word {es : List Char} {f : Unit → Reader β} :
    (word es >>= f) (es ++ rest) = f () rest :=
  bind_of_ok (word_eq_ok.mpr rfl)

theorem bind_stringBody {f : String → Reader β} {s : String} (h : StringText cs s.toList rest) :
    (stringBody >>= f) cs = f s rest :=
  bind_of_ok (stringBody_eq_ok.mpr h)

theorem colon_eq_ok {u : Unit} : colon cs = .ok (u, rest) ↔ Next ':' cs rest := by
  rw [colon, bind_peek_eq_ok]
  constructor
  · rintro ⟨c, rest', hnext, h⟩
    split at h
    next hc =>
      cases h
      exact hc ▸ hnext
    next => cases h
  · exact fun h => ⟨':', rest, h, rfl⟩

theorem bind_colon {f : Unit → Reader β} (h : Next ':' cs rest) : (colon >>= f) cs = f () rest :=
  bind_of_ok (colon_eq_ok.mpr h : colon cs = .ok ((), rest))

/-- The reader reads any text of the document. -/
def Reads (budget : Nat) (reader : Reader α) (j : Json) (a : α) : Prop :=
  ∀ cs rest, cs.length ≤ budget → j.Spelled cs rest → reader cs = .ok (a, rest)

/-- What the reader has read is the text of a document. -/
def ReadsOnly (reader : Reader α) (P : Json → α → Prop) : Prop :=
  ∀ cs rest a, reader cs = .ok (a, rest) → ∃ j, j.Spelled cs rest ∧ P j a

/-! ## Scalars -/

theorem reads_readString (budget : Nat) (s : String) : Reads budget readString (.string s) s := by
  rintro cs rest - ⟨cs', hnext, htext⟩
  exact (bind_peek hnext).trans (stringBody_eq_ok.mpr htext)

theorem reads_readBool (budget : Nat) (b : Bool) : Reads budget readBool (.bool b) b := by
  intro cs rest _ h
  cases b with
  | true => exact (bind_peek h).trans bind_word
  | false => exact (bind_peek h).trans bind_word

/-- A port is read as the integer that it is. -/
theorem reads_readPort (budget : Nat) (n : UInt16) :
    Reads budget readPort (.integer n.toNat) n := by
  intro cs rest _ h
  have hlt : n.toNat < 65536 := n.toNat_lt
  have hport : (0 : Int) ≤ n.toNat ∧ (n.toNat : Int) < 65536 := by omega
  obtain ⟨c, cs', hcs, hc⟩ := head_of_readNumber h
  rw [Spelled, hcs] at h
  rw [readPort, bind_peek hcs, if_pos hc]
  refine (bind_of_ok h).trans ?_
  simp only [if_pos hport, Int.toNat_natCast, UInt16.ofNat_toNat]
  rfl

/-- A text or its absence. -/
def ofText? : Option String → Json
  | none => .null
  | some s => .string s

theorem reads_readNullable (budget : Nat) (s? : Option String) :
    Reads budget (readNullable readString) (ofText? s?) s? := by
  intro cs rest hbudget h
  cases s? with
  | none => exact (bind_peek h).trans bind_word
  | some s =>
    obtain ⟨cs', hnext, htext⟩ := h
    have hlength := hnext.length_lt
    rw [readNullable, bind_peek hnext, if_neg (by decide)]
    exact map_of_ok (reads_readString budget s _ _ (Nat.le_trans hlength hbudget)
      ⟨cs', next_cons (by decide) cs', htext⟩)

/-! ## Arrays -/

variable {first : Bool} {cs₁ cs₂ : List Char}

theorem bind_nextItem_close {f : Bool → Reader β} (h : Next ']' cs rest) :
    (nextItem first >>= f) cs = f false (']' :: rest) :=
  bind_of_ok ((bind_peek h).trans rfl)

theorem bind_nextItem {f : Bool → Reader β} (hsep : Separated first cs cs₁)
    (hnext : Next c cs₁ cs₂) (hc : c ≠ ']') : (nextItem first >>= f) cs = f true (c :: cs₂) := by
  refine bind_of_ok ?_
  cases first with
  | true =>
    obtain rfl : cs₁ = cs := hsep
    rw [nextItem, bind_peek hnext, if_neg hc]
    rfl
  | false =>
    rw [nextItem, bind_peek hsep, if_neg (by decide), if_neg (by decide), if_pos rfl,
      bind_advance, bind_peek hnext, if_neg hc]
    rfl

theorem nextItem_eq_ok {more : Bool} (h : nextItem first cs = .ok (more, cs')) :
    more = false ∧ (∃ rest, Next ']' cs rest ∧ cs' = ']' :: rest)
      ∨ more = true ∧ ∃ cs₁, Separated first cs cs₁ ∧ cs' = cs₁.dropWhile isSpace := by
  obtain ⟨c, rest, hnext, h⟩ := bind_peek_eq_ok.mp h
  split at h
  next hc =>
    cases h
    exact .inl ⟨rfl, rest, hc ▸ hnext, by rw [hc]⟩
  next =>
    cases first with
    | true =>
      cases h
      exact .inr ⟨rfl, cs, rfl, hnext.symm⟩
    | false =>
      rw [if_neg (by decide)] at h
      split at h
      next hc =>
        rw [bind_advance] at h
        obtain ⟨d, rest', hnext', h⟩ := bind_peek_eq_ok.mp h
        split at h
        next => cases h
        next =>
          cases h
          subst hc
          exact .inr ⟨rfl, rest, hnext, hnext'.symm⟩
      next => cases h

theorem itemsFrom_of_spelled {budget : Nat} {item : Reader α} {js : List Json} {as : List α}
    (h : List.Forall₂ (Reads budget item) js as) {turns : Nat} (acc : List α)
    (hturns : cs.length < turns) (hbudget : cs.length ≤ budget)
    (hcs : Spelled.items js first cs rest) :
    itemsFrom item turns first acc cs = .ok (acc.reverse ++ as, rest) := by
  induction h generalizing turns acc first cs with
  | nil =>
    cases turns with
    | zero => cases hturns
    | succ turns =>
      rw [itemsFrom, bind_nextItem_close hcs, List.append_nil]
      rfl
  | @cons j a js as hj _ ih =>
    cases turns with
    | zero => cases hturns
    | succ turns =>
      obtain ⟨cs₁, cs₂, hsep, hspelled, hrest⟩ := hcs
      obtain ⟨c, cs₁', hnext, hc⟩ := hspelled.next
      have hlength := hspelled.length_lt
      have hsep' := hsep.length_le
      have hdrop : (c :: cs₁').length ≤ cs₁.length := hnext.length_lt
      have hread : item (c :: cs₁') = .ok (a, cs₂) :=
        hj _ _ (by omega) (by rw [← hnext, spelled_dropWhile]; exact hspelled)
      rw [itemsFrom, bind_nextItem hsep hnext hc, if_pos rfl, bind_of_ok hread,
        ih _ (by omega) (by omega) hrest, List.reverse_cons, List.append_assoc,
        List.singleton_append]

/-- The items that are spelled are read one after the other. -/
theorem items_of_spelled {budget : Nat} {item : Reader α} {js : List Json} {as : List α}
    (h : List.Forall₂ (Reads budget item) js as) (hbudget : cs.length ≤ budget)
    (hcs : Spelled.items js true cs rest) : items budget item cs = .ok (as, rest) :=
  itemsFrom_of_spelled h [] (by omega) hbudget hcs

theorem spelled_of_itemsFrom {item : Reader α} {P : Json → α → Prop} (hitem : ReadsOnly item P)
    {turns : Nat} {acc out : List α} (h : itemsFrom item turns first acc cs = .ok (out, rest)) :
    ∃ js as, out = acc.reverse ++ as ∧ Spelled.items js first cs rest ∧ List.Forall₂ P js as := by
  induction turns generalizing first acc cs with
  | zero => cases h
  | succ turns ih =>
    rw [itemsFrom] at h
    obtain ⟨more, cs', hmore, h⟩ := bind_eq_ok.mp h
    rcases nextItem_eq_ok hmore with ⟨rfl, rest', hclose, rfl⟩ | ⟨rfl, cs₁, hsep, rfl⟩
    · cases h
      exact ⟨[], [], by simp, hclose, .nil⟩
    · rw [if_pos rfl] at h
      obtain ⟨a, cs₂, ha, h⟩ := bind_eq_ok.mp h
      obtain ⟨j, hj, hP⟩ := hitem _ _ _ ha
      obtain ⟨js, as, rfl, hjs, hall⟩ := ih h
      exact ⟨j :: js, a :: as, by simp, ⟨cs₁, cs₂, hsep, spelled_dropWhile.mp hj, hjs⟩,
        .cons hP hall⟩

/-- Items that have been read are spelled. -/
theorem spelled_of_items {item : Reader α} {P : Json → α → Prop} (hitem : ReadsOnly item P)
    {budget : Nat} {as : List α} (h : items budget item cs = .ok (as, rest)) :
    ∃ js, Spelled.items js true cs rest ∧ List.Forall₂ P js as := by
  obtain ⟨js, as', rfl, hjs, hall⟩ := spelled_of_itemsFrom hitem h
  exact ⟨js, hjs, hall⟩

/-- An array is read item by item. -/
theorem reads_readArray {budget : Nat} {item : Reader α} {js : List Json} {as : List α}
    (h : List.Forall₂ (Reads budget item) js as) :
    Reads budget (readArray budget item) (.array js) as := by
  rintro cs rest hbudget ⟨cs', hnext, hjs⟩
  have hlength := hnext.length_lt
  rw [readArray, bind_peek hnext, if_pos rfl, bind_advance]
  exact items_of_spelled h (by omega) hjs

theorem mismatchAt_ne_ok {expected : String} {r : α × List Char} :
    (mismatchAt c expected : Reader α) cs ≠ .ok r := by
  intro h
  obtain ⟨_, _, _, h⟩ := bind_eq_ok.mp h
  cases h

/-- What has been read as an array is one. -/
theorem readsOnly_readArray {budget : Nat} {item : Reader α} {P : Json → α → Prop}
    (hitem : ReadsOnly item P) :
    ReadsOnly (readArray budget item) fun j as => ∃ js, j = .array js ∧ List.Forall₂ P js as := by
  intro cs rest as h
  obtain ⟨c, cs', hnext, h⟩ := bind_peek_eq_ok.mp h
  split at h
  next hc =>
    rw [bind_advance] at h
    obtain ⟨js, hjs, hall⟩ := spelled_of_items hitem h
    subst hc
    exact ⟨.array js, ⟨cs', hnext, hjs⟩, js, rfl, hall⟩
  next => exact absurd h mismatchAt_ne_ok

/-! ## Objects -/

theorem bind_nextName_close {f : Option String → Reader β} (h : Next '\x7d' cs rest) :
    (nextName first >>= f) cs = f none ('\x7d' :: rest) :=
  bind_of_ok ((bind_peek h).trans rfl)

theorem bind_nextName {f : Option String → Reader β} {name : String}
    (hsep : Separated first cs cs₁) (hnext : Next '"' cs₁ cs₂)
    (hname : StringText cs₂ name.toList rest) :
    (nextName first >>= f) cs = f (some name) rest := by
  have hbody : (some <$> stringBody : Reader (Option String)) cs₂ = .ok (some name, rest) :=
    map_of_ok (stringBody_eq_ok.mpr hname)
  refine bind_of_ok ?_
  cases first with
  | true =>
    obtain rfl : cs₁ = cs := hsep
    rw [nextName, bind_peek hnext, if_neg (by decide), if_pos rfl, if_pos rfl, bind_advance]
    exact hbody
  | false =>
    rw [nextName, bind_peek hsep, if_neg (by decide), if_neg (by decide), if_pos rfl,
      bind_advance, bind_peek hnext, if_pos rfl, bind_advance]
    exact hbody

theorem nextName_eq_ok {name? : Option String} (h : nextName first cs = .ok (name?, cs')) :
    name? = none ∧ (∃ rest, Next '\x7d' cs rest ∧ cs' = '\x7d' :: rest)
      ∨ ∃ name cs₁ cs₂, name? = some name ∧ Separated first cs cs₁ ∧ Next '"' cs₁ cs₂
          ∧ StringText cs₂ name.toList cs' := by
  obtain ⟨c, rest, hnext, h⟩ := bind_peek_eq_ok.mp h
  split at h
  next hc =>
    cases h
    exact .inl ⟨rfl, rest, hc ▸ hnext, by rw [hc]⟩
  next =>
    cases first with
    | true =>
      rw [if_pos rfl] at h
      split at h
      next hc =>
        rw [bind_advance] at h
        obtain ⟨name, hname, rfl⟩ := map_eq_ok.mp h
        exact .inr ⟨name, cs, rest, rfl, rfl, hc ▸ hnext, stringBody_eq_ok.mp hname⟩
      next => cases h
    | false =>
      rw [if_neg (by decide)] at h
      split at h
      next hc =>
        rw [bind_advance] at h
        obtain ⟨d, rest', hnext', h⟩ := bind_peek_eq_ok.mp h
        split at h
        next hd =>
          rw [bind_advance] at h
          obtain ⟨name, hname, rfl⟩ := map_eq_ok.mp h
          subst hc hd
          exact .inr ⟨name, rest, rest', rfl, hnext, hnext', stringBody_eq_ok.mp hname⟩
        next => cases h
      next => cases h

variable {σ τ : Type} {step : σ → String → Reader σ} {ms : List (String × Json)}

/-- The step does on any text of the member what `update` does on the member.  A state `acc` of
`update` is seen by the step as `view acc`. -/
def Takes (budget : Nat) (step : σ → String → Reader σ) (view : τ → σ)
    (update : τ → String × Json → Option τ) (m : String × Json) : Prop :=
  ∀ acc acc' cs cs' rest, update acc m = some acc' → cs.length ≤ budget → Next ':' cs cs' →
    m.2.Spelled cs' rest → step (view acc) m.1 cs = .ok (view acc', rest)

/-- A step that succeeds has met a member, and does what `update` does on it. -/
def TakesOnly (step : σ → String → Reader σ) (update : σ → String × Json → Option σ) : Prop :=
  ∀ acc acc' name cs rest, step acc name cs = .ok (acc', rest) →
    ∃ j cs', Next ':' cs cs' ∧ j.Spelled cs' rest ∧ update acc (name, j) = some acc'

/-- The members that are spelled take part one after the other. -/
theorem foldMembers_of_spelled {view : τ → σ} {update : τ → String × Json → Option τ}
    {start final : τ} {budget : Nat} (hstep : ∀ m ∈ ms, Takes budget step view update m)
    {turns : Nat} (hturns : cs.length < turns) (hbudget : cs.length ≤ budget)
    (hcs : Spelled.members ms first cs rest) (hfinal : ms.foldlM update start = some final) :
    foldMembers step turns first (view start) cs = .ok (view final, '\x7d' :: rest) := by
  induction ms generalizing turns start first cs with
  | nil =>
    cases turns with
    | zero => cases hturns
    | succ turns =>
      cases hfinal
      rw [foldMembers, bind_nextName_close hcs]
      rfl
  | cons m ms ih =>
    cases turns with
    | zero => cases hturns
    | succ turns =>
      obtain ⟨cs₁, cs₂, cs₃, cs₄, cs₅, hsep, hquote, hname, hcolon, hj, hms⟩ := hcs
      have hsep' := hsep.length_le
      have hquote' := hquote.length_lt
      have hname' := hname.length_lt
      have hcolon' := hcolon.length_lt
      have hj' := hj.length_lt
      rw [List.foldlM_cons] at hfinal
      obtain ⟨acc, hacc, hfinal⟩ := Option.bind_eq_some_iff.mp hfinal
      have hread := hstep m List.mem_cons_self start acc cs₃ cs₄ cs₅ hacc (by omega) hcolon hj
      rw [foldMembers, bind_nextName hsep hquote hname]
      refine (bind_of_ok hread).trans ?_
      exact ih (fun m hm => hstep m (List.mem_cons_of_mem _ hm)) (by omega) (by omega) hms hfinal

variable {update : σ → String × Json → Option σ} {start final : σ}

/-- Members that have taken part are spelled. -/
theorem spelled_of_foldMembers (hstep : TakesOnly step update) {turns : Nat}
    (h : foldMembers step turns first start cs = .ok (final, cs')) :
    ∃ ms rest, cs' = '\x7d' :: rest ∧ Spelled.members ms first cs rest
      ∧ ms.foldlM update start = some final := by
  induction turns generalizing start first cs with
  | zero => cases h
  | succ turns ih =>
    rw [foldMembers] at h
    obtain ⟨name?, cs₃, hname, h⟩ := bind_eq_ok.mp h
    rcases nextName_eq_ok hname with ⟨rfl, rest, hclose, rfl⟩ | ⟨name, cs₁, cs₂, rfl, hsep, hquote,
      htext⟩
    · cases h
      exact ⟨[], rest, rfl, hclose, rfl⟩
    · obtain ⟨acc, cs₅, hacc, h⟩ := bind_eq_ok.mp h
      obtain ⟨j, cs₄, hcolon, hj, hupdate⟩ := hstep _ _ _ _ _ hacc
      obtain ⟨ms, rest, rfl, hms, hfinal⟩ := ih h
      refine ⟨(name, j) :: ms, rest, rfl,
        ⟨cs₁, cs₂, cs₃, cs₄, cs₅, hsep, hquote, htext, hcolon, hj, hms⟩, ?_⟩
      rw [List.foldlM_cons, hupdate]
      exact hfinal

theorem members_of_spelled {budget : Nat} (hstep : ∀ m ∈ ms, Takes budget step id update m)
    (hbudget : cs.length ≤ budget) (hcs : Spelled.members ms true cs rest)
    (hfinal : ms.foldlM update start = some final) :
    members budget step start cs = .ok (final, rest) := by
  have hfold : foldMembers step (budget + 1) true start cs = .ok (final, '\x7d' :: rest) :=
    foldMembers_of_spelled hstep (by omega) hbudget hcs hfinal
  rw [members, bind_of_ok hfold, bind_advance]
  rfl

theorem spelled_of_members (hstep : TakesOnly step update) {budget : Nat}
    (h : members budget step start cs = .ok (final, rest)) :
    ∃ ms, Spelled.members ms true cs rest ∧ ms.foldlM update start = some final := by
  obtain ⟨result, cs', hfold, h⟩ := bind_eq_ok.mp h
  obtain ⟨ms, rest', rfl, hms, hfinal⟩ := spelled_of_foldMembers hstep hfold
  rw [bind_advance] at h
  cases h
  exact ⟨ms, hms, hfinal⟩

/-- An object is read member by member. -/
theorem reads_readObject {budget : Nat} (expected : String)
    (hstep : ∀ m ∈ ms, Takes budget step id update m)
    (hfinal : ms.foldlM update start = some final) :
    Reads budget (readObject budget expected step start) (.object ms) final := by
  rintro cs rest hbudget ⟨cs', hnext, hms⟩
  have hlength := hnext.length_lt
  rw [readObject, bind_peek hnext, if_pos rfl, bind_advance]
  exact members_of_spelled hstep (by omega) hms hfinal

/-- What has been read as an object is one. -/
theorem readsOnly_readObject {budget : Nat} {expected : String} (hstep : TakesOnly step update) :
    ReadsOnly (readObject budget expected step start) fun j final =>
      ∃ ms, j = .object ms ∧ ms.foldlM update start = some final := by
  intro cs rest final h
  obtain ⟨c, cs', hnext, h⟩ := bind_peek_eq_ok.mp h
  split at h
  next hc =>
    rw [bind_advance] at h
    obtain ⟨ms, hms, hfinal⟩ := spelled_of_members hstep h
    subst hc
    exact ⟨.object ms, ⟨cs', hnext, hms⟩, ms, rfl, hfinal⟩
  next => exact absurd h mismatchAt_ne_ok

/-! ## Whole texts -/

/-- A reader that reads a document reads a text that is the document. -/
theorem readText_of_spelledBy {reader : Nat → Reader α} {j : Json} {s : String} {a : α}
    (h : Reads s.toList.length (reader s.toList.length) j a) (hs : j.SpelledBy s) :
    readText reader s = .ok a := by
  obtain ⟨rest, hspelled, hrest⟩ := hs
  rw [readText, h _ _ (Nat.le_refl _) hspelled]
  exact if_pos hrest

/-- A text that has been read is the document that the reader has met. -/
theorem spelledBy_of_readText {reader : Nat → Reader α} {P : Json → α → Prop} {s : String} {a : α}
    (hreader : ∀ budget, ReadsOnly (reader budget) P) (h : readText reader s = .ok a) :
    ∃ j : Json, j.SpelledBy s ∧ P j a := by
  rw [readText] at h
  cases hread : reader s.toList.length s.toList with
  | error fault => rw [hread] at h; cases h
  | ok p =>
    rw [hread] at h
    cases hspace : p.2.all isSpace with
    | true =>
      simp only [bind, Except.bind, hspace, if_true] at h
      cases h
      obtain ⟨j, hj, hP⟩ := hreader _ _ _ _ hread
      exact ⟨j, ⟨p.2, hj, hspace⟩, hP⟩
    | false =>
      simp only [bind, Except.bind, hspace] at h
      cases h

end

end BoundSql.Json
