import BoundSql.Refusal

/-!
# Taking compilations apart

A statement is compiled in steps, and the first step that is refused ends the
compilation.  So a compilation with a result is one whose steps all have results.

A list is checked in the same way: it passes if all its members do
(`forM_eq_ok_iff`), and else it is refused for the first that does not
(`forM_eq_error_iff`).  Where nothing is said about why there is no result, a list has
one if all its members do (`mapM_eq_some_iff`).
-/

namespace BoundSql

theorem bind_eq_ok {ε α β : Type} {x : Except ε α} {f : α → Except ε β} {b : β} :
    (x >>= f) = .ok b ↔ ∃ a, x = .ok a ∧ f a = .ok b := by
  cases x with
  | ok a =>
      constructor
      · exact fun h => ⟨a, rfl, h⟩
      · rintro ⟨_, ha, hf⟩
        cases ha
        exact hf
  | error e =>
      constructor
      · exact fun h => nomatch h
      · rintro ⟨_, ha, _⟩
        cases ha

theorem map_eq_ok {ε α β : Type} {x : Except ε α} {f : α → β} {b : β} :
    x.map f = .ok b ↔ ∃ a, x = .ok a ∧ f a = b := by
  cases x with
  | ok a =>
      constructor
      · exact fun h => ⟨a, rfl, Except.ok.inj h⟩
      · rintro ⟨_, ha, rfl⟩
        cases ha
        rfl
  | error e =>
      constructor
      · exact fun h => nomatch h
      · rintro ⟨_, ha, _⟩
        cases ha

theorem mapError_eq_ok {ε δ α : Type} {x : Except ε α} {f : ε → δ} {a : α} :
    x.mapError f = .ok a ↔ x = .ok a := by
  cases x with
  | ok b => exact ⟨fun h => congrArg _ (Except.ok.inj h), fun h => congrArg _ (Except.ok.inj h)⟩
  | error e => exact iff_of_false nofun nofun

theorem ite_error_eq_ok {ε α : Type} {p : Prop} [Decidable p] {e : ε} {x : Except ε α} {a : α} :
    (if p then .error e else x) = .ok a ↔ ¬ p ∧ x = .ok a := by
  by_cases hp : p
  · rw [if_pos hp]
    exact ⟨fun h => (nomatch h), fun h => absurd hp h.1⟩
  · rw [if_neg hp]
    exact ⟨fun h => ⟨hp, h⟩, fun h => h.2⟩

theorem bind_eq_error {ε α β : Type} {x : Except ε α} {f : α → Except ε β} {e : ε} :
    (x >>= f) = .error e ↔ x = .error e ∨ ∃ a, x = .ok a ∧ f a = .error e := by
  cases x with
  | ok a =>
      constructor
      · exact fun h => .inr ⟨a, rfl, h⟩
      · rintro (h | ⟨_, ha, hf⟩)
        · cases h
        · cases ha
          exact hf
  | error e' =>
      constructor
      · exact fun h => .inl (congrArg _ (Except.error.inj h))
      · rintro (h | ⟨_, ha, _⟩)
        · exact congrArg _ (Except.error.inj h)
        · cases ha

/-- If there is a reason for either outcome of a check, and always one of them, then the outcomes
are what there are reasons for. -/
theorem outcome_iff {ε : Type} {x : Except ε Unit} {P : Prop} {Q : ε → Prop} (hok : P → x = .ok ())
    (herror : ∀ e, Q e → x = .error e) (hall : P ∨ ∃ e, Q e) :
    (x = .ok () ↔ P) ∧ ∀ e, x = .error e ↔ Q e := by
  rcases hall with hp | ⟨e', hq⟩
  · have hx := hok hp
    refine ⟨iff_of_true hx hp, fun e => ⟨fun he => ?_, herror e⟩⟩
    cases hx.symm.trans he
  · have hx := herror e' hq
    refine ⟨⟨fun ho => ?_, hok⟩, fun e => ⟨fun he => ?_, herror e⟩⟩
    · cases hx.symm.trans ho
    · cases hx.symm.trans he
      exact hq

theorem ite_error_eq_error {ε α : Type} {p : Prop} [Decidable p] {e e' : ε} {a : α} :
    (if p then .error e else .ok a : Except ε α) = .error e' ↔ p ∧ e = e' := by
  by_cases hp : p <;> simp [hp]

theorem bind_check_eq_ok {ε α : Type} {x : Except ε Unit} {y : Except ε α} {a : α} :
    (x >>= fun _ => y) = .ok a ↔ x = .ok () ∧ y = .ok a := by
  rw [bind_eq_ok]
  exact ⟨fun ⟨_, hx, hy⟩ => ⟨hx, hy⟩, fun ⟨hx, hy⟩ => ⟨(), hx, hy⟩⟩

/-- A result that is given behind a check is there if the check is passed. -/
theorem bind_const_eq_ok {ε α : Type} {x : Except ε Unit} {a a' : α} :
    (x >>= fun _ => .ok a) = .ok a' ↔ x = .ok () ∧ a = a' := by
  rw [bind_check_eq_ok, Except.ok.injEq]

theorem bind_const_eq_error {ε α : Type} {x : Except ε Unit} {a : α} {e : ε} :
    (x >>= fun _ => .ok a) = .error e ↔ x = .error e := by
  rw [bind_eq_error]
  exact ⟨fun h => h.elim id (fun ⟨_, _, ha⟩ => nomatch ha), .inl⟩

/-- A change of the result can be made step by step. -/
theorem bind_eq_map {ε α β γ : Type} {x : Except ε α} {f : α → Except ε β} {f' : α → Except ε γ}
    {g : β → γ} (h : ∀ a, x = .ok a → f' a = (f a).map g) : (x >>= f') = (x >>= f).map g := by
  cases x with
  | ok a => exact h a rfl
  | error e => rfl

theorem ite_error_eq_map {ε α β : Type} {p : Prop} [Decidable p] {e : ε} {x : Except ε α}
    {y : Except ε β} {g : α → β} (h : y = x.map g) :
    (if p then .error e else y) = (if p then .error e else x : Except ε α).map g := by
  by_cases hp : p
  · rw [if_pos hp, if_pos hp]
    rfl
  · rwa [if_neg hp, if_neg hp]

/-- A list is compiled member by member. -/
theorem mapM_eq_ok {ε α β : Type} {f : α → Except ε β} {g : α → β}
    (hfg : ∀ a b, f a = .ok b → b = g a) :
    ∀ {as : List α} {bs : List β}, as.mapM f = .ok bs → bs = as.map g
  | [], bs, h => by
      rw [List.mapM_nil] at h
      cases h
      rfl
  | a :: as, bs, h => by
      rw [List.mapM_cons] at h
      obtain ⟨b, hb, h⟩ := bind_eq_ok.mp h
      obtain ⟨bs', hbs', h⟩ := bind_eq_ok.mp h
      cases h
      rw [hfg a b hb, mapM_eq_ok hfg hbs', List.map_cons]

theorem mapM_of_forall {ε α β : Type} {f : α → Except ε β} {g : α → β} :
    ∀ {as : List α}, (∀ a ∈ as, f a = .ok (g a)) → as.mapM f = .ok (as.map g)
  | [], _ => by
      rw [List.mapM_nil]
      rfl
  | a :: as, h => by
      obtain ⟨ha, has⟩ := List.forall_mem_cons.mp h
      rw [List.mapM_cons, ha, mapM_of_forall has]
      rfl

/-- Every member of a list that is compiled has a result. -/
theorem exists_ok_of_mem {ε α β : Type} {f : α → Except ε β} {a : α} :
    ∀ {as : List α} {bs : List β}, as.mapM f = .ok bs → a ∈ as → ∃ b, f a = .ok b
  | c :: as, bs, h, ha => by
      rw [List.mapM_cons] at h
      obtain ⟨b, hb, h⟩ := bind_eq_ok.mp h
      obtain ⟨bs', hbs', _⟩ := bind_eq_ok.mp h
      cases List.mem_cons.mp ha with
      | inl hac => exact ⟨b, hac ▸ hb⟩
      | inr ha => exact exists_ok_of_mem hbs' ha

/-- A list of members that may have no result has one if all of them do. -/
theorem mapM_eq_some_iff {α β : Type} {f : α → Option β} {as : List α} {bs : List β} :
    as.mapM f = some bs ↔ as.map f = bs.map some := by
  induction as generalizing bs with
  | nil => cases bs <;> simp
  | cons a as ih =>
      rw [List.mapM_cons, List.map_cons]
      cases f a with
      | none => cases bs <;> simp
      | some b =>
          cases bs with
          | nil => simp [Option.bind_eq_some_iff]
          | cons c cs => simpa [← ih, Option.bind_eq_some_iff] using and_comm

theorem mapM_eq_some {α β γ : Type} {f : β → Option γ} {g : α → β} {e : α → γ} {as : List α}
    (h : ∀ a ∈ as, f (g a) = some (e a)) : (as.map g).mapM f = some (as.map e) := by
  rw [mapM_eq_some_iff, List.map_map, List.map_map]
  exact List.map_congr_left h

theorem mapM_eq_none {α β : Type} {f : α → Option β} {as : List α} {a : α} (ha : f a = none)
    (hmem : a ∈ as) : as.mapM f = none := by
  refine Option.eq_none_iff_forall_ne_some.mpr fun bs h => ?_
  have hnone : none ∈ bs.map some := mapM_eq_some_iff.mp h ▸ ha ▸ List.mem_map_of_mem hmem
  obtain ⟨_, _, hsome⟩ := List.mem_map.mp hnone
  cases hsome

/-! ## Lists that are checked -/

section

variable {ε α : Type} {f : α → Except ε Unit} {a : α} {as : List α} {e : ε}

theorem forM_cons_of_ok (h : f a = .ok ()) : (a :: as).forM f = as.forM f := by
  show (f a >>= fun _ => as.forM f) = _
  rw [h]
  rfl

theorem forM_cons_of_error (h : f a = .error e) : (a :: as).forM f = .error e := by
  show (f a >>= fun _ => as.forM f) = _
  rw [h]
  rfl

/-- A list passes a check if and only if every member does. -/
theorem forM_eq_ok_iff : as.forM f = .ok () ↔ ∀ a ∈ as, f a = .ok () := by
  induction as with
  | nil => exact ⟨fun _ _ ha => absurd ha List.not_mem_nil, fun _ => rfl⟩
  | cons b as ih =>
      rw [List.forall_mem_cons, ← ih]
      constructor
      · intro h
        obtain ⟨_, hb, has⟩ := bind_eq_ok.mp h
        exact ⟨hb, has⟩
      · rintro ⟨hb, has⟩
        exact (forM_cons_of_ok hb).trans has

/-- A list fails a check with the error of the first member that fails. -/
theorem forM_eq_error_iff : as.forM f = .error e ↔ ∃ front a back, as = front ++ a :: back
    ∧ (∀ b ∈ front, f b = .ok ()) ∧ f a = .error e := by
  induction as with
  | nil =>
      constructor
      · exact fun h => nomatch h
      · rintro ⟨front, a, back, has, _⟩
        simp at has
  | cons b as ih =>
      constructor
      · intro h
        rcases bind_eq_error.mp h with hb | ⟨_, hb, has⟩
        · exact ⟨[], b, as, rfl, fun _ hx => absurd hx List.not_mem_nil, hb⟩
        · obtain ⟨front, a, back, rfl, hfront, ha⟩ := ih.mp has
          exact ⟨b :: front, a, back, rfl, List.forall_mem_cons.mpr ⟨hb, hfront⟩, ha⟩
      · rintro ⟨front, a, back, has, hfront, ha⟩
        cases front with
        | nil =>
            obtain ⟨rfl, rfl⟩ := List.cons.inj has
            exact forM_cons_of_error ha
        | cons c front =>
            obtain ⟨rfl, rfl⟩ := List.cons.inj has
            obtain ⟨hc, hfront⟩ := List.forall_mem_cons.mp hfront
            exact (forM_cons_of_ok hc).trans (ih.mpr ⟨front, a, back, rfl, hfront, ha⟩)

end

/-! ## The first of a list -/

section

variable {ε α : Type} {p : α → Bool} {as : List α} {a : α} {i : Nat}

/-- What is refused for something that is found passes if there is nothing to find. -/
theorem elim_error_eq_ok {o : Option α} {g : α → ε} :
    o.elim (.ok () : Except ε Unit) (fun x => .error (g x)) = .ok () ↔ o = none := by
  cases o <;> simp

theorem elim_error_eq_error {o : Option α} {g : α → ε} {e : ε} :
    o.elim (.ok () : Except ε Unit) (fun x => .error (g x)) = .error e
      ↔ ∃ x, o = some x ∧ g x = e := by
  cases o <;> simp

theorem forall_mem_zipIdx {q : α → Prop} {k : Nat} :
    (∀ e ∈ as.zipIdx k, q e.1) ↔ ∀ a ∈ as, q a := by
  conv => rhs; rw [← List.zipIdx_map_fst k as, List.forall_mem_map]

theorem find?_zipIdx_eq_none :
    ((as.zipIdx.find? fun e => p e.1).map fun e => (e.2, e.1)) = none ↔ ∀ a ∈ as, p a = false := by
  simp only [Option.map_eq_none_iff, List.find?_eq_none, Bool.not_eq_true]
  exact forall_mem_zipIdx (q := fun a => p a = false)

/-- The first member with a property is found together with its place. -/
theorem find?_zipIdx_eq_some :
    ((as.zipIdx.find? fun e => p e.1).map fun e => (e.2, e.1)) = some (i, a)
      ↔ ∃ front back, as = front ++ a :: back ∧ (∀ b ∈ front, p b = false) ∧ p a
        ∧ front.length = i := by
  have hswap : ((as.zipIdx.find? fun e => p e.1).map fun e => (e.2, e.1)) = some (i, a)
      ↔ (as.zipIdx.find? fun e => p e.1) = some (a, i) := by
    simp only [Option.map_eq_some_iff, Prod.exists, Prod.mk.injEq]
    exact ⟨fun ⟨_, _, h, hi, ha⟩ => by rwa [← hi, ← ha], fun h => ⟨a, i, h, rfl, rfl⟩⟩
  simp only [hswap, List.find?_eq_some_iff_append, Bool.not_eq_true']
  constructor
  · rintro ⟨ha, front', back', has, hfront⟩
    obtain ⟨front, rest, rfl, rfl, hrest⟩ := List.zipIdx_eq_append_iff.mp has
    obtain ⟨a', back, rfl, hae, _⟩ := List.zipIdx_eq_cons_iff.mp hrest.symm
    obtain ⟨rfl, rfl⟩ := Prod.mk.inj hae
    exact ⟨front, back, rfl, forall_mem_zipIdx.mp hfront, ha, (Nat.zero_add _).symm⟩
  · rintro ⟨front, back, rfl, hfront, ha, rfl⟩
    refine ⟨ha, front.zipIdx, back.zipIdx (front.length + 1), ?_, forall_mem_zipIdx.mpr hfront⟩
    rw [List.zipIdx_append, Nat.zero_add, List.zipIdx_cons]

end

namespace Value

variable {vs : List Value}

theorem firstNonScalar?_eq_none : firstNonScalar? vs = none ↔ ∀ v ∈ vs, v.isScalar := by
  rw [firstNonScalar?, find?_zipIdx_eq_none (p := fun v : Value => !v.isScalar)]
  simp only [Bool.not_eq_false']

theorem firstNonScalar?_eq_some {i : Nat} {v : Value} : firstNonScalar? vs = some (i, v)
    ↔ ∃ front back, vs = front ++ v :: back ∧ (∀ w ∈ front, w.isScalar) ∧ ¬ v.isScalar
      ∧ front.length = i := by
  rw [firstNonScalar?, find?_zipIdx_eq_some (p := fun v : Value => !v.isScalar)]
  simp only [Bool.not_eq_false', Bool.not_eq_true', Bool.not_eq_true]

end Value

end BoundSql
