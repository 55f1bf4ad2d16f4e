import BoundSql.Proofs.Clause.Cut

/-!
# Conditions as SQL reads them

A condition is read from its tokens from the outside in.  At the top level it is cut at every
`OR`, and each piece at every `AND`, so that `AND` binds tighter.  What is left is read on
inside its parentheses if one pair encloses all of it, and is an *atom* otherwise: a
comparison, a call, a membership in a list.  What an atom says is up to a truth assignment,
and what a condition says follows from that (`Condition.eval`).

Conditions that are joined by `AND` all hold, if none of them has an `OR` at its top level
(`read?_conjunction`).  Of conditions in parentheses that are joined by `OR` any holds,
whatever they are (`read?_disjunction`).
-/

namespace BoundSql.Clause

/-! ## Conditions -/

/-- What a condition says, up to what its atoms say. -/
inductive Condition where
  | atom (ts : List Token)
  | all (cs : List Condition)
  | any (cs : List Condition)

namespace Condition

/-- The truth of a condition, when that of its atoms is given. -/
def eval (truth : List Token → Bool) : Condition → Bool
  | atom ts => truth ts
  | all cs => evalAll cs
  | any cs => evalAny cs
where
  evalAll : List Condition → Bool
    | [] => true
    | c :: cs => c.eval truth && evalAll cs
  evalAny : List Condition → Bool
    | [] => false
    | c :: cs => c.eval truth || evalAny cs

theorem eval_all (truth : List Token → Bool) (cs : List Condition) :
    (all cs).eval truth = cs.all (eval truth) := by
  show eval.evalAll truth cs = _
  induction cs with
  | nil => rfl
  | cons c cs ih => rw [eval.evalAll, ih, List.all_cons]

theorem eval_any (truth : List Token → Bool) (cs : List Condition) :
    (any cs).eval truth = cs.any (eval truth) := by
  show eval.evalAny truth cs = _
  induction cs with
  | nil => rfl
  | cons c cs ih => rw [eval.evalAny, ih, List.any_cons]

end Condition

/-! ## Reading conditions -/

/-- The separator of conditions. -/
def Connective.separator (k : Connective) : Separator where
  cuts := Token.connects k
  deepen_eq {t} d h := by
    cases t with
    | word s => rfl
    | quoted quote s => rfl
    | mark c => rfl
    | opening => cases h
    | closing => cases h

/-- The pieces between connectives at the top level. -/
def Connective.pieces (k : Connective) (ts : List Token) : List (List Token) :=
  cut k.separator 0 ts

section

variable (inside : List Token → Option Condition)

/-- What stands between two connectives: a condition in parentheses, or an atom. -/
def operand? (ts : List Token) : Option Condition :=
  match enclosed? ts with
  | some us => inside us
  | none => if ts = [] then none else some (.atom ts)

/-- Operands that are joined by `AND`. -/
def conjunction? (ts : List Token) : Option Condition :=
  ((Connective.and.pieces ts).mapM (operand? inside)).map .all

/-- Conjunctions that are joined by `OR`. -/
def disjunction? (ts : List Token) : Option Condition :=
  ((Connective.or.pieces ts).mapM (conjunction? inside)).map .any

end

/-- A condition whose parentheses stand inside of each other fewer than so many times. -/
def readWithin? : Nat → List Token → Option Condition
  | 0, _ => none
  | n + 1, ts => if Balanced ts then disjunction? (readWithin? n) ts else none

/-- A condition.  More parentheses than tokens there cannot be. -/
def read? (ts : List Token) : Option Condition := readWithin? (ts.length + 1) ts

/-- The condition that a text is. -/
def Condition.ofText? (quotes : Bool) (s : String) : Option Condition :=
  (tokens? quotes s).bind read?

example : ((Condition.ofText? true "a OR b AND c").map fun c => c.eval fun ts => ts = [.word "a"])
    = some true := by decide +kernel
example : ((Condition.ofText? true "(a OR b) AND c").map fun c => c.eval fun ts => ts = [.word "a"])
    = some false := by decide +kernel

/-- Only what is shorter is read inside of parentheses. -/
theorem disjunction?_congr {f g : List Token → Option Condition} {ts : List Token}
    (h : ∀ us : List Token, us.length < ts.length → f us = g us) :
    disjunction? f ts = disjunction? g ts := by
  -- what is read inside of parentheses is shorter than the piece that they enclose
  refine congrArg (Option.map _) (mapM_congr fun p hp => ?_)
  refine congrArg (Option.map _) (mapM_congr fun q hq => ?_)
  have hle : q.length ≤ ts.length :=
    Nat.le_trans (length_le_of_mem_cut hq) (length_le_of_mem_cut hp)
  rw [operand?, operand?]
  cases henclosed : enclosed? q with
  | none => rfl
  | some us => exact h us (Nat.lt_of_lt_of_le (length_enclosed? henclosed) hle)

theorem readWithin?_eq {n m : Nat} {ts : List Token} (hn : ts.length < n) (hm : ts.length < m) :
    readWithin? n ts = readWithin? m ts := by
  induction n generalizing m ts with
  | zero => cases hn
  | succ n ih =>
    cases m with
    | zero => cases hm
    | succ m =>
      have hinside : disjunction? (readWithin? n) ts = disjunction? (readWithin? m) ts :=
        disjunction?_congr fun us hus => ih (by omega) (by omega)
      rw [readWithin?, readWithin?, hinside]

theorem read?_eq (ts : List Token) :
    read? ts = if Balanced ts then disjunction? read? ts else none := by
  have hinside : disjunction? (readWithin? ts.length) ts = disjunction? read? ts :=
    disjunction?_congr fun us hus => readWithin?_eq hus (Nat.lt_succ_self us.length)
  rw [read?, readWithin?, hinside]

theorem balanced_of_read {ts : List Token} {c : Condition} (h : read? ts = some c) :
    Balanced ts := by
  rw [read?_eq] at h
  by_cases hbalanced : Balanced ts
  · exact hbalanced
  · rw [if_neg hbalanced] at h
    cases h

/-! ## Conditions that are joined -/

section

variable {ts us : List Token} {cs ds : List Condition} {c : Condition}

/-- Tokens that are read as conditions joined by `AND`. -/
structure Conjoins (ts : List Token) (cs : List Condition) : Prop where
  balanced : Balanced ts
  whole : Connective.or.pieces ts = [ts]
  operands : (Connective.and.pieces ts).mapM (operand? read?) = some cs

theorem Conjoins.read (h : Conjoins ts cs) : read? ts = some (.any [.all cs]) := by
  have hconjunction : conjunction? read? ts = some (.all cs) := by
    rw [conjunction?, h.operands]
    rfl
  rw [read?_eq, if_pos h.balanced, disjunction?, h.whole, mapM_singleton, hconjunction]
  rfl

/-- A condition without an `OR` at its top level is one of operands that all hold. -/
theorem conjoins_of_read (hwhole : Connective.or.pieces ts = [ts]) (h : read? ts = some c) :
    ∃ cs, Conjoins ts cs ∧ ∀ truth, c.eval truth = cs.all (Condition.eval truth) := by
  have hbalanced : Balanced ts := balanced_of_read h
  rw [read?_eq, if_pos hbalanced, disjunction?, hwhole, mapM_singleton] at h
  obtain ⟨_, hread, rfl⟩ := Option.map_eq_some_iff.mp h
  obtain ⟨_, hconjunction, rfl⟩ := Option.map_eq_some_iff.mp hread
  obtain ⟨cs, hcs, rfl⟩ := Option.map_eq_some_iff.mp hconjunction
  refine ⟨cs, ⟨hbalanced, hwhole, hcs⟩, fun truth => ?_⟩
  simp [Condition.eval_any, Condition.eval_all]

/-- There is no connective at the top level. -/
def Unjoined (ts : List Token) : Prop := ∀ k : Connective, Whole k.separator ts

theorem Unjoined.append (hts : Unjoined ts) (hus : Unjoined us) : Unjoined (ts ++ us) :=
  fun k => (hts k).append (hus k)

theorem unjoined_enclose (h : Balanced ts) : Unjoined (enclose ts) := fun _ => whole_enclose h

theorem Token.deepen_plain {t : Token} (h : t.isPlain) (d : Nat) : t.deepen d = some d := by
  cases t with
  | word s => rfl
  | quoted quote s => rfl
  | mark c => rfl
  | opening => cases h
  | closing => cases h

theorem Token.not_connects {t : Token} (h : t.isPlain) (k : Connective) : ¬ t.connects k := by
  simp only [isPlain, Bool.and_eq_true, Bool.not_eq_true'] at h
  cases k with
  | and => simp [h.1.2]
  | or => simp [h.2]

theorem unjoined_plain (h : ∀ t ∈ ts, t.isPlain) : Unjoined ts := by
  intro k
  induction ts with
  | nil => exact whole_nil k.separator
  | cons t ts ih =>
    have ht : t.isPlain := h t List.mem_cons_self
    exact (whole_singleton (Token.not_connects ht k) (Token.deepen_plain ht 0)).append
      (ih fun u hu => h u (List.mem_cons_of_mem t hu))

/-- Tokens without a connective at the top level that begin plainly are an atom. -/
theorem Unjoined.conjoins {t : Token} (h : Unjoined (t :: ts)) (ht : t.isPlain) :
    Conjoins (t :: ts) [.atom (t :: ts)] where
  balanced := (h .and).balanced
  whole := (h .or).cut_eq
  operands := by
    have henclosed : enclosed? (t :: ts) = none := by
      cases t with
      | opening => cases ht
      | word s => rfl
      | quoted quote s => rfl
      | mark c => rfl
      | closing => rfl
    rw [show Connective.and.pieces _ = [_] from (h .and).cut_eq, mapM_singleton, operand?,
      henclosed]
    rfl

theorem Conjoins.append (h : Conjoins ts cs) (h' : Conjoins us ds) :
    Conjoins (ts ++ .word "AND" :: us) (cs ++ ds) where
  balanced := h.balanced.append h'.balanced
  whole := by
    -- neither part is cut at an `OR`, and the `AND` between them is none
    have hrest : Connective.or.pieces (.word "AND" :: us) = [.word "AND" :: us] := by
      show cut _ 0 _ = _
      rw [cut_cons (by decide +kernel) rfl, show cut _ 0 us = [us] from h'.whole]
      rfl
    show cut _ 0 _ = _
    rw [cut_append h.balanced h.whole, show cut _ 0 _ = [_] from hrest]
    rfl
  operands := by
    have hcut : Connective.and.pieces (ts ++ .word "AND" :: us)
        = Connective.and.pieces ts ++ Connective.and.pieces us :=
      cut_append_cons (by decide +kernel) h.balanced
    rw [hcut, List.mapM_append, h.operands, h'.operands]
    rfl

end

section

variable {α : Type} {tokens : α → List Token} {condition : α → Condition}

/-- Conditions that are joined by `AND` all hold, if none of them has an `OR` at its top
level. -/
theorem read?_conjunction : ∀ {xs : List α}, xs ≠ [] →
    (∀ x ∈ xs, read? (tokens x) = some (condition x)
      ∧ Connective.or.pieces (tokens x) = [tokens x]) →
    ∃ cs, Conjoins ([.word "AND"].intercalate (xs.map tokens)) cs
      ∧ ∀ truth, cs.all (Condition.eval truth) = xs.all fun x => (condition x).eval truth
  | [], hne, _ => absurd rfl hne
  | [x], _, h => by
    obtain ⟨hread, hwhole⟩ := h x List.mem_cons_self
    obtain ⟨cs, hcs, heval⟩ := conjoins_of_read hwhole hread
    refine ⟨cs, by simpa using hcs, fun truth => ?_⟩
    rw [← heval truth]
    simp
  | x :: y :: xs, _, h => by
    obtain ⟨hread, hwhole⟩ := h x List.mem_cons_self
    obtain ⟨cs, hcs, heval⟩ := conjoins_of_read hwhole hread
    obtain ⟨ds, hds, hevals⟩ := read?_conjunction (List.cons_ne_nil y xs)
      fun z hz => h z (List.mem_cons_of_mem x hz)
    refine ⟨cs ++ ds, ?_, fun truth => ?_⟩
    · rw [List.map_cons, List.map_cons, List.intercalate_cons_cons, List.append_assoc]
      exact hcs.append hds
    · rw [List.all_append, hevals truth, ← heval truth]
      rfl

/-- Of conditions in parentheses that are joined by `OR` any holds. -/
theorem read?_disjunction {xs : List α} (hne : xs ≠ [])
    (h : ∀ x ∈ xs, read? (tokens x) = some (condition x)) :
    read? ([.word "OR"].intercalate (xs.map fun x => enclose (tokens x)))
      = some (.any (xs.map fun x => .all [condition x])) := by
  have hinside : ∀ x ∈ xs, Balanced (tokens x) := fun x hx => balanced_of_read (h x hx)
  have hor : Connective.or.separator.cuts (.word "OR") := by decide +kernel
  obtain ⟨hbalanced, hpieces⟩ := cut_intercalate hor hne fun x hx => whole_enclose (hinside x hx)
  -- in its parentheses a condition is a single operand, whatever connectives it has
  have hconjunction : ∀ x ∈ xs,
      conjunction? read? (enclose (tokens x)) = some (.all [condition x]) := by
    intro x hx
    have hoperand : operand? read? (enclose (tokens x)) = some (condition x) := by
      rw [operand?, enclosed?_enclose (hinside x hx)]
      exact h x hx
    rw [conjunction?, show Connective.and.pieces _ = [_] from (whole_enclose (hinside x hx)).cut_eq,
      mapM_singleton, hoperand]
    rfl
  rw [read?_eq, if_pos hbalanced, disjunction?, show Connective.or.pieces _ = _ from hpieces,
    mapM_eq_some hconjunction]
  rfl

end

/-! ## Texts of conditions -/

/-- The text is a condition, and this is its truth when that of its atoms is given. -/
def Means (quotes : Bool) (s : String) (meaning : (List Token → Bool) → Bool) : Prop :=
  ∃ c, Condition.ofText? quotes s = some c ∧ ∀ truth, c.eval truth = meaning truth

/-- There is no `OR` at the top level of a text. -/
def Undivided (quotes : Bool) (s : String) : Prop :=
  ∀ ts ∈ tokens? quotes s, Connective.or.pieces ts = [ts]

instance (quotes : Bool) (s : String) : Decidable (Undivided quotes s) :=
  inferInstanceAs (Decidable (∀ ts ∈ tokens? quotes s, Connective.or.pieces ts = [ts]))

section

variable {quotes : Bool} {α : Type} {text : α → String}
  {meaning : α → (List Token → Bool) → Bool}

theorem Means.congr {s : String} {f g : (List Token → Bool) → Bool} (h : Means quotes s f)
    (hfg : ∀ truth, f truth = g truth) : Means quotes s g := by
  obtain ⟨c, hc, heval⟩ := h
  exact ⟨c, hc, fun truth => (heval truth).trans (hfg truth)⟩

theorem means_atom {s : String} {ts : List Token} (hts : tokens? quotes s = some ts)
    (h : Conjoins ts [.atom ts]) : Means quotes s fun truth => truth ts := by
  refine ⟨.any [.all [.atom ts]], Option.bind_eq_some_iff.mpr ⟨ts, hts, h.read⟩, fun truth => ?_⟩
  rw [Condition.eval_any, List.any_cons, Condition.eval_all, List.all_cons, Condition.eval]
  simp

/-- The tokens of texts that are conditions, and the conditions. -/
theorem exists_readings {xs : List α} (h : ∀ x ∈ xs, Means quotes (text x) (meaning x)) :
    ∃ (tokens : α → List Token) (condition : α → Condition), ∀ x ∈ xs,
      tokens? quotes (text x) = some (tokens x) ∧ read? (tokens x) = some (condition x)
        ∧ ∀ truth, (condition x).eval truth = meaning x truth := by
  refine ⟨fun x => (tokens? quotes (text x)).getD [],
    fun x => (Condition.ofText? quotes (text x)).getD (.any []), fun x hx => ?_⟩
  obtain ⟨c, hc, heval⟩ := h x hx
  obtain ⟨ts, hts, hread⟩ := Option.bind_eq_some_iff.mp hc
  simpa only [hc, hts, Option.getD_some, true_and] using ⟨hread, heval⟩

theorem means_conjunction {xs : List α} (hne : xs ≠ [])
    (h : ∀ x ∈ xs, Means quotes (text x) (meaning x))
    (hundivided : ∀ x ∈ xs, Undivided quotes (text x)) :
    Means quotes (String.intercalate " AND " (xs.map text))
      fun truth => xs.all (meaning · truth) := by
  obtain ⟨tokens, condition, hreadings⟩ := exists_readings h
  obtain ⟨cs, hcs, heval⟩ := read?_conjunction hne fun x hx =>
    ⟨(hreadings x hx).2.1, hundivided x hx (tokens x) (hreadings x hx).1⟩
  have htokens := tokens?_intercalate (tokens?_between (tokens?_keyword .and quotes))
    fun x hx => (hreadings x hx).1
  refine ⟨.any [.all cs], Option.bind_eq_some_iff.mpr ⟨_, htokens, hcs.read⟩, fun truth => ?_⟩
  rw [Condition.eval_any, List.any_cons, List.any_nil, Bool.or_false, Condition.eval_all,
    heval truth, Bool.eq_iff_iff, List.all_eq_true, List.all_eq_true]
  exact forall₂_congr fun x hx => by rw [(hreadings x hx).2.2 truth]

theorem means_disjunction {xs : List α} (hne : xs ≠ [])
    (h : ∀ x ∈ xs, Means quotes (text x) (meaning x)) :
    Means quotes (String.intercalate " OR " (xs.map fun x => "(" ++ text x ++ ")"))
      fun truth => xs.any (meaning · truth) := by
  obtain ⟨tokens, condition, hreadings⟩ := exists_readings h
  have hread := read?_disjunction hne fun x hx => (hreadings x hx).2.1
  have htokens := tokens?_intercalate (tokens?_between (tokens?_keyword .or quotes))
    fun x hx => tokens?_parenthesized (hreadings x hx).1
  refine ⟨_, Option.bind_eq_some_iff.mpr ⟨_, htokens, hread⟩, fun truth => ?_⟩
  rw [Condition.eval_any, List.any_map, Bool.eq_iff_iff, List.any_eq_true, List.any_eq_true]
  refine exists_congr fun x => and_congr_right fun hx => ?_
  rw [Function.comp_apply, Condition.eval_all, List.all_cons, List.all_nil, Bool.and_true,
    (hreadings x hx).2.2 truth]

end

end BoundSql.Clause
