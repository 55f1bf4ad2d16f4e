import BoundSql.Proofs.Clause.Token
import BoundSql.Proofs.Refusal

/-!
# Pieces of a clause

A clause is cut at some of its tokens, which are never parentheses, and only at those that
stand outside of all parentheses (`Clause.cut`).

A clause that is balanced and is not cut stands in one piece (`Clause.Whole`), and so does
whatever stands in parentheses.  When such clauses are put together with separators between
them, cutting gives them back (`Clause.cut_intercalate`).
-/

namespace BoundSql.Clause

/-! ## Parentheses -/

/-- The depth behind a token, unless it closes what is not open. -/
def Token.deepen (d : Nat) : Token → Option Nat
  | .opening => some (d + 1)
  | .closing => match d with
      | 0 => none
      | e + 1 => some e
  | _ => some d

/-- The depth behind tokens. -/
def depth? : Nat → List Token → Option Nat
  | d, [] => some d
  | d, t :: ts => (t.deepen d).bind fun e => depth? e ts

/-- Every parenthesis has its counterpart. -/
def Balanced (ts : List Token) : Prop := depth? 0 ts = some 0

instance (ts : List Token) : Decidable (Balanced ts) :=
  inferInstanceAs (Decidable (depth? 0 ts = some 0))

/-- Tokens between parentheses. -/
def enclose (ts : List Token) : List Token := .opening :: (ts ++ [.closing])

/-- What stands between the parentheses, if one pair encloses everything. -/
def enclosed? : List Token → Option (List Token)
  | .opening :: ts =>
      if ts.getLast? = some .closing ∧ Balanced ts.dropLast then some ts.dropLast else none
  | _ => none

section

variable {d e : Nat} {t : Token} {ts us : List Token}

theorem depth?_append : depth? d (ts ++ us) = (depth? d ts).bind fun e => depth? e us := by
  induction ts generalizing d with
  | nil => rfl
  | cons t ts ih =>
    rw [List.cons_append, depth?, depth?, Option.bind_assoc]
    exact congrArg _ (funext fun e => ih)

theorem Balanced.append (hts : Balanced ts) (hus : Balanced us) : Balanced (ts ++ us) := by
  rw [Balanced, depth?_append, hts]
  exact hus

theorem Token.deepen_add (h : t.deepen d = some e) (n : Nat) : t.deepen (d + n) = some (e + n) := by
  cases t with
  | opening =>
    cases h
    exact congrArg some (Nat.add_right_comm d n 1)
  | closing =>
    cases d with
    | zero => cases h
    | succ d =>
      cases h
      rw [Nat.add_right_comm]
      rfl
  | word s => cases h; rfl
  | quoted quote s => cases h; rfl
  | mark c => cases h; rfl

/-- Tokens deepen by as much at any depth. -/
theorem depth?_add (h : depth? d ts = some e) (n : Nat) : depth? (d + n) ts = some (e + n) := by
  induction ts generalizing d with
  | nil =>
    cases h
    rfl
  | cons t ts ih =>
    obtain ⟨d', hd', h⟩ := Option.bind_eq_some_iff.mp h
    rw [depth?, Token.deepen_add hd' n]
    exact ih h

theorem Balanced.enclose (h : Balanced ts) : Balanced (enclose ts) := by
  have hinside : depth? 1 ts = some 1 := by simpa using depth?_add h 1
  show depth? 1 (ts ++ [.closing]) = some 0
  rw [depth?_append, hinside]
  rfl

theorem enclosed?_enclose (h : Balanced ts) : enclosed? (enclose ts) = some ts := by
  rw [enclose, enclosed?, List.getLast?_concat, List.dropLast_concat, if_pos ⟨rfl, h⟩]

theorem length_enclosed? (h : enclosed? ts = some us) : us.length < ts.length := by
  cases ts with
  | nil => cases h
  | cons t ts =>
    cases t with
    | opening =>
      rw [enclosed?] at h
      split at h
      · cases h
        rw [List.length_dropLast, List.length_cons]
        omega
      · cases h
    | closing => cases h
    | word s => cases h
    | quoted quote s => cases h
    | mark c => cases h

end

/-! ## Cutting -/

/-- What a clause is cut at.  It is no parenthesis. -/
structure Separator where
  cuts : Token → Bool
  deepen_eq {t : Token} (d : Nat) : cuts t → t.deepen d = some d

/-- The pieces of a clause between separators that stand outside of all parentheses.  So
many are open in front of it. -/
def cut (sep : Separator) : Nat → List Token → List (List Token)
  | _, [] => [[]]
  | d, t :: ts =>
      if d = 0 ∧ sep.cuts t then [] :: cut sep 0 ts
      else (cut sep ((t.deepen d).getD 0) ts).modifyHead (t :: ·)

section

variable {sep : Separator} {d e : Nat} {t : Token} {ts us p : List Token}

theorem cut_cons_of_cuts (ht : sep.cuts t) : cut sep 0 (t :: ts) = [] :: cut sep 0 ts :=
  if_pos ⟨rfl, ht⟩

theorem cut_cons (ht : ¬ (d = 0 ∧ sep.cuts t)) (he : t.deepen d = some e) :
    cut sep d (t :: ts) = (cut sep e ts).modifyHead (t :: ·) := by
  rw [cut, if_neg ht, he, Option.getD_some]

theorem cut_ne_nil : cut sep d ts ≠ [] := by
  induction ts generalizing d with
  | nil => exact List.cons_ne_nil _ _
  | cons t ts ih =>
    rw [cut]
    split
    · exact List.cons_ne_nil _ _
    · rw [ne_eq, List.modifyHead_eq_nil_iff]
      exact ih

theorem length_le_of_mem_cut (h : p ∈ cut sep d ts) : p.length ≤ ts.length := by
  induction ts generalizing d p with
  | nil =>
    cases List.mem_singleton.mp h
    exact Nat.le_refl 0
  | cons t ts ih =>
    rw [cut] at h
    split at h
    · rcases List.mem_cons.mp h with rfl | h
      · exact Nat.zero_le _
      · exact Nat.le_succ_of_le (ih h)
    · cases hcut : cut sep ((t.deepen d).getD 0) ts with
      | nil => exact absurd hcut cut_ne_nil
      | cons q qs =>
        rw [hcut] at h
        rcases List.mem_cons.mp h with rfl | h
        · exact Nat.succ_le_succ (ih (hcut ▸ List.mem_cons_self))
        · exact Nat.le_succ_of_le (ih (hcut ▸ List.mem_cons_of_mem q h))

/-- A separator at the top level is one that the clause is cut at. -/
theorem cut_append_cons (ht : sep.cuts t) (h : depth? d ts = some 0) :
    cut sep d (ts ++ t :: us) = cut sep d ts ++ cut sep 0 us := by
  induction ts generalizing d with
  | nil =>
    cases h
    exact cut_cons_of_cuts ht
  | cons s ts ih =>
    obtain ⟨e, he, h⟩ := Option.bind_eq_some_iff.mp h
    by_cases hs : d = 0 ∧ sep.cuts s
    -- a separator at the top level begins a piece, and leaves the depth as it is
    · obtain ⟨rfl, hs⟩ := hs
      cases (sep.deepen_eq 0 hs).symm.trans he
      rw [List.cons_append, cut_cons_of_cuts hs, cut_cons_of_cuts hs, ih h, List.cons_append]
    · rw [List.cons_append, cut_cons hs he, cut_cons hs he, ih h]
      cases hcut : cut sep e ts with
      | nil => exact absurd hcut cut_ne_nil
      | cons q qs => rfl

/-- A clause that is not cut is part of the first piece. -/
theorem cut_append (h : depth? d ts = some 0) (hwhole : cut sep d ts = [ts]) :
    cut sep d (ts ++ us) = (cut sep 0 us).modifyHead (ts ++ ·) := by
  induction ts generalizing d with
  | nil =>
    cases h
    exact List.modifyHead_id.symm ▸ rfl
  | cons s ts ih =>
    obtain ⟨e, he, h⟩ := Option.bind_eq_some_iff.mp h
    by_cases hs : d = 0 ∧ sep.cuts s
    · obtain ⟨rfl, hs⟩ := hs
      rw [cut_cons_of_cuts hs] at hwhole
      cases hwhole
    · have htail : cut sep e ts = [ts] := by
        rw [cut_cons hs he] at hwhole
        cases hcut : cut sep e ts with
        | nil => exact absurd hcut cut_ne_nil
        | cons q qs =>
          rw [hcut] at hwhole
          simpa using hwhole
      rw [List.cons_append, cut_cons hs he, ih h htail, List.modifyHead_modifyHead]
      rfl

/-- Nothing is cut inside of parentheses. -/
theorem cut_inside (h : depth? d ts = some 0) :
    cut sep (d + 1) (ts ++ [.closing]) = [ts ++ [.closing]] := by
  induction ts generalizing d with
  | nil =>
    cases h
    rfl
  | cons t ts ih =>
    obtain ⟨e, he, h⟩ := Option.bind_eq_some_iff.mp h
    have hdeepen : t.deepen (d + 1) = some (e + 1) := Token.deepen_add he 1
    rw [List.cons_append, cut_cons (fun h => Nat.succ_ne_zero d h.1) hdeepen, ih h]
    rfl

/-- Clauses that stand in one piece. -/
structure Whole (sep : Separator) (ts : List Token) : Prop where
  balanced : Balanced ts
  cut_eq : cut sep 0 ts = [ts]

theorem whole_nil (sep : Separator) : Whole sep [] := ⟨rfl, rfl⟩

theorem whole_singleton (hcuts : ¬ sep.cuts t) (ht : t.deepen 0 = some 0) : Whole sep [t] where
  balanced := by
    show (t.deepen 0).bind _ = some 0
    rw [ht]
    rfl
  cut_eq := cut_cons (fun h => hcuts h.2) ht

theorem whole_enclose (h : Balanced ts) : Whole sep (enclose ts) where
  balanced := h.enclose
  cut_eq := by
    have hopening : ¬ sep.cuts .opening := fun hcuts => nomatch sep.deepen_eq 0 hcuts
    rw [enclose, cut_cons (fun h => hopening h.2) rfl, cut_inside h]
    rfl

theorem Whole.append (hts : Whole sep ts) (hus : Whole sep us) : Whole sep (ts ++ us) where
  balanced := hts.balanced.append hus.balanced
  cut_eq := by
    rw [cut_append hts.balanced hts.cut_eq, hus.cut_eq]
    rfl

variable {α : Type} {tokens : α → List Token}

theorem whole_intercalate (hus : Whole sep us) : ∀ {xs : List α},
    (∀ x ∈ xs, Whole sep (tokens x)) → Whole sep (us.intercalate (xs.map tokens))
  | [], _ => whole_nil sep
  | [x], h => by simpa using h x List.mem_cons_self
  | x :: y :: xs, h => by
    rw [List.map_cons, List.map_cons, List.intercalate_cons_cons]
    exact ((h x List.mem_cons_self).append hus).append
      (whole_intercalate hus fun z hz => h z (List.mem_cons_of_mem x hz))

/-- Clauses in one piece are the pieces of what they are put together to. -/
theorem cut_intercalate (ht : sep.cuts t) : ∀ {xs : List α}, xs ≠ [] →
    (∀ x ∈ xs, Whole sep (tokens x)) →
    Balanced ([t].intercalate (xs.map tokens))
      ∧ cut sep 0 ([t].intercalate (xs.map tokens)) = xs.map tokens
  | [], hne, _ => absurd rfl hne
  | [x], _, h => by
    have hx : Whole sep (tokens x) := h x List.mem_cons_self
    simpa using ⟨hx.balanced, hx.cut_eq⟩
  | x :: y :: xs, _, h => by
    have hx : Whole sep (tokens x) := h x List.mem_cons_self
    obtain ⟨hbalanced, hcut⟩ := cut_intercalate ht (List.cons_ne_nil y xs)
      fun z hz => h z (List.mem_cons_of_mem x hz)
    -- the separator in front does not change the depth of what follows
    have hrest : Balanced (t :: [t].intercalate ((y :: xs).map tokens)) := by
      show (t.deepen 0).bind _ = some 0
      rw [sep.deepen_eq 0 ht]
      exact hbalanced
    rw [List.map_cons, List.map_cons, List.intercalate_cons_cons, List.append_assoc,
      ← List.map_cons, List.singleton_append]
    refine ⟨hx.balanced.append hrest, ?_⟩
    rw [cut_append_cons ht hx.balanced, hx.cut_eq, hcut]
    rfl

end

/-! ## Reading piece by piece -/

theorem mapM_singleton {α β : Type} (f : α → Option β) (a : α) :
    [a].mapM f = (f a).map fun b => [b] := by
  rw [List.mapM_cons]
  cases f a <;> rfl

theorem mapM_congr {α β : Type} {f g : α → Option β} {as : List α} (h : ∀ a ∈ as, f a = g a) :
    as.mapM f = as.mapM g := by
  induction as with
  | nil => rfl
  | cons a as ih =>
    rw [List.mapM_cons, List.mapM_cons, h a List.mem_cons_self,
      ih fun b hb => h b (List.mem_cons_of_mem a hb)]

end BoundSql.Clause
