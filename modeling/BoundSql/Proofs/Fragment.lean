import BoundSql.Fragment

/-!
# Texts of fragments

The SQL of a fragment writes a placeholder for each bound value.  `Fragment.written`
writes any text of the value there instead, and goes through the operations that put
fragments together.  With literals in place of placeholders it says what a statement
means, `Fragment.literal`.

A fragment is *plain* if no placeholder stands in its texts.  `Fragment.fill_sql` is
what placeholders are for: filling those of a plain fragment from left to right with
the literals of its parameters gives the fragment with its literals in place.  The
literals may have question marks in them, since what is filled in is not looked at
again.
-/

namespace BoundSql

/-! ## Question marks -/

namespace Text

/-- There is no question mark in a text. -/
def Unmarked (s : String) : Prop := '?' ∉ s.toList

instance (s : String) : Decidable (Unmarked s) := inferInstanceAs (Decidable (¬ '?' ∈ s.toList))

@[simp] theorem unmarked_append {s t : String} : Unmarked (s ++ t) ↔ Unmarked s ∧ Unmarked t := by
  rw [Unmarked, String.toList_append, List.mem_append, not_or]
  rfl

theorem unmarked_intercalate {separator : String} (hsep : Unmarked separator) :
    ∀ {ss : List String}, (∀ s ∈ ss, Unmarked s) → Unmarked (String.intercalate separator ss)
  | [], _ => by
      rw [String.intercalate_nil]
      decide
  | [s], h => by
      rw [String.intercalate_singleton]
      exact h s (List.mem_singleton_self s)
  | s :: t :: ss, h => by
      rw [String.intercalate_cons_cons, unmarked_append, unmarked_append]
      exact ⟨⟨h s List.mem_cons_self, hsep⟩,
        unmarked_intercalate hsep fun u hu => h u (List.mem_cons_of_mem s hu)⟩

theorem unmarked_comma : Unmarked ", " := by decide

/-- A number is written in digits. -/
theorem unmarked_toString (n : Nat) : Unmarked (toString n) := by
  intro h
  have hdigits : '?' ∈ Nat.toDigits 10 n := Nat.toList_repr ▸ h
  have hdigit : '?'.isDigit = true := Nat.isDigit_of_mem_toDigits (by decide) (by decide) hdigits
  cases hdigit

end Text

namespace Fragment

/-! ## Texts -/

/-- The text of a fragment, with a text for each bound value. -/
def written (write : Value → String) (f : Fragment) : String :=
  String.join (f.map fun
    | .text s => s
    | .bound v => write v)

/-- The text of a fragment, with its values as literals. -/
def literal (f : Fragment) : String := f.written Value.inline

theorem sql_eq_written (f : Fragment) : f.sql = f.written fun _ => Value.placeholder := by
  have hpiece : ∀ p : Piece, p.sql = match p with
      | .text s => s
      | .bound _ => Value.placeholder := by
    intro p
    cases p <;> rfl
  rw [sql, written, funext hpiece]

section

variable (write : Value → String)

theorem written_nil : written write [] = "" := String.join_nil

theorem written_text (s : String) : (text s).written write = s := by
  rw [written, text, List.map_singleton, String.join_cons, String.join_nil, String.append_empty]

theorem written_bound (v : Value) : (bound v).written write = write v := by
  rw [written, bound, List.map_singleton, String.join_cons, String.join_nil, String.append_empty]

theorem written_append (f g : Fragment) :
    (f ++ g).written write = f.written write ++ g.written write := by
  rw [written, List.map_append, String.join_append]
  rfl

theorem joined_cons_cons (separator : String) (f g : Fragment) (fs : List Fragment) :
    joined separator (f :: g :: fs) = f ++ text separator ++ joined separator (g :: fs) := by
  rw [List.append_assoc]
  rfl

theorem joined_singleton (separator : String) (f : Fragment) : joined separator [f] = f := by
  rw [joined, List.intersperse_singleton, List.flatten_singleton]

theorem written_joined (separator : String) :
    ∀ fs : List Fragment,
      (joined separator fs).written write = String.intercalate separator (fs.map (written write))
  | [] => by
      rw [List.map_nil, String.intercalate_nil]
      exact written_nil write
  | [f] => by rw [joined_singleton, List.map_singleton, String.intercalate_singleton]
  | f :: g :: fs => by
      rw [joined_cons_cons, written_append, written_append, written_text,
        written_joined separator (g :: fs)]
      simp only [List.map_cons, String.intercalate_cons_cons]

theorem written_parenthesized (f : Fragment) :
    f.parenthesized.written write = "(" ++ f.written write ++ ")" := by
  rw [parenthesized, written_append, written_append, written_text, written_text]

theorem written_tuple (vs : List Value) :
    (tuple vs).written write = "(" ++ String.intercalate ", " (vs.map write) ++ ")" := by
  rw [tuple, written_parenthesized, written_joined, List.map_map]
  have hbound : written write ∘ bound = write := funext (written_bound write)
  rw [hbound]

end

/-! ## Parameters -/

theorem params_text (s : String) : (text s).params = [] := rfl

theorem params_bound (v : Value) : (bound v).params = [v] := rfl

theorem params_append (f g : Fragment) : (f ++ g).params = f.params ++ g.params :=
  List.filterMap_append

theorem params_joined (separator : String) :
    ∀ fs : List Fragment, (joined separator fs).params = fs.flatMap params
  | [] => rfl
  | [f] => by rw [joined_singleton, List.flatMap_singleton]
  | f :: g :: fs => by
      rw [joined_cons_cons, params_append, params_append, params_text, List.append_nil,
        params_joined separator (g :: fs)]
      simp only [List.flatMap_cons]

theorem params_parenthesized (f : Fragment) : f.parenthesized.params = f.params := by
  rw [parenthesized, params_append, params_append, params_text, params_text, List.nil_append,
    List.append_nil]

theorem params_tuple (vs : List Value) : (tuple vs).params = vs := by
  rw [tuple, params_parenthesized, params_joined, List.flatMap_map]
  exact List.flatMap_singleton' vs

/-! ## Filling placeholders -/

/-- Puts texts in place of the question marks, from left to right.  What is put in is
not looked at again. -/
def fill : List Char → List String → List Char
  | [], _ => []
  | c :: cs, [] => c :: fill cs []
  | c :: cs, t :: ts => if c = '?' then t.toList ++ fill cs ts else c :: fill cs (t :: ts)

/-- No placeholder stands in the texts of a fragment. -/
def Plain (f : Fragment) : Prop := ∀ s, Piece.text s ∈ f → Text.Unmarked s

theorem plain_append {f g : Fragment} : Plain (f ++ g) ↔ Plain f ∧ Plain g := by
  constructor
  · intro h
    exact ⟨fun s hs => h s (List.mem_append_left _ hs),
      fun s hs => h s (List.mem_append_right _ hs)⟩
  · rintro ⟨hf, hg⟩ s hs
    cases List.mem_append.mp hs with
    | inl hs => exact hf s hs
    | inr hs => exact hg s hs

theorem plain_text {s : String} : Plain (text s) ↔ Text.Unmarked s := by
  constructor
  · intro h
    exact h s (List.mem_singleton_self _)
  · intro h t ht
    cases List.mem_singleton.mp ht
    exact h

theorem plain_bound (v : Value) : Plain (bound v) := by
  intro s hs
  cases List.mem_singleton.mp hs

theorem plain_joined {separator : String} (hsep : Text.Unmarked separator) :
    ∀ {fs : List Fragment}, (∀ f ∈ fs, Plain f) → Plain (joined separator fs)
  | [], _ => fun s hs => absurd hs List.not_mem_nil
  | [f], h => by
      rw [joined_singleton]
      exact h f (List.mem_singleton_self f)
  | f :: g :: fs, h => by
      rw [joined_cons_cons]
      have htail : Plain (joined separator (g :: fs)) :=
        plain_joined hsep fun e he => h e (List.mem_cons_of_mem f he)
      exact plain_append.mpr ⟨plain_append.mpr ⟨h f List.mem_cons_self, plain_text.mpr hsep⟩, htail⟩

theorem plain_parenthesized {f : Fragment} (h : Plain f) : Plain f.parenthesized :=
  plain_append.mpr ⟨plain_append.mpr ⟨plain_text.mpr (by decide), h⟩, plain_text.mpr (by decide)⟩

theorem plain_tuple (vs : List Value) : Plain (tuple vs) := by
  refine plain_parenthesized (plain_joined (by decide) fun f hf => ?_)
  obtain ⟨v, _, rfl⟩ := List.mem_map.mp hf
  exact plain_bound v

theorem fill_cons_of_ne {c : Char} (hc : c ≠ '?') (cs : List Char) (ts : List String) :
    fill (c :: cs) ts = c :: fill cs ts := by
  cases ts with
  | nil => rfl
  | cons t ts => rw [fill, if_neg hc]

/-- Text without question marks stays as it is. -/
theorem fill_append {s : List Char} (h : '?' ∉ s) (cs : List Char) (ts : List String) :
    fill (s ++ cs) ts = s ++ fill cs ts := by
  induction s with
  | nil => rfl
  | cons c s ih =>
      have hc : c ≠ '?' := fun he => h (he ▸ List.mem_cons_self)
      have hs : '?' ∉ s := fun hm => h (List.mem_cons_of_mem c hm)
      rw [List.cons_append, fill_cons_of_ne hc, ih hs, List.cons_append]

theorem toList_placeholder : Value.placeholder.toList = ['?'] := by decide

theorem sql_cons (p : Piece) (f : Fragment) : Fragment.sql (p :: f) = p.sql ++ Fragment.sql f := by
  rw [sql, List.map_cons, String.join_cons]
  rfl

/-- Filling the placeholders of a plain fragment with the literals of its parameters
writes each value where it belongs. -/
theorem fill_sql : ∀ {f : Fragment}, Plain f →
    fill f.sql.toList (f.params.map Value.inline) = f.literal.toList
  | [], _ => rfl
  | .text s :: f, h => by
      have hs : Text.Unmarked s := h s List.mem_cons_self
      have hf : Plain f := fun t ht => h t (List.mem_cons_of_mem _ ht)
      have hlit : literal (.text s :: f) = s ++ literal f := written_append Value.inline (text s) f
      rw [sql_cons, String.toList_append, hlit, String.toList_append, ← fill_sql hf]
      exact fill_append hs _ _
  | .bound v :: f, h => by
      have hf : Plain f := fun t ht => h t (List.mem_cons_of_mem _ ht)
      have hlit : literal (.bound v :: f) = v.inline ++ literal f :=
        written_append Value.inline (bound v) f
      rw [sql_cons, String.toList_append, hlit, String.toList_append, ← fill_sql hf, Piece.sql,
        toList_placeholder]
      rfl

/-- A plain fragment has one placeholder for each parameter. -/
theorem count_sql : ∀ {f : Fragment}, Plain f →
    f.sql.toList.count '?' = f.params.length
  | [], _ => rfl
  | .text s :: f, h => by
      have hs : Text.Unmarked s := h s List.mem_cons_self
      have hf : Plain f := fun t ht => h t (List.mem_cons_of_mem _ ht)
      rw [sql_cons, String.toList_append, List.count_append, count_sql hf]
      show s.toList.count '?' + _ = _
      rw [List.count_eq_zero.mpr hs, Nat.zero_add]
      rfl
  | .bound v :: f, h => by
      have hf : Plain f := fun t ht => h t (List.mem_cons_of_mem _ ht)
      rw [sql_cons, String.toList_append, List.count_append, count_sql hf, Piece.sql,
        toList_placeholder]
      exact Nat.add_comm 1 _

/-! ## Spelling -/

/-- What a fragment is a spelling of: a text that leaves places for values, the values
that belong there, and the parts of the text that are taken on trust. -/
structure Spells (f : Fragment) (spelled : (Value → String) → String) (values : List Value)
    (trusted : List String) : Prop where
  /-- Whatever is written for the values, it is written at their places. -/
  written_eq : ∀ write, f.written write = spelled write
  /-- The values are bound from left to right. -/
  params_eq : f.params = values
  /-- Question marks could only come from what is taken on trust. -/
  plain : (∀ s ∈ trusted, Text.Unmarked s) → Plain f

theorem spells_nil (trusted : List String) : Spells [] (fun _ => "") [] trusted where
  written_eq write := written_nil write
  params_eq := rfl
  plain _ _ hs := absurd hs List.not_mem_nil

theorem spells_text {s : String} {trusted : List String}
    (h : (∀ t ∈ trusted, Text.Unmarked t) → Text.Unmarked s) :
    Spells (text s) (fun _ => s) [] trusted where
  written_eq write := written_text write s
  params_eq := params_text s
  plain htrusted := plain_text.mpr (h htrusted)

theorem spells_bound (v : Value) : Spells (bound v) (fun write => write v) [v] [] where
  written_eq write := written_bound write v
  params_eq := params_bound v
  plain _ := plain_bound v

theorem spells_tuple (vs : List Value) :
    Spells (tuple vs) (fun write => "(" ++ String.intercalate ", " (vs.map write) ++ ")") vs []
    where
  written_eq write := written_tuple write vs
  params_eq := params_tuple vs
  plain _ := plain_tuple vs

section

variable {f g : Fragment} {spelled spelled' : (Value → String) → String}
  {values values' : List Value} {trusted trusted' : List String}

theorem Spells.append (hf : Spells f spelled values trusted)
    (hg : Spells g spelled' values' trusted') :
    Spells (f ++ g) (fun write => spelled write ++ spelled' write) (values ++ values')
      (trusted ++ trusted') where
  written_eq write := by rw [written_append, hf.written_eq, hg.written_eq]
  params_eq := by rw [params_append, hf.params_eq, hg.params_eq]
  plain htrusted := plain_append.mpr
    ⟨hf.plain fun s hs => htrusted s (List.mem_append_left _ hs),
      hg.plain fun s hs => htrusted s (List.mem_append_right _ hs)⟩

theorem Spells.parenthesized (h : Spells f spelled values trusted) :
    Spells f.parenthesized (fun write => "(" ++ spelled write ++ ")") values trusted where
  written_eq write := by rw [written_parenthesized, h.written_eq]
  params_eq := by rw [params_parenthesized, h.params_eq]
  plain htrusted := plain_parenthesized (h.plain htrusted)

/-- Statements have as many placeholders as parameters, and filling them in writes the
literal of each value at its place. -/
theorem Spells.filled (h : Spells f spelled values trusted)
    (htrusted : ∀ s ∈ trusted, Text.Unmarked s) :
    f.sql.toList.count '?' = values.length
      ∧ String.ofList (fill f.sql.toList (values.map Value.inline)) = spelled Value.inline := by
  have hplain := h.plain htrusted
  rw [← h.params_eq, ← h.written_eq, count_sql hplain, fill_sql hplain, String.ofList_toList]
  exact ⟨rfl, rfl⟩

end

theorem spells_joined {α : Type} {separator : String} (hsep : Text.Unmarked separator)
    (xs : List α) {f : α → Fragment} {spelled : α → (Value → String) → String}
    {values : α → List Value} {trusted : α → List String}
    (h : ∀ x ∈ xs, Spells (f x) (spelled x) (values x) (trusted x)) :
    Spells (joined separator (xs.map f))
      (fun write => String.intercalate separator (xs.map fun x => spelled x write))
      (xs.flatMap values) (xs.flatMap trusted) where
  written_eq write := by
    rw [written_joined, List.map_map]
    exact congrArg _ (List.map_congr_left fun x hx => (h x hx).written_eq write)
  params_eq := by
    rw [params_joined, List.flatMap_map, List.flatMap_def, List.flatMap_def,
      List.map_congr_left fun x hx => (h x hx).params_eq]
  plain htrusted := by
    refine plain_joined hsep fun e he => ?_
    obtain ⟨x, hx, rfl⟩ := List.mem_map.mp he
    exact (h x hx).plain fun s hs => htrusted s (List.mem_flatMap.mpr ⟨x, hx, hs⟩)

end Fragment

end BoundSql
