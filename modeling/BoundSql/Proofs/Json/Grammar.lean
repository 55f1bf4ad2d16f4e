import BoundSql.Proofs.Json.Number
import BoundSql.Proofs.Json.Text
import BoundSql.Json.Reader
import Mathlib.Data.List.DropRight

/-!
# The grammar of JSON texts

`Json.Spelled j cs rest` says that the text `cs` begins with the document `j`, behind blanks, and
goes on with `rest`.  It follows the structure of the document.  Blanks may stand in front of every
token, strings may be escaped in any way, and the members of an object keep their order, those
that are there twice included.

`Json.depth` is the nesting of arrays and objects.  `Json.induction` is the induction over a
document that reaches the items of its arrays and the values of its objects.
-/

namespace BoundSql.Json

/-! ## Tokens -/

/-- The next character behind blanks, and what stands behind it. -/
def Next (c : Char) (cs rest : List Char) : Prop := cs.dropWhile isSpace = c :: rest

/-- What stands in front of an item or a member: a comma, unless it is the first one. -/
def Separated : Bool → List Char → List Char → Prop
  | true, cs, rest => rest = cs
  | false, cs, rest => Next ',' cs rest

theorem next_cons {c : Char} (hc : isSpace c = false) (rest : List Char) :
    Next c (c :: rest) rest := by
  rw [Next, List.dropWhile_cons_of_neg (by simp [hc])]

theorem Next.length_lt {c : Char} {cs rest : List Char} (h : Next c cs rest) :
    rest.length < cs.length := by
  have hle := (List.dropWhile_sublist isSpace (l := cs)).length_le
  rw [h, List.length_cons] at hle
  exact hle

theorem Separated.length_le {first : Bool} {cs rest : List Char} (h : Separated first cs rest) :
    rest.length ≤ cs.length := by
  cases first with
  | true => exact Nat.le_of_eq (congrArg List.length h)
  | false => exact Nat.le_of_lt (Next.length_lt h)

/-! ## Documents -/

/-- A text begins with a document. -/
def Spelled : Json → List Char → List Char → Prop
  | .null, cs, rest => cs.dropWhile isSpace = "null".toList ++ rest
  | .bool true, cs, rest => cs.dropWhile isSpace = "true".toList ++ rest
  | .bool false, cs, rest => cs.dropWhile isSpace = "false".toList ++ rest
  | .integer n, cs, rest => readNumber (cs.dropWhile isSpace) = .ok (.integer n, rest)
  | .float x, cs, rest => readNumber (cs.dropWhile isSpace) = .ok (.float x, rest)
  | .string s, cs, rest => ∃ cs', Next '"' cs cs' ∧ StringText cs' s.toList rest
  | .array js, cs, rest => ∃ cs', Next '[' cs cs' ∧ items js true cs' rest
  | .object ms, cs, rest => ∃ cs', Next '\x7b' cs cs' ∧ members ms true cs' rest
where
  /-- A text begins with the items of an array and its closing bracket. -/
  items : List Json → Bool → List Char → List Char → Prop
    | [], _, cs, rest => Next ']' cs rest
    | j :: js, first, cs, rest => ∃ cs₁ cs₂,
        Separated first cs cs₁ ∧ j.Spelled cs₁ cs₂ ∧ items js false cs₂ rest
  /-- A text begins with the members of an object and its closing brace. -/
  members : List (String × Json) → Bool → List Char → List Char → Prop
    | [], _, cs, rest => Next '\x7d' cs rest
    | (name, j) :: ms, first, cs, rest => ∃ cs₁ cs₂ cs₃ cs₄ cs₅,
        Separated first cs cs₁ ∧ Next '"' cs₁ cs₂ ∧ StringText cs₂ name.toList cs₃
          ∧ Next ':' cs₃ cs₄ ∧ j.Spelled cs₄ cs₅ ∧ members ms false cs₅ rest

/-- A whole text is a document. -/
def SpelledBy (j : Json) (s : String) : Prop :=
  ∃ rest, j.Spelled s.toList rest ∧ rest.all isSpace = true

/-- The nesting of arrays and objects. -/
def depth : Json → Nat
  | .array js => items js + 1
  | .object ms => members ms + 1
  | _ => 0
where
  /-- The deepest nesting inside of an item. -/
  items : List Json → Nat
    | [] => 0
    | j :: js => max j.depth (items js)
  /-- The deepest nesting inside of a member. -/
  members : List (String × Json) → Nat
    | [] => 0
    | (_, j) :: ms => max j.depth (members ms)

theorem depth_items_le {js : List Json} {d : Nat} : depth.items js ≤ d ↔ ∀ j ∈ js, j.depth ≤ d := by
  induction js with
  | nil => simp [depth.items]
  | cons j js ih => rw [depth.items, Nat.max_le, ih, List.forall_mem_cons]

theorem depth_members_le {ms : List (String × Json)} {d : Nat} :
    depth.members ms ≤ d ↔ ∀ m ∈ ms, m.2.depth ≤ d := by
  induction ms with
  | nil => simp [depth.members]
  | cons m ms ih => rw [depth.members, Nat.max_le, ih, List.forall_mem_cons]

/-- Induction over a document. -/
theorem induction {motive : Json → Prop} (null : motive .null) (bool : ∀ b, motive (.bool b))
    (integer : ∀ n, motive (.integer n)) (float : ∀ x, motive (.float x))
    (string : ∀ s, motive (.string s))
    (array : ∀ js : List Json, (∀ j ∈ js, motive j) → motive (.array js))
    (object : ∀ ms : List (String × Json), (∀ m ∈ ms, motive m.2) → motive (.object ms)) :
    ∀ j, motive j
  | .null => null
  | .bool b => bool b
  | .integer n => integer n
  | .float x => float x
  | .string s => string s
  | .array js => array js fun j hj =>
      have := List.sizeOf_lt_of_mem hj
      induction null bool integer float string array object j
  | .object ms => object ms fun (name, j) hm =>
      have := List.sizeOf_lt_of_mem hm
      induction null bool integer float string array object j
termination_by j => sizeOf j
decreasing_by
  · rw [Json.array.sizeOf_spec]
    omega
  · rw [Prod.mk.sizeOf_spec] at this
    rw [Json.object.sizeOf_spec]
    omega

/-! ## The characters of a document -/

/-- Blanks in front of a document do not matter. -/
theorem spelled_dropWhile {j : Json} {cs rest : List Char} :
    j.Spelled (cs.dropWhile isSpace) rest ↔ j.Spelled cs rest := by
  cases j with
  | bool b => cases b <;> simp only [Spelled, List.dropWhile_idempotent]
  | _ => simp only [Spelled, Next, List.dropWhile_idempotent]

/-- A document takes at least one character. -/
theorem Spelled.length_lt {j : Json} : ∀ {cs rest : List Char}, j.Spelled cs rest →
    rest.length < cs.length := by
  have hdrop : ∀ cs : List Char, (cs.dropWhile isSpace).length ≤ cs.length := fun cs =>
    (List.dropWhile_sublist isSpace).length_le
  induction j using Json.induction with
  | null =>
    intro cs rest h
    exact Nat.lt_of_le_of_lt (by simp; omega) (Next.length_lt h)
  | bool b =>
    intro cs rest h
    cases b with
    | true => exact Nat.lt_of_le_of_lt (by simp; omega) (Next.length_lt h)
    | false => exact Nat.lt_of_le_of_lt (by simp; omega) (Next.length_lt h)
  | integer n => exact fun h => Nat.lt_of_lt_of_le (length_lt_of_readNumber h) (hdrop _)
  | float x => exact fun h => Nat.lt_of_lt_of_le (length_lt_of_readNumber h) (hdrop _)
  | string s =>
    rintro cs rest ⟨cs', hnext, htext⟩
    exact Nat.lt_trans htext.length_lt hnext.length_lt
  | array js ih =>
    have hitems : ∀ {first cs rest}, Spelled.items js first cs rest → rest.length < cs.length := by
      induction js with
      | nil => exact fun h => Next.length_lt h
      | cons j js ih' =>
        rintro first cs rest ⟨cs₁, cs₂, hsep, hj, hjs⟩
        have hj' := ih j List.mem_cons_self hj
        have hjs' := ih' (fun j hj => @ih j (List.mem_cons_of_mem _ hj)) hjs
        have hsep' := hsep.length_le
        omega
    rintro cs rest ⟨cs', hnext, h⟩
    exact Nat.lt_trans (hitems h) hnext.length_lt
  | object ms ih =>
    have hmembers : ∀ {first cs rest}, Spelled.members ms first cs rest →
        rest.length < cs.length := by
      induction ms with
      | nil => exact fun h => Next.length_lt h
      | cons m ms ih' =>
        rintro first cs rest ⟨cs₁, cs₂, cs₃, cs₄, cs₅, hsep, hquote, hname, hcolon, hj, hms⟩
        have hj' := ih m List.mem_cons_self hj
        have hms' := ih' (fun m hm => @ih m (List.mem_cons_of_mem _ hm)) hms
        have hsep' := hsep.length_le
        have hquote' := hquote.length_lt
        have hname' := hname.length_lt
        have hcolon' := hcolon.length_lt
        omega
    rintro cs rest ⟨cs', hnext, h⟩
    exact Nat.lt_trans (hmembers h) hnext.length_lt

end BoundSql.Json
