import BoundSql.Embedded.Token

/-!
# Tokens of a clause

To see how a clause is put together it is read as a list of tokens.  These are words,
parentheses, single marks, and whatever stands between two quotes of the same kind.  Blanks
separate words and are otherwise of no account.  Quotes may be left out of account as well
(`quotes = false`), and then they are marks like any others.

Tokens of texts that are put together are those of their parts, as long as no word runs
from one part into the next (`Clause.tokens?_append`).  A text is *plain* if it has neither
parentheses nor the words `AND` and `OR` among its tokens (`Clause.Plain`).
-/

namespace BoundSql.Clause

open Embedded.Lexeme (isWordChar isMoreBlank)

/-! ## Reading characters -/

/-- A part of a clause. -/
inductive Token where
  | word (s : String)
  | quoted (quote : Char) (s : String)
  | mark (c : Char)
  | opening
  | closing
deriving DecidableEq, Repr

/-- A token that has begun and may go on, with the characters read so far. -/
inductive Pending where
  | nothing
  | word (cs : List Char)
  | quoted (quote : Char) (cs : List Char)

/-- The quotes around texts and identifiers. -/
def isQuote (c : Char) : Bool := ['\'', '"', '\x60'].contains c

/-- What comes of a character that is no part of a word. -/
def readSingle (quotes : Bool) (c : Char) : List Token × Pending :=
  if isMoreBlank c then ([], .nothing)
  else if c = '(' then ([.opening], .nothing)
  else if c = ')' then ([.closing], .nothing)
  else if quotes && isQuote c then ([], .quoted c [])
  else ([.mark c], .nothing)

/-- The tokens that end at a character, and what is pending behind it. -/
def readChar (quotes : Bool) : Pending → Char → List Token × Pending
  | .nothing, c => if isWordChar c then ([], .word [c]) else readSingle quotes c
  | .word cs, c =>
      if isWordChar c then ([], .word (cs ++ [c]))
      else (.word (String.ofList cs) :: (readSingle quotes c).1, (readSingle quotes c).2)
  | .quoted quote cs, c =>
      if c = quote then ([.quoted quote (String.ofList cs)], .nothing)
      else ([], .quoted quote (cs ++ [c]))

/-- The tokens from a place on.  There are none if a quote is not closed. -/
def readFrom (quotes : Bool) : Pending → List Char → Option (List Token)
  | .nothing, [] => some []
  | .word cs, [] => some [.word (String.ofList cs)]
  | .quoted _ _, [] => none
  | pending, c :: cs =>
      (readFrom quotes (readChar quotes pending c).2 cs).map ((readChar quotes pending c).1 ++ ·)

/-- The tokens of a text. -/
def tokens? (quotes : Bool) (s : String) : Option (List Token) :=
  readFrom quotes .nothing s.toList

section

variable {quotes : Bool} {c : Char} {cs ds : List Char} {ts us : List Token} {pending : Pending}

theorem readFrom_cons : readFrom quotes pending (c :: cs)
    = (readFrom quotes (readChar quotes pending c).2 cs).map
        ((readChar quotes pending c).1 ++ ·) := by
  cases pending <;> rfl

/-- A character that is no part of a word ends what stands in front of it. -/
theorem readFrom_append (hc : isWordChar c = false)
    (hds : readFrom quotes .nothing (c :: ds) = some us)
    (h : readFrom quotes pending cs = some ts) :
    readFrom quotes pending (cs ++ c :: ds) = some (ts ++ us) := by
  induction cs generalizing pending ts with
  | nil =>
    cases pending with
    | nothing =>
      cases h
      exact hds
    | word read =>
      cases h
      rw [readFrom_cons, readChar, if_neg (by simp [hc])] at hds
      rw [List.nil_append, readFrom_cons, readChar, if_neg (by simp [hc])]
      obtain ⟨vs, hvs, rfl⟩ := Option.map_eq_some_iff.mp hds
      simp [hvs]
    -- a quote that is still open has no tokens
    | quoted quote read => cases h
  | cons d cs ih =>
    rw [readFrom_cons] at h
    obtain ⟨vs, hvs, rfl⟩ := Option.map_eq_some_iff.mp h
    rw [List.cons_append, readFrom_cons, ih hvs]
    simp

/-- Behind an opening quote everything is taken up to the closing one. -/
theorem readFrom_quoted {quote : Char} (h : quote ∉ cs) (read : List Char)
    (hds : readFrom quotes .nothing ds = some us) :
    readFrom quotes (.quoted quote read) (cs ++ quote :: ds)
      = some (.quoted quote (String.ofList (read ++ cs)) :: us) := by
  induction cs generalizing read with
  | nil =>
    rw [List.nil_append, readFrom_cons, readChar, if_pos rfl, hds, List.append_nil]
    rfl
  | cons d cs ih =>
    have hd : d ≠ quote := fun hd => h (hd ▸ List.mem_cons_self)
    have hcs : quote ∉ cs := fun hcs => h (List.mem_cons_of_mem d hcs)
    rw [List.cons_append, readFrom_cons, readChar, if_neg hd, ih hcs (read ++ [d]),
      List.append_assoc]
    rfl

end

/-! ## Texts that are put together -/

section

variable {quotes : Bool} {s t : String} {ts us : List Token}

/-- No word runs from a text into one that begins with another character. -/
theorem tokens?_append {c : Char} {cs : List Char} (ht : t.toList = c :: cs)
    (hc : isWordChar c = false) (hs : tokens? quotes s = some ts)
    (hus : tokens? quotes t = some us) :
    tokens? quotes (s ++ t) = some (ts ++ us) := by
  rw [tokens?, ht] at hus
  rw [tokens?, String.toList_append, ht]
  exact readFrom_append hc hus hs

theorem tokens?_blank (ht : tokens? quotes t = some us) : tokens? quotes (" " ++ t) = some us := by
  rw [tokens?, String.toList_append]
  show (readFrom quotes .nothing t.toList).map ([] ++ ·) = some us
  rw [show readFrom quotes .nothing t.toList = some us from ht]
  rfl

/-- A blank separates texts and is no token. -/
theorem tokens?_spaced (hs : tokens? quotes s = some ts) (ht : tokens? quotes t = some us) :
    tokens? quotes (s ++ " " ++ t) = some (ts ++ us) := by
  rw [String.append_assoc]
  exact tokens?_append (String.toList_append ..) (by decide) hs (tokens?_blank ht)

theorem tokens?_parenthesized (hs : tokens? quotes s = some ts) :
    tokens? quotes ("(" ++ s ++ ")") = some (.opening :: (ts ++ [.closing])) := by
  have hclosed : tokens? quotes (s ++ ")") = some (ts ++ [.closing]) :=
    tokens?_append (t := ")") rfl (by decide) hs (by cases quotes <;> rfl)
  rw [String.append_assoc, tokens?, String.toList_append]
  show (readFrom quotes .nothing (s ++ ")").toList).map ([.opening] ++ ·) = _
  rw [show readFrom quotes .nothing (s ++ ")").toList = some (ts ++ [.closing]) from hclosed]
  rfl

/-- A mark is a token by itself. -/
theorem tokens?_mark {c : Char} (hword : isWordChar c = false)
    (hsingle : readSingle quotes c = ([.mark c], .nothing)) (hs : tokens? quotes s = some ts) :
    tokens? quotes (String.singleton c ++ s) = some (.mark c :: ts) := by
  rw [tokens?, String.toList_append, String.toList_singleton, List.singleton_append, readFrom_cons,
    readChar, if_neg (by simp [hword]), hsingle, show readFrom quotes .nothing s.toList = _ from hs]
  rfl

theorem tokens?_comma (hs : tokens? quotes s = some ts) (ht : tokens? quotes t = some us) :
    tokens? quotes (s ++ ", " ++ t) = some (ts ++ .mark ',' :: us) := by
  have hcomma : tokens? quotes (String.singleton ',' ++ (" " ++ t)) = some (.mark ',' :: us) :=
    tokens?_mark (by decide) (by cases quotes <;> rfl) (tokens?_blank ht)
  rw [show ", " = String.singleton ',' ++ " " from rfl, String.append_assoc, String.append_assoc]
  exact tokens?_append (String.toList_append ..) (by decide) hs hcomma

/-- A token between blanks. -/
theorem tokens?_between {w : String} {token : Token} (hw : tokens? quotes w = some [token])
    (hs : tokens? quotes s = some ts) (ht : tokens? quotes t = some us) :
    tokens? quotes (s ++ (" " ++ w ++ " ") ++ t) = some (ts ++ token :: us) := by
  have happend := tokens?_spaced (tokens?_spaced hs hw) ht
  rw [List.append_assoc] at happend
  rw [← String.append_assoc, ← String.append_assoc]
  exact happend

/-- Texts with a separator between them, which is a token of its own. -/
theorem tokens?_intercalate {α : Type} {separator : String} {token : Token}
    (hseparator : ∀ {s t ts us}, tokens? quotes s = some ts → tokens? quotes t = some us →
      tokens? quotes (s ++ separator ++ t) = some (ts ++ token :: us))
    {text : α → String} {tokens : α → List Token} :
    ∀ {xs : List α}, (∀ x ∈ xs, tokens? quotes (text x) = some (tokens x)) →
      tokens? quotes (String.intercalate separator (xs.map text))
        = some ([token].intercalate (xs.map tokens))
  | [], _ => by cases quotes <;> rfl
  | [x], h => by
    rw [List.map_singleton, String.intercalate_singleton, h x List.mem_cons_self]
    simp
  | x :: y :: xs, h => by
    have ih := tokens?_intercalate hseparator fun z hz => h z (List.mem_cons_of_mem x hz)
    rw [List.map_cons, List.map_cons, String.intercalate_cons_cons, ← List.map_cons,
      hseparator (h x List.mem_cons_self) ih]
    simp

end

/-! ## Plain texts -/

/-- The words that connect conditions. -/
inductive Connective where
  | and
  | or
deriving DecidableEq, Repr

/-- The spelling of a connective. -/
def Connective.keyword : Connective → String
  | .and => "AND"
  | .or => "OR"

/-- The token is the connective, in any case. -/
def Token.connects (k : Connective) : Token → Bool
  | .word s => Text.sameLetters s k.keyword
  | _ => false

/-- The token is neither a parenthesis nor a connective. -/
def Token.isPlain (t : Token) : Bool :=
  t != .opening && t != .closing && !t.connects .and && !t.connects .or

/-- There are neither parentheses nor connectives in a text. -/
def Plain (quotes : Bool) (s : String) : Prop :=
  ∃ ts, tokens? quotes s = some ts ∧ ∀ t ∈ ts, t.isPlain

section

variable {quotes : Bool} {s t : String}

theorem Plain.comma (hs : Plain quotes s) (ht : Plain quotes t) :
    Plain quotes (s ++ ", " ++ t) := by
  obtain ⟨ts, hts, hplain⟩ := hs
  obtain ⟨us, hus, hplain'⟩ := ht
  refine ⟨ts ++ .mark ',' :: us, tokens?_comma hts hus, List.forall_mem_append.mpr ⟨hplain, ?_⟩⟩
  exact List.forall_mem_cons.mpr ⟨by decide, hplain'⟩

theorem plain_intercalate : ∀ {texts : List String}, (∀ s ∈ texts, Plain quotes s) →
    Plain quotes (String.intercalate ", " texts)
  | [], _ => ⟨[], by cases quotes <;> rfl, fun _ ht => absurd ht List.not_mem_nil⟩
  | [s], h => h s List.mem_cons_self
  | s :: t :: texts, h => by
    rw [String.intercalate_cons_cons]
    exact (h s List.mem_cons_self).comma
      (plain_intercalate fun u hu => h u (List.mem_cons_of_mem s hu))

end

theorem tokens?_keyword (k : Connective) (quotes : Bool) :
    tokens? quotes k.keyword = some [.word k.keyword] := by
  cases k <;> cases quotes <;> rfl

end BoundSql.Clause
