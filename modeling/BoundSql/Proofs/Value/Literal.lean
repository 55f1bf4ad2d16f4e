import BoundSql.Embedded.Token
import BoundSql.Proofs.Json.Number
import BoundSql.Proofs.Json.Value
import BoundSql.Proofs.Text.Split
import BoundSql.Proofs.Url.Percent

/-!
# Literals

Values without doubles that have the same literal are the same (`inline_injective`).  Doubles are
left out, since the literal of a whole number may be that of an integer.

A value may stand inside of a list, so what is proved of literals is proved of literals in front of
other characters.  The first character tells the shape of the value (`opening_inline`).  In front of
a comma, of a parenthesis or of nothing (`Separated`) a literal ends where it says: the digits of an
integer, the pairs of digits of a blob and the characters between apostrophes are read back by the
scanners of numbers, of bytes and of quoted texts.  So of two equal texts that begin with literals
the values are equal and what is left of the texts is (`readable`).
-/

namespace BoundSql

open Embedded (Lexeme Token)
open Embedded.Lexeme (cutQuotedFrom quotedToken cutToken hexBytes?)

namespace Embedded.Lexeme

/-! ## Quoted texts -/

theorem cutQuotedFrom_cons {quote c : Char} (h : c ≠ quote)
    (acc cs : List Char) :
    cutQuotedFrom quote acc (c :: cs) = cutQuotedFrom quote (c :: acc) cs := by
  cases cs with
  | nil => rw [cutQuotedFrom, cutQuotedFrom, if_neg h]
  | cons d cs => rw [cutQuotedFrom, if_neg h]

/-- A text between apostrophes is read back, if no apostrophe follows. -/
theorem cutQuotedFrom_doubleQuotes {rest : List Char}
    (h : rest.head? ≠ some '\'') (acc cs : List Char) :
    cutQuotedFrom '\'' acc (Value.doubleQuotes cs ++ '\'' :: rest)
      = some (acc.reverse ++ cs, rest) := by
  induction cs generalizing acc with
  | nil =>
    rw [Value.doubleQuotes, List.flatMap_nil, List.nil_append, List.append_nil]
    cases rest with
    | nil => rw [cutQuotedFrom, if_pos rfl]
    | cons d rest =>
      have hd : d ≠ '\'' := fun hd => h (hd ▸ rfl)
      rw [cutQuotedFrom, if_pos rfl, if_neg hd]
  | cons c cs ih =>
    rw [Value.doubleQuotes, List.flatMap_cons, ← Value.doubleQuotes, List.append_assoc]
    by_cases hc : c = '\''
    · subst hc
      rw [if_pos rfl, List.cons_append, List.cons_append, List.nil_append, cutQuotedFrom,
        if_pos rfl, if_pos rfl, ih, List.reverse_cons, List.append_assoc, List.singleton_append]
    · rw [if_neg hc, List.singleton_append, cutQuotedFrom_cons hc, ih, List.reverse_cons,
        List.append_assoc, List.singleton_append]

/-! ## Bytes -/

theorem hexBytes?_flatMap (bytes : List UInt8) :
    hexBytes? (bytes.flatMap Value.hexByte) = some bytes := by
  induction bytes with
  | nil => rfl
  | cons b bytes ih =>
    have hb := b.toNat_lt
    have hhigh : Url.hexValue? (Nat.digitChar (b.toNat / 16)).toUpper = some (b.toNat / 16) :=
      Url.hexValue?_hexDigit (by omega)
    have hlow : Url.hexValue? (Nat.digitChar (b.toNat % 16)).toUpper = some (b.toNat % 16) :=
      Url.hexValue?_hexDigit (by omega)
    have hsum : 16 * (b.toNat / 16) + b.toNat % 16 = b.toNat := by omega
    rw [List.flatMap_cons, Value.hexByte, List.cons_append, List.cons_append, List.nil_append,
      hexBytes?, hhigh, hlow, ih]
    show some (UInt8.ofNat (16 * (b.toNat / 16) + b.toNat % 16) :: bytes) = _
    rw [hsum, UInt8.ofNat_toNat]

end Embedded.Lexeme

namespace Value

theorem not_mem_flatMap_hexByte (bytes : List UInt8) : '\'' ∉ bytes.flatMap hexByte := by
  intro h
  obtain ⟨b, -, hb⟩ := List.mem_flatMap.mp h
  have hlt := b.toNat_lt
  have hword : Url.isWord '\'' = true := by
    simp only [hexByte, List.mem_cons, List.not_mem_nil, or_false] at hb
    rcases hb with hb | hb
    · rw [hb]
      exact Url.isWord_hexDigit (by omega)
    · rw [hb]
      exact Url.isWord_hexDigit (by omega)
  exact absurd hword (by decide)

/-! ## The characters of a literal -/

theorem toList_text (s : String) (rest : List Char) :
    (text s).inline.toList ++ rest = '\'' :: (doubleQuotes s.toList ++ '\'' :: rest) := by
  simp [inline, textLiteral]

theorem toList_blob (bytes : List UInt8) (rest : List Char) :
    (blob bytes).inline.toList ++ rest
      = 'X' :: '\'' :: (bytes.flatMap hexByte ++ '\'' :: rest) := by
  simp [inline, blobLiteral]

/-- The rest of a list behind one of its items. -/
def behind (vs : List Value) (rest : List Char) : List Char :=
  match vs with
  | [] => ')' :: rest
  | v :: vs => ',' :: ' ' :: (v.inline.toList ++ behind vs rest)

theorem toList_list_nil (rest : List Char) :
    (list []).inline.toList ++ rest = '(' :: ')' :: rest := by
  simp [inline, inline.inlines]

theorem toList_behind (vs : List Value) (rest : List Char) :
    (vs.map inline).flatMap (fun s => ", ".toList ++ s.toList) ++ ')' :: rest
      = behind vs rest := by
  induction vs with
  | nil => rfl
  | cons v vs ih =>
    rw [List.map_cons, List.flatMap_cons, List.append_assoc, List.append_assoc, ih]
    rfl

theorem toList_list_cons (v : Value) (vs : List Value) (rest : List Char) :
    (list (v :: vs)).inline.toList ++ rest = '(' :: (v.inline.toList ++ behind vs rest) := by
  rw [inline, inlines_eq_map, List.map_cons, String.toList_append, String.toList_append,
    Text.toList_intercalate, List.append_assoc, List.append_assoc, List.append_assoc]
  show '(' :: (v.inline.toList ++ (_ ++ ')' :: rest)) = _
  rw [toList_behind]

/-- An integer is read back as a number. -/
theorem readNumber_int (n : Int64) {rest : List Char} (h : Json.Ends rest) :
    Json.readNumber ((int n).inline.toList ++ rest) = .ok (.integer n.toInt, rest) :=
  Json.readNumber_toString n.le_toInt (Int.lt_trans n.toInt_lt (by decide)) h

/-- The digits of a blob end at the apostrophe. -/
theorem span_blob (bytes : List UInt8) (rest : List Char) :
    (bytes.flatMap hexByte ++ '\'' :: rest).span (· != '\'')
      = (bytes.flatMap hexByte, '\'' :: rest) :=
  Text.span_append_cons (Text.forall_ne_of_not_mem (not_mem_flatMap_hexByte bytes))
    (bne_self_eq_false '\'')

/-! ## The shape -/

/-- The shapes of a value without its content, but for doubles. -/
inductive Shape where
  | null
  | bool
  | int
  | text
  | list
  | blob

/-- The shape of a value. -/
def shape? : Value → Option Shape
  | .null => some .null
  | .bool _ => some .bool
  | .int _ => some .int
  | .float _ => none
  | .text _ => some .text
  | .list _ => some .list
  | .blob _ => some .blob

/-- The shape of the values whose literals begin with the character. -/
def Shape.ofChar? (c : Char) : Option Shape :=
  if c = 'N' then some .null
  else if c = 'T' ∨ c = 'F' then some .bool
  else if c = '\'' then some .text
  else if c = '(' then some .list
  else if c = 'X' then some .blob
  else if (c = '-' || isDigit c) = true then some .int
  else none

/-- The shape of the values whose literals begin like the text. -/
def opening (cs : List Char) : Option Shape := cs.head?.bind Shape.ofChar?

theorem opening_cons (c : Char) (cs : List Char) : opening (c :: cs) = Shape.ofChar? c := rfl

theorem opening_int (n : Int64) (rest : List Char) :
    opening ((int n).inline.toList ++ rest) = some .int := by
  have hend : Json.Ends [] := nofun
  obtain ⟨c, cs, hcs, hc⟩ := Json.head_of_readNumber (readNumber_int n hend)
  rw [List.append_nil] at hcs
  have hne : ∀ d, (d = '-' || isDigit d) = false → c ≠ d := by
    rintro d hd rfl
    rw [hd] at hc
    cases hc
  rw [hcs, List.cons_append, opening_cons, Shape.ofChar?, if_neg (hne 'N' rfl),
    if_neg (not_or.mpr ⟨hne 'T' rfl, hne 'F' rfl⟩), if_neg (hne '\'' rfl), if_neg (hne '(' rfl),
    if_neg (hne 'X' rfl), if_pos hc]

/-- A literal begins like the values of its shape. -/
theorem opening_inline {v : Value} (h : v.FloatFree) (rest : List Char) :
    opening (v.inline.toList ++ rest) = v.shape? := by
  cases v with
  | null => rfl
  | bool b => cases b <;> rfl
  | int n => exact opening_int n rest
  | float x => exact absurd .self (h x)
  | text s => rw [toList_text]; rfl
  | list vs =>
    cases vs with
    | nil => rw [toList_list_nil]; rfl
    | cons v vs => rw [toList_list_cons]; rfl
  | blob bytes => rw [toList_blob]; rfl

/-- No literal begins with the parenthesis that closes a list. -/
theorem inline_ne_close {v : Value} {rest rest' : List Char} (h : v.FloatFree) :
    v.inline.toList ++ rest ≠ ')' :: rest' := by
  intro heq
  have hshape := opening_inline h rest
  rw [heq, opening_cons] at hshape
  cases v with
  | float x => exact h x .self
  | _ => cases hshape

/-! ## The end -/

/-- What follows is nothing, a comma or a closing parenthesis. -/
def Separated (rest : List Char) : Prop := ∀ c ∈ rest.head?, c = ',' ∨ c = ')'

section

variable {rest rest' : List Char}

theorem separated_behind (vs : List Value) (rest : List Char) : Separated (behind vs rest) := by
  cases vs with
  | nil => exact fun c hc => .inr (Option.some.inj hc).symm
  | cons v vs => exact fun c hc => .inl (Option.some.inj hc).symm

theorem Separated.ends (h : Separated rest) : Json.Ends rest := by
  intro c hc
  rcases h c hc with rfl | rfl <;> decide

theorem Separated.head?_ne (h : Separated rest) : rest.head? ≠ some '\'' := by
  intro hc
  rcases h _ hc with hc | hc <;> exact absurd hc (by decide)

/-! ## Two literals -/

theorem int_append_inj {m n : Int64} (hrest : Separated rest) (hrest' : Separated rest')
    (h : (int m).inline.toList ++ rest = (int n).inline.toList ++ rest') :
    m = n ∧ rest = rest' := by
  have hread := (readNumber_int m hrest.ends).symm.trans
    ((congrArg Json.readNumber h).trans (readNumber_int n hrest'.ends))
  simp only [Except.ok.injEq, Prod.mk.injEq, Json.Number.integer.injEq] at hread
  exact ⟨Int64.toInt_inj.mp hread.1, hread.2⟩

theorem text_append_inj {s s' : String} (hrest : Separated rest) (hrest' : Separated rest')
    (h : (text s).inline.toList ++ rest = (text s').inline.toList ++ rest') :
    s = s' ∧ rest = rest' := by
  rw [toList_text, toList_text] at h
  have hread := (Lexeme.cutQuotedFrom_doubleQuotes hrest.head?_ne [] s.toList).symm.trans
    ((congrArg (cutQuotedFrom '\'' []) (List.cons.inj h).2).trans
      (Lexeme.cutQuotedFrom_doubleQuotes hrest'.head?_ne [] s'.toList))
  simp only [Option.some.injEq, Prod.mk.injEq] at hread
  exact ⟨String.toList_inj.mp hread.1, hread.2⟩

theorem blob_append_inj {bytes bytes' : List UInt8}
    (h : (blob bytes).inline.toList ++ rest = (blob bytes').inline.toList ++ rest') :
    bytes = bytes' ∧ rest = rest' := by
  rw [toList_blob, toList_blob] at h
  have hread := (span_blob bytes rest).symm.trans
    ((congrArg (List.span (· != '\'')) (List.cons.inj (List.cons.inj h).2).2).trans
      (span_blob bytes' rest'))
  simp only [Prod.mk.injEq, List.cons.injEq, true_and] at hread
  have hbytes := congrArg hexBytes? hread.1
  rw [Lexeme.hexBytes?_flatMap, Lexeme.hexBytes?_flatMap] at hbytes
  exact ⟨Option.some.inj hbytes, hread.2⟩

/-- The literal of the value, in front of what separates it, is the literal of no other value. -/
def Readable (v : Value) : Prop :=
  ∀ {w : Value} {rest rest' : List Char}, w.FloatFree → Separated rest → Separated rest' →
    v.inline.toList ++ rest = w.inline.toList ++ rest' → v = w ∧ rest = rest'

/-- The items of a list are read one by one. -/
theorem behind_inj {vs ws : List Value} (hvs : ∀ v ∈ vs, v.Readable) (hws : ∀ w ∈ ws, w.FloatFree)
    (h : behind vs rest = behind ws rest') : vs = ws ∧ rest = rest' := by
  induction vs generalizing ws with
  | nil =>
    cases ws with
    | nil => exact ⟨rfl, (List.cons.inj h).2⟩
    | cons w ws => exact absurd (List.cons.inj h).1 (by decide)
  | cons v vs ih =>
    cases ws with
    | nil => exact absurd (List.cons.inj h).1 (by decide)
    | cons w ws =>
      obtain ⟨hv, hvs'⟩ := List.forall_mem_cons.mp hvs
      obtain ⟨hw, hws'⟩ := List.forall_mem_cons.mp hws
      obtain ⟨hvw, hbehind⟩ := hv hw (separated_behind vs rest) (separated_behind ws rest')
        (List.cons.inj (List.cons.inj h).2).2
      obtain ⟨hvsws, hrest⟩ := ih hvs' hws' hbehind
      exact ⟨by rw [hvw, hvsws], hrest⟩

theorem list_append_inj {vs ws : List Value} (hvs : ∀ v ∈ vs, v.Readable)
    (hfree : ∀ v ∈ vs, v.FloatFree) (hws : ∀ w ∈ ws, w.FloatFree)
    (h : (list vs).inline.toList ++ rest = (list ws).inline.toList ++ rest') :
    vs = ws ∧ rest = rest' := by
  cases vs with
  | nil =>
    cases ws with
    | nil =>
      rw [toList_list_nil, toList_list_nil] at h
      exact ⟨rfl, (List.cons.inj (List.cons.inj h).2).2⟩
    | cons w ws =>
      rw [toList_list_nil, toList_list_cons] at h
      exact absurd (List.cons.inj h).2.symm (inline_ne_close (hws w List.mem_cons_self))
  | cons v vs =>
    cases ws with
    | nil =>
      rw [toList_list_nil, toList_list_cons] at h
      exact absurd (List.cons.inj h).2 (inline_ne_close (hfree v List.mem_cons_self))
    | cons w ws =>
      rw [toList_list_cons, toList_list_cons] at h
      exact behind_inj hvs hws (congrArg (fun cs => ',' :: ' ' :: cs) (List.cons.inj h).2)

/-- Only values of the same shape need to be told apart. -/
theorem readable_of_shape {v : Value} (hv : v.FloatFree)
    (h : ∀ {w : Value} {rest rest' : List Char}, w.FloatFree → v.shape? = w.shape? →
      Separated rest → Separated rest' → v.inline.toList ++ rest = w.inline.toList ++ rest' →
      v = w ∧ rest = rest') : v.Readable := by
  intro w rest rest' hw hrest hrest' heq
  have hshape : v.shape? = w.shape? := by
    rw [← opening_inline hv rest, heq, opening_inline hw rest']
  exact h hw hshape hrest hrest' heq

/-- Every value without doubles can be read off its literal. -/
theorem readable {v : Value} (hv : v.FloatFree) : v.Readable := by
  induction v using Value.induction with
  | null =>
    refine readable_of_shape hv fun {w} _ _ _ hshape _ _ h => ?_
    cases w with
    | null => exact ⟨rfl, List.append_cancel_left h⟩
    | _ => cases hshape
  | bool b =>
    refine readable_of_shape hv fun {w} _ _ _ hshape _ _ h => ?_
    cases w with
    | bool c =>
      cases b <;> cases c
      · exact ⟨rfl, List.append_cancel_left h⟩
      · exact absurd (List.cons.inj h).1 (by decide)
      · exact absurd (List.cons.inj h).1 (by decide)
      · exact ⟨rfl, List.append_cancel_left h⟩
    | _ => cases hshape
  | int n =>
    refine readable_of_shape hv fun {w} _ _ _ hshape hrest hrest' h => ?_
    cases w with
    | int m =>
      obtain ⟨hnm, hrests⟩ := int_append_inj hrest hrest' h
      exact ⟨by rw [hnm], hrests⟩
    | _ => cases hshape
  | float x => exact absurd .self (hv x)
  | text s =>
    refine readable_of_shape hv fun {w} _ _ _ hshape hrest hrest' h => ?_
    cases w with
    | text t =>
      obtain ⟨hst, hrests⟩ := text_append_inj hrest hrest' h
      exact ⟨by rw [hst], hrests⟩
    | _ => cases hshape
  | list vs ih =>
    refine readable_of_shape hv fun {w} _ _ hw hshape _ _ h => ?_
    cases w with
    | list ws =>
      obtain ⟨hvsws, hrests⟩ := list_append_inj (fun v hmem => ih v hmem (hv.item hmem))
        (fun v hmem => hv.item hmem) (fun w hmem => hw.item hmem) h
      exact ⟨by rw [hvsws], hrests⟩
    | _ => cases hshape
  | blob bytes =>
    refine readable_of_shape hv fun {w} _ _ _ hshape _ _ h => ?_
    cases w with
    | blob bytes' =>
      obtain ⟨hbytes, hrests⟩ := blob_append_inj h
      exact ⟨by rw [hbytes], hrests⟩
    | _ => cases hshape

end

/-- Values without doubles that have the same literal are the same. -/
theorem inline_injective {v w : Value} (hv : v.FloatFree) (hw : w.FloatFree)
    (h : v.inline = w.inline) : v = w := by
  have hnothing : Separated [] := fun c hc => by cases hc
  exact (readable hv hw hnothing hnothing (by rw [h])).1

-- With doubles they need not be.
example : (float (.ofInt 1)).inline = (int 1).inline := by decide +kernel

/-! ## Literals among other text -/

/-- The literal of a text is the token of the text, whatever stands behind it but an apostrophe. -/
theorem cutToken_text {rest : List Char} (h : rest.head? ≠ some '\'') (index : Nat) (s : String) :
    cutToken index '\'' (doubleQuotes s.toList ++ '\'' :: rest)
      = .ok ((text s).inline.toList, .text s, rest) := by
  have hspelling := toList_text s []
  rw [List.append_nil] at hspelling
  rw [cutToken, if_pos rfl, quotedToken, Lexeme.cutQuotedFrom_doubleQuotes h, hspelling,
    List.reverse_nil, List.nil_append]
  show Except.ok (_, Token.text (String.ofList s.toList), rest) = _
  rw [String.ofList_toList, doubleQuotes]
  refine congrArg (fun cs => Except.ok ('\'' :: (cs ++ ['\'']), Token.text s, rest)) ?_
  refine List.flatMap_congr fun c _ => ?_
  split
  next hc => rw [hc]
  next => rfl

/-- Values without doubles have different literals if they differ.  The literal of a text may be
followed by anything but an apostrophe.  The scanner of quoted texts, which reads a doubled
apostrophe as one, then stops right behind the literal with the characters of the text, and the
token that is cut off is this text. -/
theorem inline_unambiguous :
    (∀ v w : Value, v.FloatFree → w.FloatFree → v.inline = w.inline → v = w)
      ∧ ∀ (s : String) (rest : List Char), rest.head? ≠ some '\'' →
          ∃ body, (text s).inline.toList ++ rest = '\'' :: body
            ∧ cutQuotedFrom '\'' [] body = some (s.toList, rest)
            ∧ ∀ index, cutToken index '\'' body
                = .ok ((text s).inline.toList, .text s, rest) := by
  refine ⟨fun v w hv hw h => inline_injective hv hw h, fun s rest h => ?_⟩
  exact ⟨_, toList_text s rest, Lexeme.cutQuotedFrom_doubleQuotes h [] s.toList,
    fun index => cutToken_text h index s⟩

/-- A text with a comma between apostrophes is not two texts, and it ends where it says. -/
theorem inline_unambiguous_comma :
    (list [text "a', 'b"]).inline ≠ (list [text "a", text "b"]).inline
      ∧ cutQuotedFrom '\'' [] "it''s', 1)".toList = some ("it's".toList, ", 1)".toList) := by
  have hfree : ∀ s, (text s).FloatFree := fun s =>
    floatFree_of_isScalar rfl (fun x hx => by cases hx)
  constructor
  · intro h
    have hone : (list [text "a', 'b"]).FloatFree :=
      floatFree_list (List.forall_mem_singleton.mpr (hfree _))
    have htwo : (list [text "a", text "b"]).FloatFree :=
      floatFree_list (List.forall_mem_cons.mpr
        ⟨hfree _, List.forall_mem_singleton.mpr (hfree _)⟩)
    have heq := inline_unambiguous.1 _ _ hone htwo h
    exact absurd (List.cons.inj (list.inj heq)).2.symm (List.cons_ne_nil _ _)
  · obtain ⟨body, hbody, hcut, -⟩ := inline_unambiguous.2 "it's" ", 1)".toList (by decide +kernel)
    have hliteral : (text "it's").inline.toList ++ ", 1)".toList
        = '\'' :: "it''s', 1)".toList := by decide +kernel
    rw [← (List.cons.inj (hbody.symm.trans hliteral)).2]
    exact hcut

end Value

end BoundSql
