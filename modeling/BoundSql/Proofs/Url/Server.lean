import BoundSql.Proofs.Number.Integer
import BoundSql.Proofs.Text.Split
import BoundSql.Proofs.Url.Percent
import BoundSql.Url

/-!
# Reading the URL of a server

A URL whose parts consist of letters, digits, percent signs, hyphens and dots has these parts when
it is read (`parse_server`).
-/

namespace BoundSql.Url

/-! ## Plain characters -/

/-- A character that delimits no part of a URL. -/
def isPlain (c : Char) : Bool := c.isAlphanum || ['%', '-', '.'].contains c

theorem toNat_lt_of_isPlain {c : Char} (h : isPlain c = true) : c.toNat < 128 := by
  have hupper : c.isUpper = true → c.toNat ≤ 'Z'.toNat := fun h => (of_decide_eq_true h).2
  have hlower : c.isLower = true → c.toNat ≤ 'z'.toNat := fun h =>
    of_decide_eq_true (Bool.and_eq_true_iff.mp h).2
  have hdigit : c.isDigit = true → c.toNat ≤ '9'.toNat := fun h =>
    of_decide_eq_true (Bool.and_eq_true_iff.mp h).2
  rcases Bool.or_eq_true_iff.mp h with halphanum | hmark
  · rcases Bool.or_eq_true_iff.mp halphanum with hletter | hc
    · rcases Bool.or_eq_true_iff.mp hletter with hc | hc
      · exact Nat.lt_of_le_of_lt (hupper hc) (by decide)
      · exact Nat.lt_of_le_of_lt (hlower hc) (by decide)
    · exact Nat.lt_of_le_of_lt (hdigit hc) (by decide)
  · rw [List.contains_eq_mem, decide_eq_true_eq] at hmark
    have hmarks : ∀ d ∈ ['%', '-', '.'], d.toNat < 128 := by simp
    exact hmarks c hmark

/-- What holds of the plain characters can be checked on ASCII. -/
theorem of_isPlain {p : Char → Prop}
    (h : ∀ n < 128, isPlain (Char.ofNat n) = true → p (Char.ofNat n)) {c : Char}
    (hc : isPlain c = true) : p c := by
  have hn := h c.toNat (toNat_lt_of_isPlain hc)
  rw [Char.ofNat_toNat] at hn
  exact hn hc

theorem isPlain_of_isWord {c : Char} (h : isWord c = true) : isPlain c = true := by
  rw [isWord, Bool.or_eq_true, beq_iff_eq] at h
  rw [isPlain, Bool.or_eq_true]
  exact h.imp_right fun hc => by rw [hc]; rfl

theorem isPlain_of_isDigit {c : Char} (h : isDigit c = true) : isPlain c = true := by
  rw [isDigit, Bool.and_eq_true, decide_eq_true_eq, decide_eq_true_eq] at h
  have hdigit : c.isDigit = true := by
    rw [Char.isDigit, Bool.and_eq_true, decide_eq_true_eq, decide_eq_true_eq]
    exact h
  rw [isPlain, Char.isAlphanum, hdigit, Bool.or_true, Bool.true_or]

/-- What does not happen to a character. -/
structure Untouched (c : Char) : Prop where
  notEscaped : isUserEscaped c = false
  notForbidden : isForbiddenInHost c = false
  notEnding : endsAuthority false c = false
  notMargin : isMargin c = false
  notBlank : Text.isBlank c = false

theorem untouched_of_isPlain {c : Char} (h : isPlain c = true) : Untouched c := by
  obtain ⟨hescaped, hforbidden, hending, hmargin, hblank⟩ := of_isPlain
    (p := fun c => isUserEscaped c = false ∧ isForbiddenInHost c = false
      ∧ endsAuthority false c = false ∧ isMargin c = false ∧ Text.isBlank c = false)
    (by decide +kernel) h
  exact ⟨hescaped, hforbidden, hending, hmargin, hblank⟩

theorem Untouched.notPathEscaped {c : Char} (h : Untouched c) : isPathEscaped c = false :=
  (Bool.or_eq_false_iff.mp h.notEscaped).1

theorem Untouched.notControl {c : Char} (h : Untouched c) : isControl c = false :=
  (Bool.or_eq_false_iff.mp h.notPathEscaped).1

/-- All characters are plain. -/
def Plain (cs : List Char) : Prop := ∀ c ∈ cs, isPlain c = true

theorem plain_strict (s : String) : Plain (strict s).toList :=
  fun _ hc => isPlain_of_isWord (isWord_of_mem hc)

theorem plain_toDigits (n : Nat) : Plain (Nat.toDigits 10 n) :=
  fun _ hc => isPlain_of_isDigit (isDigit_of_mem_toDigits hc)

section

variable {cs : List Char}

theorem Plain.not_mem (h : Plain cs) {d : Char} (hd : isPlain d = false) : d ∉ cs := by
  intro hmem
  rw [h d hmem] at hd
  cases hd

theorem Plain.untouched (h : Plain cs) : ∀ c ∈ cs, Untouched c :=
  fun c hc => untouched_of_isPlain (h c hc)

theorem Plain.encode_user (h : Plain cs) : encode isUserEscaped cs = cs :=
  encode_eq_self fun c hc => (h.untouched c hc).notEscaped

end

/-! ## Host and port -/

section

variable {host digits : List Char}

theorem cutHost_append (h : Plain host) (rest : List Char) :
    cutHost false (host ++ ':' :: rest) = (host, ':' :: rest) := by
  induction host with
  | nil => rfl
  | cons c host ih =>
    obtain ⟨hc, hhost⟩ := List.forall_mem_cons.mp h
    have hcolon : ¬ (c = ':' && !false) = true := by
      simp only [Bool.not_false, Bool.and_true, decide_eq_true_eq]
      rintro rfl
      cases hc
    have hbracket : (c == '[' || (false && c != ']')) = false := by
      rw [Bool.false_and, Bool.or_false, beq_eq_false_iff_ne]
      rintro rfl
      cases hc
    rw [List.cons_append, cutHost, if_neg hcolon, hbracket, ih hhost]

theorem readHost_plain (h : Plain host) : readHost false host = .ok (String.ofList host) := by
  have hforbidden : host.any isForbiddenInHost = false := by
    rw [List.any_eq_false]
    intro c hc
    rw [(h.untouched c hc).notForbidden]
    exact Bool.false_ne_true
  have hencode : encode isControl host = host :=
    encode_eq_self fun c hc => (h.untouched c hc).notControl
  unfold readHost
  split
  next => exact absurd List.mem_cons_self (h.not_mem (d := '[') rfl)
  next => rw [if_neg (by decide), hforbidden, if_neg (by decide), hencode]

theorem readPort_toDigits (port : UInt16) :
    readPort (Nat.toDigits 10 port.toNat) = .ok (some port, []) := by
  have hport := port.toNat_lt
  have hspan : (Nat.toDigits 10 port.toNat).span isDigit = (Nat.toDigits 10 port.toNat, []) :=
    Text.span_of_forall fun _ => isDigit_of_mem_toDigits
  have hempty : (Nat.toDigits 10 port.toNat).isEmpty = false :=
    List.isEmpty_eq_false_iff.mpr Nat.toDigits_ne_nil
  rw [readPort, hspan]
  simp only [digitsValue_toDigits, hempty, UInt16.ofNat_toNat]
  exact (if_neg (by omega)).trans (if_pos rfl)

end

/-! ## The authority -/

/-- The authority ends in front of the path. -/
theorem span_authority {name password host digits rest : List Char} (hname : Plain name)
    (hpassword : Plain password) (hhost : Plain host) (hdigits : Plain digits) :
    (name ++ ':' :: (password ++ '@' :: (host ++ ':' :: (digits ++ '/' :: rest)))).span
        (!endsAuthority false ·)
      = ((name ++ ':' :: password) ++ '@' :: (host ++ ':' :: digits), '/' :: rest) := by
  have hends : ∀ {cs}, Plain cs → ∀ c ∈ cs, (!endsAuthority false c) = true := by
    intro cs hcs c hc
    rw [(hcs.untouched c hc).notEnding]
    rfl
  have hauthority : ∀ c ∈ (name ++ ':' :: password) ++ '@' :: (host ++ ':' :: digits),
      (!endsAuthority false c) = true := by
    simp only [List.forall_mem_append, List.forall_mem_cons]
    exact ⟨⟨hends hname, rfl, hends hpassword⟩, rfl, hends hhost, rfl, hends hdigits⟩
  rw [← Text.span_append_cons hauthority rfl]
  simp only [List.append_assoc, List.cons_append]

/-- The authority has its parts when it is read. -/
theorem readAuthority_plain {name password host rest : List Char} (hname : Plain name)
    (hpassword : Plain password) (hhost : Plain host) (hne : host ≠ []) (port : UInt16)
    (url : Url) :
    readAuthority false url
        (name ++ ':' :: (password ++ '@' :: (host ++ ':' :: (Nat.toDigits 10 port.toNat
          ++ '/' :: rest))))
      = .ok (({ url with
          username := String.ofList name
          password := if password.isEmpty then none else some (String.ofList password)
          host := some (String.ofList host)
          port := some port } : Url).withRest (pathBehindHost false) ('/' :: rest)) := by
  have hdigits : Plain (Nat.toDigits 10 port.toNat) := plain_toDigits port.toNat
  have hat : '@' ∉ host ++ ':' :: Nat.toDigits 10 port.toNat := by
    rw [List.mem_append, List.mem_cons]
    rintro (hmem | hcolon | hmem)
    · exact hhost.not_mem rfl hmem
    · cases hcolon
    · exact hdigits.not_mem rfl hmem
  have hcut : Text.cutAt ':' (name ++ ':' :: password) = (name, some password) :=
    Text.cutAt_append (hname.not_mem rfl)
  have hplace : (host ++ ':' :: Nat.toDigits 10 port.toNat).isEmpty = false := by
    cases host <;> rfl
  have hhostText : (String.ofList host).isEmpty = false := by
    simpa using hne
  have hsecret : ((some password).filter (!·.isEmpty)).map
      (fun cs => String.ofList (encode isUserEscaped cs))
      = if password.isEmpty then none else some (String.ofList password) := by
    cases password with
    | nil => rfl
    | cons c cs => exact congrArg (fun cs => some (String.ofList cs)) hpassword.encode_user
  rw [readAuthority, span_authority hname hpassword hhost hdigits]
  simp only [Text.cutAtLast_append hat, Option.getD_some, hcut, hname.encode_user,
    cutHost_append hhost, readHost_plain hhost, List.drop_one, List.tail_cons, readPort_toDigits,
    hplace, hhostText, hsecret, Bool.and_false, Bool.false_and, Bool.false_eq_true, if_false,
    bind, Except.bind]
  rfl

/-! ## The path -/

/-- A dot is written by number, in digits of either case. -/
theorem decode_of_lower {cs rest : List Char} (hcs : ∀ c ∈ cs, isWord c = true)
    (h : cs.map Char.toLower = '%' :: '2' :: 'e' :: rest) :
    ∃ cs', (∀ c ∈ cs', isWord c = true) ∧ cs'.map Char.toLower = rest
      ∧ decode cs = 0x2E :: decode cs' := by
  have hlower : ∀ {c d : Char}, isWord c = true → c.toLower = d →
      c = d ∨ c = 'E' ∧ d = 'e' ∨ d ∉ ['%', '2', 'e'] := by
    rintro c _ hc rfl
    exact of_isPlain
      (p := fun c => c = c.toLower ∨ c = 'E' ∧ c.toLower = 'e' ∨ c.toLower ∉ ['%', '2', 'e'])
      (by decide +kernel) (isPlain_of_isWord hc)
  obtain ⟨a, cs₁, rfl, ha, h⟩ := List.map_eq_cons_iff.mp h
  obtain ⟨b, cs₂, rfl, hb, h⟩ := List.map_eq_cons_iff.mp h
  obtain ⟨c, cs', rfl, hc, hrest⟩ := List.map_eq_cons_iff.mp h
  simp only [List.forall_mem_cons] at hcs
  refine ⟨cs', hcs.2.2.2, hrest, ?_⟩
  obtain rfl : a = '%' := by simpa using hlower hcs.1 ha
  obtain rfl : b = '2' := by simpa using hlower hcs.2.1 hb
  obtain rfl | rfl : c = 'e' ∨ c = 'E' := by simpa using hlower hcs.2.2.1 hc
  · rw [decode]
    rfl
  · rw [decode]
    rfl

theorem lower_eq_iff {cs : List Char} {s : String} :
    Text.lower (String.ofList cs) = s ↔ cs.map Char.toLower = s.toList := by
  rw [Text.lower, String.toList_ofList, ← String.toList_inj, String.toList_ofList]

/-- There are no dots in a text that is encoded strictly. -/
theorem map_toLower_strict_ne {dots : List Char} (h : '.' ∈ dots) (s : String) :
    (strict s).toList.map Char.toLower ≠ dots := by
  rintro rfl
  obtain ⟨c, hc, hdot⟩ := List.mem_map.mp h
  exact of_isPlain (p := fun c => isWord c = true → c.toLower ≠ '.') (by decide +kernel)
    (isPlain_of_isWord (isWord_of_mem hc)) (isWord_of_mem hc) hdot

theorem isHere_strict {s : String} (h : s ≠ ".") : isHere (strict s).toList = false := by
  simp only [isHere, List.contains_eq_mem, decide_eq_false_iff_not, List.mem_cons, lower_eq_iff,
    List.not_mem_nil, or_false, not_or]
  refine ⟨map_toLower_strict_ne (by decide) s, fun hlower => h ?_⟩
  obtain ⟨cs, -, hcs, hdecode⟩ := decode_of_lower (fun _ => isWord_of_mem) hlower
  obtain rfl := List.map_eq_nil_iff.mp hcs
  exact eq_of_decode_strict hdecode

theorem isAbove_strict {s : String} (h : s ≠ "..") : isAbove (strict s).toList = false := by
  simp only [isAbove, List.contains_eq_mem, decide_eq_false_iff_not, List.mem_cons, lower_eq_iff,
    List.not_mem_nil, or_false, not_or]
  refine ⟨map_toLower_strict_ne (by decide) s, map_toLower_strict_ne (by decide) s,
    map_toLower_strict_ne (by decide) s, fun hlower => h ?_⟩
  obtain ⟨cs, hword, hcs, hdecode⟩ := decode_of_lower (fun _ => isWord_of_mem) hlower
  obtain ⟨cs', -, hcs', hdecode'⟩ := decode_of_lower hword hcs
  obtain rfl := List.map_eq_nil_iff.mp hcs'
  exact eq_of_decode_strict (hdecode.trans (congrArg _ hdecode'))

/-- One segment that is no place is the path. -/
theorem pathBehindHost_segment {path : List Char} (hpath : Plain path) (hhere : isHere path = false)
    (habove : isAbove path = false) :
    pathBehindHost false ('/' :: path) = String.ofList ('/' :: path) := by
  have hsplit : Text.splitWhere (fun c => c == '/' || (false && c == '\\')) path = [path] := by
    refine Text.splitWhere_of_forall fun c hc => ?_
    rw [Bool.false_and, Bool.or_false, beq_eq_false_iff_ne]
    rintro rfl
    exact hpath.not_mem rfl hc
  have hresolve : resolveFrom [] [path] = [path] := by
    rw [resolveFrom, habove, hhere]
    rfl
  have hencode : encode isPathEscaped path = path :=
    encode_eq_self fun c hc => (hpath.untouched c hc).notPathEscaped
  rw [pathBehindHost, if_pos (by rfl), resolvedPath, hsplit, List.map_singleton, hencode,
    hresolve, List.flatMap_singleton]

/-! ## The URL -/

theorem significant_of_forall {s : String} (h : ∀ c ∈ s.toList, isMargin c = false) :
    significant s = s.toList := by
  have hdropped : ∀ c ∈ s.toList, (!isDropped c) = true := by
    intro c hc
    have hmargin := h c hc
    cases hdropped : isDropped c with
    | false => rfl
    | true =>
      simp only [isDropped, Bool.or_eq_true, beq_iff_eq] at hdropped
      rcases hdropped with (rfl | rfl) | rfl <;> cases hmargin
  rw [significant, Text.dropBoth_of_forall h, List.filter_eq_self.mpr hdropped]

theorem takeScheme?_mysql (rest : List Char) :
    takeScheme? ("mysql://".toList ++ rest) = some ("mysql", '/' :: '/' :: rest) := by
  have hspan : ("mysql".toList ++ ':' :: '/' :: '/' :: rest).span isSchemeChar
      = ("mysql".toList, ':' :: '/' :: '/' :: rest) :=
    Text.span_append_cons (List.all_eq_true.mp (by decide)) (by decide)
  show takeScheme? ("mysql".toList ++ ':' :: '/' :: '/' :: rest) = _
  rw [takeScheme?, hspan]
  rfl

/-- A URL has its parts when it is read. -/
theorem parse_server {s : String} {name password host path query : List Char} {port : UInt16}
    (hs : s.toList = "mysql://".toList ++ (name ++ ':' :: (password ++ '@' :: (host ++ ':' ::
      (Nat.toDigits 10 port.toNat ++ '/' :: (path ++ '?' :: query))))))
    (hmargin : ∀ c ∈ s.toList, isMargin c = false) (hname : Plain name)
    (hpassword : Plain password) (hhost : Plain host) (hne : host ≠ []) (hpath : Plain path)
    (hhere : isHere path = false) (habove : isAbove path = false) (hquery : '#' ∉ query) :
    parse s = .ok
      { scheme := "mysql"
        username := String.ofList name
        password := if password.isEmpty then none else some (String.ofList password)
        host := some (String.ofList host)
        port := some port
        path := String.ofList ('/' :: path)
        query := some (String.ofList query) } := by
  have hfragment : '#' ∉ '/' :: (path ++ '?' :: query) := by
    rw [List.mem_cons, List.mem_append, List.mem_cons]
    rintro (hslash | hmem | hmark | hmem)
    · cases hslash
    · exact hpath.not_mem rfl hmem
    · cases hmark
    · exact hquery hmem
  have hmark : '?' ∉ '/' :: path := by
    rw [List.mem_cons]
    rintro (hslash | hmem)
    · cases hslash
    · exact hpath.not_mem rfl hmem
  have hcut : Text.cutAt '?' ('/' :: (path ++ '?' :: query)) = ('/' :: path, some query) :=
    Text.cutAt_append hmark
  rw [parse, significant_of_forall hmargin, hs, takeScheme?_mysql]
  show readAuthority false { scheme := "mysql" } _ = _
  rw [readAuthority_plain hname hpassword hhost hne, withRest, Text.cutAt_of_not_mem hfragment]
  simp only [hcut, pathBehindHost_segment hpath hhere habove, Option.map_some]

end BoundSql.Url
