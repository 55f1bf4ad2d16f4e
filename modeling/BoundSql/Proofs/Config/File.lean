import BoundSql.Proofs.Text.Split
import BoundSql.Session.Connect
import Mathlib.Data.List.Basic

/-!
# URLs of files

In the URL of a file a path stands behind the scheme, with two slashes in front of it or none
(`Config.Leads`), and perhaps a query behind it.  Where there is a query the path is taken as it
is.  Without one, an empty path and the word `memory:` mean the database in memory
(`Config.filePath_of_leads`, `Config.filePath_of_query`).

So a query changes the configuration if and only if the path is one of these two
(`Config.ofUrl_query_iff`).
-/

namespace BoundSql

/-! ## Blanks at the end -/

/-- Blanks are trimmed behind a character that is none, and in front of one. -/
theorem Text.trimChars_append_cons {c d : Char} (hc : isBlank c = false)
    (hd : isBlank d = false) (front back : List Char) :
    trimChars (c :: (front ++ d :: back))
      = c :: (front ++ d :: (back.reverse.dropWhile isBlank).reverse) := by
  have hstart : (c :: (front ++ d :: back)).dropWhile isBlank = c :: (front ++ d :: back) :=
    List.dropWhile_cons_of_neg (by simp [hc])
  have hreverse : (c :: (front ++ d :: back)).reverse
      = back.reverse ++ d :: (front.reverse ++ [c]) := by simp
  have hend : (d :: (front.reverse ++ [c])).dropWhile isBlank = d :: (front.reverse ++ [c]) :=
    List.dropWhile_cons_of_neg (by simp [hd])
  rw [trimChars, hstart, hreverse, List.dropWhile_append, hend]
  split
  next hnil => simp [List.isEmpty_iff.mp hnil]
  next => simp

namespace Config

/-! ## Paths -/

/-- The text is the path, with two slashes in front of it or without. -/
def Leads (text path : String) : Prop :=
  text = "//" ++ path ∨ text = path ∧ ¬ "//".toList <+: text.toList

theorem behind?_eq_some_iff {beginning : String} {cs rest : List Char} :
    behind? beginning cs = some rest ↔ cs = beginning.toList ++ rest := by
  rw [behind?, List.isPrefixOf?_eq_some_iff_append_eq, eq_comm]

theorem behind?_append (beginning : String) (rest : List Char) :
    behind? beginning (beginning.toList ++ rest) = some rest :=
  behind?_eq_some_iff.mpr rfl

theorem behind?_eq_none {beginning : String} {cs : List Char} (h : ¬ beginning.toList <+: cs) :
    behind? beginning cs = none := by
  refine Option.eq_none_iff_forall_ne_some.mpr fun rest hrest => h ?_
  exact ⟨rest, (behind?_eq_some_iff.mp hrest).symm⟩

theorem exists_leads (text : String) : ∃ path, Leads text path := by
  by_cases h : "//".toList <+: text.toList
  · obtain ⟨rest, hrest⟩ := h
    refine ⟨.ofList rest, .inl (String.toList_inj.mp ?_)⟩
    rw [← hrest, String.toList_append, String.toList_ofList (l := rest)]
  · exact ⟨text, .inr ⟨rfl, h⟩⟩

section

variable {text path : String}

theorem Leads.not_mem {c : Char} (h : Leads text path) (hc : c ∉ text.toList) :
    c ∉ path.toList := by
  rcases h with rfl | ⟨rfl, -⟩
  · rw [String.toList_append] at hc
    exact fun hmem => hc (List.mem_append_right _ hmem)
  · exact hc

/-- What stands behind the slashes, also with something behind the path. -/
theorem Leads.behind_eq (h : Leads text path) (back : List Char) (hback : back.head? ≠ some '/') :
    (behind? "//" (text.toList ++ back)).getD (text.toList ++ back) = path.toList ++ back := by
  rcases h with rfl | ⟨rfl, hslashes⟩
  · rw [String.toList_append, List.append_assoc, behind?_append, Option.getD_some]
  · rw [behind?_eq_none, Option.getD_none]
    rintro ⟨rest, hrest⟩
    have htwo : "//".toList = ['/', '/'] := by decide
    rw [htwo] at hrest hslashes
    -- Where the text ends, what follows it would have to go on with a slash.
    match hcs : text.toList with
    | [] =>
      rw [hcs, List.nil_append] at hrest
      exact hback (by rw [← hrest]; rfl)
    | [c] =>
      rw [hcs] at hrest
      obtain ⟨-, hrest⟩ := List.cons.inj hrest
      exact hback (by rw [show back = '/' :: rest from hrest.symm]; rfl)
    | c :: d :: cs =>
      rw [hcs] at hrest hslashes
      simp only [List.cons_append, List.cons.injEq] at hrest
      obtain ⟨rfl, rfl, -⟩ := hrest
      exact hslashes ⟨cs, rfl⟩

/-- Without a query, two words mean the database in memory. -/
theorem filePath_of_leads (h : Leads text path) (hmark : '?' ∉ text.toList) :
    filePath text.toList = if path = "" ∨ path = "memory:" then memoryPath else path := by
  have hbehind := h.behind_eq [] nofun
  simp only [List.append_nil] at hbehind
  rw [filePath]
  simp only [hbehind, String.ofList_toList, Text.cutAt_of_not_mem (h.not_mem hmark),
    List.contains_iff_mem, List.mem_cons, List.not_mem_nil, or_false]
  by_cases hmemory : path = memoryPath
  · simp [hmemory]
  · simp only [hmemory, false_or]

/-- In front of a query, the path is taken as it is. -/
theorem filePath_of_query (h : Leads text path) (hmark : '?' ∉ text.toList) (query : List Char) :
    filePath (text.toList ++ '?' :: query) = path := by
  have hbehind := h.behind_eq ('?' :: query) (by simp)
  have hword : ∀ word : String, '?' ∉ word.toList →
      String.ofList (path.toList ++ '?' :: query) ≠ word := by
    rintro word hword rfl
    rw [String.toList_ofList] at hword
    exact hword (List.mem_append_right _ List.mem_cons_self)
  have hspecial : String.ofList (path.toList ++ '?' :: query) ∉ ["", memoryPath, "memory:"] := by
    simp only [List.mem_cons, List.not_mem_nil, or_false, not_or]
    exact ⟨hword _ (by decide), hword _ (by decide), hword _ (by decide)⟩
  rw [filePath]
  simp only [hbehind, Text.cutAt_append (h.not_mem hmark), String.ofList_toList,
    List.contains_iff_mem, if_neg hspecial]

end

/-! ## URLs -/

theorem ofUrl_sqlite {s : String} (rest : List Char)
    (h : Text.trimChars s.toList = "sqlite:".toList ++ rest) :
    ofUrl s = .ok (ofPath (filePath rest)) := by
  rw [ofUrl]
  simp only [Text.trim, h, String.toList_ofList, behind?_append]

/-- There is nothing to trim behind a path that does not end in a blank. -/
theorem trimChars_scheme {cs : List Char} (h : ∀ c ∈ cs.getLast?, Text.isBlank c = false) :
    Text.trimChars ("sqlite:".toList ++ cs) = "sqlite:".toList ++ cs := by
  cases hlast : cs.getLast? with
  | none =>
    rw [List.getLast?_eq_none_iff.mp hlast]
    decide
  | some d =>
    obtain ⟨front, rfl⟩ := List.getLast?_eq_some_iff.mp hlast
    exact Text.trimChars_append_cons (c := 's') (by decide) (h d hlast)
      ("qlite:".toList ++ front) []

theorem trimChars_query (cs query : List Char) :
    ∃ query', Text.trimChars ("sqlite:".toList ++ (cs ++ '?' :: query))
      = "sqlite:".toList ++ (cs ++ '?' :: query') :=
  ⟨_, Text.trimChars_append_cons (c := 's') (by decide) (by decide) ("qlite:".toList ++ cs) query⟩

theorem ofPath_inj {path path' : String} : ofPath path = ofPath path' ↔ path = path' :=
  ⟨fun h => congrArg database h, congrArg ofPath⟩

/-- The URL of a file with a query is the configuration for the path as it is written there.
Without the query an empty path and the word `memory:` mean the database in memory.  In these two
cases, and in no other, the query changes the configuration, and with the word a file is opened
instead. -/
theorem ofUrl_query_iff (text query : String) (hmark : '?' ∉ text.toList)
    (hend : ∀ c ∈ text.toList.getLast?, Text.isBlank c = false) :
    ∃ path, Leads text path
      ∧ ofUrl ("sqlite:" ++ text ++ "?" ++ query) = .ok (ofPath path)
      ∧ ofUrl ("sqlite:" ++ text)
        = .ok (ofPath (if path = "" ∨ path = "memory:" then ":memory:" else path))
      ∧ (ofUrl ("sqlite:" ++ text ++ "?" ++ query) = ofUrl ("sqlite:" ++ text)
        ↔ ¬ (path = "" ∨ path = "memory:"))
      ∧ ((ofPath path).isPrivate
        ↔ (ofPath (if path = "" ∨ path = "memory:" then ":memory:" else path)).isPrivate
          ∧ path ≠ "memory:") := by
  obtain ⟨path, hpath⟩ := exists_leads text
  have hwith : ofUrl ("sqlite:" ++ text ++ "?" ++ query) = .ok (ofPath path) := by
    obtain ⟨query', htrim⟩ := trimChars_query text.toList query.toList
    rw [ofUrl_sqlite (text.toList ++ '?' :: query'), filePath_of_query hpath hmark]
    rw [← htrim]
    simp only [String.toList_append, List.append_assoc]
    rfl
  have hwithout : ofUrl ("sqlite:" ++ text)
      = .ok (ofPath (if path = "" ∨ path = "memory:" then ":memory:" else path)) := by
    rw [ofUrl_sqlite text.toList, filePath_of_leads hpath hmark, memoryPath]
    rw [String.toList_append]
    exact trimChars_scheme hend
  refine ⟨path, hpath, hwith, hwithout, ?_, ?_⟩
  · rw [hwith, hwithout, Except.ok.injEq, ofPath_inj]
    by_cases hmemory : path = "" ∨ path = "memory:"
    · rw [if_pos hmemory]
      refine iff_of_false ?_ (not_not_intro hmemory)
      rcases hmemory with rfl | rfl <;> decide
    · rw [if_neg hmemory]
      exact iff_of_true rfl hmemory
  · by_cases hmemory : path = "" ∨ path = "memory:"
    · rcases hmemory with rfl | rfl <;> decide
    · rw [if_neg hmemory]
      exact (and_iff_left fun h => hmemory (.inr h)).symm

/-- The word opens a file as soon as there is a query behind it. -/
theorem ofUrl_query_iff_word :
    ofUrl "sqlite://memory:?mode=rwc" = .ok (ofPath "memory:")
      ∧ ofUrl "sqlite://memory:" = .ok (ofPath ":memory:")
      ∧ (ofPath "memory:").isPrivate = false := by
  have hend : ∀ c ∈ "//memory:".toList.getLast?, Text.isBlank c = false := by
    rw [show "//memory:".toList.getLast? = some ':' by decide]
    rintro c ⟨⟩
    decide
  obtain ⟨path, hpath, hwith, hwithout, -, hprivate⟩ :=
    ofUrl_query_iff "//memory:" "mode=rwc" (by decide) hend
  obtain rfl : path = "memory:" := by
    rcases hpath with h | ⟨-, h⟩
    · exact ((String.append_right_inj "//").mp (show "//" ++ "memory:" = _ from h)).symm
    · exact absurd (by decide) h
  exact ⟨hwith, hwithout, Bool.eq_false_iff.mpr fun h => (hprivate.mp h).2 rfl⟩

end Config

end BoundSql
