import BoundSql.Driver.Mysql
import BoundSql.Driver.Sqlite
import BoundSql.Proofs.Driver.Keys
import BoundSql.Proofs.Number.Integer
import BoundSql.Proofs.Session
import BoundSql.Proofs.Text.Words

/-!
# The keys of the two databases

Both databases report some number with every statement that writes, be it a key or not.  What a
connection reports as a key goes by the statement: it has to begin with `INSERT` or `REPLACE`, in
any case and behind blanks (`BeginsInsert`), and it has to affect rows.  A MySQL server says with a
zero that there is no key, and a key beyond the range of signed words is not reported.

With `Driver.History.lastInsertId_eq` this says exactly which key a connection remembers
(`Connection.last_key_exact`).
-/

namespace BoundSql

/-! ## Statements that insert -/

/-- The statement begins with one of the two words that insert, in any case, behind blanks. -/
def BeginsInsert (sql : String) : Prop :=
  ∃ blanks word rest, sql = blanks ++ word ++ rest ∧ Text.isBlankText blanks
    ∧ (Text.sameLetters word "INSERT" ∨ Text.sameLetters word "REPLACE")

section

variable {word : String} {cs : List Char}

theorem beginsWith_iff :
    beginsWith word cs ↔ ∃ front rest, cs = front ++ rest ∧ front.map Char.toLower = word.toList := by
  rw [beginsWith, List.isPrefixOf_iff_prefix]
  constructor
  · rintro ⟨rest, h⟩
    obtain ⟨front, back, rfl, hfront, -⟩ := List.map_eq_append_iff.mp h.symm
    exact ⟨front, back, rfl, hfront⟩
  · rintro ⟨front, rest, rfl, h⟩
    rw [List.map_append, h]
    exact List.prefix_append _ _

/-- Blanks in front do not hide a word. -/
theorem beginsWith_dropWhile_iff (hword : word.toList.any Text.isBlank = false) (sql : String)
    (hne : word ≠ "") :
    beginsWith word (sql.toList.dropWhile Text.isBlank)
      ↔ ∃ blanks front rest, sql = blanks ++ front ++ rest ∧ Text.isBlankText blanks
          ∧ Text.lower front = word := by
  rw [beginsWith_iff]
  constructor
  · rintro ⟨front, rest, hcs, hfront⟩
    refine ⟨.ofList (sql.toList.takeWhile Text.isBlank), .ofList front, .ofList rest, ?_, ?_, ?_⟩
    · rw [← String.toList_inj]
      simp only [String.toList_append, String.toList_ofList, List.append_assoc, ← hcs]
      exact List.takeWhile_append_dropWhile.symm
    · rw [Text.isBlankText, String.toList_ofList]
      exact List.all_takeWhile
    · rw [Text.lower, String.toList_ofList, hfront, String.ofList_toList]
  · rintro ⟨blanks, front, rest, rfl, hblanks, rfl⟩
    refine ⟨front.toList, rest.toList, ?_, by rw [Text.lower, String.toList_ofList]⟩
    rw [Text.isBlankText, List.all_eq_true] at hblanks
    rw [String.toList_append, String.toList_append, List.append_assoc,
      List.dropWhile_append_of_pos hblanks]
    cases hfront : front.toList with
    | nil => exact absurd (by rw [Text.lower, hfront]; rfl) hne
    | cons c front' =>
      have hc : Text.isBlank c.toLower = false := by
        refine Bool.eq_false_iff.mpr (List.any_eq_false.mp hword _ ?_)
        rw [Text.lower, String.toList_ofList, hfront]
        exact List.mem_cons_self
      rw [Text.isBlank_toLower] at hc
      rw [List.cons_append, List.dropWhile_cons, hc]
      rfl

end

/-- The statements that are taken for inserts are those that begin with one of the words. -/
theorem inserts_iff (sql : String) : inserts sql ↔ BeginsInsert sql := by
  have hinsert : Text.lower "INSERT" = "insert" := by decide
  have hreplace : Text.lower "REPLACE" = "replace" := by decide
  simp only [inserts, Text.trimStart, String.toList_ofList, Bool.or_eq_true]
  rw [beginsWith_dropWhile_iff (by decide) sql (by decide),
    beginsWith_dropWhile_iff (by decide) sql (by decide)]
  simp only [BeginsInsert, Text.sameLetters_iff, hinsert, hreplace, and_or_left, exists_or]

/-! ## Outcomes -/

/-- The key of a server is the number that it reports, if that number is positive and signed. -/
theorem Mysql.keyOfWord?_eq_some_iff {n : UInt64} {key : Int64} :
    keyOfWord? n = some key ↔ 1 ≤ n.toNat ∧ n.toNat < twoPow 63 ∧ key.toInt = n.toNat := by
  rw [keyOfWord?]
  by_cases hn : n = 0
  · rw [if_pos hn, hn]
    exact iff_of_false nofun fun h => absurd h.1 (by decide)
  · have hpositive : 1 ≤ n.toNat := Nat.pos_of_ne_zero fun h => hn (UInt64.toNat_inj.mp h)
    rw [if_neg hn, toWord?_eq_some_iff]
    refine ⟨fun h => ⟨hpositive, ?_, h⟩, fun h => h.2.2⟩
    have hkey : key.toInt < twoPow 63 := key.toInt_lt
    omega

namespace Connection

variable {σ : Type}

theorem outcome_insertId_eq_some_iff {sql : String} {report : WriteReport} {key : Int64} :
    (outcome sql report).insertId = some key
      ↔ BeginsInsert sql ∧ 0 < report.affected ∧ report.key = some key := by
  simp only [outcome, Option.ite_none_right_eq_some, Bool.and_eq_true, decide_eq_true_eq,
    inserts_iff]
  tauto

/-- A list cannot be bound. -/
theorem bindAll_eq_error {statement : Statement} (h : ¬ statement.Scalar) :
    bindAll statement.params = .error listBound := by
  obtain ⟨v, hv, hlist⟩ : ∃ v ∈ statement.params, ¬ v.isScalar := by
    simpa only [Statement.Scalar, not_forall, exists_prop] using h
  have hnone : v.toScalar? = none := by
    cases v with
    | list items => rfl
    | null | bool | int | float | text | blob => exact absurd rfl hlist
  rw [bindAll, mapM_eq_none hnone hv]

section

variable {b : Backend σ} {statement : Statement} {c c' : Connection σ}

/-- Nothing is sent with a list among the parameters. -/
theorem execute_refused (h : ¬ statement.Scalar) : execute b statement c = (.error listBound, c) := by
  rw [execute, bindAll_eq_error h]

theorem fetchAll_refused (h : ¬ statement.Scalar) :
    fetchAll b statement c = (.error listBound, c) := by
  rw [fetchAll, bindAll_eq_error h]

/-- An outcome is made of the report of the backend. -/
theorem execute_eq_ok {outcome : Outcome} (h : execute b statement c = (.ok outcome, c')) :
    ∃ scalars report, bindAll statement.params = .ok scalars
      ∧ (b.execute statement.sql scalars c.database).1 = .ok report
      ∧ outcome = Connection.outcome statement.sql report := by
  unfold execute at h
  split at h
  · cases h
  next scalars hscalars =>
    split at h
    · cases h
    next report database hreport =>
      cases h
      exact ⟨scalars, report, hscalars, by rw [hreport], rfl⟩

end

/-! ## The last key -/

/-- A connection remembers the key that was reported most recently, and none before the first one.
Only an outcome with a key changes it: neither failures nor queries do, and with a list among the
parameters nothing is sent at all.  A key is reported if and only if the statement begins with one
of the words that insert, it affects rows, and there is a key: a MySQL server reports a positive
number in the range of signed words, which is the key, and an SQLite database always reports one. -/
theorem last_key_exact :
    (∀ b : Backend σ, b.driver.RemembersKeys
        ∧ (∀ (db : σ) (outcomes : List Outcome) (c : Connection σ),
            b.driver.History { database := db } outcomes c →
            b.driver.lastInsertId c = recentKey? outcomes)
        ∧ ∀ (statement : Statement) (c : Connection σ), ¬ statement.Scalar →
            b.driver.execute statement c = (.error listBound, c)
              ∧ b.driver.fetchAll statement c = (.error listBound, c))
      ∧ (∀ (server : Mysql.Server σ) (statement : Statement) (outcome : Outcome)
          (c c' : Connection σ),
          (Mysql.backend server).driver.execute statement c = (.ok outcome, c') →
          ∃ scalars answer, bindAll statement.params = .ok scalars
            ∧ (server.execute statement.sql scalars c.database).1 = .ok answer
            ∧ outcome.affected = answer.affected
            ∧ ∀ key : Int64, outcome.insertId = some key
              ↔ BeginsInsert statement.sql ∧ 0 < answer.affected
                ∧ 1 ≤ answer.insertId.toNat ∧ answer.insertId.toNat < twoPow 63
                ∧ key.toInt = answer.insertId.toNat)
      ∧ ∀ (engine : Sqlite.Engine σ) (statement : Statement) (outcome : Outcome)
          (c c' : Connection σ),
          engine.backend.driver.execute statement c = (.ok outcome, c') →
          ∃ scalars answer, bindAll statement.params = .ok scalars
            ∧ (engine.execute statement.sql scalars c.database).1 = .ok answer
            ∧ outcome.affected = answer.changes
            ∧ ∀ key : Int64, outcome.insertId = some key
              ↔ BeginsInsert statement.sql ∧ 0 < answer.changes ∧ key = answer.lastNumber := by
  refine ⟨fun b => ⟨b.remembersKeys, fun db outcomes c h => ?_,
      fun statement c h => ⟨execute_refused h, fetchAll_refused h⟩⟩,
    fun server statement outcome c c' h => ?_, fun engine statement outcome c c' h => ?_⟩
  · rw [h.lastInsertId_eq b.remembersKeys]
    exact Option.or_none
  · obtain ⟨scalars, report, hscalars, hreport, rfl⟩ := execute_eq_ok h
    obtain ⟨answer, hanswer, rfl⟩ := map_eq_ok.mp hreport
    refine ⟨scalars, answer, hscalars, mapError_eq_ok.mp hanswer, rfl, fun key => ?_⟩
    rw [outcome_insertId_eq_some_iff]
    exact and_congr_right' (and_congr_right' Mysql.keyOfWord?_eq_some_iff)
  · obtain ⟨scalars, report, hscalars, hreport, rfl⟩ := execute_eq_ok h
    obtain ⟨answer, hanswer, rfl⟩ := map_eq_ok.mp hreport
    refine ⟨scalars, answer, hscalars, hanswer, rfl, fun key => ?_⟩
    rw [outcome_insertId_eq_some_iff]
    exact and_congr_right' (and_congr_right' (Option.some_inj.trans eq_comm))

/-- A server that affects one row with every statement, and reports numbers one after the other. -/
def numberServer : Mysql.Server (List UInt64) where
  execute _ _ numbers := (.ok ⟨1, numbers.headD 0⟩, numbers.tail)
  fetchAll _ _ numbers := (.ok [], numbers)

/-- A database that affects one row with every statement, and counts the rows. -/
def countingEngine : Sqlite.Engine Int64 where
  execute _ _ n := (.ok ⟨1, n⟩, n + 1)
  fetchAll _ _ n := (.ok [], n)

/-- A server that has three numbers to report, and no last key. -/
def threeNumbers : Connection (List UInt64) := { database := [5, 9223372036854775808, 7] }

/-- An insert with a key, one with a number that is too large for a key, a list that is not bound, a
query, and a statement that only updates.  The key of the first is remembered all the time.  A
database that counts from zero reports even this as a key. -/
theorem last_key_exact_largeNumber :
    (Mysql.backend numberServer).driver.History threeNumbers
        [⟨1, some 5⟩, ⟨1, none⟩, ⟨1, none⟩] ⟨[], some 5⟩
      ∧ (Mysql.backend numberServer).driver.lastInsertId ⟨[], some 5⟩ = some 5
      ∧ BeginsInsert "\u3000inSERT INTO t VALUES (1)"
      ∧ BeginsInsert "REPLACE INTO t VALUES (1)" := by
  obtain ⟨hconnection, hserver, -⟩ := @last_key_exact (List UInt64)
  obtain ⟨-, hrecent, hlist⟩ := hconnection (Mysql.backend numberServer)
  have hkey : (Mysql.backend numberServer).driver.execute
      (.plain "\u3000inSERT INTO t VALUES (1)") threeNumbers
        = (.ok ⟨1, some 5⟩, ⟨[9223372036854775808, 7], some 5⟩) := by rfl
  have hlarge : (Mysql.backend numberServer).driver.execute (.plain "REPLACE INTO t VALUES (1)")
      ⟨[9223372036854775808, 7], some 5⟩ = (.ok ⟨1, none⟩, ⟨[7], some 5⟩) := by rfl
  have hrefused := hlist ⟨"INSERT INTO t VALUES (?)", [.list []]⟩ ⟨[7], some 5⟩ (by decide)
  have hquery : (Mysql.backend numberServer).driver.fetchAll (.plain "SELECT 1") ⟨[7], some 5⟩
      = (.ok [], ⟨[7], some 5⟩) := by rfl
  have hupdate : (Mysql.backend numberServer).driver.execute (.plain "UPDATE t SET a = 1")
      ⟨[7], some 5⟩ = (.ok ⟨1, none⟩, ⟨[], some 5⟩) := by rfl
  have hhistory : (Mysql.backend numberServer).driver.History threeNumbers
      [⟨1, some 5⟩, ⟨1, none⟩, ⟨1, none⟩] ⟨[], some 5⟩ :=
    .accepted (.fetched (.rejected (.accepted (.accepted .start hkey) hlarge) hrefused.1) hquery)
      hupdate
  obtain ⟨_, _, _, _, _, hreported⟩ := hserver numberServer _ _ _ _ hkey
  obtain ⟨-, -, hengine⟩ := @last_key_exact Int64
  have hcounted : countingEngine.backend.driver.execute (.plain "REPLACE INTO t VALUES (1)")
      { database := 0 } = (.ok ⟨1, some 0⟩, ⟨1, some 0⟩) := by rfl
  obtain ⟨_, _, _, _, _, hnumbered⟩ := hengine countingEngine _ _ _ _ hcounted
  exact ⟨hhistory, (hrecent _ _ _ hhistory).trans rfl, ((hreported 5).mp rfl).1,
    ((hnumbered 0).mp rfl).1⟩

end Connection

end BoundSql
