import BoundSql.CommandLine.Program
import BoundSql.Proofs.Json.Value
import BoundSql.Proofs.Text.Split

/-!
# Conditions of the command line

A condition is a column and a raw text, with an equals sign between them that is the first one
(`readFilter_append`).  The raw text is read as the value that it denotes, and it is a text itself
if it denotes none.  So every value can be written in a condition, and what is no JSON is never
taken for anything but a text (`readFilter_exact`).
-/

namespace BoundSql.CommandLine

variable {column raw : String} {v : Value}

/-- The condition is cut at its first equals sign. -/
theorem readFilter_append (hcolumn : '=' ∉ column.toList) (raw : String) :
    readFilter (column ++ "=" ++ raw)
      = .ok (Text.trim column, (Value.ofJson raw).toOption.getD (.text raw)) := by
  have htext : (column ++ "=" ++ raw).toList = column.toList ++ '=' :: raw.toList := by simp
  rw [readFilter, htext, Text.cutAt_append hcolumn]
  simp only [String.ofList_toList]

theorem readFilter_of_not_mem {s : String} (h : '=' ∉ s.toList) :
    readFilter s = .error (.notAFilter s) := by
  rw [readFilter, Text.cutAt_of_not_mem h]

theorem readFilter_of_denotedBy (hcolumn : '=' ∉ column.toList) (h : v.DenotedBy raw) :
    readFilter (column ++ "=" ++ raw) = .ok (Text.trim column, v) := by
  rw [readFilter_append hcolumn, Value.ofJson_eq_ok_iff.mpr h]
  rfl

theorem readFilter_of_not_denotedBy (hcolumn : '=' ∉ column.toList)
    (h : ∀ v : Value, ¬ v.DenotedBy raw) :
    readFilter (column ++ "=" ++ raw) = .ok (Text.trim column, .text raw) := by
  rw [readFilter_append hcolumn]
  cases hread : Value.ofJson raw with
  | error fault => rfl
  | ok v => exact absurd (Value.ofJson_eq_ok_iff.mp hread) (h v)

/-- What is bound is denoted, or it is the raw text of a condition that denotes nothing. -/
theorem readFilter_eq_ok_iff (hcolumn : '=' ∉ column.toList) :
    readFilter (column ++ "=" ++ raw) = .ok (Text.trim column, v)
      ↔ v.DenotedBy raw ∨ (∀ u : Value, ¬ u.DenotedBy raw) ∧ v = .text raw := by
  by_cases h : ∃ u : Value, u.DenotedBy raw
  · obtain ⟨u, hu⟩ := h
    rw [readFilter_of_denotedBy hcolumn hu, Except.ok.injEq, Prod.mk.injEq, and_iff_right rfl,
      ← Value.ofJson_eq_ok_iff, Value.ofJson_eq_ok_iff.mpr hu, Except.ok.injEq]
    exact (or_iff_left fun hnone => hnone.1 u hu).symm
  · have hnone := not_exists.mp h
    rw [readFilter_of_not_denotedBy hcolumn hnone, Except.ok.injEq, Prod.mk.injEq,
      and_iff_right rfl, or_iff_right (hnone v), and_iff_right hnone, eq_comm]

/-- What stands in front of the first equals sign, and what stands behind it. -/
theorem exists_eq_append {s : String} (h : '=' ∈ s.toList) :
    ∃ column raw, '=' ∉ column.toList ∧ s = column ++ "=" ++ raw := by
  obtain ⟨front, back, hs, hfront⟩ := List.eq_append_cons_of_mem h
  refine ⟨.ofList front, .ofList back, by rwa [String.toList_ofList], ?_⟩
  rw [← String.toList_inj, hs]
  simp

/-- Conditions fail only for want of an equals sign. -/
theorem readFilter_eq_error_iff {s : String} {failure : ProgramFailure} :
    readFilter s = .error failure ↔ '=' ∉ s.toList ∧ failure = .notAFilter s := by
  by_cases h : '=' ∈ s.toList
  · obtain ⟨column, raw, hcolumn, rfl⟩ := exists_eq_append h
    rw [readFilter_append hcolumn]
    exact iff_of_false (fun herror => nomatch herror) fun h' => h'.1 h
  · rw [readFilter_of_not_mem h, Except.error.injEq, eq_comm]
    exact (and_iff_right h).symm

/-- A condition on a column binds any value that is written behind the equals sign, doubles and
blobs apart, and any value at all that the raw text denotes.  A raw text that denotes no value is
bound as it is, and so is one that is no JSON.  An integer is bound if and only if it is written
there with nothing but blanks around it.  A condition fails if and only if there is no equals
sign. -/
theorem readFilter_exact :
    (∀ column : String, '=' ∉ column.toList →
        (∀ v : Value, v.FloatFree → v.BlobFree → v.toJson.depth ≤ 127 →
          readFilter (column ++ "=" ++ v.toJson.compact) = .ok (Text.trim column, v))
        ∧ (∀ (raw : String) (v : Value), v.DenotedBy raw →
          readFilter (column ++ "=" ++ raw) = .ok (Text.trim column, v))
        ∧ (∀ raw : String, (∀ v : Value, ¬ v.DenotedBy raw) →
          readFilter (column ++ "=" ++ raw) = .ok (Text.trim column, .text raw))
        ∧ (∀ raw : String, ¬ Json.Valid raw →
          readFilter (column ++ "=" ++ raw) = .ok (Text.trim column, .text raw))
        ∧ ∀ (raw : String) (w : Int64),
          readFilter (column ++ "=" ++ raw) = .ok (Text.trim column, .int w)
            ↔ ∃ front back, (∀ c ∈ front, Json.isSpace c = true)
              ∧ (∀ c ∈ back, Json.isSpace c = true)
              ∧ raw.toList = front ++ ((toString w.toInt).toList ++ back))
      ∧ ∀ (s : String) (failure : ProgramFailure),
        readFilter s = .error failure ↔ '=' ∉ s.toList ∧ failure = .notAFilter s := by
  refine ⟨fun column hcolumn => ⟨fun v hfloat hblob hdepth => ?_, fun raw v h => ?_,
    fun raw h => ?_, fun raw h => ?_, fun raw w => ?_⟩, fun s failure => readFilter_eq_error_iff⟩
  · have hdenoted := Value.denotedBy_compact hfloat hdepth
    rw [Value.normal_of_blobFree hblob] at hdenoted
    exact readFilter_of_denotedBy hcolumn hdenoted
  · exact readFilter_of_denotedBy hcolumn h
  · exact readFilter_of_not_denotedBy hcolumn h
  · refine readFilter_of_not_denotedBy hcolumn fun v hdenoted => h ?_
    obtain ⟨j, hspelled, -, -⟩ := hdenoted
    exact Json.valid_of_spelledBy hspelled
  · rw [readFilter_eq_ok_iff hcolumn, ← Value.int_denotedBy_iff]
    exact or_iff_left fun hnone => nomatch hnone.2

/-- A list of what looks like something else without quotes. -/
def quotedValue : Value := .list [.text "10", .text "null", .text "a=\"b\"", .null, .int (-7)]

/-- What is quoted is bound as a text, and so is what is no JSON. -/
theorem readFilter_exact_quoted :
    readFilter (" a " ++ "=" ++ quotedValue.toJson.compact) = .ok ("a", quotedValue)
      ∧ quotedValue.toJson.compact = "[\"10\",\"null\",\"a=\\\"b\\\"\",null,-7]"
      ∧ readFilter ("a" ++ "=" ++ "b=c ") = .ok ("a", .text "b=c ")
      ∧ readFilter "a" = .error (.notAFilter "a") := by
  obtain ⟨hbinds, hfails⟩ := readFilter_exact
  refine ⟨(hbinds " a " (by decide)).1 quotedValue ?_ ?_ (by decide), by decide,
    (hbinds "a" (by decide)).2.2.2.1 "b=c " ?_, (hfails "a" _).mpr ⟨by decide, rfl⟩⟩
  · refine Value.floatFree_list fun v hv => ?_
    simp only [List.mem_cons, List.not_mem_nil, or_false] at hv
    rcases hv with rfl | rfl | rfl | rfl | rfl <;> exact Value.floatFree_of_isScalar rfl nofun
  · refine Value.blobFree_list fun v hv => ?_
    simp only [List.mem_cons, List.not_mem_nil, or_false] at hv
    rcases hv with rfl | rfl | rfl | rfl | rfl <;> exact Value.blobFree_of_isScalar rfl nofun
  · rintro ⟨rest, hphrase, -⟩
    obtain ⟨c, cs, hnext, hc⟩ := hphrase.head
    cases (List.cons.inj hnext).1
    exact absurd hc (by decide)

end BoundSql.CommandLine
