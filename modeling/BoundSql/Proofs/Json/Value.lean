import BoundSql.Json.Rows
import BoundSql.Proofs.Json.Reader
import BoundSql.Proofs.Json.Written
import BoundSql.Proofs.Refusal
import Mathlib.Data.List.Forall2

/-!
# Values and their documents

Every document without objects is a value (`Json.toValue?`), and reading a text gives the value of
the document that the text spells (`reads_content`, `readsOnly_content`), as long as the document
is not nested too deeply.  No value of a document holds a blob.

The document of a value is a document of its *normal form* (`toValue?_toJson`), in which every
blob has become the list of its bytes.  Doubles are left out here: `Value.FloatFree`.

So a whole text is read as the value that it denotes and as no other (`Value.ofJson_eq_ok_iff`).
-/

namespace BoundSql

/-! ## The values inside a value -/

namespace Value

/-- A value is another one or stands somewhere inside of it. -/
inductive Occurs (u : Value) : Value → Prop
  | self : Occurs u u
  | item {v : Value} {vs : List Value} : v ∈ vs → Occurs u v → Occurs u (.list vs)

/-- There is no double in the value. -/
def FloatFree (v : Value) : Prop := ∀ x, ¬ Occurs (.float x) v

/-- There is no blob in the value. -/
def BlobFree (v : Value) : Prop := ∀ bytes, ¬ Occurs (.blob bytes) v

/-- Nothing else stands inside of a value that is not a list. -/
theorem occurs_of_isScalar {u v : Value} (hv : v.isScalar = true) (h : Occurs u v) : u = v := by
  cases h with
  | self => rfl
  | item => cases hv

theorem floatFree_of_isScalar {v : Value} (hv : v.isScalar = true) (h : ∀ x, v ≠ .float x) :
    v.FloatFree :=
  fun x hx => h x (occurs_of_isScalar hv hx).symm

theorem floatFree_list {vs : List Value} (h : ∀ v ∈ vs, v.FloatFree) : FloatFree (.list vs) := by
  intro x hx
  cases hx with
  | item hv hoccurs => exact h _ hv x hoccurs

theorem FloatFree.item {vs : List Value} (h : FloatFree (.list vs)) {v : Value} (hv : v ∈ vs) :
    v.FloatFree :=
  fun x hx => h x (.item hv hx)

theorem blobFree_of_isScalar {v : Value} (hv : v.isScalar = true) (h : ∀ bytes, v ≠ .blob bytes) :
    v.BlobFree :=
  fun bytes hbytes => h bytes (occurs_of_isScalar hv hbytes).symm

theorem blobFree_list {vs : List Value} (h : ∀ v ∈ vs, v.BlobFree) : BlobFree (.list vs) := by
  intro bytes hblob
  cases hblob with
  | item hv hoccurs => exact h _ hv bytes hoccurs

theorem BlobFree.item {vs : List Value} (h : BlobFree (.list vs)) {v : Value} (hv : v ∈ vs) :
    v.BlobFree :=
  fun bytes hbytes => h bytes (.item hv hbytes)

/-- Induction over a value. -/
theorem induction {motive : Value → Prop} (null : motive .null) (bool : ∀ b, motive (.bool b))
    (int : ∀ n, motive (.int n)) (float : ∀ x, motive (.float x)) (text : ∀ s, motive (.text s))
    (list : ∀ vs : List Value, (∀ v ∈ vs, motive v) → motive (.list vs))
    (blob : ∀ bytes, motive (.blob bytes)) : ∀ v, motive v
  | .null => null
  | .bool b => bool b
  | .int n => int n
  | .float x => float x
  | .text s => text s
  | .list vs => list vs fun v hv =>
      have := List.sizeOf_lt_of_mem hv
      induction null bool int float text list blob v
  | .blob bytes => blob bytes
termination_by v => sizeOf v
decreasing_by
  rw [Value.list.sizeOf_spec]
  omega

/-! ## Normal form -/

/-- A byte as an integer. -/
def ofByte (b : UInt8) : Value := .int (.ofInt b.toNat)

/-- Every blob becomes the list of its bytes. -/
def normal : Value → Value
  | .list vs => .list (normals vs)
  | .blob bytes => .list (bytes.map ofByte)
  | v => v
where
  /-- The items of a list in normal form. -/
  normals : List Value → List Value
    | [] => []
    | v :: vs => v.normal :: normals vs

theorem normals_eq_map (vs : List Value) : normal.normals vs = vs.map normal := by
  induction vs with
  | nil => rfl
  | cons v vs ih => rw [normal.normals, ih, List.map_cons]

/-- A value without blobs is in normal form. -/
theorem normal_of_blobFree {v : Value} (h : v.BlobFree) : v.normal = v := by
  induction v using Value.induction with
  | list vs ih =>
    rw [normal, normals_eq_map, List.map_congr_left fun v hv => ih v hv (h.item hv), List.map_id']
  | blob bytes => exact absurd .self (h bytes)
  | _ => rfl

theorem toJsons_eq_map (vs : List Value) : toJson.toJsons vs = vs.map toJson := by
  induction vs with
  | nil => rfl
  | cons v vs ih => rw [toJson.toJsons, ih, List.map_cons]

end Value

/-! ## The value of a document -/

namespace Json

/-- The value of a document that holds no object. -/
def toValue? : Json → Option Value
  | .null => some .null
  | .bool b => some (.bool b)
  | .integer n => some (Number.integer n).toValue
  | .float x => some (.float x)
  | .string s => some (.text s)
  | .array js => allOf (items js)
  | .object _ => none
where
  /-- The values of the items of an array. -/
  items : List Json → List (Option Value)
    | [] => []
    | j :: js => j.toValue? :: items js

theorem toValue?_items (js : List Json) : toValue?.items js = js.map toValue? := by
  induction js with
  | nil => rfl
  | cons j js ih => rw [toValue?.items, ih, List.map_cons]

theorem allOf_eq_some {vs : List (Option Value)} {v : Value} :
    allOf vs = some v ↔ ∃ us, v = .list us ∧ vs = us.map some := by
  rw [allOf, Option.map_eq_some_iff]
  constructor
  · rintro ⟨us, hus, rfl⟩
    exact ⟨us, rfl, List.map_id vs ▸ mapM_eq_some_iff.mp hus⟩
  · rintro ⟨us, rfl, hus⟩
    exact ⟨us, mapM_eq_some_iff.mpr ((List.map_id vs).trans hus), rfl⟩

/-- A document has no bytes to make a blob of. -/
theorem blobFree_of_toValue? {j : Json} {v : Value} (h : j.toValue? = some v) : v.BlobFree := by
  induction j using Json.induction generalizing v with
  | integer n =>
    cases h
    rw [Number.toValue]
    split <;> exact Value.blobFree_of_isScalar rfl nofun
  | array js ih =>
    rw [toValue?, toValue?_items] at h
    obtain ⟨vs, rfl, hvs⟩ := allOf_eq_some.mp h
    refine Value.blobFree_list fun u hu => ?_
    have hmem : some u ∈ js.map toValue? := hvs ▸ List.mem_map_of_mem hu
    obtain ⟨j, hj, hvalue⟩ := List.mem_map.mp hmem
    exact ih j hj hvalue
  | object ms => cases h
  | _ =>
    cases h
    exact Value.blobFree_of_isScalar rfl nofun

/-! ## Reading a value -/

section

variable {budget depth : Nat} {cs rest : List Char} {v? : Option Value} {j : Json}
  {a o : Reader (Option Value)}

theorem contentWith_array {cs' : List Char} (h : Next '[' cs cs') :
    contentWith a o cs = a ('[' :: cs') :=
  (bind_peek h).trans rfl

theorem contentWith_object {cs' : List Char} (h : Next '\x7b' cs cs') :
    contentWith a o cs = o ('\x7b' :: cs') :=
  (bind_peek h).trans rfl

theorem contentWith_number {n : Number} (h : readNumber (cs.dropWhile isSpace) = .ok (n, rest)) :
    contentWith a o cs = .ok (some n.toValue, rest) := by
  obtain ⟨c, cs', hcs, hc⟩ := head_of_readNumber h
  have hne : ∀ {d : Char}, (d = '-' || isDigit d) = false → c ≠ d := by
    rintro d hd rfl
    rw [hd] at hc
    cases hc
  rw [hcs] at h
  rw [contentWith, bind_peek hcs, if_neg (hne (by decide)), if_neg (hne (by decide)),
    if_neg (hne (by decide)), if_neg (hne (by decide)), if_neg (hne (by decide)),
    if_neg (hne (by decide)), if_pos hc, bind_of_ok h]
  rfl

/-- What is neither an array nor an object is read as it is. -/
theorem contentWith_scalar (hj : j.depth = 0) (h : j.Spelled cs rest) :
    contentWith a o cs = .ok (j.toValue?, rest) := by
  cases j with
  | null => exact (bind_peek h).trans bind_word
  | bool b =>
    cases b with
    | true => exact (bind_peek h).trans bind_word
    | false => exact (bind_peek h).trans bind_word
  | integer n => exact contentWith_number h
  | float x => exact contentWith_number h
  | string s =>
    obtain ⟨cs', hnext, htext⟩ := h
    exact (bind_peek hnext).trans (bind_advance.trans (bind_stringBody htext))
  | array js => cases hj
  | object ms => cases hj

theorem contentWith_eq_ok (h : contentWith a o cs = .ok (v?, rest)) :
    (∃ j : Json, j.Spelled cs rest ∧ j.depth = 0 ∧ v? = j.toValue?)
      ∨ (∃ cs', Next '[' cs cs' ∧ a ('[' :: cs') = .ok (v?, rest))
      ∨ ∃ cs', Next '\x7b' cs cs' ∧ o ('\x7b' :: cs') = .ok (v?, rest) := by
  obtain ⟨c, cs', hnext, h⟩ := bind_peek_eq_ok.mp h
  have hword : ∀ {es : List Char} {v : Option Value},
      (word es >>= fun _ => pure v : Reader (Option Value)) (c :: cs') = .ok (v?, rest) →
        cs.dropWhile isSpace = es ++ rest ∧ v? = v := by
    intro es v h
    obtain ⟨u, cs'', hu, h⟩ := bind_eq_ok.mp h
    cases h
    exact ⟨hnext.trans (word_eq_ok.mp hu), rfl⟩
  split at h
  next => exact .inl ⟨.null, (hword h).1, rfl, (hword h).2⟩
  next =>
    split at h
    next => exact .inl ⟨.bool true, (hword h).1, rfl, (hword h).2⟩
    next =>
      split at h
      next => exact .inl ⟨.bool false, (hword h).1, rfl, (hword h).2⟩
      next =>
        split at h
        next hc =>
          rw [bind_advance] at h
          obtain ⟨s, cs'', hs, h⟩ := bind_eq_ok.mp h
          cases h
          subst hc
          exact .inl ⟨.string s, ⟨cs', hnext, stringBody_eq_ok.mp hs⟩, rfl, rfl⟩
        next =>
          split at h
          next hc =>
            subst hc
            exact .inr (.inl ⟨cs', hnext, h⟩)
          next =>
            split at h
            next hc =>
              subst hc
              exact .inr (.inr ⟨cs', hnext, h⟩)
            next =>
              split at h
              next =>
                obtain ⟨n, cs'', hn, h⟩ := bind_eq_ok.mp h
                cases h
                rw [← hnext] at hn
                cases n with
                | integer n => exact .inl ⟨.integer n, hn, rfl, rfl⟩
                | float x => exact .inl ⟨.float x, hn, rfl, rfl⟩
              next => cases h

theorem eq_map_of_forall₂ {js : List Json} {vs : List (Option Value)}
    (h : List.Forall₂ (fun j v? => v? = j.toValue?) js vs) : vs = js.map toValue? := by
  induction h with
  | nil => rfl
  | cons hv _ ih => rw [hv, ih, List.map_cons]

theorem foldlM_unit (ms : List (String × Json)) : ms.foldlM (fun _ _ => some ()) () = some () := by
  induction ms with
  | nil => rfl
  | cons m ms ih => exact ih

theorem forall_of_foldlM_unit {p : String × Json → Prop} [DecidablePred p]
    {ms : List (String × Json)}
    (h : ms.foldlM (fun _ m => if p m then some () else none) () = some ()) : ∀ m ∈ ms, p m := by
  induction ms with
  | nil => exact nofun
  | cons m ms ih =>
    rw [List.foldlM_cons] at h
    obtain ⟨_, hm, hms⟩ := Option.bind_eq_some_iff.mp h
    exact List.forall_mem_cons.mpr ⟨(Option.ite_none_right_eq_some.mp hm).1, ih hms⟩

/-- A document that is not nested too deeply is read as its value. -/
theorem reads_content (h : j.depth ≤ depth) : Reads budget (content budget depth) j j.toValue? := by
  induction j using Json.induction generalizing depth with
  | array js ih =>
    rintro cs rest hbudget ⟨cs', hnext, hjs⟩
    cases depth with
    | zero => cases h
    | succ depth =>
      have hitems : List.Forall₂ (Reads budget (content budget depth)) js (js.map toValue?) := by
        rw [List.forall₂_map_right_iff, List.forall₂_same]
        exact fun j hj => ih j hj (depth_items_le.mp (Nat.le_of_succ_le_succ h) j hj)
      have hlength := hnext.length_lt
      rw [content, contentWith_array hnext, bind_advance, toValue?, toValue?_items]
      exact map_of_ok (items_of_spelled hitems (by omega) hjs)
  | object ms ih =>
    rintro cs rest hbudget ⟨cs', hnext, hms⟩
    cases depth with
    | zero => cases h
    | succ depth =>
      have hlength := hnext.length_lt
      have htakes : ∀ m ∈ ms, Takes budget
          (fun (_ : Unit) _ => do colon; let _ ← content budget depth) id
          (fun _ _ => some ()) m := by
        rintro m hm acc acc' cs cs' rest - hbudget hcolon hj
        have hlength := hcolon.length_lt
        have hdepth := depth_members_le.mp (Nat.le_of_succ_le_succ h) m hm
        refine (bind_colon hcolon).trans ?_
        exact bind_of_ok (ih m hm hdepth cs' rest (by omega) hj)
      rw [content, contentWith_object hnext, bind_advance,
        bind_of_ok (members_of_spelled htakes (by omega) hms (foldlM_unit ms))]
      rfl
  | _ =>
    intro cs rest _ hspelled
    cases depth <;> exact contentWith_scalar rfl hspelled

/-- What has been read as a value is a document of that value that is not nested too deeply. -/
theorem readsOnly_content :
    ReadsOnly (content budget depth) fun j v? => j.depth ≤ depth ∧ v? = j.toValue? := by
  induction depth with
  | zero =>
    intro cs rest v? h
    rcases contentWith_eq_ok h with ⟨j, hj, hdepth, hv⟩ | ⟨_, _, h⟩ | ⟨_, _, h⟩
    · exact ⟨j, hj, Nat.le_of_eq hdepth, hv⟩
    · cases h
    · cases h
  | succ depth ih =>
    intro cs rest v? h
    rcases contentWith_eq_ok h with ⟨j, hj, hdepth, hv⟩ | ⟨cs', hnext, h⟩ | ⟨cs', hnext, h⟩
    · exact ⟨j, hj, by omega, hv⟩
    · rw [bind_advance] at h
      obtain ⟨vs, hvs, rfl⟩ := map_eq_ok.mp h
      obtain ⟨js, hjs, hall⟩ := spelled_of_items ih hvs
      obtain ⟨hdepth, hall⟩ := (List.forall₂_and_left js vs).mp hall
      refine ⟨.array js, ⟨cs', hnext, hjs⟩, Nat.succ_le_succ (depth_items_le.mpr hdepth), ?_⟩
      show allOf vs = allOf (toValue?.items js)
      rw [eq_map_of_forall₂ hall, toValue?_items]
    · rw [bind_advance] at h
      have htakes : TakesOnly (fun (_ : Unit) _ => do colon; let _ ← content budget depth)
          (fun _ m => if m.2.depth ≤ depth then some () else none) := by
        intro acc acc' name cs rest h
        obtain ⟨_, cs', hcolon, h⟩ := bind_eq_ok.mp h
        obtain ⟨v?, cs'', hv, h⟩ := bind_eq_ok.mp h
        cases h
        obtain ⟨j, hj, hdepth, -⟩ := ih _ _ _ hv
        exact ⟨j, cs', colon_eq_ok.mp hcolon, hj, if_pos hdepth⟩
      obtain ⟨_, cs'', hmembers, h⟩ := bind_eq_ok.mp h
      cases h
      obtain ⟨ms, hms, hguards⟩ := spelled_of_members htakes hmembers
      have hdepth := depth_members_le.mpr (forall_of_foldlM_unit hguards)
      exact ⟨.object ms, ⟨cs', hnext, hms⟩, Nat.succ_le_succ hdepth, rfl⟩

/-- A value is read inside of other arrays and objects. -/
theorem reads_valueAt {outer : Nat} {v : Value} (hv : j.toValue? = some v)
    (hdepth : j.depth + outer ≤ maxDepth) : Reads budget (valueAt outer budget) j v := by
  intro cs rest hbudget hj
  rw [valueAt, bind_of_ok (reads_content (by omega) cs rest hbudget hj), hv]
  rfl

theorem readsOnly_valueAt {outer : Nat} :
    ReadsOnly (valueAt outer budget) fun j v =>
      j.depth ≤ maxDepth - outer ∧ j.toValue? = some v := by
  intro cs rest v h
  obtain ⟨v?, cs', hcontent, h⟩ := bind_eq_ok.mp h
  obtain ⟨j, hj, hdepth, rfl⟩ := readsOnly_content _ _ _ hcontent
  cases hv : j.toValue? with
  | none =>
    rw [hv] at h
    cases h
  | some u =>
    rw [hv] at h
    cases h
    exact ⟨j, hj, hdepth, hv⟩

end

/-! ## Writing a value -/

theorem toWord?_byte (b : UInt8) : toWord? b.toNat = some (.ofInt b.toNat) := by
  have hb := b.toNat_lt
  have hlow : Int64.minValue.toInt ≤ b.toNat := Int.le_trans (by decide) (Int.natCast_nonneg _)
  have hhigh : (b.toNat : Int) ≤ Int64.maxValue.toInt := by
    refine Int.le_trans (b := 255) ?_ (by decide)
    omega
  rw [toWord?, if_pos ⟨hlow, hhigh⟩]

/-- The document of a value is a document of its normal form. -/
theorem toValue?_toJson (v : Value) : v.toJson.toValue? = some v.normal := by
  induction v using Value.induction with
  | int n =>
    show some (Number.integer n.toInt).toValue = some (.int n)
    rw [Number.toValue, toWord?_eq_some_iff.mpr rfl]
  | list vs ih =>
    rw [Value.toJson, Value.toJsons_eq_map, toValue?, toValue?_items, Value.normal,
      Value.normals_eq_map, List.map_map]
    refine allOf_eq_some.mpr ⟨_, rfl, ?_⟩
    rw [List.map_map]
    exact List.map_congr_left ih
  | blob bytes =>
    rw [Value.toJson, toValue?, toValue?_items, Value.normal, List.map_map]
    refine allOf_eq_some.mpr ⟨_, rfl, ?_⟩
    rw [List.map_map]
    refine List.map_congr_left fun b _ => ?_
    show some (Number.integer b.toNat).toValue = some (.ofByte b)
    rw [Number.toValue, toWord?_byte]
    rfl
  | _ => rfl

theorem integral_toJson {v : Value} (h : v.FloatFree) : v.toJson.Integral := by
  induction v using Value.induction with
  | null => exact .null
  | bool b => exact .bool b
  | int n =>
    exact .integer n.le_toInt (Int.lt_trans n.toInt_lt (by decide))
  | float x => exact absurd .self (h x)
  | text s => exact .string s
  | list vs ih =>
    rw [Value.toJson, Value.toJsons_eq_map]
    refine .array fun j hj => ?_
    obtain ⟨v, hv, rfl⟩ := List.mem_map.mp hj
    exact ih v hv (h.item hv)
  | blob bytes =>
    refine .array fun j hj => ?_
    obtain ⟨b, _, rfl⟩ := List.mem_map.mp hj
    have hb : (b.toNat : Int) < 256 := Int.ofNat_lt.mpr b.toNat_lt
    exact .integer (Int.le_trans (by decide) (Int.natCast_nonneg _)) (Int.lt_trans hb (by decide))

end Json

/-! ## Whole texts -/

/-- The text spells a document of the value that is not nested too deeply. -/
def Value.DenotedBy (v : Value) (s : String) : Prop :=
  ∃ j : Json, j.SpelledBy s ∧ j.depth ≤ 127 ∧ j.toValue? = some v

/-- A text is read as the value that it denotes. -/
theorem Value.ofJson_eq_ok_iff {v : Value} {s : String} : ofJson s = .ok v ↔ v.DenotedBy s := by
  constructor
  · intro h
    obtain ⟨j, hs, hdepth, hv⟩ := Json.spelledBy_of_readText (fun _ => Json.readsOnly_valueAt) h
    exact ⟨j, hs, hdepth, hv⟩
  · rintro ⟨j, hs, hdepth, hv⟩
    exact Json.readText_of_spelledBy (Json.reads_valueAt hv hdepth) hs

/-- What is written for a value without doubles denotes its normal form. -/
theorem Value.denotedBy_compact {v : Value} (h : v.FloatFree) (hdepth : v.toJson.depth ≤ 127) :
    v.normal.DenotedBy v.toJson.compact :=
  ⟨v.toJson, Json.spelledBy_compact (Json.integral_toJson h), hdepth, Json.toValue?_toJson v⟩

theorem Json.eq_integer_of_toValue? {j : Json} {w : Int64} (h : j.toValue? = some (.int w)) :
    j = .integer w.toInt := by
  cases j with
  | integer n =>
    rw [toValue?, Option.some_inj, Number.toValue] at h
    split at h
    next hword =>
      cases h
      rw [toWord?_eq_some_iff.mp hword]
    next => cases h
  | array js =>
    obtain ⟨_, hlist, -⟩ := allOf_eq_some.mp h
    cases hlist
  | _ => cases h

theorem Json.ends_of_isSpace {cs : List Char} (h : ∀ c ∈ cs, isSpace c = true) : Ends cs := by
  intro c hc
  have hspace := h c (List.mem_of_mem_head? hc)
  simp only [isSpace, Bool.or_eq_true, beq_iff_eq] at hspace
  rcases hspace with ((rfl | rfl) | rfl) | rfl <;> decide

/-- A text denotes an integer if and only if it consists of the integer as it is written and of
blanks around it. -/
theorem Value.int_denotedBy_iff {w : Int64} {s : String} :
    (Value.int w).DenotedBy s ↔ ∃ front back, (∀ c ∈ front, Json.isSpace c = true)
      ∧ (∀ c ∈ back, Json.isSpace c = true)
      ∧ s.toList = front ++ ((toString w.toInt).toList ++ back) := by
  constructor
  · rintro ⟨j, ⟨rest, hspelled, hrest⟩, -, hv⟩
    obtain rfl := Json.eq_integer_of_toValue? hv
    obtain ⟨-, -, hcs, -⟩ := Json.readNumber_eq_integer_iff.mp hspelled
    refine ⟨s.toList.takeWhile Json.isSpace, rest, fun c => List.mem_takeWhile_imp,
      List.all_eq_true.mp hrest, ?_⟩
    rw [← hcs, List.takeWhile_append_dropWhile]
  · rintro ⟨front, back, hfront, hback, hs⟩
    have hint : (Json.integer w.toInt).Integral :=
      .integer w.le_toInt (Int.lt_trans w.toInt_lt (by decide))
    refine ⟨.integer w.toInt, ⟨back, ?_, List.all_eq_true.mpr hback⟩, Nat.zero_le _,
      Json.toValue?_toJson (.int w)⟩
    rw [hs, ← Json.spelled_dropWhile, List.dropWhile_append_of_pos hfront, Json.spelled_dropWhile]
    exact hint.written back (Json.ends_of_isSpace hback)

end BoundSql
