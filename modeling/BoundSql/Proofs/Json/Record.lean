import BoundSql.Json.Record
import BoundSql.Proofs.Json.Reader
import Mathlib.Data.List.Forall2
import Mathlib.Data.List.Nodup

/-!
# Records and their documents

What the documents of a record are can be said without reading anything.  An `Entry` is a field
with the documents of its value.  An object has the entries in any order, each at most once, among
other members, and entries that are optional may be missing (`ObjectOf`).  An array has the entries
in their order, and optional ones may be missing at its end (`ArrayOf`).

`RecordShape.Follows` ties the fields of a shape to entries.  It asks for what each field does on
its own.  Then the shape reads every document of the record (`reads_record`), whatever the order
of the members.
-/

namespace BoundSql.Json

/-! ## Members that nobody asked for -/

/-- A text, a truth value or `null`. -/
inductive Unread : Json → Prop
  | null : Unread .null
  | bool (b : Bool) : Unread (.bool b)
  | string (s : String) : Unread (.string s)

/-- A text, a truth value or `null` is passed over. -/
theorem reads_skip (budget : Nat) {j : Json} (h : Unread j) : Reads budget (skip budget) j () := by
  intro cs rest _ hj
  rw [skip, skipFrom]
  cases h with
  | null => exact (bind_peek hj).trans bind_word
  | bool b =>
    cases b with
    | true => exact (bind_peek hj).trans bind_word
    | false => exact (bind_peek hj).trans bind_word
  | string s =>
    obtain ⟨cs', hnext, htext⟩ := hj
    exact (bind_peek hnext).trans (bind_advance.trans (bind_of_ok (skipStringBody_of_text htext)))

/-! ## Entries -/

/-- A field of a record and its value. -/
structure Entry where
  name : String
  /-- Another name for the field. -/
  otherName : Option String := none
  /-- The documents of the value. -/
  spelled : Json → Prop
  /-- The field may be missing. -/
  optional : Prop := False

namespace Entry

/-- A field that is there if and only if its value is known. -/
def given {α : Type} (name : String) (value? : Option α) (spelled : α → Json → Prop)
    (otherName : Option String := none) : Entry where
  name
  otherName
  spelled j := ∃ a, value? = some a ∧ spelled a j
  optional := value? = none

/-- The name means the field. -/
def hasName (e : Entry) (name : String) : Bool := e.name == name || e.otherName == some name

/-- The entry that a member belongs to. -/
def of? (es : List Entry) (m : String × Json) : Option Entry := es.find? (·.hasName m.1)

/-- The entries that some members belong to, by name. -/
def met (es : List Entry) (ms : List (String × Json)) : List String :=
  ms.filterMap fun m => (of? es m).map (·.name)

end Entry

/-- The members are those of an object with the entries. -/
structure ObjectOf (es : List Entry) (ms : List (String × Json)) : Prop where
  once : (Entry.met es ms).Nodup
  spelled : ∀ m ∈ ms, ∀ e, Entry.of? es m = some e → e.spelled m.2
  /-- What belongs to no entry. -/
  unread : ∀ m ∈ ms, Entry.of? es m = none → Unread m.2
  missing : ∀ e ∈ es, e.name ∉ Entry.met es ms → e.optional

/-- No entry has the name of one behind it. -/
def Entry.Apart (es : List Entry) : Prop := es.Pairwise fun e e' => e.hasName e'.name = false

theorem Entry.of?_of_mem {es : List Entry} (hapart : Apart es) {e : Entry} (he : e ∈ es)
    (j : Json) : of? es (e.name, j) = some e := by
  induction es with
  | nil => cases he
  | cons e' es ih =>
    obtain ⟨hhead, htail⟩ := List.pairwise_cons.mp hapart
    rw [of?, List.find?_cons]
    cases List.mem_cons.mp he with
    | inl heq => rw [← heq, hasName, beq_self_eq_true, Bool.true_or]
    | inr he =>
      rw [hhead e he]
      exact ih htail he

theorem Entry.Apart.nodup {es : List Entry} (h : Apart es) : (es.map (·.name)).Nodup := by
  refine List.pairwise_map.mpr (h.imp fun {e e'} hname heq => ?_)
  rw [hasName, heq, beq_self_eq_true] at hname
  cases hname

/-- The entries in their order are the members of an object. -/
theorem ObjectOf.of_forall₂ {es : List Entry} {ms : List (String × Json)} (hapart : Entry.Apart es)
    (h : List.Forall₂ (fun e m => e.name = m.1 ∧ e.spelled m.2) es ms) : ObjectOf es ms := by
  -- the entries of the members are looked up among all entries
  have hmet : ∀ {es' ms}, List.Forall₂ (fun e m => e.name = m.1 ∧ e.spelled m.2) es' ms →
      es' ⊆ es → Entry.met es ms = es'.map (·.name)
        ∧ ∀ m ∈ ms, ∃ e, Entry.of? es m = some e ∧ e.spelled m.2 := by
    intro es' ms h hsub
    induction h with
    | nil => exact ⟨rfl, nofun⟩
    | @cons e m es' ms hm _ ih =>
      obtain ⟨hmem, hrest⟩ := List.cons_subset.mp hsub
      obtain ⟨hnames, hspelled⟩ := ih hrest
      obtain ⟨name, j⟩ := m
      obtain ⟨rfl, hj⟩ := hm
      have hof := Entry.of?_of_mem hapart hmem j
      refine ⟨?_, List.forall_mem_cons.mpr ⟨⟨e, hof, hj⟩, hspelled⟩⟩
      rw [Entry.met] at hnames ⊢
      rw [List.filterMap_cons, hof, hnames]
      rfl
  obtain ⟨hnames, hspelled⟩ := hmet h (List.Subset.refl es)
  constructor
  · rw [hnames]
    exact hapart.nodup
  · intro m hm e he
    obtain ⟨e', hof, hj⟩ := hspelled m hm
    rw [hof] at he
    cases he
    exact hj
  · intro m hm hnone
    obtain ⟨e, hof, _⟩ := hspelled m hm
    rw [hof] at hnone
    cases hnone
  · intro e he hmissing
    rw [hnames] at hmissing
    exact absurd (List.mem_map_of_mem he) hmissing

/-- The items are those of an array with the entries. -/
inductive ArrayOf : List Entry → List Json → Prop
  | missing {es : List Entry} : (∀ e ∈ es, e.optional) → ArrayOf es []
  | item {e : Entry} {es : List Entry} {j : Json} {js : List Json} :
      e.spelled j → ArrayOf es js → ArrayOf (e :: es) (j :: js)

/-- The document has the entries. -/
inductive RecordOf (es : List Entry) : Json → Prop
  | object {ms : List (String × Json)} : ObjectOf es ms → RecordOf es (.object ms)
  | array {js : List Json} : ArrayOf es js → RecordOf es (.array js)

/-! ## Fields -/

section

variable {δ α : Type} {shape : RecordShape δ α} {draft : List String → δ} {record : α}
  {es : List Entry} {fields : List (RecordField δ)}

/-- The field reads the value of the entry into the drafts, which are known by the names that have
been read. -/
structure RecordField.For (draft : List String → δ) (f : RecordField δ) (e : Entry) : Prop where
  name : f.name = e.name
  otherName : f.otherName = e.otherName
  isSet : ∀ known, f.isSet (draft known) = decide (e.name ∈ known)
  read : ∀ budget known j, e.spelled j →
    Reads budget (f.read budget (draft known)) j (draft (e.name :: known))

/-- The shape reads the entries of the record. -/
structure RecordShape.Follows (shape : RecordShape δ α) (es : List Entry)
    (draft : List String → δ) (record : α) : Prop where
  start : shape.start = draft []
  fields : List.Forall₂ (RecordField.For draft) shape.fields es
  complete : ∀ missing known, (∀ e ∈ es, e.name ∉ known → e.optional) →
    shape.complete missing (draft known) = .ok record

theorem find?_fields (h : List.Forall₂ (RecordField.For draft) fields es) (m : String × Json) :
    fields.find? (·.hasName m.1) = none ∧ Entry.of? es m = none
      ∨ ∃ f e, fields.find? (·.hasName m.1) = some f ∧ Entry.of? es m = some e
          ∧ RecordField.For draft f e := by
  induction h with
  | nil => exact .inl ⟨rfl, rfl⟩
  | @cons f e fields es hf _ ih =>
    have hname : f.hasName m.1 = e.hasName m.1 := by
      rw [RecordField.hasName, Entry.hasName, hf.name, hf.otherName]
    rw [Entry.of?, List.find?_cons, List.find?_cons, hname]
    cases e.hasName m.1 with
    | true => exact .inr ⟨f, e, rfl, rfl, hf⟩
    | false => exact ih

/-! ## Objects -/

/-- The names that have been read behind one more member. -/
def Entry.meet (es : List Entry) (known : List String) (m : String × Json) :
    Option (List String) :=
  match of? es m with
  | none => some known
  | some e => if e.name ∈ known then none else some (e.name :: known)

theorem foldlM_meet {ms : List (String × Json)} {known : List String}
    (h : (Entry.met es ms ++ known).Nodup) :
    ms.foldlM (Entry.meet es) known = some ((Entry.met es ms).reverse ++ known) := by
  induction ms generalizing known with
  | nil => rfl
  | cons m ms ih =>
    rw [List.foldlM_cons, Entry.meet]
    rw [Entry.met, List.filterMap_cons] at h ⊢
    cases hentry : Entry.of? es m with
    | none =>
      rw [hentry] at h
      exact ih h
    | some e =>
      rw [hentry] at h
      have hmiddle : (Entry.met es ms ++ e.name :: known).Nodup := List.nodup_middle.mpr h
      have hknown : e.name ∉ known := fun hmem =>
        (List.nodup_cons.mp h).1 (List.mem_append_right _ hmem)
      simp only [Option.map_some, if_neg hknown, List.reverse_cons, List.append_assoc]
      exact ih hmiddle

theorem takes_member (h : shape.Follows es draft record) {budget : Nat} {m : String × Json}
    (hspelled : ∀ e, Entry.of? es m = some e → e.spelled m.2)
    (hunread : Entry.of? es m = none → Unread m.2) :
    Takes budget (shape.member budget) draft (Entry.meet es) m := by
  intro known known' cs cs' rest hmeet hbudget hcolon hj
  have hlength := hcolon.length_lt
  rw [Entry.meet] at hmeet
  rcases find?_fields h.fields m with ⟨hfield, hentry⟩ | ⟨f, e, hfield, hentry, hf⟩
  · rw [hentry] at hmeet
    cases hmeet
    simp only [RecordShape.member, hfield]
    refine (bind_colon hcolon).trans ?_
    exact bind_of_ok (reads_skip budget (hunread hentry) cs' rest (by omega) hj)
  · rw [hentry] at hmeet
    by_cases hknown : e.name ∈ known
    · simp only [if_pos hknown] at hmeet
      cases hmeet
    · simp only [if_neg hknown] at hmeet
      cases hmeet
      have hset : ¬ f.isSet (draft known) = true := by
        rw [hf.isSet known, decide_eq_true_eq]
        exact hknown
      simp only [RecordShape.member, hfield, if_neg hset]
      refine (bind_colon hcolon).trans ?_
      exact hf.read budget known m.2 (hspelled e hentry) cs' rest (by omega) hj

/-! ## Arrays -/

/-- The fields that the array has are read in their order. -/
theorem itemsOf_of_spelled (hfields : List.Forall₂ (RecordField.For draft) fields es)
    {js : List Json} (hjs : ArrayOf es js) {budget : Nat} {first : Bool} {cs rest : List Char}
    (known : List String) (hbudget : cs.length ≤ budget) (hcs : Spelled.items js first cs rest) :
    ∃ known' cs', RecordShape.itemsOf budget fields first (draft known) cs
        = .ok (draft known', cs')
      ∧ Next ']' cs' rest ∧ known ⊆ known' ∧ ∀ e ∈ es, e.name ∉ known' → e.optional := by
  induction hjs generalizing fields first cs known with
  | missing hoptional =>
    cases hfields with
    | nil => exact ⟨known, cs, rfl, hcs, List.Subset.refl _, nofun⟩
    | cons hf hfields =>
      refine ⟨known, ']' :: rest, ?_, next_cons (by decide) rest, List.Subset.refl _,
        fun e he _ => hoptional e he⟩
      rw [RecordShape.itemsOf, bind_nextItem_close hcs]
      rfl
  | @item e es j js hj _ ih =>
    cases hfields with
    | cons hf hfields =>
      obtain ⟨cs₁, cs₂, hsep, hspelled, hrest⟩ := hcs
      obtain ⟨c, cs₁', hnext, hc⟩ := hspelled.next
      have hlength := hspelled.length_lt
      have hsep' := hsep.length_le
      have hdrop : (c :: cs₁').length ≤ cs₁.length := hnext.length_lt
      have hread := hf.read budget known j hj (c :: cs₁') cs₂ (by omega)
        (by rw [← hnext, spelled_dropWhile]; exact hspelled)
      obtain ⟨known', cs', hitems, hclose, hsub, hmissing⟩ :=
        ih hfields (e.name :: known) (by omega) hrest
      have hmem : e.name ∈ known' := hsub List.mem_cons_self
      refine ⟨known', cs', ?_, hclose, fun _ hn => hsub (List.mem_cons_of_mem _ hn), ?_⟩
      · rw [RecordShape.itemsOf, bind_nextItem hsep hnext hc, if_pos rfl, bind_of_ok hread]
        exact hitems
      · exact List.forall_mem_cons.mpr ⟨fun hn => absurd hmem hn, hmissing⟩

/-! ## Records -/

theorem finish_of_follows (h : shape.Follows es draft record) {known : List String}
    (hknown : ∀ e ∈ es, e.name ∉ known → e.optional) (missing : Nat → String → Mismatch)
    (cs : List Char) : shape.finish missing (draft known) cs = .ok (record, cs) := by
  rw [RecordShape.finish, h.complete missing known hknown]
  rfl

/-- A record is read from each of its documents. -/
theorem reads_record (h : shape.Follows es draft record) {j : Json} (hj : RecordOf es j)
    (budget : Nat) : Reads budget (shape.read budget) j record := by
  intro cs rest hbudget hspelled
  cases hj with
  | @object ms hms =>
    obtain ⟨cs', hnext, hcs'⟩ := hspelled
    have hlength := hnext.length_lt
    have hfold : foldMembers (shape.member budget) (budget + 1) true (draft []) cs'
        = .ok (draft ((Entry.met es ms).reverse ++ []), '\x7d' :: rest) :=
      foldMembers_of_spelled
        (fun m hm => takes_member h (hms.spelled m hm) (hms.unread m hm)) (by omega) (by omega)
        hcs' (foldlM_meet (by rw [List.append_nil]; exact hms.once))
    have hknown : ∀ e ∈ es, e.name ∉ (Entry.met es ms).reverse ++ [] → e.optional := by
      intro e he hn
      refine hms.missing e he fun hmem => hn ?_
      rw [List.append_nil, List.mem_reverse]
      exact hmem
    rw [RecordShape.read, bind_peek hnext, if_pos rfl, bind_advance, h.start, bind_of_ok hfold,
      bind_of_ok (finish_of_follows h hknown _ _), bind_advance]
    rfl
  | @array js hjs =>
    obtain ⟨cs', hnext, hcs'⟩ := hspelled
    have hlength := hnext.length_lt
    have hbudget' : cs'.length ≤ budget := by omega
    obtain ⟨known, cs'', hitems, hclose, -, hknown⟩ :=
      itemsOf_of_spelled h.fields hjs [] hbudget' hcs'
    have hcloseArray : closeArray cs'' = .ok ((), rest) :=
      (bind_peek hclose).trans rfl
    rw [RecordShape.read, bind_peek hnext, if_neg (by decide), if_pos rfl, bind_advance, h.start,
      bind_of_ok hitems, bind_of_ok (finish_of_follows h hknown _ _), bind_of_ok hcloseArray]
    rfl

end

/-! ## Drafts of optional parts -/

section

variable {α δ : Type} {p : Prop} [Decidable p]

theorem getD_of_known {a d : α} (h : ¬ p → a = d) : (if p then some a else none).getD d = a := by
  split
  next => rfl
  next hp => exact (h hp).symm

theorem isSome_of_known (a : α) : (if p then some a else none).isSome = decide p := by
  split <;> simp [*]

/-- A field that is put into a draft when its value has been read. -/
theorem for_field {name : String} {otherName : Option String} {spelled : Json → Prop}
    {optional : Prop} {draft : List String → δ} {isSet : δ → Bool} {x : Nat → Reader α}
    {put : δ → α → δ} {a : α} (hset : ∀ known, isSet (draft known) = decide (name ∈ known))
    (hread : ∀ budget j, spelled j → Reads budget (x budget) j a)
    (hput : ∀ known, put (draft known) a = draft (name :: known)) :
    RecordField.For draft
      { name, otherName, isSet, read := fun budget d => do pure (put d (← x budget)) }
      { name, otherName, spelled, optional } where
  name := rfl
  otherName := rfl
  isSet := hset
  read budget known j hj cs rest hbudget hspelled := by
    refine (bind_of_ok (hread budget j hj cs rest hbudget hspelled)).trans ?_
    rw [hput]
    rfl

section

variable {value? : Option α}

/-- A field that is there has its value in the whole record. -/
theorem for_given {name : String} {otherName : Option String} {spelled : α → Json → Prop}
    {draft : List String → δ} {isSet : δ → Bool} {x : Nat → Reader α} {put : δ → α → δ}
    (default : α) (hset : ∀ known, isSet (draft known) = decide (name ∈ known))
    (hread : ∀ a budget j, spelled a j → Reads budget (x budget) j a)
    (hput : ∀ known, put (draft known) (value?.getD default) = draft (name :: known)) :
    RecordField.For draft
      { name, otherName, isSet, read := fun budget d => do pure (put d (← x budget)) }
      (.given name value? spelled otherName) := by
  refine for_field hset (fun budget j hj => ?_) hput
  obtain ⟨a, rfl, hj⟩ := hj
  exact hread a budget j hj

/-- A field that is not there has the default. -/
theorem getD_of_given {default : α} (h : ¬ p → value? = none) :
    (if p then some (value?.getD default) else none).getD default = value?.getD default := by
  refine getD_of_known fun hp => ?_
  rw [h hp]
  rfl

end

/-- What reads a text, a truth value, a port or a text that may be absent. -/
theorem reads_text (s : String) (budget : Nat) (j : Json) (h : j = .string s) :
    Reads budget readString j s :=
  h ▸ reads_readString budget s

theorem reads_flag (b : Bool) (budget : Nat) (j : Json) (h : j = .bool b) :
    Reads budget readBool j b :=
  h ▸ reads_readBool budget b

theorem reads_port (n : UInt16) (budget : Nat) (j : Json) (h : j = .integer n.toNat) :
    Reads budget readPort j n :=
  h ▸ reads_readPort budget n

theorem reads_text? (s? : Option String) (budget : Nat) (j : Json) (h : j = ofText? s?) :
    Reads budget (readNullable readString) j s? :=
  h ▸ reads_readNullable budget s?

end

end BoundSql.Json
