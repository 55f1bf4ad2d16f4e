import BoundSql.Config.Document
import BoundSql.Proofs.Config.Options
import BoundSql.Proofs.Json.Record
import BoundSql.Proofs.Json.Written

/-!
# Reading configurations

`ConfigDraft.Written d j` says that the document `j` gives the parts that are there in the draft
`d`, and no others.  Any text of such a document is read as the draft with the default in each
part that is not there.  The document of a whole configuration gives all parts, so it is read
back (`Config.ofJson_faithful`).
-/

namespace BoundSql

open Json (Entry RecordOf Reads Takes for_given getD_of_given isSome_of_known reads_port
  reads_readString reads_text)

/-! ## Documents -/

/-- The document is the text. -/
def Json.IsText (s : String) (j : Json) : Prop := j = .string s

/-- The document is an object of texts that sets the options one after the other. -/
def Options.Written (o : Options) (j : Json) : Prop :=
  ∃ es : List (String × String), j = .object (es.map fun e => (e.1, .string e.2)) ∧ ofList es = o

namespace ConfigDraft

/-- The fields of a configuration of which the draft knows some. -/
def entries (d : ConfigDraft) : List Entry :=
  [.given "driver" d.driver Json.IsText, .given "host" d.host Json.IsText,
    .given "port" d.port fun n j => j = .integer n.toNat,
    .given "database" d.database Json.IsText,
    .given "user" d.user Json.IsText (some "username"),
    .given "password" d.password Json.IsText, .given "charset" d.charset Json.IsText,
    .given "options" d.options Options.Written]

/-- The document gives the parts of the draft. -/
def Written (d : ConfigDraft) : Json → Prop := RecordOf d.entries

end ConfigDraft

/-! ## Reading -/

namespace Options

/-- Sets the option that a member gives. -/
def put? (o : Options) (m : String × Json) : Option Options :=
  match m.2 with
  | .string s => some (o.set m.1 s)
  | _ => none

theorem foldlM_put? (es : List (String × String)) (o : Options) :
    (es.map fun e => (e.1, Json.string e.2)).foldlM put? o
      = some (es.foldl (fun o e => o.set e.1 e.2) o) := by
  induction es generalizing o with
  | nil => rfl
  | cons e es ih => exact ih (o.set e.1 e.2)

theorem takes_put? {budget : Nat} (e : String × String) :
    Takes budget (fun o key => do
      Json.colon
      pure (Options.set o key (← Json.readString))) id put? (e.1, .string e.2) := by
  intro o o' cs cs' rest hput hbudget hcolon hj
  cases hput
  have hlength := hcolon.length_lt
  refine (Json.bind_colon hcolon).trans ?_
  exact Json.bind_of_ok (reads_readString budget e.2 cs' rest (by omega) hj)

theorem Written.reads (o : Options) (budget : Nat) (j : Json) (h : o.Written j) :
    Reads budget (ConfigDraft.readOptions budget) j o := by
  obtain ⟨es, rfl, rfl⟩ := h
  refine Json.reads_readObject _ (fun m hm => ?_) (foldlM_put? es empty)
  obtain ⟨e, _, rfl⟩ := List.mem_map.mp hm
  exact takes_put? e

end Options

/-- The draft of a configuration of which the fields of the given names are known. -/
def Config.known (c : Config) (names : List String) : ConfigDraft where
  driver := if "driver" ∈ names then some c.driver else none
  host := if "host" ∈ names then some c.host else none
  port := if "port" ∈ names then some c.port else none
  database := if "database" ∈ names then some c.database else none
  user := if "user" ∈ names then some c.user else none
  password := if "password" ∈ names then some c.password else none
  charset := if "charset" ∈ names then some c.charset else none
  options := if "options" ∈ names then some c.options else none

namespace ConfigDraft

theorem shape_follows (d : ConfigDraft) :
    Config.shape.Follows d.entries d.complete.known d.complete where
  start := rfl
  fields := by
    refine .cons (for_given (Config.driver {}) (fun _ => isSome_of_known _) reads_text ?_) <|
      .cons (for_given (Config.host {}) (fun _ => isSome_of_known _) reads_text ?_) <|
      .cons (for_given (Config.port {}) (fun _ => isSome_of_known _) reads_port ?_) <|
      .cons (for_given (Config.database {}) (fun _ => isSome_of_known _) reads_text ?_) <|
      .cons (for_given (Config.user {}) (fun _ => isSome_of_known _) reads_text ?_) <|
      .cons (for_given (Config.password {}) (fun _ => isSome_of_known _) reads_text ?_) <|
      .cons (for_given (Config.charset {}) (fun _ => isSome_of_known _) reads_text ?_) <|
      .cons (for_given (Config.options {}) (fun _ => isSome_of_known _) Options.Written.reads ?_)
      .nil
    all_goals simp [Config.known, complete]
  complete := by
    intro missing names h
    simp only [entries, Entry.given, List.forall_mem_cons] at h
    obtain ⟨hdriver, hhost, hport, hdatabase, huser, hpassword, hcharset, hoptions, -⟩ := h
    show Except.ok (complete (d.complete.known names)) = .ok d.complete
    refine congrArg Except.ok ?_
    simp only [complete, Config.known, getD_of_given hdriver, getD_of_given hhost,
      getD_of_given hport, getD_of_given hdatabase, getD_of_given huser, getD_of_given hpassword,
      getD_of_given hcharset, getD_of_given hoptions]

end ConfigDraft

namespace Config

/-- A whole text that gives some parts is read as these parts. -/
theorem ofJson_of_written {d : ConfigDraft} {j : Json} {s : String} (h : d.Written j)
    (hs : j.SpelledBy s) : ofJson s = .ok d.complete := by
  have hread := Json.reads_record d.shape_follows h s.toList.length
  have htext : Json.readText shape.read s = .ok d.complete := Json.readText_of_spelledBy hread hs
  rw [ofJson, htext]
  rfl

/-! ## Whole configurations -/

/-- The draft of a configuration of which everything is known. -/
def whole (c : Config) : ConfigDraft where
  driver := some c.driver
  host := some c.host
  port := some c.port
  database := some c.database
  user := some c.user
  password := some c.password
  charset := some c.charset
  options := some c.options

/-- The document of a configuration gives all of its parts. -/
theorem written_toJson (c : Config) : c.whole.Written c.toJson := by
  have hoptions : c.options.Written (.object (c.options.entries.map fun e => (e.1, .string e.2))) :=
    ⟨c.options.entries, rfl, Options.ofList_of_perm (.refl _)⟩
  have hapart : Entry.Apart c.whole.entries := by
    simp [Entry.Apart, ConfigDraft.entries, Entry.given, Entry.hasName]
  exact .object <| .of_forall₂ hapart <|
    .cons ⟨rfl, _, rfl, rfl⟩ <| .cons ⟨rfl, _, rfl, rfl⟩ <| .cons ⟨rfl, _, rfl, rfl⟩ <|
    .cons ⟨rfl, _, rfl, rfl⟩ <| .cons ⟨rfl, _, rfl, rfl⟩ <| .cons ⟨rfl, _, rfl, rfl⟩ <|
    .cons ⟨rfl, _, rfl, rfl⟩ <| .cons ⟨rfl, _, rfl, hoptions⟩ .nil

theorem integral_toJson (c : Config) : c.toJson.Integral := by
  have hport : c.port.toNat < 65536 := c.port.toNat_lt
  have hword : (65536 : Int) ≤ twoPow 64 := by decide
  have hoptions : (Json.object (c.options.entries.map fun e => (e.1, .string e.2))).Integral := by
    refine .object ?_
    rw [List.forall_mem_map]
    exact fun e _ => .string e.2
  refine .object ?_
  simp only [List.forall_mem_cons]
  exact ⟨.string _, .string _, .integer (by omega) (by omega), .string _, .string _, .string _,
    .string _, hoptions, List.forall_mem_nil _⟩

/-- A configuration is read back from its text.  More generally, any text of a document that gives
some parts once each, in any order and among other members, is read as the configuration with these
parts and the default in every other part.  The user may be given by its other name. -/
theorem ofJson_faithful :
    (∀ c : Config, ofJson c.toJson.compact = .ok c)
      ∧ ∀ (d : ConfigDraft) (j : Json) (s : String), d.Written j → j.SpelledBy s →
          ofJson s = .ok
            { driver := d.driver.getD "mysql"
              host := d.host.getD "127.0.0.1"
              port := d.port.getD 3306
              database := d.database.getD "defaultdb"
              user := d.user.getD "root"
              password := d.password.getD ""
              charset := d.charset.getD "utf8"
              options := d.options.getD .empty } :=
  ⟨fun c => ofJson_of_written c.written_toJson (Json.spelledBy_compact c.integral_toJson),
    fun _ _ _ => ofJson_of_written⟩

/-- A document with some of the fields, out of order and among members that nobody asked for. -/
def scattered : Json :=
  .object [("note", .null), ("username", .string "svc"),
    ("options", .object [("b", .string "1"), ("a", .string "\"2\"")]), ("debug", .bool true),
    ("port", .integer 0), ("note", .string "10.0.0.2"), ("host", .string "db")]

/-- The parts that it gives. -/
def scatteredParts : ConfigDraft where
  host := some "db"
  port := some 0
  user := some "svc"
  options := some (.ofList [("a", "\"2\""), ("b", "1")])

theorem ofJson_faithful_scattered :
    scatteredParts.Written scattered ∧ scattered.SpelledBy scattered.compact
      ∧ ofJson scattered.compact = .ok
        { host := "db", port := 0, user := "svc",
          options := .ofList [("a", "\"2\""), ("b", "1")] } := by
  have hoptions : (Options.ofList [("a", "\"2\""), ("b", "1")]).Written
      (.object [("b", .string "1"), ("a", .string "\"2\"")]) :=
    ⟨[("b", "1"), ("a", "\"2\"")], rfl, by decide +kernel⟩
  have hwritten : scatteredParts.Written scattered := by
    refine .object ⟨?_, ?_, ?_, ?_⟩
    · simp [Entry.met, Entry.of?, ConfigDraft.entries, Entry.given, Entry.hasName]
    · simp [Entry.of?, ConfigDraft.entries, Entry.given, Entry.hasName, scatteredParts,
        Json.IsText, hoptions]
    · simp [Entry.of?, ConfigDraft.entries, Entry.given, Entry.hasName, Json.Unread.null,
        Json.Unread.bool, Json.Unread.string]
    · simp [Entry.met, Entry.of?, ConfigDraft.entries, Entry.given, Entry.hasName, scatteredParts]
  have hintegral : scattered.Integral := by
    refine .object ?_
    simp only [List.forall_mem_cons]
    refine ⟨.null, .string _, .object ?_, .bool _, .integer (by decide) (by decide), .string _,
      .string _, List.forall_mem_nil _⟩
    simp only [List.forall_mem_cons]
    exact ⟨.string _, .string _, List.forall_mem_nil _⟩
  have hspelled := Json.spelledBy_compact hintegral
  exact ⟨hwritten, hspelled, ofJson_faithful.2 scatteredParts scattered _ hwritten hspelled⟩

end Config

end BoundSql
