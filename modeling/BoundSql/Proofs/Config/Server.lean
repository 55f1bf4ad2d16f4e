import BoundSql.Config.Server
import BoundSql.Proofs.Config.Options
import BoundSql.Proofs.Number.Integer
import BoundSql.Proofs.Text.Order
import BoundSql.Proofs.Text.Words

/-!
# Options of a MySQL server are applied or refused

A connection to a server has eight settings (`Setting`), each with a few keys and a meaning of
texts.  An entry of the options is *accepted* if its key is one of a setting's and its text has a
meaning for it (`Accepted`).  Any other entry *offends*, and one fault says how (`Offends`).

One entry puts the value that it means (`set_of_means`), which leaves all other settings alone
(`Setting.value_put_of_ne`), or it is at fault (`set_of_offends`).  So if all entries are accepted,
every setting has the value that the last entry for it means, and it is left alone if there is none
(`Applied`).  Otherwise the fault is that of the first entry that offends (`FirstOffence`).  Nothing
else can happen (`Config.serverOptions_iff`).
-/

namespace BoundSql

/-! ## Modes -/

/-- The name of a mode, in lower case. -/
def SslMode.word : SslMode → String
  | .disabled => "disabled"
  | .preferred => "preferred"
  | .required => "required"
  | .verifyCa => "verify_ca"
  | .verifyIdentity => "verify_identity"

theorem SslMode.ofText?_eq_some_iff {text : String} {mode : SslMode} :
    ofText? text = some mode ↔ Text.sameLetters text mode.word := by
  rw [Text.sameLetters_iff, ofText?]
  constructor
  · intro h
    split at h <;> cases h <;> exact ‹_›
  · intro h
    rw [h]
    cases mode <;> decide

namespace ServerOptions

/-! ## Settings -/

/-- What can be set about a connection to a server. -/
inductive Setting where
  | sslMode
  | sslCa
  | sslCert
  | sslKey
  | collation
  | socket
  | timezone
  | cacheCapacity
deriving DecidableEq

namespace Setting

/-- The keys of a setting. -/
def keys : Setting → List String
  | sslMode => ["ssl-mode", "sslmode"]
  | sslCa => ["ssl-ca", "sslca"]
  | sslCert => ["ssl-cert"]
  | sslKey => ["ssl-key"]
  | collation => ["collation"]
  | socket => ["socket"]
  | timezone => ["timezone", "time_zone"]
  | cacheCapacity => ["statement-cache-capacity"]

/-- The values of a setting. -/
@[reducible] def Value : Setting → Type
  | sslMode => SslMode
  | sslCa | sslCert | sslKey | collation | socket => Option String
  | timezone => String
  | cacheCapacity => UInt64

/-- The value that a text means. -/
def Means : (s : Setting) → String → s.Value → Prop
  | sslMode, text, mode => Text.sameLetters text mode.word
  | sslCa, text, v | sslCert, text, v | sslKey, text, v | collation, text, v | socket, text, v =>
      v = some text
  | timezone, text, v => v = text
  | cacheCapacity, text, capacity => SpellsUnsigned text (UInt64.toNat capacity)

/-- The value of a setting in the options of a connection. -/
def value : (s : Setting) → ServerOptions → s.Value
  | sslMode, o => o.sslMode
  | sslCa, o => o.sslCa
  | sslCert, o => o.sslCert
  | sslKey, o => o.sslKey
  | collation, o => o.collation
  | socket, o => o.socket
  | timezone, o => o.timezone
  | cacheCapacity, o => o.statementCacheCapacity

/-- Gives a setting a value. -/
def put : (s : Setting) → ServerOptions → s.Value → ServerOptions
  | sslMode, o, v => { o with sslMode := v }
  | sslCa, o, v => { o with sslCa := v }
  | sslCert, o, v => { o with sslCert := v }
  | sslKey, o, v => { o with sslKey := v }
  | collation, o, v => { o with collation := v }
  | socket, o, v => { o with socket := v }
  | timezone, o, v => { o with timezone := v }
  | cacheCapacity, o, v => { o with statementCacheCapacity := v }

theorem value_put_self (s : Setting) (o : ServerOptions) (v : s.Value) :
    s.value (s.put o v) = v := by
  cases s <;> rfl

theorem value_put_of_ne {s t : Setting} (h : t ≠ s) (o : ServerOptions) (v : s.Value) :
    t.value (s.put o v) = t.value o := by
  cases s <;> cases t <;> first | rfl | exact absurd rfl h

/-- No key belongs to two settings. -/
theorem eq_of_mem_keys {s t : Setting} {key : String} (hs : key ∈ s.keys) (ht : key ∈ t.keys) :
    s = t := by
  have hdisjoint : ∀ key ∈ s.keys, key ∈ t.keys → s = t := by cases s <;> cases t <;> decide
  exact hdisjoint key hs ht

/-- A text means at most one value. -/
theorem Means.unique {s : Setting} {text : String} {v w : s.Value} (h : s.Means text v)
    (h' : s.Means text w) : v = w := by
  cases s with
  | sslMode =>
    rw [Means, ← SslMode.ofText?_eq_some_iff] at h h'
    exact Option.some_inj.mp (h.symm.trans h')
  | cacheCapacity => exact UInt64.toNat_inj.mp (SpellsUnsigned.unique h h')
  | _ => exact Eq.trans h (Eq.symm h')

end Setting

/-! ## Entries -/

/-- The key is one of a setting's, and the text has a meaning for it. -/
def Accepted (e : String × String) : Prop := ∃ s : Setting, e.1 ∈ s.keys ∧ ∃ v, s.Means e.2 v

/-- What is wrong with an entry. -/
inductive Offends : String × String → ConfigFault → Prop where
  | unknownOption {key text : String} (h : ∀ s : Setting, key ∉ s.keys) :
      Offends (key, text) (.unknownOption key)
  | unknownMode {key text : String} (h : key ∈ Setting.sslMode.keys)
      (htext : ∀ mode, ¬ Setting.sslMode.Means text mode) :
      Offends (key, text) (.unknownMode key text)
  | invalidCapacity {key text : String} (h : key ∈ Setting.cacheCapacity.keys)
      (htext : ∀ capacity, ¬ Setting.cacheCapacity.Means text capacity) :
      Offends (key, text) (.invalidCapacity key text)

section

variable {e : String × String} {fault : ConfigFault}

theorem Offends.not_accepted (h : Offends e fault) : ¬ Accepted e := by
  rintro ⟨s, hkey, v, hmeans⟩
  cases h with
  | unknownOption h => exact h s hkey
  | unknownMode h htext =>
    cases Setting.eq_of_mem_keys hkey h
    exact htext v hmeans
  | invalidCapacity h htext =>
    cases Setting.eq_of_mem_keys hkey h
    exact htext v hmeans

theorem accepted_or_offends (e : String × String) : Accepted e ∨ ∃ fault, Offends e fault := by
  by_cases hknown : ∃ s : Setting, e.1 ∈ s.keys
  · obtain ⟨s, hkey⟩ := hknown
    by_cases hmeans : ∃ v, s.Means e.2 v
    · exact .inl ⟨s, hkey, hmeans⟩
    · rw [not_exists] at hmeans
      refine .inr ?_
      cases s with
      | sslMode => exact ⟨_, .unknownMode hkey hmeans⟩
      | cacheCapacity => exact ⟨_, .invalidCapacity hkey hmeans⟩
      | timezone => exact absurd rfl (hmeans e.2)
      | _ => exact absurd rfl (hmeans (some e.2))
  · exact .inr ⟨_, .unknownOption (not_exists.mp hknown)⟩

/-- An entry for a setting puts the value that its text means. -/
theorem set_of_means {s : Setting} {v : s.Value} (hkey : e.1 ∈ s.keys)
    (hmeans : s.Means e.2 v) (o : ServerOptions) : o.set e.1 e.2 = .ok (s.put o v) := by
  obtain ⟨key, text⟩ := e
  cases s with
  | sslMode =>
    have hmode : SslMode.ofText? text = some v := SslMode.ofText?_eq_some_iff.mpr hmeans
    simp only [Setting.keys, List.mem_cons, List.not_mem_nil, or_false] at hkey
    rcases hkey with rfl | rfl <;> simp only [set, hmode] <;> rfl
  | cacheCapacity =>
    have hcapacity : readUnsigned? text = some v := readUnsigned?_eq_some_iff.mpr hmeans
    cases List.mem_singleton.mp hkey
    simp only [set, hcapacity]
    rfl
  | _ =>
    cases hmeans
    simp only [Setting.keys, List.mem_cons, List.not_mem_nil, or_false] at hkey
    rcases hkey with rfl | rfl <;> rfl

/-- An entry that offends is at fault. -/
theorem set_of_offends (h : Offends e fault) (o : ServerOptions) :
    o.set e.1 e.2 = .error fault := by
  cases h with
  | @unknownOption key text h =>
    simp only [set]
    split
    · exact absurd (by decide) (h .sslMode)
    · exact absurd (by decide) (h .sslMode)
    · exact absurd (by decide) (h .sslCa)
    · exact absurd (by decide) (h .sslCa)
    · exact absurd (by decide) (h .sslCert)
    · exact absurd (by decide) (h .sslKey)
    · exact absurd (by decide) (h .collation)
    · exact absurd (by decide) (h .socket)
    · exact absurd (by decide) (h .timezone)
    · exact absurd (by decide) (h .timezone)
    · exact absurd (by decide) (h .cacheCapacity)
    · rfl
  | @unknownMode key text h htext =>
    have hmode : SslMode.ofText? text = none :=
      Option.eq_none_iff_forall_ne_some.mpr fun mode hmode =>
        htext mode (SslMode.ofText?_eq_some_iff.mp hmode)
    simp only [Setting.keys, List.mem_cons, List.not_mem_nil, or_false] at h
    rcases h with rfl | rfl <;> simp only [set, hmode]
  | @invalidCapacity key text h htext =>
    have hcapacity : readUnsigned? text = none :=
      Option.eq_none_iff_forall_ne_some.mpr fun capacity hcapacity =>
        htext capacity (readUnsigned?_eq_some_iff.mp hcapacity)
    cases List.mem_singleton.mp h
    simp only [set, hcapacity]

end

/-! ## The first offence -/

/-- The fault is that of an entry that offends, and all entries with smaller keys are accepted. -/
def FirstOffence (es : List (String × String)) (fault : ConfigFault) : Prop :=
  ∃ e ∈ es, Offends e fault ∧ ∀ x ∈ es, Text.bytes x.1 < Text.bytes e.1 → Accepted x

section

variable {e : String × String} {es : List (String × String)} {fault : ConfigFault}

theorem firstOffence_cons (h : Ascending (e :: es)) :
    FirstOffence (e :: es) fault ↔ Offends e fault ∨ Accepted e ∧ FirstOffence es fault := by
  obtain ⟨hhead, -⟩ := List.pairwise_cons.mp h
  simp only [FirstOffence, Text.bytes_lt_iff]
  constructor
  · rintro ⟨x, hx, hoffends, hbefore⟩
    rcases List.mem_cons.mp hx with rfl | hx
    · exact .inl hoffends
    · refine .inr ⟨hbefore e List.mem_cons_self (hhead x hx), x, hx, hoffends, ?_⟩
      exact fun y hy => hbefore y (List.mem_cons_of_mem e hy)
  · rintro (hoffends | ⟨haccepted, x, hx, hoffends, hbefore⟩)
    · refine ⟨e, List.mem_cons_self, hoffends, fun y hy hlt => ?_⟩
      rcases List.mem_cons.mp hy with rfl | hy
      · exact absurd hlt (lt_irrefl _)
      · exact absurd hlt (lt_asymm (hhead y hy))
    · exact ⟨x, List.mem_cons_of_mem e hx, hoffends,
        List.forall_mem_cons.mpr ⟨fun _ => haccepted, hbefore⟩⟩

theorem exists_firstOffence (hes : Ascending es) (h : ¬ ∀ e ∈ es, Accepted e) :
    ∃ fault, FirstOffence es fault := by
  induction es with
  | nil => exact absurd nofun h
  | cons e es ih =>
    rcases accepted_or_offends e with haccepted | ⟨fault, hoffends⟩
    · obtain ⟨fault, hfirst⟩ := ih (List.pairwise_cons.mp hes).2 fun hrest =>
        h (List.forall_mem_cons.mpr ⟨haccepted, hrest⟩)
      exact ⟨fault, (firstOffence_cons hes).mpr (.inr ⟨haccepted, hfirst⟩)⟩
    · exact ⟨fault, (firstOffence_cons hes).mpr (.inl hoffends)⟩

theorem FirstOffence.not_accepted (h : FirstOffence es fault) : ¬ ∀ e ∈ es, Accepted e := by
  obtain ⟨e, he, hoffends, -⟩ := h
  exact fun hall => hoffends.not_accepted (hall e he)

/-- The run stops at the first entry that offends. -/
theorem foldlM_of_firstOffence (hes : Ascending es) (h : FirstOffence es fault)
    (o : ServerOptions) : es.foldlM (fun o e => o.set e.1 e.2) o = .error fault := by
  induction es generalizing o with
  | nil =>
    obtain ⟨_, hmem, -⟩ := h
    cases hmem
  | cons e es ih =>
    rw [List.foldlM_cons]
    rcases (firstOffence_cons hes).mp h with hoffends | ⟨⟨s, hkey, v, hmeans⟩, hrest⟩
    · rw [set_of_offends hoffends]
      rfl
    · rw [set_of_means hkey hmeans]
      exact ih (List.pairwise_cons.mp hes).2 hrest (s.put o v)

end

/-! ## Accepted entries -/

/-- Where to connect and as whom, which no setting is about. -/
def login (o : ServerOptions) :
    String × UInt16 × String × Option String × String × String :=
  (o.host, o.port, o.username, o.password, o.database, o.charset)

theorem Setting.login_put (s : Setting) (o : ServerOptions) (v : s.Value) :
    (s.put o v).login = o.login := by
  cases s <;> rfl

/-- Options of a connection are equal if their logins and settings are. -/
theorem eq_of_value_eq {o o' : ServerOptions} (h : o.login = o'.login)
    (hvalue : ∀ s : Setting, s.value o = s.value o') : o = o' := by
  simp only [login, Prod.mk.injEq] at h
  obtain ⟨hhost, hport, husername, hpassword, hdatabase, hcharset⟩ := h
  rw [ServerOptions.mk.injEq]
  exact ⟨hhost, hport, husername, hpassword, hdatabase, hcharset, hvalue .collation,
    hvalue .socket, hvalue .sslMode, hvalue .sslCa, hvalue .sslCert, hvalue .sslKey,
    hvalue .timezone, hvalue .cacheCapacity⟩

/-- The entry is the one for the setting whose key is last. -/
structure Decides (es : List (String × String)) (s : Setting) (e : String × String) : Prop where
  mem : e ∈ es
  key : e.1 ∈ s.keys
  last : ∀ x ∈ es, x.1 ∈ s.keys → Text.bytes x.1 ≤ Text.bytes e.1

/-- The entries change the options to the later ones. -/
structure Applied (es : List (String × String)) (o o' : ServerOptions) : Prop where
  /-- It is the same connection. -/
  login : o'.login = o.login
  /-- A setting has the value that the last entry for it means, and is left alone if there is
  none. -/
  setting : ∀ s : Setting, (∃ e, Decides es s e ∧ s.Means e.2 (s.value o'))
    ∨ (∀ e ∈ es, e.1 ∉ s.keys) ∧ s.value o' = s.value o

section

variable {e e' : String × String} {es : List (String × String)} {s : Setting}
  {o o' o'' : ServerOptions}

theorem eq_of_key_eq (hes : Ascending es) (he : e ∈ es) (he' : e' ∈ es) (h : e.1 = e'.1) :
    e = e' :=
  List.inj_on_of_nodup_map (nodup_of_ascending hes) he he' h

theorem Decides.unique (hes : Ascending es) (h : Decides es s e) (h' : Decides es s e') :
    e = e' := by
  have hle := h'.last e h.mem h.key
  have hge := h.last e' h'.mem h'.key
  rw [Text.bytes_le_iff] at hle hge
  exact eq_of_key_eq hes h.mem h'.mem (le_antisymm hle hge)

/-- An entry whose key is the last of more entries is that of all. -/
theorem Decides.cons (hes : Ascending (e' :: es)) (h : Decides es s e) :
    Decides (e' :: es) s e := by
  refine ⟨List.mem_cons_of_mem e' h.mem, h.key, List.forall_mem_cons.mpr ⟨fun _ => ?_, h.last⟩⟩
  exact Text.bytes_le_iff.mpr (le_of_lt ((List.pairwise_cons.mp hes).1 e h.mem))

theorem decides_head (hkey : e.1 ∈ s.keys) (h : ∀ x ∈ es, x.1 ∉ s.keys) :
    Decides (e :: es) s e :=
  ⟨List.mem_cons_self, hkey,
    List.forall_mem_cons.mpr ⟨fun _ => Text.bytes_le_iff.mpr le_rfl,
      fun x hx hmem => absurd hmem (h x hx)⟩⟩

/-- A setting has the value that the last entry for it means. -/
theorem Applied.value_eq (hes : Ascending es) (h : Applied es o o') (he : Decides es s e)
    {v : s.Value} (hmeans : s.Means e.2 v) : s.value o' = v := by
  rcases h.setting s with ⟨e', he', hmeans'⟩ | ⟨hnone, -⟩
  · obtain rfl := he.unique hes he'
    exact hmeans'.unique hmeans
  · exact absurd he.key (hnone e he.mem)

theorem Applied.unique (hes : Ascending es) (h : Applied es o o') (h' : Applied es o o'') :
    o' = o'' := by
  refine eq_of_value_eq (h.login.trans h'.login.symm) fun s => ?_
  rcases h'.setting s with ⟨e, he, hmeans⟩ | ⟨hnone, hvalue'⟩
  · exact h.value_eq hes he hmeans
  · rcases h.setting s with ⟨e, he, -⟩ | ⟨-, hvalue⟩
    · exact absurd he.key (hnone e he.mem)
    · exact hvalue.trans hvalue'.symm

/-- An entry is applied in front of the others. -/
theorem Applied.cons (hes : Ascending (e :: es)) (hkey : e.1 ∈ s.keys) {v : s.Value}
    (hmeans : s.Means e.2 v) (h : Applied es (s.put o v) o') : Applied (e :: es) o o' := by
  refine ⟨h.login.trans (s.login_put o v), fun t => ?_⟩
  rcases h.setting t with ⟨x, hx, hmeansx⟩ | ⟨hnone, hvalue⟩
  · exact .inl ⟨x, hx.cons hes, hmeansx⟩
  · by_cases hts : t = s
    · subst hts
      rw [t.value_put_self] at hvalue
      exact .inl ⟨e, decides_head hkey hnone, hvalue ▸ hmeans⟩
    · rw [Setting.value_put_of_ne hts] at hvalue
      exact .inr ⟨List.forall_mem_cons.mpr ⟨fun hmem => hts (Setting.eq_of_mem_keys hmem hkey),
        hnone⟩, hvalue⟩

/-- Accepted entries are all applied. -/
theorem foldlM_of_accepted (hes : Ascending es) (h : ∀ e ∈ es, Accepted e)
    (o : ServerOptions) :
    ∃ o', es.foldlM (fun o e => o.set e.1 e.2) o = .ok o' ∧ Applied es o o' := by
  induction es generalizing o with
  | nil => exact ⟨o, rfl, rfl, fun s => .inr ⟨nofun, rfl⟩⟩
  | cons e es ih =>
    obtain ⟨⟨s, hkey, v, hmeans⟩, hrest⟩ := List.forall_mem_cons.mp h
    obtain ⟨o', hrun, happlied⟩ := ih (List.pairwise_cons.mp hes).2 hrest (s.put o v)
    refine ⟨o', ?_, happlied.cons hes hkey hmeans⟩
    rw [List.foldlM_cons, set_of_means hkey hmeans]
    exact hrun

end

end ServerOptions

/-! ## Configurations -/

/-- The options of the connection of a configuration that has no entries. -/
def Config.plainOptions (c : Config) : ServerOptions where
  host := c.host
  port := c.port
  username := c.user
  password := if c.password = "" then none else some c.password
  database := c.database
  charset := c.charset
  collation := none
  socket := none
  sslMode := .preferred
  sslCa := none
  sslCert := none
  sslKey := none
  timezone := "+00:00"
  statementCacheCapacity := 100

theorem Config.serverOptions_eq (c : Config) :
    c.serverOptions = c.options.entries.foldlM (fun o e => o.set e.1 e.2) c.plainOptions := by
  have hpassword : c.password.isEmpty ↔ c.password = "" := String.isEmpty_iff
  simp only [serverOptions, plainOptions, hpassword]

/-- The options of a configuration make a connection if and only if all of them are accepted.  Then
each setting has the value that the last entry for it means, and its standard value if there is
none, and the rest is as the configuration says.  Otherwise the fault is that of the first entry
that offends. -/
theorem Config.serverOptions_iff (c : Config) :
    ((∃ o, c.serverOptions = .ok o) ↔ ∀ e ∈ c.options.entries, ServerOptions.Accepted e)
      ∧ (∀ o, c.serverOptions = .ok o
        ↔ (∀ e ∈ c.options.entries, ServerOptions.Accepted e)
          ∧ ServerOptions.Applied c.options.entries c.plainOptions o)
      ∧ ∀ fault, c.serverOptions = .error fault
        ↔ ServerOptions.FirstOffence c.options.entries fault := by
  have hes := c.options.ascending
  rw [serverOptions_eq]
  by_cases h : ∀ e ∈ c.options.entries, ServerOptions.Accepted e
  · obtain ⟨o, hrun, happlied⟩ := ServerOptions.foldlM_of_accepted hes h c.plainOptions
    rw [hrun]
    refine ⟨iff_of_true ⟨o, rfl⟩ h, fun o' => ?_, fun fault => ?_⟩
    · rw [Except.ok.injEq]
      exact ⟨fun heq => ⟨h, heq ▸ happlied⟩, fun ⟨_, h'⟩ => happlied.unique hes h'⟩
    · exact iff_of_false (fun herror => nomatch herror) fun hfirst => hfirst.not_accepted h
  · obtain ⟨fault, hfirst⟩ := ServerOptions.exists_firstOffence hes h
    have hrun := ServerOptions.foldlM_of_firstOffence hes hfirst c.plainOptions
    rw [hrun]
    refine ⟨iff_of_false (fun ⟨_, hok⟩ => nomatch hok) h,
      fun o => iff_of_false (fun hok => nomatch hok) fun h' => h h'.1, fun fault' => ?_⟩
    rw [Except.error.injEq]
    constructor
    · rintro rfl
      exact hfirst
    · intro hfirst'
      exact Except.error.inj
        (hrun.symm.trans (ServerOptions.foldlM_of_firstOffence hes hfirst' c.plainOptions))

/-- A configuration with two keys for one setting. -/
def aliasedConfig : Config :=
  { options := .ofList [("sslmode", "DISABLED"), ("ssl-mode", "required")] }

/-- A configuration with two entries that offend. -/
def offendingConfig : Config :=
  { options := .ofList [("statement-cache-capacity", "-1"), ("compress", "1"), ("socket", "s")] }

/-- The last key wins, and the first offence counts. -/
theorem Config.serverOptions_iff_aliased :
    (∃ o, aliasedConfig.serverOptions = .ok o ∧ o.sslMode = .disabled)
      ∧ offendingConfig.serverOptions = .error (.unknownOption "compress") := by
  constructor
  · obtain ⟨hok, happlied, -⟩ := serverOptions_iff aliasedConfig
    have hentries : aliasedConfig.options.entries
        = [("ssl-mode", "required"), ("sslmode", "DISABLED")] := by decide +kernel
    have hdisabled : ServerOptions.Setting.sslMode.Means "DISABLED" .disabled :=
      (by decide : Text.sameLetters _ _ = true)
    obtain ⟨o, ho⟩ := hok.mpr <| by
      rw [hentries]
      simp only [List.forall_mem_cons]
      exact ⟨⟨.sslMode, by decide, .required, (by decide : Text.sameLetters _ _ = true)⟩,
        ⟨.sslMode, by decide, _, hdisabled⟩, List.forall_mem_nil _⟩
    have hdecides : ServerOptions.Decides aliasedConfig.options.entries .sslMode
        ("sslmode", "DISABLED") := by
      rw [hentries]
      exact ⟨by decide, by decide, by decide⟩
    have hmode : ServerOptions.Setting.sslMode.value o = .disabled :=
      ((happlied o).mp ho).2.value_eq aliasedConfig.options.ascending hdecides hdisabled
    exact ⟨o, ho, hmode⟩
  · obtain ⟨-, -, herror⟩ := serverOptions_iff offendingConfig
    have hentries : offendingConfig.options.entries
        = [("compress", "1"), ("socket", "s"), ("statement-cache-capacity", "-1")] := by
      decide +kernel
    rw [herror, hentries]
    refine ⟨("compress", "1"), by decide, .unknownOption fun s => by cases s <;> decide, ?_⟩
    simp only [List.forall_mem_cons]
    exact ⟨fun h => absurd h (by decide), fun h => absurd h (by decide),
      fun h => absurd h (by decide), List.forall_mem_nil _⟩

end BoundSql
