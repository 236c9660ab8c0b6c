import BpfBoot.Proofs.Settings.Meaning

/-!
# What a configuration says is what is read

A document is merged into the standard settings and the result is read record by record. Each record lies over
the standard one, and each of its fields is read as what the document says there, or else as the standard field.
-/

namespace BpfBoot.Settings

open Json5

/-! ## Fields -/

/-- Reading the entry of a name gives back `o`, at every place; there is no entry if it is `none`. -/
def Reads {α : Type} (entries : List (String × Tree)) (name : String) (read : Place → Tree → Result α)
    (o : Option α) : Prop :=
  match entries.lookup name with
  | none => o = none
  | some t => ∃ a, o = some a ∧ ∀ p, read p t = .ok a

theorem Reads.field? {α : Type} {entries : List (String × Tree)} {name : String}
    {read : Place → Tree → Result α} {o : Option α} (h : Reads entries name read o) (recordName : String)
    (size index : Nat) (p : Place) (fromFile : Bool) :
    (⟨recordName, size, p, .table fromFile entries⟩ : Record).field? index name read = .ok o := by
  unfold Reads at h
  unfold Record.field?
  simp only
  split at h
  next heq =>
    rw [heq, h]
  next t heq =>
    obtain ⟨a, rfl, hread⟩ := h
    rw [heq]
    simp only [hread]
    rfl

/-- The entries are those of a part of a document, over older ones. -/
def LiesOver (part : Option Item) (old entries : List (String × Tree)) : Prop :=
  ∀ name, match said part name with
    | none => entries.lookup name = old.lookup name
    | some item => ∃ t, Shows t item ∧ entries.lookup name = some (Tree.merged (old.lookup name) t)

section

variable {part : Option Item} {old entries : List (String × Tree)} {name : String}

theorem LiesOver.lookup_of_unsaid (h : LiesOver part old entries) (hsaid : said part name = none) :
    entries.lookup name = old.lookup name := by
  have hname := h name
  rwa [hsaid] at hname

theorem LiesOver.lookup_of_said {item : Item} (h : LiesOver part old entries)
    (hsaid : said part name = some item) :
    ∃ t, Shows t item ∧ entries.lookup name = some (Tree.merged (old.lookup name) t) := by
  have hname := h name
  rwa [hsaid] at hname

end

theorem liesOver_none (old : List (String × Tree)) : LiesOver none old old :=
  fun _ => rfl

/-- A member and what stands for it have the same key. -/
theorem lookup_standForMembers {values : List (String × Value)} {members : List (String × Item)}
    (h : StandForMembers values members) (name : String) :
    match members.lookup name with
    | none => (Tree.entriesOf values).lookup name = none
    | some item => ∃ t, Shows t item ∧ (Tree.entriesOf values).lookup name = some t := by
  induction values generalizing members with
  | nil =>
    cases h
    rfl
  | cons value values ih =>
    cases h with
    | @cons key v item _ members hstand hmore =>
      rw [Tree.entriesOf, List.map_cons, List.lookup_cons, List.lookup_cons]
      cases name == key with
      | true => exact ⟨_, ⟨v, hstand, rfl⟩, rfl⟩
      | false => exact ih hmore

theorem keys_standForMembers {values : List (String × Value)} {members : List (String × Item)}
    (h : StandForMembers values members) : values.map Prod.fst = members.map Prod.fst := by
  induction values generalizing members with
  | nil =>
    cases h
    rfl
  | cons value values ih =>
    cases h with
    | cons _ hmore => rw [List.map_cons, List.map_cons, ih hmore]

theorem liesOver_putAll {values : List (String × Value)} {members : List (String × Item)}
    (h : StandForMembers values members) (hnames : AreNames (members.map Prod.fst)) (root : Tree) :
    LiesOver (some (.object members)) root.entries
      (root.putAll (Tree.entriesOf values)).entries := by
  have hkeys : AreNames ((Tree.entriesOf values).map Prod.fst) := by
    rw [Tree.keys_entriesOf, keys_standForMembers h]
    exact hnames
  intro name
  have hlookup := lookup_standForMembers h name
  rw [Tree.lookup_putAll hkeys]
  change match members.lookup name with
    | none => _
    | some item => _
  split
  next heq =>
    rw [heq] at hlookup
    rw [hlookup]
  next item heq =>
    rw [heq] at hlookup
    obtain ⟨t, hshows, hlookup⟩ := hlookup
    exact ⟨t, hshows, by rw [hlookup]⟩

/-! ## What fits -/

variable {needed : List String} {fields : List (String × Kind)} {part : Option Item} {name : String}

theorem areNames_of_fits {members : List (String × Item)} (h : Fits (.object needed fields) (.object members))
    (hfields : ∀ n ∈ fields.map Prod.fst, Text.lower n = n) : AreNames (members.map Prod.fst) := by
  cases h with
  | object hkeys _ hknown => exact ⟨hkeys, fun n hn => hfields n (hknown n hn)⟩

/-- A part of a configuration, if there is one, has the fields of its place. -/
def PartFits (needed : List String) (fields : List (String × Kind)) (part : Option Item) : Prop :=
  ∀ item, part = some item → Fits (.object needed fields) item

theorem PartFits.said {kind : Kind} {item : Item} (h : PartFits needed fields part)
    (hkind : fields.lookup name = some kind) (hsaid : said part name = some item) : Fits kind item := by
  cases part with
  | none => cases hsaid
  | some whole =>
    cases h whole rfl with
    | object _ _ _ hmembers => exact hmembers name kind item hkind hsaid

theorem PartFits.of_fits {item : Item} (h : Fits (.object needed fields) item) :
    PartFits needed fields (some item) :=
  fun _ heq => Option.some.inj heq ▸ h

/-- A part of a configuration below another one fits the place of its key. -/
theorem PartFits.below {needed' : List String} {fields' : List (String × Kind)}
    (h : PartFits needed fields part) (hkind : fields.lookup name = some (.object needed' fields')) :
    PartFits needed' fields' (Settings.said part name) :=
  fun _ hsaid => h.said hkind hsaid

/-- What fits a place is read, and replaces what stood there. -/
def Decodes {α : Type} (kind : Kind) (view : Item → Option α) (read : Place → Tree → Result α) : Prop :=
  ∀ item t, Fits kind item → Shows t item →
    ∃ a, view item = some a ∧ (∀ p, read p t = .ok a) ∧ ∀ old, Tree.merged old t = t

theorem merged_of_shows {t : Tree} {item : Item} (h : Shows t item) (hitem : ∀ members, item ≠ .object members)
    (old : Option Tree) : Tree.merged old t = t := by
  obtain ⟨v, hstand, rfl⟩ := h
  cases hstand with
  | object => exact absurd rfl (hitem _)
  | number hnatural => cases hnatural <;> rw [Tree.ofValue] <;> rfl
  | _ => rw [Tree.ofValue]; rfl

theorem decodes_flag : Decodes .flag Item.flag? Tree.boolean := by
  intro item t hfits hshows
  cases hfits with
  | flag => exact ⟨_, rfl, fun _ => boolean_of_shows hshows, merged_of_shows hshows nofun⟩

theorem decodes_text : Decodes .text Item.text? Tree.text := by
  intro item t hfits hshows
  cases hfits with
  | text => exact ⟨_, rfl, fun _ => text_of_shows hshows, merged_of_shows hshows nofun⟩

theorem decodes_natural : Decodes (.number numberBound) Item.number? Tree.natural := by
  intro item t hfits hshows
  cases hfits with
  | number hn =>
    have hword := Nat.lt_of_lt_of_le hn (by decide : numberBound ≤ Tree.wordBound)
    exact ⟨_, rfl, fun _ => natural_of_shows hword hshows, merged_of_shows hshows nofun⟩

theorem decodes_smallNatural : Decodes (.number Tree.halfWordBound) Item.number? Tree.smallNatural := by
  intro item t hfits hshows
  cases hfits with
  | number hn => exact ⟨_, rfl, fun _ => smallNatural_of_shows hn hshows, merged_of_shows hshows nofun⟩

/-! ## Fields of records -/

section

variable {α : Type} {kind : Kind} {view : Item → Option α} {read : Place → Tree → Result α}
  {old entries : List (String × Tree)}

/-- A field that the document says is read as it says. -/
theorem LiesOver.reads_of_said (h : LiesOver part old entries) (hfits : PartFits needed fields part)
    (hkind : fields.lookup name = some kind) (hdecodes : Decodes kind view read) {item : Item}
    (hsaid : said part name = some item) :
    ∃ a, view item = some a ∧ Reads entries name read (some a)
      ∧ Reads entries name (Tree.optional read) (some (some a)) := by
  obtain ⟨t, hshows, hlookup⟩ := h.lookup_of_said hsaid
  obtain ⟨a, hview, hread, hmerged⟩ := hdecodes item t (hfits.said hkind hsaid) hshows
  unfold Reads
  rw [hlookup, hmerged]
  exact ⟨a, hview, ⟨a, rfl, hread⟩, ⟨some a, rfl, fun p => optional_of_shows hshows (hread p)⟩⟩

/-- A field that the standard settings have. -/
theorem LiesOver.reads (h : LiesOver part old entries) (hfits : PartFits needed fields part)
    (hkind : fields.lookup name = some kind) (hdecodes : Decodes kind view read) {standard : α}
    (hold : Reads old name read (some standard)) :
    Reads entries name read (some (((said part name).bind view).getD standard)) := by
  cases hsaid : said part name with
  | none =>
    unfold Reads at hold ⊢
    rw [h.lookup_of_unsaid hsaid]
    exact hold
  | some item =>
    obtain ⟨a, hview, hreads, -⟩ := h.reads_of_said hfits hkind hdecodes hsaid
    simpa [hview] using hreads

/-- A field that the standard settings do not have. -/
theorem LiesOver.readsOptional (h : LiesOver part old entries) (name : String)
    (hfits : PartFits needed fields part) (hkind : fields.lookup name = some kind)
    (hdecodes : Decodes kind view read) (hold : old.lookup name = none) :
    Reads entries name (Tree.optional read) (((said part name).bind view).map some) := by
  cases hsaid : said part name with
  | none =>
    unfold Reads
    rw [h.lookup_of_unsaid hsaid, hold]
    rfl
  | some item =>
    obtain ⟨a, hview, -, hreads⟩ := h.reads_of_said hfits hkind hdecodes hsaid
    simpa [hview] using hreads

theorem lookup_isSome_of_mem {β : Type} {members : List (String × β)} (h : name ∈ members.map Prod.fst) :
    ∃ b, members.lookup name = some b := by
  refine Option.ne_none_iff_exists'.mp fun hnone => ?_
  obtain ⟨member, hmember, hname⟩ := List.mem_map.mp h
  simpa [hname] using List.lookup_eq_none_iff.mp hnone member hmember

/-- A field that the document must say. -/
theorem LiesOver.readsNeeded {item : Item} (h : LiesOver (some item) old entries)
    (hfits : Fits (.object needed fields) item) (hneeded : name ∈ needed)
    (hkind : fields.lookup name = some kind) (hdecodes : Decodes kind view read) (standard : α) :
    Reads entries name read (some (((said (some item) name).bind view).getD standard)) := by
  obtain ⟨x, hsaid⟩ : ∃ x, said (some item) name = some x := by
    cases hfits with
    | object _ hmembers => exact lookup_isSome_of_mem (hmembers name hneeded)
  obtain ⟨a, hview, hreads, -⟩ := h.reads_of_said (.of_fits hfits) hkind hdecodes hsaid
  simpa [hsaid, hview] using hreads

end

/-! ## Parts of parts -/

/-- A part that lies over a table, or over nothing, is a table that lies over it. -/
theorem LiesOver.exists_table {old entries oldInner : List (String × Tree)} {fromFile : Bool} {item : Item}
    (h : LiesOver part old entries) (hsaid : said part name = some item)
    (hfits : Fits (.object needed fields) item) (hfields : ∀ n ∈ fields.map Prod.fst, Text.lower n = n)
    (hold : (old.lookup name).getD Tree.empty = .table fromFile oldInner) :
    ∃ fromFile' inner, entries.lookup name = some (.table fromFile' inner)
      ∧ LiesOver (some item) oldInner inner := by
  obtain ⟨_, ⟨v, hstand, rfl⟩, hlookup⟩ := h.lookup_of_said hsaid
  have hfits' := hfits
  cases hfits with
  | @object _ _ members hkeys =>
    cases hstand with
    | @object values _ hmembers =>
      have hnodup : (values.map Prod.fst).Nodup := keys_standForMembers hmembers ▸ hkeys
      have hlies := liesOver_putAll hmembers (areNames_of_fits hfits' hfields) (.table fromFile oldInner)
      obtain ⟨fromFile', inner, htable⟩ := Tree.exists_table_putAll fromFile oldInner
        (Tree.entriesOf values)
      rw [Tree.ofValue_object hnodup, Tree.merged, hold, htable] at hlookup
      rw [htable] at hlies
      exact ⟨fromFile', inner, hlookup, hlies⟩

/-- A part that the standard settings have is a table, whether the document says it or not. -/
theorem LiesOver.exists_section {old entries oldInner : List (String × Tree)} {fromFile : Bool}
    (h : LiesOver part old entries) (hfits : PartFits needed fields (said part name))
    (hfields : ∀ n ∈ fields.map Prod.fst, Text.lower n = n)
    (hold : old.lookup name = some (.table fromFile oldInner)) :
    ∃ fromFile' inner, entries.lookup name = some (.table fromFile' inner)
      ∧ LiesOver (said part name) oldInner inner := by
  cases hsaid : said part name with
  | none =>
    exact ⟨fromFile, oldInner, (h.lookup_of_unsaid hsaid).trans hold, liesOver_none oldInner⟩
  | some item =>
    have hgetD : (old.lookup name).getD Tree.empty = .table fromFile oldInner := by rw [hold]; rfl
    exact h.exists_table hsaid (hfits item hsaid) hfields hgetD

/-! ## Records -/

theorem join_map_some {α : Type} (o : Option α) : (o.map some).join = o := by
  cases o <;> rfl

theorem logEntry_eq {entries : List (String × Tree)} {e : LogEntry}
    (henable : Reads entries "enable" Tree.boolean (some e.enable))
    (htarget : Reads entries "target" Tree.text (some e.target))
    (hdirectory : Reads entries "directory" (Tree.optional Tree.text) (e.directory.map some))
    (hfileName : Reads entries "prefix" (Tree.optional Tree.text) (e.fileName.map some))
    (hrotation : Reads entries "rotation" (Tree.optional Tree.text) (e.rotation.map some))
    (hmaxFiles : Reads entries "max_files" (Tree.optional Tree.natural) (e.maxFiles.map some))
    (hformat : Reads entries "format" (Tree.optional Tree.text) (e.format.map some)) (fromFile : Bool)
    (p : Place) : logEntry p (.table fromFile entries) = .ok e := by
  simp [logEntry, Record.ofTree, henable.field?, htarget.field?, hdirectory.field?, hfileName.field?,
    hrotation.field?, hmaxFiles.field?, hformat.field?, Record.demandAll, Record.shortLength?, Record.required,
    join_map_some, bind, Except.bind, pure, Except.pure]

/-- An entry of the logs, whose place in the log and target are read. -/
theorem logEntry_of_liesOver {enable : Bool} {target : String} {old entries : List (String × Tree)}
    (h : LiesOver part old entries) (hfits : PartFits needed logFields part)
    (henable : Reads entries "enable" Tree.boolean (some (((said part "enable").bind Item.flag?).getD enable)))
    (htarget : Reads entries "target" Tree.text (some (((said part "target").bind Item.text?).getD target)))
    (hothers : ∀ n ∈ ["directory", "prefix", "rotation", "max_files", "format"], old.lookup n = none)
    (fromFile : Bool) (p : Place) :
    logEntry p (.table fromFile entries)
      = .ok (logEntrySaid ⟨enable, target, none, none, none, none, none⟩ part) := by
  simp only [List.forall_mem_cons] at hothers
  obtain ⟨hdirectory, hfileName, hrotation, hmaxFiles, hformat, -⟩ := hothers
  have hdirectory := h.readsOptional "directory" hfits (by rfl) decodes_text hdirectory
  have hfileName := h.readsOptional "prefix" hfits (by rfl) decodes_text hfileName
  have hrotation := h.readsOptional "rotation" hfits (by rfl) decodes_text hrotation
  have hmaxFiles := h.readsOptional "max_files" hfits (by rfl) decodes_natural hmaxFiles
  have hformat := h.readsOptional "format" hfits (by rfl) decodes_text hformat
  refine logEntry_eq henable htarget ?_ ?_ ?_ ?_ ?_ fromFile p <;>
    simpa only [logEntrySaid, Option.or_none]

/-! ## Locations -/

theorem location_eq {entries : List (String × Tree)} {l : Location}
    (hdir : Reads entries "dir" Tree.text (some l.dir))
    (hpinSubdir : Reads entries "prefix" Tree.text (some l.pinSubdir)) (fromFile : Bool) (p : Place) :
    location p (.table fromFile entries) = .ok l := by
  simp [location, Record.ofTree, hdir.field?, hpinSubdir.field?, Record.demandAll, Record.shortLength?,
    Record.required, bind, Except.bind, pure, Except.pure]

/-- A text that an object must say is read off its own table. -/
theorem exists_text_of_needed (name : String) {values : List (String × Value)}
    {members : List (String × Item)} (hstand : StandForMembers values members)
    (hfits : Fits (.object needed fields) (.object members))
    (hneeded : name ∈ needed) (hkind : fields.lookup name = some .text) :
    ∃ s, ((Item.object members).get? name).bind Item.text? = some s
      ∧ Reads (Tree.entriesOf values) name Tree.text (some s) := by
  cases hfits with
  | object _ hmembers _ hvalues =>
    obtain ⟨item, hitem⟩ := lookup_isSome_of_mem (hmembers name hneeded)
    have hlookup := lookup_standForMembers hstand name
    rw [hitem] at hlookup
    obtain ⟨t, hshows, hlookup⟩ := hlookup
    obtain ⟨s, hview, hread, -⟩ := decodes_text item t (hvalues name .text item hkind hitem) hshows
    refine ⟨s, by simp [Item.get?, hitem, hview], ?_⟩
    unfold Reads
    rw [hlookup]
    exact ⟨s, rfl, hread⟩

theorem location_of_shows {t : Tree} {item : Item}
    (hfits : Fits (.object ["dir", "prefix"] locationFields) item) (hshows : Shows t item) :
    ∃ l, locationSaid? item = some l ∧ ∀ p, location p t = .ok l := by
  have hfits' := hfits
  obtain ⟨v, hstand, rfl⟩ := hshows
  cases hfits with
  | object hkeys =>
    cases hstand with
    | object hmembers =>
      obtain ⟨dir, hdir, hreadDir⟩ := exists_text_of_needed "dir" hmembers hfits' (by decide) (by rfl)
      obtain ⟨pinSubdir, hprefix, hreadPrefix⟩ :=
        exists_text_of_needed "prefix" hmembers hfits' (by decide) (by rfl)
      refine ⟨⟨dir, pinSubdir⟩, ?_, fun p => ?_⟩
      · rw [Option.bind_eq_some_iff] at hdir hprefix
        obtain ⟨dirItem, hdirItem, hdir⟩ := hdir
        obtain ⟨prefixItem, hprefixItem, hprefix⟩ := hprefix
        simp [locationSaid?, hdirItem, hdir, hprefixItem, hprefix]
      · rw [Tree.ofValue_object (keys_standForMembers hmembers ▸ hkeys)]
        exact location_eq hreadDir hreadPrefix true p

theorem elementsFrom_of_standForElements {values : List Value} {items : List Item}
    (h : StandForElements values items)
    (hfits : ∀ item ∈ items, Fits (.object ["dir", "prefix"] locationFields) item) :
    ∃ ls, items.mapM locationSaid? = some ls
      ∧ ∀ p index, Tree.elementsFrom location p index (values.map Tree.ofValue) = .ok ls := by
  induction values generalizing items with
  | nil =>
    cases h
    exact ⟨[], rfl, fun _ _ => rfl⟩
  | cons v values ih =>
    cases h with
    | cons hstand hmore =>
      rw [List.forall_mem_cons] at hfits
      obtain ⟨l, hl, hread⟩ := location_of_shows hfits.1 ⟨v, hstand, rfl⟩
      obtain ⟨ls, hls, hreads⟩ := ih hmore hfits.2
      refine ⟨l :: ls, by simp [List.mapM_cons, hl, hls], fun p index => ?_⟩
      simp [Tree.elementsFrom, hread, hreads, bind, Except.bind, pure, Except.pure]

theorem decodes_locations :
    Decodes (.list (.object ["dir", "prefix"] locationFields)) locationsSaid? (Tree.list location) := by
  intro item t hfits hshows
  cases hfits with
  | list hitems =>
    have hmerged := merged_of_shows hshows nofun
    obtain ⟨v, hstand, rfl⟩ := hshows
    cases hstand with
    | list helements =>
      obtain ⟨ls, hls, hread⟩ := elementsFrom_of_standForElements helements hitems
      refine ⟨ls, by simpa [locationsSaid?, Item.items?] using hls, fun p => ?_, hmerged⟩
      rw [Tree.ofValue, Tree.ofElements_eq]
      exact hread p 0

/-! ## Sections -/

def standardLogEntry : List (String × Tree) :=
  [("enable", .scalar false (.boolean standard.logs.default.enable)),
   ("target", textTree standard.logs.default.target)]

def standardLoader : List (String × Tree) :=
  [("bpffs_root", textTree standard.loader.pinRoot),
   ("platform_loader", textTree standard.loader.platformLoader),
   ("hand_off", textTree standard.loader.handOff),
   ("unprivileged_bpf_required_from", textTree standard.loader.unprivilegedRequiredFrom),
   ("critical_failure_delay_secs", naturalTree standard.loader.criticalFailureDelay),
   ("gsi_warning_delay_secs", naturalTree standard.loader.gsiWarningDelay)]

def standardEntries : List (String × Tree) :=
  [("logs", .table false [("default", .table false standardLogEntry)]),
   ("loader", .table false standardLoader)]

/-- The names of all fields, apart from those of locations, which are never merged. -/
def fieldNames : List String :=
  (settingsFields ++ logsFields ++ logFields ++ loaderFields ++ deviceFields).map Prod.fst

theorem lower_fieldNames : ∀ n ∈ fieldNames, Text.lower n = n := by
  decide +kernel

theorem lower_of_subset {fields : List (String × Kind)} (h : ∀ n ∈ fields.map Prod.fst, n ∈ fieldNames) :
    ∀ n ∈ fields.map Prod.fst, Text.lower n = n :=
  fun n hn => lower_fieldNames n (h n hn)

theorem addresses_defaults :
    defaults.map (fun d => Address.ofKey d.1)
      = [⟨"logs", [.entry "default", .entry "enable"]⟩, ⟨"logs", [.entry "default", .entry "target"]⟩,
         ⟨"loader", [.entry "bpffs_root"]⟩, ⟨"loader", [.entry "platform_loader"]⟩,
         ⟨"loader", [.entry "hand_off"]⟩, ⟨"loader", [.entry "unprivileged_bpf_required_from"]⟩,
         ⟨"loader", [.entry "critical_failure_delay_secs"]⟩,
         ⟨"loader", [.entry "gsi_warning_delay_secs"]⟩] := by
  decide +kernel

theorem defaultTree_eq : defaultTree = .table false standardEntries := by
  have haddresses := addresses_defaults
  have hlower := lower_fieldNames
  simp only [defaults, List.map_cons, List.map_nil, List.cons.injEq, and_true] at haddresses
  simp only [fieldNames, settingsFields, logsFields, logFields, loaderFields, deviceFields, List.cons_append,
    List.nil_append, List.map_cons, List.map_nil, List.forall_mem_cons] at hlower
  simp only [defaultTree, Tree.merge, defaults, List.foldl_cons, List.foldl_nil, Tree.putKey, haddresses,
    Tree.putAt, Tree.put_eq, hlower]
  simp [Tree.merged, Tree.upsert, Tree.empty, Tree.entries, Tree.null, List.lookup_cons, standardEntries,
    standardLogEntry, standardLoader, textTree, naturalTree]

theorem loaderSettings_eq {entries : List (String × Tree)} {s : LoaderSettings}
    (hpinRoot : Reads entries "bpffs_root" Tree.text (some s.pinRoot))
    (hplatformLoader : Reads entries "platform_loader" Tree.text (some s.platformLoader))
    (hhandOff : Reads entries "hand_off" Tree.text (some s.handOff))
    (hrequiredFrom : Reads entries "unprivileged_bpf_required_from" Tree.text (some s.unprivilegedRequiredFrom))
    (hcritical : Reads entries "critical_failure_delay_secs" Tree.natural (some s.criticalFailureDelay))
    (hwarning : Reads entries "gsi_warning_delay_secs" Tree.natural (some s.gsiWarningDelay))
    (hlocations : Reads entries "locations" (Tree.optional (Tree.list location)) (s.locationList.map some))
    (fromFile : Bool) (p : Place) : loaderSettings p (.table fromFile entries) = .ok s := by
  simp [loaderSettings, Record.ofTree, hpinRoot.field?, hplatformLoader.field?, hhandOff.field?,
    hrequiredFrom.field?, hcritical.field?, hwarning.field?, hlocations.field?, Record.demandAll,
    Record.shortLength?, Record.required, join_map_some, bind, Except.bind, pure, Except.pure]

theorem loaderSettings_of_liesOver {entries : List (String × Tree)} (h : LiesOver part standardLoader entries)
    (hfits : PartFits needed loaderFields part) (fromFile : Bool) (p : Place) :
    loaderSettings p (.table fromFile entries) = .ok (loaderSaid standard.loader part) := by
  refine loaderSettings_eq ?_ ?_ ?_ ?_ ?_ ?_ ?_ fromFile p
  · exact h.reads hfits (by rfl) decodes_text ⟨_, rfl, fun _ => rfl⟩
  · exact h.reads hfits (by rfl) decodes_text ⟨_, rfl, fun _ => rfl⟩
  · exact h.reads hfits (by rfl) decodes_text ⟨_, rfl, fun _ => rfl⟩
  · exact h.reads hfits (by rfl) decodes_text ⟨_, rfl, fun _ => rfl⟩
  · exact h.reads hfits (by rfl) decodes_natural ⟨_, rfl, fun _ => rfl⟩
  · exact h.reads hfits (by rfl) decodes_natural ⟨_, rfl, fun _ => rfl⟩
  · have hlocations := h.readsOptional "locations" hfits (by rfl) decodes_locations rfl
    simpa only [loaderSaid, standard, LoaderSettings.standard, Option.or_none] using hlocations

theorem deviceOverrides_eq {entries : List (String × Tree)} {d : DeviceOverrides}
    (hapiLevel : Reads entries "api_level" (Tree.optional Tree.smallNatural) (d.apiLevel.map some))
    (hbuildType : Reads entries "build_type" (Tree.optional Tree.text) (d.buildType.map some))
    (fromFile : Bool) (p : Place) : deviceOverrides p (.table fromFile entries) = .ok d := by
  simp [deviceOverrides, Record.ofTree, hapiLevel.field?, hbuildType.field?, join_map_some, bind, Except.bind,
    pure, Except.pure]

theorem deviceOverrides_of_liesOver {entries : List (String × Tree)} (h : LiesOver part [] entries)
    (hfits : PartFits needed deviceFields part) (fromFile : Bool) (p : Place) :
    deviceOverrides p (.table fromFile entries) = .ok (deviceSaid standard.device part) := by
  have hapiLevel := h.readsOptional "api_level" hfits (by rfl) decodes_smallNatural rfl
  have hbuildType := h.readsOptional "build_type" hfits (by rfl) decodes_text rfl
  refine deviceOverrides_eq ?_ ?_ fromFile p
  · simpa only [deviceSaid, standard, Option.or_none] using hapiLevel
  · simpa only [deviceSaid, standard, Option.or_none] using hbuildType

theorem logsConfig_eq {entries : List (String × Tree)} {c : LogsConfig}
    (hdefault : Reads entries "default" logEntry (some c.default))
    (herrors : Reads entries "errors" (Tree.optional logEntry) (c.errors.map some)) (fromFile : Bool)
    (p : Place) : logsConfig p (.table fromFile entries) = .ok c := by
  simp [logsConfig, Record.ofTree, hdefault.field?, herrors.field?, Record.demandAll, Record.shortLength?,
    Record.required, join_map_some, bind, Except.bind, pure, Except.pure]

/-- A name that leads to a table that is read. -/
theorem reads_of_table {α : Type} {read : Place → Tree → Result α} {entries inner : List (String × Tree)}
    {fromFile : Bool} {a : α} (hlookup : entries.lookup name = some (.table fromFile inner))
    (hread : ∀ p, read p (.table fromFile inner) = .ok a) :
    Reads entries name read (some a) ∧ Reads entries name (Tree.optional read) (some (some a)) := by
  unfold Reads
  rw [hlookup]
  refine ⟨⟨a, rfl, hread⟩, ⟨some a, rfl, fun p => ?_⟩⟩
  rw [Tree.optional, hread p]
  · rfl
  · nofun

theorem logsConfig_of_liesOver {entries : List (String × Tree)}
    (h : LiesOver part [("default", .table false standardLogEntry)] entries)
    (hfits : PartFits needed logsFields part) (fromFile : Bool) (p : Place) :
    logsConfig p (.table fromFile entries)
      = .ok
        { default := logEntrySaid standard.logs.default (said part "default")
          errors := ((said part "errors").map fun entry => logEntrySaid unset (some entry)).or
            standard.logs.errors } := by
  have hlogNames : ∀ n ∈ logFields.map Prod.fst, Text.lower n = n := lower_of_subset (by decide)
  have hdefaultFits : PartFits [] logFields (said part "default") := hfits.below rfl
  refine logsConfig_eq ?_ ?_ fromFile p
  · obtain ⟨fromFile', inner, hlookup, hlies⟩ := h.exists_section hdefaultFits hlogNames rfl
    refine (reads_of_table hlookup fun p => ?_).1
    refine logEntry_of_liesOver hlies hdefaultFits ?_ ?_ (by decide) fromFile' p
    · exact hlies.reads hdefaultFits (by rfl) decodes_flag ⟨_, rfl, fun _ => rfl⟩
    · exact hlies.reads hdefaultFits (by rfl) decodes_text ⟨_, rfl, fun _ => rfl⟩
  · cases hsaid : said part "errors" with
    | none =>
      unfold Reads
      rw [h.lookup_of_unsaid hsaid]
      rfl
    | some entry =>
      -- The standard settings have no such entry: it must say itself what they say of the other one.
      have hentry : Fits (.object ["enable", "target"] logFields) entry := hfits.said rfl hsaid
      obtain ⟨fromFile', inner, hlookup, hlies⟩ := h.exists_table hsaid hentry hlogNames rfl
      refine (reads_of_table hlookup fun p => ?_).2
      refine logEntry_of_liesOver hlies (.of_fits hentry) ?_ ?_ (by decide) fromFile' p
      · exact hlies.readsNeeded hentry (by decide) (by rfl) decodes_flag _
      · exact hlies.readsNeeded hentry (by decide) (by rfl) decodes_text _

/-! ## Documents -/

theorem addresses_settings : ∀ name ∈ settingsFields.map Prod.fst, Address.ofKey name = ⟨name, []⟩ := by
  decide +kernel

theorem ofTree_eq {entries : List (String × Tree)} {s : Settings}
    (hlogs : Reads entries "logs" logsConfig (some s.logs))
    (hloader : Reads entries "loader" loaderSettings (some s.loader)) {device : Option DeviceOverrides}
    (hdevice : Reads entries "device" deviceOverrides device) (hs : device.getD standard.device = s.device)
    (fromFile : Bool) (file : String) : ofTree file (.table fromFile entries) = .ok s := by
  simp [ofTree, Record.ofTree, hlogs.field?, hloader.field?, hdevice.field?, hs, bind, Except.bind, pure,
    Except.pure]

theorem ofTree_of_liesOver {doc : Item} {entries : List (String × Tree)}
    (h : LiesOver (some doc) standardEntries entries) (hfits : IsConfiguration doc) (fromFile : Bool)
    (file : String) : ofTree file (.table fromFile entries) = .ok (saidBy doc) := by
  have hpart : PartFits [] settingsFields (some doc) := .of_fits hfits
  have hlogsFits : PartFits [] logsFields (said (some doc) "logs") := hpart.below rfl
  have hloaderFits : PartFits [] loaderFields (said (some doc) "loader") := hpart.below rfl
  have hlogs : Reads entries "logs" logsConfig (some (saidBy doc).logs) := by
    obtain ⟨_, inner, hlookup, hlies⟩ := h.exists_section hlogsFits (lower_of_subset (by decide)) rfl
    exact (reads_of_table hlookup (logsConfig_of_liesOver hlies hlogsFits _)).1
  have hloader : Reads entries "loader" loaderSettings (some (saidBy doc).loader) := by
    obtain ⟨_, inner, hlookup, hlies⟩ := h.exists_section hloaderFits (lower_of_subset (by decide)) rfl
    exact (reads_of_table hlookup (loaderSettings_of_liesOver hlies hloaderFits _)).1
  cases hsaid : said (some doc) "device" with
  | none =>
    have hdevice : Reads entries "device" deviceOverrides none := by
      unfold Reads
      rw [h.lookup_of_unsaid hsaid]
      rfl
    exact ofTree_eq hlogs hloader hdevice (by rw [saidBy, hsaid]; rfl) fromFile file
  | some device =>
    have hdeviceFits : Fits (.object [] deviceFields) device := hpart.said rfl hsaid
    obtain ⟨_, inner, hlookup, hlies⟩ := h.exists_table hsaid hdeviceFits (lower_of_subset (by decide)) rfl
    have hdevice := (reads_of_table hlookup (deviceOverrides_of_liesOver hlies (.of_fits hdeviceFits) _)).1
    exact ofTree_eq hlogs hloader hdevice (by rw [saidBy, hsaid]; rfl) fromFile file

/-- A configuration is read as what it says. -/
theorem parse_of_document {text : String} {doc : Item} (h : Document .plain text doc)
    (hfits : IsConfiguration doc) (file : String) : parse file text = .ok (saidBy doc) := by
  obtain ⟨v, hparse, hstand⟩ := exists_parse?_of_document h
  have hfits' := hfits
  cases hfits with
  | @object _ _ members hkeys _ hknown =>
    cases hstand with
    | @object values _ hmembers =>
      have hnodup : (values.map Prod.fst).Nodup := keys_standForMembers hmembers ▸ hkeys
      have hentries : parseEntries file text = .ok (Tree.entriesOf values) := by
        rw [parseEntries, hparse]
        simp only [Tree.ofValue_object hnodup, Tree.entries]
      have haddresses : ∀ name ∈ (Tree.entriesOf values).map Prod.fst, Address.ofKey name = ⟨name, []⟩ := by
        rw [Tree.keys_entriesOf, keys_standForMembers hmembers]
        exact fun name hname => addresses_settings name (hknown name hname)
      have hlies := liesOver_putAll hmembers (areNames_of_fits hfits' (lower_of_subset (by decide)))
        (.table false standardEntries)
      obtain ⟨fromFile, entries, htable⟩ :=
        Tree.exists_table_putAll false standardEntries (Tree.entriesOf values)
      rw [htable] at hlies
      rw [parse, hentries]
      change ofTree file (defaultTree.merge _) = _
      rw [Tree.merge_eq_putAll haddresses, defaultTree_eq, htable]
      exact ofTree_of_liesOver hlies hfits' fromFile file

/-- Without a file the settings are those of a document without keys. -/
theorem withoutFile_eq : withoutFile = .ok (saidBy (.object [])) := by
  have hfits : IsConfiguration (.object []) :=
    .object List.nodup_nil nofun nofun nofun
  have hlies : LiesOver (some (.object [])) standardEntries standardEntries := fun _ => rfl
  rw [withoutFile, defaultTree_eq]
  exact ofTree_of_liesOver hlies hfits false ""

end BpfBoot.Settings
