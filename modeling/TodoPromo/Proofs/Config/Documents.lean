import TodoPromo.Config.Load

/-! # Settings in a document

What a document assigns to the fields of a configuration: `Assigns` ties its items to settings, whatever
form its sections have. A document that can be read leads to the settings that it assigns
(`ofEntries?_assigned`), and every one without a number of codes assigns some (`exists_assigns`). Which
they are can be computed (`assigns_of_settings?`). -/

namespace TodoPromo.Config

open Toml (Item Entries)

/-- What can be chosen by variables as well as by a document; what is missing is left to the defaults. -/
structure Settings where
  host : Option String
  threads : Option Nat
  todoPort : Option UInt16
  promoPort : Option UInt16
  backend : Option Backend
  dataDir : Option String
  nameSpace : Option String
  deriving DecidableEq

/-- The configuration with some settings. What it says of the number of threads if that is no setting is
left open. -/
def Settings.toConfig (s : Settings) (threads : Option Nat) : Config where
  host := s.host.getD default.host
  workerThreads := s.threads.or threads
  todoPort := s.todoPort.getD default.todoPort
  promoPort := s.promoPort.getD default.promoPort
  seedCount := default.seedCount
  store := {
    backend := s.backend.getD default.store.backend
    dataDir := s.dataDir.getD default.store.dataDir
    nameSpace := s.nameSpace.getD default.store.nameSpace }

def backendName : Backend → String
  | .file => "file"
  | .memory => "memory"

/-! ### What a document assigns -/

/-- The sections that a document has for the parts of the program. -/
inductive Part where
  | server
  | todo
  | promo
  | store

def Part.name : Part → String
  | server => "server"
  | todo => "todo"
  | promo => "promo"
  | store => "store"

/-- The fields of a section, in their order. -/
def Part.fields : Part → List String
  | server => ["host", "worker_threads"]
  | todo => ["port"]
  | promo => ["port", "seed_count"]
  | store => ["backend", "data_dir", "namespace"]

/-- The item that a section holds for a field: a table has it under the name of the field, a list at the
place of the field. -/
inductive Holds (fields : List String) (field : String) : Item → Item → Prop where
  | named {inline : Bool} {form : Toml.Form} {entries : Entries} {item : Item}
      (h : entries.item? field = some item) : Holds fields field (.table inline form entries) item
  | placed {items : List Item} {i : Nat} {item : Item} (hfield : fields[i]? = some field)
      (hitem : items[i]? = some item) : Holds fields field (.array items) item
  | placedTable {items : List Entries} {i : Nat} {entries : Entries} (hfield : fields[i]? = some field)
      (hitem : items[i]? = some entries) :
      Holds fields field (.tables items) (.table false .explicit entries)

/-- The item that a document gives to a field of a part. -/
def Gives (document : Entries) (part : Part) (field : String) (item : Item) : Prop :=
  ∃ s, document.item? part.name = some s ∧ Holds part.fields field s item

/-- A document assigns a value to a field by an item that spells it, and no value by giving nothing. -/
def Assigned {α : Type} (document : Entries) (part : Part) (field : String) (spells : α → Item → Prop) :
    Option α → Prop
  | none => ∀ item, ¬ Gives document part field item
  | some a => ∃ item, Gives document part field item ∧ spells a item

def SpellsText (v : String) (item : Item) : Prop := item = .text v

def SpellsNumber (n : Nat) (item : Item) : Prop := item = .integer n

def SpellsPort (p : UInt16) (item : Item) : Prop := item = .integer p.toNat

/-- Items with nothing in them. -/
inductive Bare : Item → Prop where
  | table (inline : Bool) (form : Toml.Form) : Bare (.table inline form [])
  | array : Bare (.array [])
  | tables : Bare (.tables [])

/-- A backend is spelled by its name, which is a text or the only key of a table. -/
inductive SpellsBackend (b : Backend) : Item → Prop where
  | text : SpellsBackend b (.text (backendName b))
  | key (inline : Bool) (form : Toml.Form) {item : Item} (h : Bare item) :
      SpellsBackend b (.table inline form [(backendName b, item)])

/-- A document that chooses some settings and nothing else. -/
structure Assigns (document : Entries) (s : Settings) : Prop where
  host : Assigned document .server "host" SpellsText s.host
  threads : Assigned document .server "worker_threads" SpellsNumber s.threads
  todoPort : Assigned document .todo "port" SpellsPort s.todoPort
  promoPort : Assigned document .promo "port" SpellsPort s.promoPort
  seedCount : Assigned document .promo "seed_count" SpellsNumber none
  backend : Assigned document .store "backend" SpellsBackend s.backend
  dataDir : Assigned document .store "data_dir" SpellsText s.dataDir
  nameSpace : Assigned document .store "namespace" SpellsText s.nameSpace

theorem item?_zip {fields : List String} (hfields : fields.Nodup) {items : List Item} {field : String}
    {item : Item} : Entries.item? field (fields.zip items) = some item ↔
      ∃ i : Nat, fields[i]? = some field ∧ items[i]? = some item := by
  induction fields generalizing items with
  | nil => simp [Entries.item?]
  | cons first fields ih =>
      obtain ⟨hfirst, hrest⟩ := List.nodup_cons.mp hfields
      cases items with
      | nil => simp [Entries.item?]
      | cons head items =>
          by_cases hname : first = field
          · subst hname
            have hhead : Entries.item? first ((first :: fields).zip (head :: items)) = some head := by
              simp [Entries.item?]
            rw [hhead]
            constructor
            · intro h
              exact ⟨0, rfl, h⟩
            · rintro ⟨i, hi, hitem⟩
              cases i with
              | zero => exact hitem
              | succ i => exact (hfirst (List.mem_of_getElem? hi)).elim
          · have htail : Entries.item? field ((first :: fields).zip (head :: items)) =
                Entries.item? field (fields.zip items) := by
              simp [Entries.item?, hname]
            rw [htail, ih hrest]
            constructor
            · rintro ⟨i, hi, hitem⟩
              exact ⟨i + 1, hi, hitem⟩
            · rintro ⟨i, hi, hitem⟩
              cases i with
              | zero => exact (hname (Option.some.inj hi)).elim
              | succ i => exact ⟨i, hi, hitem⟩

theorem sectionOf_holds {fields : List String} (hfields : fields.Nodup) {s : Item} {fieldOf : Section}
    (h : sectionOf fields s = some fieldOf) {field : String} {item : Item} :
    fieldOf field = some item ↔ Holds fields field s item := by
  cases s with
  | table inline form entries =>
      obtain rfl := Option.some.inj h
      constructor
      · exact .named
      · rintro ⟨hitem⟩
        exact hitem
  | array items =>
      obtain rfl := Option.some.inj h
      rw [item?_zip hfields]
      constructor
      · rintro ⟨i, hi, hitem⟩
        exact .placed hi hitem
      · intro hholds
        cases hholds with
        | placed hi hitem => exact ⟨_, hi, hitem⟩
  | tables items =>
      obtain rfl := Option.some.inj h
      rw [item?_zip hfields]
      constructor
      · rintro ⟨i, hi, hitem⟩
        rw [List.getElem?_map] at hitem
        obtain ⟨entries, hentries, rfl⟩ := Option.map_eq_some_iff.mp hitem
        exact .placedTable hi hentries
      · intro hholds
        cases hholds with
        | placedTable hi hentries =>
            refine ⟨_, hi, ?_⟩
            rw [List.getElem?_map, hentries]
            rfl
  | moment =>
      obtain rfl := Option.some.inj h
      constructor
      · intro hitem
        cases hitem
      · intro hholds
        cases hholds
  | text s => cases h
  | integer n => cases h
  | float => cases h
  | boolean b => cases h

section
variable {document : Entries} {part : Part} {found : Option Section} {field : String}

theorem Part.nodup_fields (part : Part) : part.fields.Nodup := by
  cases part
  all_goals decide

theorem section?_gives (h : section? document part.name part.fields = some found) {item : Item} :
    found.bind (· field) = some item ↔ Gives document part field item := by
  unfold section? at h
  unfold Gives
  cases hsection : document.item? part.name with
  | none =>
      rw [hsection] at h
      obtain rfl := Option.some.inj h
      simp
  | some s =>
      rw [hsection] at h
      obtain ⟨fieldOf, hfieldOf, rfl⟩ := Option.map_eq_some_iff.mp h
      simp [sectionOf_holds part.nodup_fields hfieldOf]

theorem not_gives (h : section? document part.name part.fields = some found)
    (hnone : found.bind (· field) = none) : ∀ item, ¬ Gives document part field item := by
  intro item hgives
  rw [(section?_gives h).mpr hgives] at hnone
  cases hnone

variable {α β : Type} {spells : α → Item → Prop} {a? : Option α} {read : Item → Option β} {missing b : β}

/-- A field is read from the item that spells the assigned value, or it is not assigned and the default is
taken. -/
theorem field_assigned (hassigned : Assigned document part field spells a?)
    (hfound : section? document part.name part.fields = some found)
    (hfield : Config.field found field missing read = some b) :
    a? = none ∧ b = missing ∨ ∃ a item, a? = some a ∧ spells a item ∧ read item = some b := by
  cases a? with
  | none =>
      have hnone : found.bind (· field) = none := by
        rw [Option.eq_none_iff_forall_ne_some]
        intro item hitem
        exact hassigned item ((section?_gives hfound).mp hitem)
      unfold Config.field at hfield
      rw [hnone] at hfield
      exact .inl ⟨rfl, (Option.some.inj hfield).symm⟩
  | some a =>
      obtain ⟨item, hgives, hspells⟩ := hassigned
      unfold Config.field at hfield
      rw [(section?_gives hfound).mpr hgives] at hfield
      exact .inr ⟨a, item, rfl, hspells, hfield⟩

/-- If every spelling of a value is read as that value, an assigned field has its value or the default. -/
theorem field_eq {spells : β → Item → Prop} {b? : Option β}
    (hassigned : Assigned document part field spells b?)
    (hfound : section? document part.name part.fields = some found)
    (hfield : Config.field found field missing read = some b)
    (hread : ∀ b item, spells b item → read item = some b) : b = b?.getD missing := by
  obtain ⟨rfl, rfl⟩ | ⟨a, item, rfl, hspells, hitem⟩ := field_assigned hassigned hfound hfield
  · rfl
  · rw [hread a item hspells] at hitem
    exact (Option.some.inj hitem).symm

theorem exists_assigned (hfound : section? document part.name part.fields = some found)
    (hfield : Config.field found field missing read = some b)
    (hread : ∀ item b, read item = some b → ∃ a, spells a item) :
    ∃ a?, Assigned document part field spells a? := by
  unfold Config.field at hfield
  cases hitem : found.bind (· field) with
  | none => exact ⟨none, not_gives hfound hitem⟩
  | some item =>
      rw [hitem] at hfield
      obtain ⟨a, ha⟩ := hread item b hfield
      exact ⟨some a, item, (section?_gives hfound).mp hitem, ha⟩

end

/-! ### Reading items -/

theorem number?_eq_some {limit n : Nat} {item : Item} :
    number? limit item = some n ↔ SpellsNumber n item ∧ n < limit := by
  unfold number? SpellsNumber
  split
  · rename_i i
    rw [Item.integer.injEq]
    split
    · simp_all
      omega
    · simp_all
      omega
  · simp_all

theorem port?_eq_some {p : UInt16} {item : Item} : port? item = some p ↔ SpellsPort p item := by
  unfold port? SpellsPort
  rw [Option.map_eq_some_iff]
  constructor
  · rintro ⟨n, hn, rfl⟩
    obtain ⟨hitem, hlimit⟩ := number?_eq_some.mp hn
    rw [UInt16.toNat_ofNat_of_lt' hlimit]
    exact hitem
  · intro hitem
    exact ⟨p.toNat, number?_eq_some.mpr ⟨hitem, p.toNat_lt⟩, UInt16.ofNat_toNat⟩

theorem text?_eq_some {v : String} {item : Item} : text? item = some v ↔ SpellsText v item := by
  unfold text? SpellsText
  split
  · simp [eq_comm]
  · simp_all

theorem backendNamed?_eq_some {name : String} {b : Backend} :
    backend?.named name = some b ↔ name = backendName b := by
  unfold backend?.named
  cases b with
  | file => grind [backendName]
  | memory => grind [backendName]

theorem backend?_eq_some {item : Item} {b : Backend} : backend? item = some b ↔ SpellsBackend b item := by
  constructor
  · intro h
    unfold backend? at h
    split at h
    · obtain rfl := backendNamed?_eq_some.mp h
      exact .text
    · obtain rfl := backendNamed?_eq_some.mp h
      exact .key _ _ (.table _ _)
    · obtain rfl := backendNamed?_eq_some.mp h
      exact .key _ _ .array
    · obtain rfl := backendNamed?_eq_some.mp h
      exact .key _ _ .tables
    · cases h
  · intro h
    cases h with
    | text => exact backendNamed?_eq_some.mpr rfl
    | key inline form hbare =>
        cases hbare with
        | table => exact backendNamed?_eq_some.mpr rfl
        | array => exact backendNamed?_eq_some.mpr rfl
        | tables => exact backendNamed?_eq_some.mpr rfl

/-! ### Documents -/

section
variable {document : Entries} {c : Config} {s : Settings}

/-- The number of threads that is taken if none is given: with a server section it is left open. -/
def openThreads (server : Option Section) : Option Nat :=
  if server.isSome then none else default.workerThreads

def threads? (item : Item) : Option (Option Nat) := (number? UInt64.size item).map some

theorem ofEntries?_parts (h : ofEntries? document = some c) :
    (∃ server, section? document Part.server.name Part.server.fields = some server ∧
      Config.field server "host" default.host text? = some c.host ∧
      Config.field server "worker_threads" (openThreads server) threads? = some c.workerThreads) ∧
    (∃ todo, section? document Part.todo.name Part.todo.fields = some todo ∧
      Config.field todo "port" default.todoPort port? = some c.todoPort) ∧
    (∃ promo, section? document Part.promo.name Part.promo.fields = some promo ∧
      Config.field promo "port" default.promoPort port? = some c.promoPort ∧
      Config.field promo "seed_count" default.seedCount (number? UInt64.size) = some c.seedCount) ∧
    ∃ store, section? document Part.store.name Part.store.fields = some store ∧
      Config.field store "backend" default.store.backend backend? = some c.store.backend ∧
      Config.field store "data_dir" default.store.dataDir text? = some c.store.dataDir ∧
      Config.field store "namespace" default.store.nameSpace text? = some c.store.nameSpace := by
  obtain ⟨server, hserver, h⟩ := Option.bind_eq_some_iff.mp h
  obtain ⟨todo, htodo, h⟩ := Option.bind_eq_some_iff.mp h
  obtain ⟨promo, hpromo, h⟩ := Option.bind_eq_some_iff.mp h
  obtain ⟨store, hstore, h⟩ := Option.bind_eq_some_iff.mp h
  obtain ⟨host, hhost, h⟩ := Option.bind_eq_some_iff.mp h
  obtain ⟨threads, hthreads, h⟩ := Option.bind_eq_some_iff.mp h
  obtain ⟨todoPort, htodoPort, h⟩ := Option.bind_eq_some_iff.mp h
  obtain ⟨promoPort, hpromoPort, h⟩ := Option.bind_eq_some_iff.mp h
  obtain ⟨seedCount, hseedCount, h⟩ := Option.bind_eq_some_iff.mp h
  obtain ⟨backend, hbackend, h⟩ := Option.bind_eq_some_iff.mp h
  obtain ⟨dataDir, hdataDir, h⟩ := Option.bind_eq_some_iff.mp h
  obtain ⟨nameSpace, hnameSpace, h⟩ := Option.bind_eq_some_iff.mp h
  obtain rfl := Option.some.inj h
  exact ⟨⟨server, hserver, hhost, hthreads⟩, ⟨todo, htodo, htodoPort⟩,
    ⟨promo, hpromo, hpromoPort, hseedCount⟩, ⟨store, hstore, hbackend, hdataDir, hnameSpace⟩⟩

/-- A document leads to the settings that it assigns. -/
theorem ofEntries?_assigned (h : ofEntries? document = some c) (hs : Assigns document s) :
    (c = s.toConfig none ∨ c = s.toConfig default.workerThreads) ∧
      ∀ n, s.threads = some n → n < UInt64.size := by
  obtain ⟨⟨server, hserver, hhost, hthreads⟩, ⟨todo, htodo, htodoPort⟩,
    ⟨promo, hpromo, hpromoPort, hseedCount⟩, ⟨store, hstore, hbackend, hdataDir, hnameSpace⟩⟩ :=
    ofEntries?_parts h
  have host_eq := field_eq hs.host hserver hhost fun _ _ => text?_eq_some.mpr
  have todoPort_eq := field_eq hs.todoPort htodo htodoPort fun _ _ => port?_eq_some.mpr
  have promoPort_eq := field_eq hs.promoPort hpromo hpromoPort fun _ _ => port?_eq_some.mpr
  have seedCount_eq : c.seedCount = default.seedCount := by
    obtain ⟨-, hdefault⟩ | ⟨n, item, hn, -⟩ := field_assigned hs.seedCount hpromo hseedCount
    · exact hdefault
    · cases hn
  have backend_eq := field_eq hs.backend hstore hbackend fun _ _ => backend?_eq_some.mpr
  have dataDir_eq := field_eq hs.dataDir hstore hdataDir fun _ _ => text?_eq_some.mpr
  have nameSpace_eq := field_eq hs.nameSpace hstore hnameSpace fun _ _ => text?_eq_some.mpr
  have hrest : ∀ threads, c.workerThreads = s.threads.or threads → c = s.toConfig threads := by
    intro threads threads_eq
    obtain ⟨host, workerThreads, todoPort, promoPort, seedCount, backend, dataDir, nameSpace⟩ := c
    dsimp only at host_eq todoPort_eq promoPort_eq seedCount_eq backend_eq dataDir_eq nameSpace_eq threads_eq
    subst host_eq todoPort_eq promoPort_eq seedCount_eq backend_eq dataDir_eq nameSpace_eq threads_eq
    rfl
  obtain ⟨hnone, hopen⟩ | ⟨n, item, hn, hspells, hitem⟩ := field_assigned hs.threads hserver hthreads
  · refine ⟨?_, fun n hn => ?_⟩
    · have hthreads := hrest (openThreads server) (by rw [hopen, hnone]; rfl)
      unfold openThreads at hthreads
      split at hthreads
      · exact .inl hthreads
      · exact .inr hthreads
    · rw [hnone] at hn
      cases hn
  · obtain ⟨m, hm, hworkers⟩ := Option.map_eq_some_iff.mp hitem
    obtain ⟨hspells', hlimit⟩ := number?_eq_some.mp hm
    obtain rfl : n = m := by
      have hsame : Item.integer n = Item.integer m := hspells.symm.trans hspells'
      exact Int.ofNat.inj (Item.integer.inj hsame)
    refine ⟨.inl (hrest none ?_), fun n' hn' => ?_⟩
    · rw [← hworkers, hn]
      rfl
    · rw [hn] at hn'
      rwa [← Option.some.inj hn']

/-- Every configuration that a document spells without a number of codes consists of some settings. -/
theorem exists_assigns (h : ofEntries? document = some c)
    (hseed : Assigned document .promo "seed_count" SpellsNumber none) : ∃ s, Assigns document s := by
  obtain ⟨⟨server, hserver, hhost, hthreads⟩, ⟨todo, htodo, htodoPort⟩,
    ⟨promo, hpromo, hpromoPort, -⟩, ⟨store, hstore, hbackend, hdataDir, hnameSpace⟩⟩ :=
    ofEntries?_parts h
  have hspelled : ∀ item v, text? item = some v → ∃ a, SpellsText a item :=
    fun item v hv => ⟨v, text?_eq_some.mp hv⟩
  have hports : ∀ item p, port? item = some p → ∃ a, SpellsPort a item :=
    fun item p hp => ⟨p, port?_eq_some.mp hp⟩
  obtain ⟨host, hhost⟩ := exists_assigned hserver hhost hspelled
  obtain ⟨threads, hthreads⟩ : ∃ threads, Assigned document .server "worker_threads" SpellsNumber threads := by
    refine exists_assigned hserver hthreads fun item n hn => ?_
    obtain ⟨n, hn, -⟩ := Option.map_eq_some_iff.mp hn
    exact ⟨n, (number?_eq_some.mp hn).1⟩
  obtain ⟨todoPort, htodoPort⟩ := exists_assigned htodo htodoPort hports
  obtain ⟨promoPort, hpromoPort⟩ := exists_assigned hpromo hpromoPort hports
  obtain ⟨backend, hbackend⟩ := exists_assigned hstore hbackend
    fun item b hb => ⟨b, backend?_eq_some.mp hb⟩
  obtain ⟨dataDir, hdataDir⟩ := exists_assigned hstore hdataDir hspelled
  obtain ⟨nameSpace, hnameSpace⟩ := exists_assigned hstore hnameSpace hspelled
  exact ⟨⟨host, threads, todoPort, promoPort, backend, dataDir, nameSpace⟩, hhost, hthreads, htodoPort,
    hpromoPort, hseed, hbackend, hdataDir, hnameSpace⟩

end

/-! ### Settings as they are computed -/

/-- What a document gives to a field, as it is read: nothing if it gives nothing. -/
def given? {α : Type} (document : Entries) (part : Part) (field : String) (read : Item → Option α) :
    Option (Option α) :=
  match section? document part.name part.fields with
  | none => none
  | some found =>
    match found.bind (· field) with
    | none => some none
    | some item => (read item).map some

theorem assigned_of_given? {α : Type} {document : Entries} {part : Part} {field : String}
    {spells : α → Item → Prop} {read : Item → Option α} {a? : Option α}
    (h : given? document part field read = some a?)
    (hread : ∀ item a, read item = some a → spells a item) :
    Assigned document part field spells a? := by
  unfold given? at h
  cases hfound : section? document part.name part.fields with
  | none =>
      rw [hfound] at h
      cases h
  | some found =>
      rw [hfound] at h
      dsimp only at h
      cases hitem : found.bind (· field) with
      | none =>
          rw [hitem] at h
          obtain rfl := Option.some.inj h
          exact not_gives hfound hitem
      | some item =>
          rw [hitem] at h
          obtain ⟨a, ha, rfl⟩ := Option.map_eq_some_iff.mp h
          exact ⟨item, (section?_gives hfound).mp hitem, hread item a ha⟩

/-- The settings that a document assigns, unless it gives a number of codes. -/
def settings? (document : Entries) : Option Settings := do
  let host ← given? document .server "host" text?
  let threads ← given? document .server "worker_threads" (number? UInt64.size)
  let todoPort ← given? document .todo "port" port?
  let promoPort ← given? document .promo "port" port?
  let seedCount ← given? document .promo "seed_count" (number? UInt64.size)
  let backend ← given? document .store "backend" backend?
  let dataDir ← given? document .store "data_dir" text?
  let nameSpace ← given? document .store "namespace" text?
  if seedCount = none then some ⟨host, threads, todoPort, promoPort, backend, dataDir, nameSpace⟩ else none

theorem assigns_of_settings? {document : Entries} {s : Settings} (h : settings? document = some s) :
    Assigns document s := by
  have hnumber : ∀ item n, number? UInt64.size item = some n → SpellsNumber n item :=
    fun item n hn => (number?_eq_some.mp hn).1
  unfold settings? at h
  obtain ⟨host, hhost, h⟩ := Option.bind_eq_some_iff.mp h
  obtain ⟨threads, hthreads, h⟩ := Option.bind_eq_some_iff.mp h
  obtain ⟨todoPort, htodoPort, h⟩ := Option.bind_eq_some_iff.mp h
  obtain ⟨promoPort, hpromoPort, h⟩ := Option.bind_eq_some_iff.mp h
  obtain ⟨seedCount, hseedCount, h⟩ := Option.bind_eq_some_iff.mp h
  obtain ⟨backend, hbackend, h⟩ := Option.bind_eq_some_iff.mp h
  obtain ⟨dataDir, hdataDir, h⟩ := Option.bind_eq_some_iff.mp h
  obtain ⟨nameSpace, hnameSpace, h⟩ := Option.bind_eq_some_iff.mp h
  split at h
  · rename_i hnone
    obtain rfl := Option.some.inj h
    subst hnone
    exact ⟨assigned_of_given? hhost fun _ _ => text?_eq_some.mp, assigned_of_given? hthreads hnumber,
      assigned_of_given? htodoPort fun _ _ => port?_eq_some.mp,
      assigned_of_given? hpromoPort fun _ _ => port?_eq_some.mp, assigned_of_given? hseedCount hnumber,
      assigned_of_given? hbackend fun _ _ => backend?_eq_some.mp,
      assigned_of_given? hdataDir fun _ _ => text?_eq_some.mp,
      assigned_of_given? hnameSpace fun _ _ => text?_eq_some.mp⟩
  · cases h

end TodoPromo.Config
