import TodoPromo.Proofs.Config.Sources
import TodoPromo.Proofs.Launch.Threads
import TodoPromo.Proofs.Store.Outcomes
import TodoPromo.Proofs.Text.Trimming

/-! # Configurations that can be used

Checking a configuration changes nothing exactly if it can be used (`Config.checked_eq_self_iff`), and what
the checks let through can be used, wherever it came from. Then the namespace is one that a directory
admits, so that a store fails to open for no other reason than its directory or its files
(`Launch.loaded_usable`). -/

namespace TodoPromo

open Files (Attempt Disk MapFile)

theorem Files.hasPointPair_iff {cs : List Char} : hasPointPair cs = true ↔ ['.', '.'] <:+: cs := by
  fun_induction hasPointPair cs with
  | case1 rest =>
      simp only [true_iff]
      exact ⟨[], rest, rfl⟩
  | case2 c rest hpair ih =>
      rw [ih, List.infix_cons_iff]
      constructor
      · exact .inr
      · rintro (⟨tail, hprefix⟩ | hinfix)
        · obtain ⟨rfl, hrest⟩ := List.cons.inj hprefix
          exact (hpair tail rfl hrest.symm).elim
        · exact hinfix
  | case3 => simp

/-! ### Checked configurations -/

namespace Config

/-- A configuration with which a service can be started. -/
structure Usable (c : Config) : Prop where
  host : Text.trim c.host ≠ ""
  threads : ∃ n, c.workerThreads = some n ∧ 1 ≤ n
  todoPort : c.todoPort ≠ 0
  promoPort : c.promoPort ≠ 0
  seedCount : 1 ≤ c.seedCount
  nameSpace : Text.trim c.store.nameSpace ≠ ""
  no_slash : '/' ∉ c.store.nameSpace.toList
  no_backslash : '\\' ∉ c.store.nameSpace.toList
  no_points : ¬ ['.', '.'] <:+: c.store.nameSpace.toList
  dataDir : c.store.backend = .file → Text.trim c.store.dataDir ≠ ""

theorem validate_store_iff {c : StoreSettings} : c.validate = .ok () ↔
    Text.trim c.nameSpace ≠ "" ∧ ('/' ∉ c.nameSpace.toList ∧ '\\' ∉ c.nameSpace.toList ∧
      ¬ ['.', '.'] <:+: c.nameSpace.toList) ∧ (c.backend = .file → Text.trim c.dataDir ≠ "") := by
  unfold StoreSettings.validate
  rw [← Files.hasPointPair_iff, ne_eq, ne_eq, Text.trim_eq_empty_iff, Text.trim_eq_empty_iff]
  dsimp only
  split
  · grind
  · split
    · grind
    · split
      · grind
      · grind

theorem validate_iff {c : Config} : c.validate = .ok () ↔
    c.todoPort ≠ 0 ∧ c.promoPort ≠ 0 ∧ 1 ≤ c.seedCount ∧ c.store.validate = .ok () := by
  unfold validate
  split
  · grind
  · split
    · grind
    · grind

theorem host_normalize (c : Config) : Text.trim c.normalize.host ≠ "" := by
  rw [ne_eq, Text.trim_eq_empty_iff]
  show ¬ Text.allBlank (if Text.allBlank c.host then loopback else c.host) = true
  split
  · decide
  · assumption

/-- Where host and threads are there already, normalizing changes nothing. -/
theorem normalize_eq_self {c : Config} (hhost : Text.trim c.host ≠ "")
    (hthreads : ∃ n, c.workerThreads = some n ∧ 1 ≤ n) : c.normalize = c := by
  rw [ne_eq, Text.trim_eq_empty_iff] at hhost
  obtain ⟨n, hn, hpos⟩ := hthreads
  obtain ⟨m, rfl⟩ := Nat.exists_eq_add_of_le' hpos
  cases c
  subst hn
  unfold normalize
  rw [if_neg hhost]
  rfl

/-- The checks leave a configuration as it is exactly if it can be used. -/
theorem checked_eq_self_iff {c : Config} : c.checked = .ok c ↔ Usable c := by
  rw [checked_eq_ok, validate_iff, validate_store_iff]
  constructor
  · rintro ⟨hsame, todoPort, promoPort, seedCount, nameSpace, ⟨no_slash, no_backslash, no_points⟩, dataDir⟩
    have host := host_normalize c
    have threads := Launch.threads_normalize c
    rw [hsame] at host threads
    exact { host, threads, todoPort, promoPort, seedCount, nameSpace, no_slash, no_backslash, no_points,
            dataDir }
  · intro h
    exact ⟨normalize_eq_self h.host h.threads, h.todoPort, h.promoPort, h.seedCount, h.nameSpace,
      ⟨h.no_slash, h.no_backslash, h.no_points⟩, h.dataDir⟩

/-- What the checks let through is let through again. -/
theorem checked_checked {given c : Config} (h : given.checked = .ok c) : c.checked = .ok c := by
  obtain ⟨rfl, hvalid⟩ := checked_eq_ok.mp h
  rw [checked_eq_ok]
  exact ⟨normalize_eq_self (host_normalize given) (Launch.threads_normalize given), hvalid⟩

/-- A directory admits the namespace of a configuration that can be used. -/
theorem Usable.isNamespace {c : Config} (h : Usable c) : Files.isNamespace c.store.nameSpace = true := by
  have hne : c.store.nameSpace.toList ≠ [] := by
    intro hnil
    apply h.nameSpace
    unfold Text.trim
    rw [hnil]
    rfl
  have hpoints := h.no_points
  rw [← Files.hasPointPair_iff] at hpoints
  have hslash := h.no_slash
  have hbackslash := h.no_backslash
  unfold Files.isNamespace
  simp_all

end Config

/-! ### Opening a store -/

section
variable {σ α β : Type}

/-- An action that fails in no other way than that the store does. -/
def FailsInStorage (x : Action σ α) : Prop :=
  ∀ s e, (x.outcome s).1 = .error e → ∃ detail, e = .storage detail

theorem FailsInStorage.bind {x : Action σ α} {f : α → Action σ β} (hx : FailsInStorage x)
    (hf : ∀ a, FailsInStorage (f a)) : FailsInStorage (x >>= f) := by
  intro s e h
  cases hs : x.outcome s with
  | mk r s' =>
      cases r with
      | ok a =>
          rw [Action.outcome_bind_ok hs] at h
          exact hf a s' e h
      | error e' =>
          rw [Action.outcome_bind_error hs] at h
          exact hx s e (by rw [hs]; exact congrArg Except.error (Except.error.inj h))

theorem failsInStorage_toAction (x : Attempt σ α) : FailsInStorage x.toAction := by
  intro s e h
  unfold Files.Attempt.toAction at h
  rw [Action.outcome_ofFunction] at h
  split at h
  · cases h
  · exact ⟨_, (Except.error.inj h).symm⟩

variable {δ κ : Type} [Disk δ] [DecidableEq κ] [Json.CodedKey κ] [Json.Coded α]

theorem failsInStorage_makeParent (path : String) : FailsInStorage (MapFile.makeParent path : Action δ Unit) := by
  unfold MapFile.makeParent
  split
  · exact failsInStorage_toAction _
  · intro s e h
    cases h

theorem decodeTable_error {path : String} {contents : Bytes} {e : ActionError}
    (h : (MapFile.decodeTable path contents : Except ActionError (Table κ α)) = .error e) :
    ∃ detail, e = .storage detail := by
  unfold MapFile.decodeTable at h
  split at h
  · cases h
  · split at h
    · cases h
    · exact ⟨_, (Except.error.inj h).symm⟩

theorem failsInStorage_load (path : String) :
    FailsInStorage (MapFile.load path : Action δ (MapFile κ α)) := by
  apply FailsInStorage.bind (failsInStorage_makeParent path)
  intro _ s e h
  rw [Action.outcome_ofFunction] at h
  split at h
  · rename_i contents s' _
    cases htable : (MapFile.decodeTable path contents : Except ActionError (Table κ α)) with
    | ok t =>
        rw [htable] at h
        cases h
    | error e' =>
        rw [htable] at h
        obtain rfl := Except.error.inj h
        exact decodeTable_error htable
  · exact failsInStorage_toAction _ _ e h
  · exact ⟨_, (Except.error.inj h).symm⟩

/-- A provider without open namespaces fails to open one that it admits only if its file fails. -/
theorem openNamespace_error {name dir : String} (hname : Files.isNamespace name = true) {s : δ}
    {e : ActionError} (h : ((Files.FileProvider.openNamespace name).outcome
      (Files.FileProvider.ofDir dir, s)).1 = .error e) : ∃ detail, e = .storage detail := by
  unfold Files.FileProvider.openNamespace at h
  rw [Action.outcome_ofFunction] at h
  simp only [hname, Bool.not_true, Bool.false_eq_true, if_false] at h
  split at h
  · cases h
  · split at h
    · cases h
    · rename_i e' s' hload
      obtain rfl := Except.error.inj h
      exact failsInStorage_load (δ := δ) (κ := String) (α := Bytes) _ s e' (by rw [hload])

end

namespace Launch

/-- What can keep a store from being opened: there is no directory for it, or its file fails. -/
inductive OpeningFails (dir : String) : LaunchError → Prop where
  | notDirectory : OpeningFails dir (.notDirectory dir)
  | noDirectory (e : Files.IoError) : OpeningFails dir (.noDirectory dir e)
  | storage (detail : String) : OpeningFails dir (.store (.storage detail))

section
variable {δ : Type} [Disk δ]

theorem ensureDirectory_error {dir : String} {s : δ} {e : LaunchError}
    (h : (ensureDirectory dir s).1 = .error e) : OpeningFails dir e := by
  unfold ensureDirectory at h
  rw [bind_step] at h
  generalize (Disk.isDirectory dir : Attempt δ Bool).run s = looked at h
  obtain ⟨e' | found, s'⟩ := looked
  · dsimp only at h
    rw [bind_step] at h
    generalize (Disk.makeDirs dir : Attempt δ Unit).run s' = made at h
    obtain ⟨e' | u, s''⟩ := made
    · obtain rfl := Except.error.inj h
      exact .noDirectory e'
    · cases h
  · cases found with
    | true => cases h
    | false =>
        obtain rfl := Except.error.inj h
        exact .notDirectory

theorem openConfigured_error {c : Config} (hc : c.Usable) {s : δ} {e : LaunchError}
    (h : (openConfigured c.store s).1 = .error e) : OpeningFails c.store.dataDir e := by
  unfold openConfigured at h
  cases hbackend : c.store.backend with
  | memory =>
      rw [hbackend] at h
      cases h
  | file =>
      rw [hbackend] at h
      dsimp only at h
      rw [bind_step] at h
      cases hensured : ensureDirectory c.store.dataDir s with
      | mk ensured s' =>
          rw [hensured] at h
          cases ensured with
          | error e' =>
              obtain rfl := Except.error.inj h
              exact ensureDirectory_error (congrArg Prod.fst hensured)
          | ok u =>
              dsimp only at h
              split at h
              · cases h
              · rename_i e' _ _ hopen
                obtain rfl := Except.error.inj h
                obtain ⟨detail, rfl⟩ := openNamespace_error hc.isNamespace (congrArg Prod.fst hopen)
                exact .storage detail

/-- Whatever file or variables a configuration was loaded from, it can be used: its checks are passed once
more and change nothing, and on any disk its store is opened, or the directory or the file is to blame, and
never the namespace. -/
theorem loaded_usable {env : Environment} {path : String} {s : δ} {c : Config}
    (h : (Config.loadFrom env path s).1 = .ok c) :
    c.Usable ∧ c.checked = .ok c ∧
      ∀ (δ' : Type) [Disk δ'] (s' : δ'),
        (∀ e, (openConfigured c.store s').1 = .error e → OpeningFails c.store.dataDir e) ∧
          ∀ detail, (openConfigured c.store s').1 ≠ .error (.store (.validation detail)) := by
  have hchecked : ∃ given : Config, given.checked = .ok c := by
    change (Config.ofFile env path _).bind Config.checked = .ok c at h
    obtain ⟨given, -, hgiven⟩ := Config.bind_eq_ok.mp h
    exact ⟨given, hgiven⟩
  obtain ⟨given, hgiven⟩ := hchecked
  have hagain := Config.checked_checked hgiven
  have husable := Config.checked_eq_self_iff.mp hagain
  refine ⟨husable, hagain, fun δ' _ s' => ⟨fun e he => openConfigured_error husable he, ?_⟩⟩
  intro detail hvalidation
  cases openConfigured_error husable hvalidation

end

/-- A file with a blank host, no threads, and a namespace of a point between blanks. -/
def careless : Files.Tree := Files.Tree.empty.place ["work", "config.toml"] (.file (Text.encode
  "server = \x7bhost = '\u3000', worker_threads = 0\x7d\nstore.namespace = ' . '\ntodo.port = 1\n"))

theorem loaded_usable_careless :
    let c : Config := { Config.default with todoPort := 1, store := ⟨.file, "data", " . "⟩ }
    (Config.loadFrom Table.empty "config.toml" careless).1 = .ok c ∧ c.Usable ∧ c.checked = .ok c ∧
      ∀ detail, (openConfigured c.store careless).1 ≠ .error (.store (.validation detail)) := by
  intro c
  have hloaded : (Config.loadFrom Table.empty "config.toml" careless).1 = .ok c :=
    Config.toOption_eq_some.mp (by decide +kernel)
  obtain ⟨husable, hchecked, hopening⟩ := loaded_usable hloaded
  exact ⟨hloaded, husable, hchecked, (hopening Files.Tree careless).2⟩

end Launch
end TodoPromo
