import TodoPromo.Proofs.Config.ToldSettings

/-! # The same settings in a document and in variables

A configuration is written as a document or as variables. Both have defaults for what they leave out, and
not the same ones: a document with a server section may leave the number of threads open. What either way
leads to is checked, and then no difference is left (`document_as_variables`). Every configuration that a
document spells without a number of codes consists of such settings (`exists_assigns`). -/

namespace TodoPromo.Config

open Toml (Entries)

/-- A number of threads that is left open is the default after all. -/
theorem Settings.normalize_toConfig (s : Settings) :
    (s.toConfig none).normalize = (s.toConfig default.workerThreads).normalize := by
  unfold Settings.toConfig normalize
  cases s.threads with
  | none => rfl
  | some n => rfl

theorem checked_congr {c d : Config} (h : c.normalize = d.normalize) : c.checked = d.checked := by
  unfold checked
  rw [h]

/-- If a document chooses some settings, leaves out the number of codes, and is read as a configuration,
then variables that tell the same settings are read as well, and the checks make the same of both. -/
theorem document_as_variables {document : String} {entries : Entries} {written : Config} {s : Settings}
    {lookup : String → Option String} (hparse : Toml.parse? document = some entries)
    (hassigns : Assigns entries s) (hwritten : ofDocument? document = some written)
    (htells : Tells lookup s) :
    ∃ told, ofVariables lookup = .ok told ∧ told.checked = written.checked := by
  have hentries : ofEntries? entries = some written := by
    unfold ofDocument? at hwritten
    rw [hparse] at hwritten
    exact hwritten
  obtain ⟨hconfig, hthreads⟩ := ofEntries?_assigned hentries hassigns
  refine ⟨_, ofVariables_told htells hthreads, ?_⟩
  apply checked_congr
  obtain rfl | rfl := hconfig
  · exact s.normalize_toConfig.symm
  · rfl

/-- A blank host, no threads, a port for lists and the memory as backend. -/
def chosen : Settings := ⟨some "\u3000", some 0, some 9090, none, some .memory, none, none⟩

/-- The choice as a list, a key with points, a table in braces, and an empty table. -/
def chosenDocument : String :=
  "server = ['\u3000', 0]\ntodo.port = 0x2382\n[promo]\n[store]\nbackend.memory = \x7b\x7d\n"

/-- The choice with a sign, zeros, blanks and a capital. -/
def chosenVariables (name : String) : Option String :=
  [("SERVER_HOST", "\u3000"), ("TOKIO_WORKER_THREADS", "+00"), ("TODO_PORT", " 09090\n"),
    ("STORE_BACKEND", "Memory")].lookup name

theorem tells_chosen : Tells chosenVariables chosen where
  host := by decide
  threads := .some ⟨['+'], 1, .inr rfl, [], [], by decide +kernel, by simp, by simp⟩
  todoPort := .some ⟨[], 1, .inl rfl, [' '], ['\n'], by decide +kernel, List.forall_mem_singleton.mpr rfl,
    List.forall_mem_singleton.mpr rfl⟩
  promoPort := .none
  backend := .some ⟨"Memory", by unfold Text.IsSpelling; decide, [], [], by decide, by simp, by simp⟩
  dataDir := by decide
  nameSpace := by decide

theorem document_as_variables_chosen :
    let written : Config :=
      ⟨"\u3000", some 0, 9090, 8082, 50, ⟨.memory, "data", "default"⟩⟩
    ofDocument? chosenDocument = some written ∧ written.checked =
      .ok ⟨"127.0.0.1", some 4, 9090, 8082, 50, ⟨.memory, "data", "default"⟩⟩ ∧
      ∃ told, ofVariables chosenVariables = .ok told ∧ told.checked = written.checked := by
  intro written
  have hchosen : (Toml.parse? chosenDocument).bind settings? = some chosen := by decide +kernel
  obtain ⟨entries, hparse, hsettings⟩ := Option.bind_eq_some_iff.mp hchosen
  have hwritten : ofDocument? chosenDocument = some written := by decide +kernel
  exact ⟨hwritten, toOption_eq_some.mp (by decide +kernel),
    document_as_variables hparse (assigns_of_settings? hsettings) hwritten tells_chosen⟩

end TodoPromo.Config
