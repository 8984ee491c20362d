import TodoPromo.Proofs.Config.Documents
import TodoPromo.Proofs.Config.Sources
import TodoPromo.Proofs.Text.Ascii
import TodoPromo.Proofs.Text.SmallLetters
import TodoPromo.Proofs.Text.Trimming

/-! # Settings in variables

Variables tell settings: a number may have blanks, a sign and zeros around its digits, and a backend
capitals (`Tells`). What is read from them are the settings that they tell (`ofVariables_told`). -/

namespace TodoPromo.Config

/-- A number in base ten, perhaps with blanks around it, with a plus sign and with zeros in front. -/
def WritesNumber (n : Nat) (t : String) : Prop :=
  ∃ sign zeros, (sign = [] ∨ sign = ['+']) ∧
    Text.Surrounds (sign ++ (List.replicate zeros '0' ++ Nat.toDigits 10 n)) t

/-- The name of a backend in letters of any case, perhaps with blanks around it. -/
def WritesBackend (b : Backend) (t : String) : Prop :=
  ∃ name, Text.IsSpelling name (backendName b) ∧ Text.Surrounds name.toList t

/-- Variables that are set to some settings and are not set where there is none. -/
structure Tells (lookup : String → Option String) (s : Settings) : Prop where
  host : lookup "SERVER_HOST" = s.host
  threads : Option.Rel WritesNumber s.threads (lookup "TOKIO_WORKER_THREADS")
  todoPort : Option.Rel WritesNumber (s.todoPort.map UInt16.toNat) (lookup "TODO_PORT")
  promoPort : Option.Rel WritesNumber (s.promoPort.map UInt16.toNat) (lookup "PROMO_PORT")
  backend : Option.Rel WritesBackend s.backend (lookup "STORE_BACKEND")
  dataDir : lookup "STORE_DIR" = s.dataDir
  nameSpace : lookup "STORE_NAMESPACE" = s.nameSpace

theorem digitsBelow_digits {limit n : Nat} {cs : List Char} (hcs : ∀ c ∈ cs, c.isDigit = true)
    (hlimit : Nat.ofDigitChars 10 cs n < limit) :
    digitsBelow limit n cs = .ok (Nat.ofDigitChars 10 cs n) := by
  induction cs generalizing n with
  | nil => rfl
  | cons c cs ih =>
      obtain ⟨hc, hrest⟩ := List.forall_mem_cons.mp hcs
      rw [Nat.ofDigitChars_cons] at hlimit ⊢
      have hbelow := Nat.lt_of_le_of_lt (Text.le_ofDigitChars cs _) hlimit
      unfold digitsBelow
      rw [if_neg (by simp [hc])]
      dsimp only
      rw [if_neg (by omega)]
      exact ih hrest hlimit

theorem unsigned_signed {limit : Nat} {sign digits : List Char} (hsign : sign = [] ∨ sign = ['+'])
    (hdigits : ∀ c ∈ digits, c.isDigit = true) (hne : digits ≠ []) :
    unsigned limit (String.ofList (sign ++ digits)) = digitsBelow limit 0 digits := by
  obtain ⟨c, rest, rfl⟩ := List.exists_cons_of_ne_nil hne
  unfold unsigned
  rw [String.toList_ofList]
  obtain rfl | rfl := hsign
  · have hplus : c ≠ '+' := by
      rintro rfl
      exact absurd (hdigits '+' List.mem_cons_self) (by decide)
    simp [hplus]
  · rfl

theorem unsigned_writesNumber {limit n : Nat} {t : String} (h : WritesNumber n t) (hn : n < limit) :
    unsigned limit (Text.trim t) = .ok n := by
  obtain ⟨sign, zeros, hsign, hsurrounds⟩ := h
  have hdigits := Text.isDigit_leadingZeros zeros n
  have hvalue := Text.ofDigitChars_leadingZeros zeros n
  have hne : List.replicate zeros '0' ++ Nat.toDigits 10 n ≠ [] :=
    List.append_ne_nil_of_right_ne_nil _ Nat.toDigits_ne_nil
  generalize List.replicate zeros '0' ++ Nat.toDigits 10 n = digits at *
  have hblank : ∀ c ∈ sign ++ digits, Text.isBlank c = false := by
    intro c hc
    rcases List.mem_append.mp hc with hc | hc
    · obtain rfl | rfl := hsign
      · cases hc
      · rw [List.mem_singleton.mp hc]
        decide
    · exact Text.isBlank_of_isDigit (hdigits c hc)
  rw [Text.trim_surrounded hsurrounds hblank (List.append_ne_nil_of_right_ne_nil _ hne),
    unsigned_signed hsign hdigits hne, digitsBelow_digits hdigits (by omega), hvalue]

theorem isBlank_toLower : ∀ n < 128,
    Text.isBlank (Char.ofNat n) = true → Text.isBlank (Char.ofNat n).toLower = true := by
  decide +kernel

theorem backendName_letters (b : Backend) :
    (backendName b).toList ≠ [] ∧ (backendName b).toList.map Char.toLower = (backendName b).toList ∧
      ∀ c ∈ (backendName b).toList, c.toNat < 128 ∧ Text.isBlank c = false := by
  have hall : ((backendName b).toList.all fun c => c.toNat < 128 && !Text.isBlank c) = true := by
    cases b
    all_goals decide +kernel
  refine ⟨?_, ?_, by simpa using hall⟩
  · cases b
    all_goals decide
  · cases b
    all_goals decide

theorem backendNamed_writesBackend {b : Backend} {t : String} (h : WritesBackend b t) :
    backendNamed (Text.trim t) = .ok b := by
  obtain ⟨name, hspelling, hsurrounds⟩ := h
  obtain ⟨hne, hsmall, hletters⟩ := backendName_letters b
  obtain ⟨hascii, hsame⟩ := Text.toLower_spelling hspelling fun c hc => (hletters c hc).1
  rw [hsmall] at hsame
  have hblank : ∀ c ∈ name.toList, Text.isBlank c = false := by
    intro c hc
    have hlower : Text.isBlank c.toLower = false := by
      refine (hletters c.toLower ?_).2
      rw [← hsame]
      exact List.mem_map_of_mem hc
    have hkept := isBlank_toLower c.toNat (hascii c hc)
    rw [Char.ofNat_toNat, hlower] at hkept
    simpa using hkept
  have hname : name.toList ≠ [] := by
    intro hnil
    rw [hnil] at hsame
    exact hne hsame.symm
  rw [Text.trim_surrounded hsurrounds hblank hname, String.ofList_toList]
  have hlower : name.toLower = backendName b := by
    rw [← String.toList_inj, Text.toList_toLower, hsame]
  unfold backendNamed
  rw [hlower]
  cases b with
  | file => rfl
  | memory => rfl

/-- A variable that is set to a value, or not at all, is read as that. -/
theorem readVariable_told {α : Type} {lookup : String → Option String} {name : String}
    {writes : α → String → Prop} {read : String → Except ValueError α} {a? : Option α}
    (h : Option.Rel writes a? (lookup name))
    (hread : ∀ a t, a? = some a → writes a t → read (Text.trim t) = .ok a) :
    readVariable lookup read name = .ok a? := by
  unfold readVariable
  generalize lookup name = t? at h
  cases h with
  | none => rfl
  | some hwrites =>
      dsimp only
      rw [hread _ _ rfl hwrites]

/-- Variables lead to the settings that they tell. -/
theorem ofVariables_told {lookup : String → Option String} {s : Settings} (h : Tells lookup s)
    (hthreads : ∀ n, s.threads = some n → n < UInt64.size) :
    ofVariables lookup = .ok (s.toConfig default.workerThreads) := by
  have hport : ∀ (p? : Option UInt16) n t, p?.map UInt16.toNat = some n → WritesNumber n t →
      unsigned UInt16.size (Text.trim t) = .ok n := by
    intro p? n t hn hwrites
    obtain ⟨p, -, rfl⟩ := Option.map_eq_some_iff.mp hn
    exact unsigned_writesNumber hwrites p.toNat_lt
  refine ofVariables_eq_ok.mpr ⟨s.threads, s.todoPort.map UInt16.toNat, s.promoPort.map UInt16.toNat,
    s.backend, ?_, ?_, ?_, ?_, ?_⟩
  · exact readVariable_told h.threads fun n t hn hwrites => unsigned_writesNumber hwrites (hthreads n hn)
  · exact readVariable_told h.todoPort (hport s.todoPort)
  · exact readVariable_told h.promoPort (hport s.promoPort)
  · exact readVariable_told h.backend fun b t _ => backendNamed_writesBackend
  · have hback : ∀ p? : Option UInt16, (p?.map UInt16.toNat).map UInt16.ofNat = p? := by
      intro p?
      cases p? with
      | none => rfl
      | some p => rw [Option.map_some, Option.map_some, UInt16.ofNat_toNat]
    unfold assembled Settings.toConfig
    rw [h.host, h.dataDir, h.nameSpace, hback, hback]

end TodoPromo.Config
