import TodoPromo.Files.Disk

/-! # Paths taken apart

Every path that does not end in a slash is a name with something before it (`exists_lead`), and
goes where its components say: those of the lead, and then the name (`components_append`). The
temporary file is named beside the file (`temporaryPath_append`) and never like it
(`temporaryName_ne`); for the file of a namespace it is the namespace that counts
(`temporaryName_namespace`). What a path of a file in a directory has for its parent is that
directory without the components that lead nowhere (`parent?_append`). -/

namespace TodoPromo

/-! ### Parts -/

namespace Text

variable {sep : Char}

theorem parts_of_not_mem {cs : List Char} (h : sep ∉ cs) : parts sep cs = [cs] := by
  induction cs with
  | nil => rfl
  | cons c cs ih =>
      rw [List.mem_cons, not_or] at h
      rw [parts, if_neg (Ne.symm h.1), ih h.2]

theorem parts_append_cons (sep : Char) (cs ds : List Char) :
    parts sep (cs ++ sep :: ds) = parts sep cs ++ parts sep ds := by
  induction cs with
  | nil => simp [parts]
  | cons c cs ih =>
      rw [List.cons_append, parts, parts, ih]
      by_cases hc : c = sep
      · rw [if_pos hc, if_pos hc, List.cons_append]
      · rw [if_neg hc, if_neg hc]
        cases hparts : parts sep cs with
        | nil => exact absurd hparts (parts_ne_nil sep cs)
        | cons part rest => rfl

theorem not_mem_of_mem_parts {cs part : List Char} (h : part ∈ parts sep cs) : sep ∉ part := by
  induction cs generalizing part with
  | nil =>
      obtain rfl := List.mem_singleton.mp h
      exact List.not_mem_nil
  | cons c cs ih =>
      rw [parts] at h
      by_cases hc : c = sep
      · rw [if_pos hc] at h
        obtain rfl | hrest := List.mem_cons.mp h
        · exact List.not_mem_nil
        · exact ih hrest
      · rw [if_neg hc] at h
        cases hparts : parts sep cs with
        | nil => exact absurd hparts (parts_ne_nil sep cs)
        | cons first rest =>
            rw [hparts] at h ih
            obtain rfl | hrest := List.mem_cons.mp h
            · rw [List.mem_cons, not_or]
              exact ⟨Ne.symm hc, ih (List.mem_cons_self ..)⟩
            · exact ih (List.mem_cons_of_mem _ hrest)

/-- Parts that were joined are found again. -/
theorem parts_intercalate {ps : List (List Char)} (hne : ps ≠ []) (h : ∀ p ∈ ps, sep ∉ p) :
    parts sep ([sep].intercalate ps) = ps := by
  induction ps with
  | nil => exact absurd rfl hne
  | cons p ps ih =>
      have hp : sep ∉ p := h p (List.mem_cons_self ..)
      cases ps with
      | nil => simpa [List.intercalate] using parts_of_not_mem hp
      | cons q qs =>
          have hjoined : [sep].intercalate (p :: q :: qs) =
              p ++ sep :: [sep].intercalate (q :: qs) := by
            simp [List.intercalate]
          have hrest := ih (List.cons_ne_nil q qs) fun p' hp' => h p' (List.mem_cons_of_mem _ hp')
          rw [hjoined, parts_append_cons, parts_of_not_mem hp, hrest, List.singleton_append]

end Text

namespace Files

/-! ### Leads and names -/

/-- What may stand before a name in a path: nothing, or a text that ends in a slash. -/
def IsLead (lead : String) : Prop := lead = "" ∨ endsInSlash lead = true

/-- A single component of a path. -/
structure IsName (name : String) : Prop where
  nonempty : name ≠ ""
  no_slash : '/' ∉ name.toList

/-- What stands before the names of the files of a directory. -/
def leadOf (dir : String) : String := if dir.isEmpty || endsInSlash dir then dir else dir ++ "/"

variable {dir lead name path : String}

theorem endsInSlash_iff : endsInSlash path = true ↔ ∃ cs, path.toList = cs ++ ['/'] := by
  unfold endsInSlash
  rw [beq_iff_eq, List.getLast?_eq_some_iff]

theorem isLead_leadOf (dir : String) : IsLead (leadOf dir) := by
  unfold leadOf IsLead
  by_cases h : (dir.isEmpty || endsInSlash dir) = true
  · rw [if_pos h]
    rw [Bool.or_eq_true, String.isEmpty_iff] at h
    exact h
  · rw [if_neg h]
    exact .inr (endsInSlash_iff.mpr ⟨dir.toList, by simp⟩)

theorem join_eq (dir name : String) : join dir name = leadOf dir ++ name := by
  unfold join leadOf
  split <;> rfl

theorem exists_split {cs : List Char} (hne : cs ≠ []) (h : cs.getLast? ≠ some '/') :
    ∃ lead name, cs = lead ++ name ∧ (lead = [] ∨ ∃ ds, lead = ds ++ ['/']) ∧ name ≠ [] ∧
      '/' ∉ name := by
  induction cs with
  | nil => exact absurd rfl hne
  | cons c cs ih =>
      cases cs with
      | nil =>
          have hc : c ≠ '/' := by
            rintro rfl
            exact h rfl
          exact ⟨[], [c], rfl, .inl rfl, by simp, by simpa using Ne.symm hc⟩
      | cons c' cs =>
          obtain ⟨lead, name, hsplit, hlead, hname, hslash⟩ :=
            ih (by simp) (by simpa [List.getLast?_cons] using h)
          rw [hsplit]
          obtain rfl | ⟨ds, rfl⟩ := hlead
          · by_cases hc : c = '/'
            · exact ⟨[c], name, rfl, .inr ⟨[], by rw [hc]; rfl⟩, hname, hslash⟩
            · refine ⟨[], c :: name, rfl, .inl rfl, by simp, ?_⟩
              rw [List.mem_cons, not_or]
              exact ⟨Ne.symm hc, hslash⟩
          · exact ⟨c :: (ds ++ ['/']), name, rfl, .inr ⟨c :: ds, rfl⟩, hname, hslash⟩

/-- A path that does not demand a directory ends in a name. -/
theorem exists_lead (hne : path ≠ "") (h : endsInSlash path = false) :
    ∃ lead name, path = lead ++ name ∧ IsLead lead ∧ IsName name := by
  have hcs : path.toList ≠ [] := fun hnil => hne (String.toList_inj.mp hnil)
  have hlast : path.toList.getLast? ≠ some '/' := by
    rw [← beq_eq_false_iff_ne]
    exact h
  obtain ⟨lead, name, hsplit, hlead, hname, hslash⟩ := exists_split hcs hlast
  refine ⟨String.ofList lead, String.ofList name, ?_, ?_, fun hempty => ?_, ?_⟩
  · refine String.toList_inj.mp ?_
    rw [String.toList_append, String.toList_ofList, String.toList_ofList, hsplit]
  · obtain rfl | hds := hlead
    · exact .inl rfl
    · refine .inr (endsInSlash_iff.mpr ?_)
      rw [String.toList_ofList]
      exact hds
  · have hnil := congrArg String.toList hempty
    rw [String.toList_ofList] at hnil
    exact hname hnil
  · rw [String.toList_ofList]
    exact hslash

/-! ### Components -/

theorem isName_of_mem_components {c : String} (h : c ∈ components path) : IsName c := by
  unfold components at h
  obtain ⟨cs, hcs, rfl⟩ := List.mem_map.mp h
  obtain ⟨hparts, hne⟩ := List.mem_filter.mp hcs
  refine ⟨fun hempty => ?_, ?_⟩
  · have hnil := congrArg String.toList hempty
    rw [String.toList_ofList] at hnil
    simp [hnil] at hne
  · rw [String.toList_ofList]
    exact Text.not_mem_of_mem_parts hparts

theorem components_of_isName (h : IsName name) : components name = [name] := by
  have hne : name.toList ≠ [] := fun hnil => h.nonempty (String.toList_inj.mp hnil)
  unfold components
  rw [Text.parts_of_not_mem h.no_slash]
  simp [hne]

/-- The components of a path are those of its lead and its name. -/
theorem components_append (hlead : IsLead lead) (hname : IsName name) :
    components (lead ++ name) = components lead ++ [name] := by
  obtain rfl | hslash := hlead
  · rw [String.empty_append, components_of_isName hname]
    rfl
  · obtain ⟨cs, hcs⟩ := endsInSlash_iff.mp hslash
    have hnames := components_of_isName hname
    unfold components at hnames ⊢
    rw [String.toList_append, hcs, List.append_assoc, List.singleton_append,
      Text.parts_append_cons, Text.parts_append_cons, List.filter_append, List.filter_append,
      List.map_append, List.map_append, hnames]
    simp [Text.parts]

theorem components_leadOf (dir : String) : components (leadOf dir) = components dir := by
  unfold leadOf
  split
  · rfl
  · unfold components
    rw [String.toList_append, show "/".toList = ['/'] from rfl, Text.parts_append_cons]
    simp [Text.parts]

theorem isAbsolute_append (hlead : IsLead lead) (hname : IsName name) :
    isAbsolute (lead ++ name) = isAbsolute lead := by
  unfold isAbsolute
  rw [String.toList_append]
  obtain rfl | hslash := hlead
  · cases hcs : name.toList with
    | nil => exact absurd (String.toList_inj.mp hcs) hname.nonempty
    | cons c cs =>
        have hc : c ≠ '/' := by
          rintro rfl
          exact hname.no_slash (by rw [hcs]; exact List.mem_cons_self ..)
        simp [hc]
  · obtain ⟨cs, hcs⟩ := endsInSlash_iff.mp hslash
    rw [hcs]
    cases cs <;> rfl

theorem isAbsolute_leadOf (dir : String) : isAbsolute (leadOf dir) = isAbsolute dir := by
  unfold leadOf
  split
  · rfl
  · rename_i h
    rw [Bool.or_eq_true, String.isEmpty_iff, not_or] at h
    unfold isAbsolute
    rw [String.toList_append]
    cases hcs : dir.toList with
    | nil => exact absurd (String.toList_inj.mp hcs) h.1
    | cons c cs => rfl

/-! ### Parents -/

/-- A directory by its significant components alone. -/
def tidy (dir : String) : String :=
  let cs := "/".intercalate (significant dir)
  if isAbsolute dir then "/" ++ cs else cs

theorem significant_append (hlead : IsLead lead) (hname : IsName name) (hdot : name ≠ ".") :
    significant (lead ++ name) = significant lead ++ [name] := by
  unfold significant
  rw [components_append hlead hname, isAbsolute_append hlead hname]
  cases components lead with
  | nil => simp [hdot]
  | cons c cs => simp [List.filter_append, hdot]

theorem significant_leadOf (dir : String) : significant (leadOf dir) = significant dir := by
  unfold significant
  rw [components_leadOf, isAbsolute_leadOf]

/-- The parent of a file in a directory is the directory. -/
theorem parent?_join (dir : String) (hname : IsName name) (hdot : name ≠ ".") :
    parent? (join dir name) = some (tidy dir) := by
  have hlead := isLead_leadOf dir
  unfold parent? tidy
  rw [join_eq, significant_append hlead hname hdot, isAbsolute_append hlead hname,
    significant_leadOf, isAbsolute_leadOf]
  cases hcs : significant dir ++ [name] with
  | nil => simp at hcs
  | cons c cs =>
      dsimp only
      rw [← hcs, List.dropLast_concat]

theorem isName_of_mem_significant {c : String} (h : c ∈ significant path) : IsName c := by
  unfold significant at h
  cases hcs : components path with
  | nil =>
      rw [hcs] at h
      cases h
  | cons first rest =>
      have hall : ∀ c' ∈ first :: rest, IsName c' := by
        rw [← hcs]
        exact fun c' hc' => isName_of_mem_components hc'
      rw [hcs] at h
      obtain hfirst | hrest := List.mem_append.mp h
      · split at hfirst
        · cases hfirst
        · obtain rfl := List.mem_singleton.mp hfirst
          exact hall c (List.mem_cons_self ..)
      · exact hall c (List.mem_cons_of_mem _ (List.mem_filter.mp hrest).1)

theorem components_intercalate {cs : List String} (h : ∀ c ∈ cs, IsName c) :
    components ("/".intercalate cs) = cs := by
  unfold components
  rw [String.toList_intercalate]
  cases cs with
  | nil => rfl
  | cons c rest =>
      have hslash : ∀ p ∈ (c :: rest).map String.toList, '/' ∉ p := by
        intro p hp
        obtain ⟨c', hc', rfl⟩ := List.mem_map.mp hp
        exact (h c' hc').no_slash
      have hfilter : ((c :: rest).map String.toList).filter (· ≠ []) =
          (c :: rest).map String.toList := by
        refine List.filter_eq_self.mpr fun p hp => ?_
        obtain ⟨c', hc', rfl⟩ := List.mem_map.mp hp
        have hne : c'.toList ≠ [] := fun hnil => (h c' hc').nonempty (String.toList_inj.mp hnil)
        simpa using hne
      rw [show "/".toList = ['/'] from rfl, Text.parts_intercalate (by simp) hslash, hfilter,
        List.map_map]
      simp

theorem components_tidy (dir : String) : components (tidy dir) = significant dir := by
  have hjoined := components_intercalate fun c (hc : c ∈ significant dir) =>
    isName_of_mem_significant hc
  unfold tidy
  dsimp only
  split
  · refine Eq.trans ?_ hjoined
    unfold components
    rw [String.toList_append, show "/".toList = ['/'] from rfl, List.singleton_append, Text.parts,
      if_pos rfl]
    rfl
  · exact hjoined

theorem isAbsolute_tidy (dir : String) : isAbsolute (tidy dir) = isAbsolute dir := by
  unfold tidy
  dsimp only
  by_cases habsolute : isAbsolute dir = true
  · rw [if_pos habsolute, habsolute]
    unfold isAbsolute
    rw [String.toList_append]
    rfl
  · rw [if_neg habsolute, Bool.eq_false_iff.mpr habsolute]
    cases hcs : significant dir with
    | nil => rfl
    | cons c rest =>
        have hname : IsName c := isName_of_mem_significant (by rw [hcs]; exact List.mem_cons_self ..)
        unfold isAbsolute
        rw [String.toList_intercalate]
        cases hc : c.toList with
        | nil => exact absurd (String.toList_inj.mp hc) hname.nonempty
        | cons x xs =>
            have hx : x ≠ '/' := by
              rintro rfl
              exact hname.no_slash (by rw [hc]; exact List.mem_cons_self ..)
            cases rest <;> simp [List.intercalate, hc, hx]

/-- But for points, a directory has its significant components. -/
theorem filter_significant (dir : String) :
    (significant dir).filter (· ≠ ".") = (components dir).filter (· ≠ ".") := by
  unfold significant
  cases components dir with
  | nil => rfl
  | cons c cs =>
      dsimp only
      rw [List.filter_append, List.filter_filter, List.filter_cons]
      by_cases hc : c = "."
      · by_cases habsolute : isAbsolute dir = true <;> simp [hc, habsolute]
      · simp [hc]

/-! ### Temporary files -/

theorem splitExtension_append {stem ext : List Char} (hstem : stem ≠ []) (hext : '.' ∉ ext) :
    splitExtension (stem ++ '.' :: ext) = (stem, some ext) := by
  have hsuffix : (stem ++ '.' :: ext).reverse.takeWhile (· != '.') = ext.reverse := by
    have hall : ∀ c ∈ ext.reverse, (c != '.') = true := by
      intro c hc
      rw [List.mem_reverse] at hc
      rw [bne_iff_ne]
      rintro rfl
      exact hext hc
    rw [List.reverse_append, List.reverse_cons, List.append_assoc,
      List.takeWhile_append_of_pos hall]
    simp
  have hlength : ext.length ≠ (stem ++ '.' :: ext).length := by
    rw [List.length_append, List.length_cons]
    omega
  have htake : (stem ++ '.' :: ext).take ((stem ++ '.' :: ext).length - ext.length - 1) = stem := by
    rw [List.length_append, List.length_cons]
    rw [show stem.length + (ext.length + 1) - ext.length - 1 = stem.length by omega]
    exact List.take_left' rfl
  unfold splitExtension
  simp only [hsuffix, List.length_reverse, if_neg hlength, htake, List.reverse_reverse]
  rw [if_neg (by simpa using hstem)]

/-- The temporary file beside a file with an extension. -/
theorem temporaryName_append {stem ext : List Char} (hstem : stem ≠ []) (hext : '.' ∉ ext) :
    temporaryName (stem ++ '.' :: ext) =
      if stem = ['.'] then ['.', '.'] else stem ++ ".json.tmp".toList := by
  have hcut : (stem ++ '.' :: ext).take ((stem ++ '.' :: ext).length - ext.length) =
      stem ++ ['.'] := by
    rw [List.length_append, List.length_cons, List.append_cons]
    exact List.take_left' (by rw [List.length_append, List.length_singleton]; omega)
  have hdots : stem ++ ['.'] = ['.', '.'] ↔ stem = ['.'] := by
    constructor
    · intro h
      have hcancel : stem ++ ['.'] = ['.'] ++ ['.'] := h
      exact List.append_cancel_right hcancel
    · intro h
      rw [h]
      rfl
  unfold temporaryName
  simp only [splitExtension_append hstem hext, hcut, hdots]
  split
  · rename_i h
    rw [h]
    rfl
  · unfold Files.stem
    rw [splitExtension_append hstem List.not_mem_nil]

theorem stem_initial (name : List Char) : stem name <+: name := by
  unfold stem splitExtension
  dsimp only
  split
  · exact List.prefix_rfl
  · split
    · exact List.prefix_rfl
    · exact List.take_prefix _ _

/-- The name of a temporary file is a pair of points or has the extension of temporary files. -/
theorem temporaryName_cases (name : List Char) :
    temporaryName name = ['.', '.'] ∨
      ∃ stem, stem <+: name ∧ temporaryName name = stem ++ ".json.tmp".toList := by
  have hcut : ∀ cut : List Char, cut <+: name →
      (if cut = ['.', '.'] then cut else stem cut ++ ".json.tmp".toList) = ['.', '.'] ∨
        ∃ stem, stem <+: name ∧
          (if cut = ['.', '.'] then cut else Files.stem cut ++ ".json.tmp".toList) =
            stem ++ ".json.tmp".toList := by
    intro cut hinitial
    by_cases hdots : cut = ['.', '.']
    · rw [if_pos hdots]
      exact .inl hdots
    · rw [if_neg hdots]
      exact .inr ⟨stem cut, (stem_initial cut).trans hinitial, rfl⟩
  unfold temporaryName
  cases (splitExtension name).2 with
  | none => exact hcut name List.prefix_rfl
  | some ext => exact hcut _ (List.take_prefix _ _)

/-- A temporary file has another name than the file. -/
theorem temporaryName_ne {name : List Char} (h : name ≠ ['.', '.']) : temporaryName name ≠ name := by
  intro hsame
  obtain hdots | ⟨stem, -, hname⟩ := temporaryName_cases name
  · exact h (hsame.symm.trans hdots)
  · have hshape : name = (stem ++ ".json".toList) ++ '.' :: "tmp".toList := by
      rw [← hsame, hname]
      simp
    have hlong : stem ++ ".json".toList ≠ ['.'] := by
      intro hdot
      have := congrArg List.length hdot
      simp at this
    have htwice : temporaryName name = (stem ++ ".json".toList) ++ ".json.tmp".toList := by
      rw [hshape, temporaryName_append (by simp) (by decide), if_neg hlong]
    have := congrArg List.length (htwice.symm.trans hname)
    simp at this

/-- The temporary file is named where the file is. -/
theorem temporaryPath_append (hlead : IsLead lead) (hname : IsName name) :
    temporaryPath (lead ++ name) = lead ++ String.ofList (temporaryName name.toList) := by
  have hall : ∀ c ∈ name.toList.reverse, (c != '/') = true := by
    intro c hc
    rw [List.mem_reverse] at hc
    rw [bne_iff_ne]
    rintro rfl
    exact hname.no_slash hc
  have hstop : lead.toList.reverse.takeWhile (· != '/') = [] := by
    obtain rfl | hslash := hlead
    · rfl
    · obtain ⟨cs, hcs⟩ := endsInSlash_iff.mp hslash
      rw [hcs, List.reverse_append]
      rfl
  have hlast : (lead ++ name).toList.reverse.takeWhile (· != '/') = name.toList.reverse := by
    rw [String.toList_append, List.reverse_append, List.takeWhile_append_of_pos hall, hstop,
      List.append_nil]
  have htake : (lead ++ name).toList.take ((lead ++ name).toList.length - name.toList.length) =
      lead.toList := by
    rw [String.toList_append, List.length_append, Nat.add_sub_cancel, List.take_left' rfl]
  unfold temporaryPath
  simp only [hlast, List.reverse_reverse, htake]
  refine String.toList_inj.mp ?_
  rw [String.toList_ofList, String.toList_append, String.toList_ofList]

theorem isName_temporary (h : IsName name) :
    IsName (String.ofList (temporaryName name.toList)) := by
  refine ⟨fun hempty => ?_, ?_⟩
  · have hnil := congrArg String.toList hempty
    rw [String.toList_ofList] at hnil
    obtain hdots | ⟨stem, -, hname⟩ := temporaryName_cases name.toList
    · rw [hdots] at hnil
      cases hnil
    · rw [hname] at hnil
      simp at hnil
  · rw [String.toList_ofList]
    obtain hdots | ⟨stem, hinitial, hname⟩ := temporaryName_cases name.toList
    · rw [hdots]
      decide
    · rw [hname]
      intro hmem
      obtain hstem | hext := List.mem_append.mp hmem
      · exact h.no_slash (hinitial.subset hstem)
      · exact absurd hext (by decide)

end Files
end TodoPromo
