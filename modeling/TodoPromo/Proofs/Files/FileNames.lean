import Mathlib.Data.List.Nodup
import TodoPromo.Proofs.Files.Shelves

/-! # The names of files in a directory of namespaces

The file of a namespace and its temporary file are children of the directory of all namespaces
(`IsChild`): their paths go one name further than it does. The exception is the namespace `.`, whose
temporary file would be the parent of the directory (`temporary_not_child`). But in no case is a path of
one namespace a path of another, or the same for both files (`files_apart`): files end in another letter
than temporary files, and what precedes the ending is the namespace. -/

namespace TodoPromo.Files

variable {dir name name' path ext : String}

/-- The path is that of something in the directory, which has this name there. -/
structure IsChild (dir path name : String) : Prop where
  path_eq : path = join dir name
  isName : IsName name
  ne_point : name ≠ "."
  ne_points : name ≠ ".."
  significant_eq : significant path = significant dir ++ [name]
  isAbsolute_eq : isAbsolute path = isAbsolute dir

theorem significant_join (dir : String) (hname : IsName name) (hpoint : name ≠ ".") :
    significant (join dir name) = significant dir ++ [name] := by
  rw [join_eq, significant_append (isLead_leadOf dir) hname hpoint, significant_leadOf]

theorem isChild_join (dir : String) (hname : IsName name) (hpoint : name ≠ ".") (hpoints : name ≠ "..") :
    IsChild dir (join dir name) name where
  path_eq := rfl
  isName := hname
  ne_point := hpoint
  ne_points := hpoints
  significant_eq := significant_join dir hname hpoint
  isAbsolute_eq := by rw [join_eq, isAbsolute_append (isLead_leadOf dir) hname, isAbsolute_leadOf]

theorem isChild_extended (dir : String) (h : isNamespace name = true) (hext : '/' ∉ ext.toList)
    (hlong : 2 < ext.length) : IsChild dir (join dir (name ++ ext)) (name ++ ext) := by
  have hlength : 2 < (name ++ ext).length := by
    rw [String.length_append]
    omega
  refine isChild_join dir (isName_append h hext) (fun hpoint => ?_) fun hpoints => ?_
  · rw [hpoint] at hlength
    exact absurd hlength (by decide)
  · rw [hpoints] at hlength
    exact absurd hlength (by decide)

/-- The name of the temporary file of a namespace. -/
def temporaryFile (name : String) : String := if name = "." then ".." else name ++ ".json.tmp"

theorem temporaryPath_eq_join (dir : String) (h : isNamespace name = true) :
    temporaryPath (FileProvider.filePath dir name) = join dir (temporaryFile name) := by
  rw [temporaryPath_filePath dir h, join_eq, temporaryFile]

theorem isName_temporaryFile (h : isNamespace name = true) :
    IsName (temporaryFile name) ∧ temporaryFile name ≠ "." := by
  unfold temporaryFile
  split
  · exact ⟨⟨by decide, by decide⟩, by decide⟩
  · have hchild : IsChild "" _ (name ++ ".json.tmp") := isChild_extended "" h (by decide) (by decide)
    exact ⟨hchild.isName, hchild.ne_point⟩

theorem temporaryFile_inj (h : temporaryFile name = temporaryFile name') : name = name' := by
  have hends : ∀ n : String, n ++ ".json.tmp" ≠ ".." := by
    intro n hn
    have hlast := congrArg (fun s => s.toList.getLast?) hn
    simp at hlast
  unfold temporaryFile at h
  split at h
  · rename_i hname
    split at h
    · rename_i hname'
      rw [hname, hname']
    · exact absurd h.symm (hends name')
  · split at h
    · exact absurd h (hends name)
    · exact (String.append_left_inj _).mp h

/-- A file and a temporary file have different names, whatever their namespaces are. -/
theorem file_ne_temporaryFile (name name' : String) : name ++ ".json" ≠ temporaryFile name' := by
  unfold temporaryFile
  split
  · intro h
    have hlast := congrArg (fun s => s.toList.getLast?) h
    simp at hlast
  · exact file_ne_temporary name' name

/-- Wherever the directory of the namespaces is, the file of a namespace is a child of it, and so is the
temporary file, unless the namespace is a point; then the temporary file would be the parent of the
directory. The two are different, and different from both files of any other namespace. -/
theorem files_apart (dir : String) (h : isNamespace name = true) :
    IsChild dir (FileProvider.filePath dir name) (name ++ ".json") ∧
      (name ≠ "." →
        IsChild dir (temporaryPath (FileProvider.filePath dir name)) (name ++ ".json.tmp")) ∧
      (name = "." → temporaryPath (FileProvider.filePath dir name) = join dir "..") ∧
      significant (FileProvider.filePath dir name) ≠
        significant (temporaryPath (FileProvider.filePath dir name)) ∧
      ∀ name', isNamespace name' = true → name ≠ name' →
        ([FileProvider.filePath dir name, temporaryPath (FileProvider.filePath dir name),
          FileProvider.filePath dir name', temporaryPath (FileProvider.filePath dir name')].map
            significant).Nodup := by
  have hfile : ∀ {n}, isNamespace n = true →
      significant (FileProvider.filePath dir n) = significant dir ++ [n ++ ".json"] :=
    fun hn => (isChild_extended dir hn (by decide) (by decide)).significant_eq
  have htemporary : ∀ {n}, isNamespace n = true →
      significant (temporaryPath (FileProvider.filePath dir n)) = significant dir ++ [temporaryFile n] := by
    intro n hn
    obtain ⟨hname, hpoint⟩ := isName_temporaryFile hn
    rw [temporaryPath_eq_join dir hn, significant_join dir hname hpoint]
  refine ⟨isChild_extended dir h (by decide) (by decide), fun hpoint => ?_, fun hpoint => ?_, ?_, ?_⟩
  · rw [temporaryPath_eq_join dir h, temporaryFile, if_neg hpoint]
    exact isChild_extended dir h (by decide) (by decide)
  · rw [temporaryPath_eq_join dir h, temporaryFile, if_pos hpoint]
  · rw [hfile h, htemporary h]
    exact place_ne (file_ne_temporaryFile name name)
  · intro name' h' hne
    have hnames : [name ++ ".json", temporaryFile name, name' ++ ".json", temporaryFile name'].Nodup := by
      have hfiles : name ++ ".json" ≠ name' ++ ".json" := fun hsame => hne (file_inj hsame)
      have htemporaries : temporaryFile name ≠ temporaryFile name' := fun hsame =>
        hne (temporaryFile_inj hsame)
      simp [hfiles, htemporaries, file_ne_temporaryFile, Ne.symm (file_ne_temporaryFile name' name)]
    have hplaces : Function.Injective fun n : String => significant dir ++ [n] := fun n n' hsame => by
      simpa using hsame
    simp only [List.map, hfile h, htemporary h, hfile h', htemporary h']
    exact List.Nodup.map hplaces hnames

theorem files_apart_endings :
    isNamespace "a.json.tmp" = true ∧ isNamespace ".a" = true ∧ "a.json.tmp" ≠ ".a" ∧
      IsChild "data/" (temporaryPath (FileProvider.filePath "data/" "a.json.tmp"))
        "a.json.tmp.json.tmp" ∧
      ([FileProvider.filePath "data/" "a.json.tmp",
        temporaryPath (FileProvider.filePath "data/" "a.json.tmp"), FileProvider.filePath "data/" ".a",
        temporaryPath (FileProvider.filePath "data/" ".a")].map significant).Nodup := by
  have hname : isNamespace "a.json.tmp" = true := by decide
  have hname' : isNamespace ".a" = true := by decide
  obtain ⟨-, htemporary, -, -, hothers⟩ := files_apart "data/" hname
  exact ⟨hname, hname', by decide, htemporary (by decide), hothers ".a" hname' (by decide)⟩

/-- The temporary file of the namespace `.` is no child of the directory of the namespaces. -/
theorem temporary_not_child : ¬ ∀ dir name, isNamespace name = true →
    ∃ file temporary, IsChild dir (FileProvider.filePath dir name) file ∧
      IsChild dir (temporaryPath (FileProvider.filePath dir name)) temporary := by
  intro hall
  obtain ⟨-, temporary, -, hchild⟩ := hall "data" "." (by decide)
  have hpath : temporaryPath (FileProvider.filePath "data" ".") = "data/" ++ ".." := by decide
  have hpoints : "data/" ++ ".." = "data/" ++ temporary := hpath.symm.trans hchild.path_eq
  exact hchild.ne_points ((String.append_right_inj _).mp hpoints).symm

end TodoPromo.Files
