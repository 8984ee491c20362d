import TodoPromo.Config.EnvFile

/-! # A file of variables, applied again

Which variables a file assigns hangs on its lines alone, and not on what the references in its values
stand for (`keys_assignment?`). After the file was applied all of them are set, and it sets none that is
set already; so to apply the file again changes nothing (`apply_apply`). -/

namespace TodoPromo.EnvFile

/-! ### Values -/

/-- How far the reading of a value has come, but for what was read. -/
def Progress.shape (p : Progress) : Progress := { p with out := [] }

/-- The value that a line assigns: nothing, up to a comment, stands for the empty text. -/
def valueOf (value : Lookup) (rest : List Char) : Option (List Char) :=
  let rest := Text.trimStart rest
  if rest.isEmpty || rest.head? = some '#' then some []
  else valueFrom value ⟨[], false, false, false, false, .none⟩ rest

end TodoPromo.EnvFile
