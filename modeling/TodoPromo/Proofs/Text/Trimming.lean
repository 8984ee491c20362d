import TodoPromo.Text.Characters

/-! # Trimming

A text is blank exactly if trimming leaves nothing of it (`trim_eq_empty_iff`), and blanks around a text
without blanks are all that trimming takes away (`trim_surrounded`). -/

namespace TodoPromo.Text

variable {cs front : List Char}

theorem trimStart_blanks (h : ∀ c ∈ front, isBlank c = true) (cs : List Char) :
    trimStart (front ++ cs) = trimStart cs :=
  List.dropWhile_append_of_pos h

theorem trimStart_append_of_ne_nil (h : ∀ c ∈ cs, isBlank c = false) (hne : cs ≠ []) (back : List Char) :
    trimStart (cs ++ back) = cs ++ back := by
  obtain ⟨c, rest, rfl⟩ := List.exists_cons_of_ne_nil hne
  have hc := h c List.mem_cons_self
  show (c :: (rest ++ back)).dropWhile isBlank = _
  rw [List.dropWhile_cons_of_neg (by simp [hc])]
  rfl

/-- Trimming leaves something that does not begin with a blank, or nothing at all. -/
theorem trimStart_eq_nil_or (cs : List Char) :
    trimStart cs = [] ∨ ∃ c rest, trimStart cs = c :: rest ∧ isBlank c = false := by
  induction cs with
  | nil => exact .inl rfl
  | cons c cs ih =>
      cases h : isBlank c with
      | true =>
          have hdrop : trimStart (c :: cs) = trimStart cs := List.dropWhile_cons_of_pos h
          rw [hdrop]
          exact ih
      | false =>
          exact .inr ⟨c, cs, List.dropWhile_cons_of_neg (by simp [h]), h⟩

theorem trimEnd_eq_nil_iff : trimEnd cs = [] ↔ cs.all isBlank = true := by
  unfold trimEnd
  rw [List.reverse_eq_nil_iff, trimStart_eq_nil_iff, List.all_reverse]

theorem trim_eq_empty_iff {s : String} : trim s = "" ↔ allBlank s = true := by
  have hempty : trim s = "" ↔ trimEnd (trimStart s.toList) = [] := by
    unfold trim
    constructor
    · intro h
      have hlist := congrArg String.toList h
      rwa [String.toList_ofList] at hlist
    · intro h
      rw [h]
  rw [hempty, trimEnd_eq_nil_iff, allBlank]
  constructor
  · intro hrest
    obtain hnil | ⟨c, rest, hcons, hc⟩ := trimStart_eq_nil_or s.toList
    · exact trimStart_eq_nil_iff.mp hnil
    · rw [hcons] at hrest
      simp [hc] at hrest
  · intro hall
    rw [trimStart_eq_nil_iff.mpr hall]
    rfl

/-- A text that consists of some characters and of blanks around them. -/
def Surrounds (cs : List Char) (s : String) : Prop :=
  ∃ front back, s.toList = front ++ cs ++ back ∧ (∀ c ∈ front, isBlank c = true) ∧
    ∀ c ∈ back, isBlank c = true

/-- Blanks on both sides are taken away. -/
theorem trim_surrounded {s : String} (hs : Surrounds cs s) (hcs : ∀ c ∈ cs, isBlank c = false)
    (hne : cs ≠ []) : trim s = String.ofList cs := by
  obtain ⟨front, back, hlist, hfront, hback⟩ := hs
  have hreverse : trimStart (cs.reverse ++ []) = cs.reverse ++ [] :=
    trimStart_append_of_ne_nil (fun c hc => hcs c (List.mem_reverse.mp hc))
      (fun h => hne (List.reverse_eq_nil_iff.mp h)) []
  unfold trim trimEnd
  rw [hlist, List.append_assoc, trimStart_blanks hfront, trimStart_append_of_ne_nil hcs hne,
    List.reverse_append, trimStart_blanks fun c hc => hback c (List.mem_reverse.mp hc)]
  rw [List.append_nil] at hreverse
  rw [hreverse, List.reverse_reverse]

end TodoPromo.Text
