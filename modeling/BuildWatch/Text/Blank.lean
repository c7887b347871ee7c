namespace BuildWatch.Text

/-- The code points with the property White_Space, as closed ranges in ascending order. -/
def blankRanges : List (Nat × Nat) :=
  [(0x09, 0x0D), (0x20, 0x20), (0x85, 0x85), (0xA0, 0xA0), (0x1680, 0x1680), (0x2000, 0x200A),
    (0x2028, 0x2029), (0x202F, 0x202F), (0x205F, 0x205F), (0x3000, 0x3000)]

def isBlank (c : Char) : Bool :=
  blankRanges.any fun range => range.1 ≤ c.toNat && c.toNat ≤ range.2

def trimStart (text : List Char) : List Char :=
  text.dropWhile isBlank

def trimEnd (text : List Char) : List Char :=
  (text.reverse.dropWhile isBlank).reverse

def trim (text : List Char) : List Char :=
  trimEnd (trimStart text)

def trimmed (text : String) : String :=
  String.ofList (trim text.toList)

/-! ## Laws -/

@[simp] theorem trimStart_nil : trimStart [] = [] := rfl

@[simp] theorem trimEnd_nil : trimEnd [] = [] := rfl

theorem trimStart_cons_of_not_blank {c : Char} {rest : List Char} (h : isBlank c = false) :
    trimStart (c :: rest) = c :: rest := by
  simp [trimStart, List.dropWhile, h]

theorem trimStart_cons_of_blank {c : Char} {rest : List Char} (h : isBlank c = true) :
    trimStart (c :: rest) = trimStart rest := by
  simp [trimStart, List.dropWhile, h]

theorem trimStart_append_blanks {blanks : List Char} (h : ∀ c ∈ blanks, isBlank c = true)
    (text : List Char) : trimStart (blanks ++ text) = trimStart text := by
  induction blanks with
  | nil => rfl
  | cons c rest ih =>
    rw [List.cons_append, trimStart_cons_of_blank (h c (by simp))]
    exact ih fun d hd => h d (by simp [hd])

theorem trimEnd_append_blanks {blanks : List Char} (h : ∀ c ∈ blanks, isBlank c = true)
    (text : List Char) : trimEnd (text ++ blanks) = trimEnd text := by
  have reversed : ∀ c ∈ blanks.reverse, isBlank c = true := fun c hc => h c (by simpa using hc)
  have := trimStart_append_blanks reversed text.reverse
  simp only [trimStart] at this
  simp [trimEnd, this]

theorem trimEnd_concat_of_not_blank {text : List Char} {c : Char} (h : isBlank c = false) :
    trimEnd (text ++ [c]) = text ++ [c] := by
  simp [trimEnd, h]

theorem trimEnd_append_cons_of_not_blank {c : Char} (h : isBlank c = false)
    (front rest : List Char) : trimEnd (front ++ c :: rest) = front ++ c :: trimEnd rest := by
  cases cut : rest.reverse.dropWhile isBlank <;>
    simp [trimEnd, List.dropWhile_append, h, cut]

theorem exists_trimStart (text : List Char) :
    ∃ blanks, text = blanks ++ trimStart text ∧ ∀ c ∈ blanks, isBlank c = true :=
  ⟨text.takeWhile isBlank, List.takeWhile_append_dropWhile.symm, fun _ among =>
    List.all_eq_true.mp List.all_takeWhile _ among⟩

theorem exists_trimEnd (text : List Char) :
    ∃ blanks, text = trimEnd text ++ blanks ∧ ∀ c ∈ blanks, isBlank c = true := by
  obtain ⟨blanks, split, blank⟩ := exists_trimStart text.reverse
  refine ⟨blanks.reverse, ?_, by simpa using blank⟩
  have mirrored := congrArg List.reverse split
  rwa [List.reverse_reverse, List.reverse_append] at mirrored

theorem exists_trim (text : List Char) : ∃ before after, text = before ++ trim text ++ after ∧
    (∀ c ∈ before, isBlank c = true) ∧ ∀ c ∈ after, isBlank c = true := by
  obtain ⟨before, split, blank⟩ := exists_trimStart text
  obtain ⟨after, rest, blank'⟩ := exists_trimEnd (trimStart text)
  refine ⟨before, after, ?_, blank, blank'⟩
  rw [List.append_assoc, trim, ← rest, ← split]

theorem trim_append_blanks {blanks : List Char} (h : ∀ c ∈ blanks, isBlank c = true)
    (text : List Char) : trim (text ++ blanks) = trim text := by
  have nothing : blanks.dropWhile isBlank = [] := by
    have dropped := trimStart_append_blanks h []
    rwa [List.append_nil] at dropped
  rw [trim, trim, trimStart, trimStart, List.dropWhile_append]
  split
  · rename_i empty
    rw [nothing, List.isEmpty_iff.mp empty]
  · exact trimEnd_append_blanks h _

theorem trim_eq {before text after : List Char} (blank : ∀ c ∈ before, isBlank c = true)
    (blank' : ∀ c ∈ after, isBlank c = true) (whole : ∀ c ∈ text, isBlank c = false) :
    trim (before ++ text ++ after) = text := by
  rw [trim_append_blanks blank', trim, trimStart_append_blanks blank]
  cases text with
  | nil => rfl
  | cons c rest =>
    rw [trimStart_cons_of_not_blank (whole c List.mem_cons_self)]
    obtain ⟨front, last, split⟩ := List.eq_nil_or_concat (c :: rest) |>.resolve_left (by simp)
    rw [split, List.concat_eq_append] at whole ⊢
    exact trimEnd_concat_of_not_blank (whole last (by simp))

end BuildWatch.Text
