namespace BuildWatch.Text

def lower (text : List Char) : List Char :=
  text.map Char.toLower

def lowered (text : String) : String :=
  String.ofList (lower text.toList)

def occurs (part : List Char) : List Char → Bool
  | [] => part.isEmpty
  | c :: rest => part.isPrefixOf (c :: rest) || occurs part rest

def afterPrefix? : (start text : List Char) → Option (List Char)
  | [], text => some text
  | _ :: _, [] => none
  | a :: start, b :: text => if a = b then afterPrefix? start text else none

def cutAt (mark : Char) : List Char → List Char × Option (List Char)
  | [] => ([], none)
  | c :: rest =>
    if c = mark then ([], some rest)
    else
      let (before, after) := cutAt mark rest
      (c :: before, after)

def dropFinal (mark : Char) (text : List Char) : List Char :=
  (text.reverse.dropWhile (· == mark)).reverse

def parts (mark : Char) : List Char → List (List Char)
  | [] => [[]]
  | c :: rest =>
    if c = mark then [] :: parts mark rest
    else
      match parts mark rest with
      | [] => [[c]]
      | first :: others => (c :: first) :: others

def lines (text : List Char) : List (List Char) :=
  parts '\n' text

/-! ## Laws -/

theorem occurs_iff {part text : List Char} :
    occurs part text ↔ ∃ before after, text = before ++ part ++ after := by
  induction text with
  | nil =>
    rw [occurs, List.isEmpty_iff]
    constructor
    · rintro rfl
      exact ⟨[], [], rfl⟩
    · rintro ⟨before, after, split⟩
      have empty : before = [] ∧ part = [] ∧ after = [] := by simpa using split
      exact empty.2.1
  | cons c rest ih =>
    rw [occurs, Bool.or_eq_true, List.isPrefixOf_iff_prefix, ih]
    constructor
    · rintro (⟨after, begins⟩ | ⟨before, after, rfl⟩)
      · exact ⟨[], after, begins.symm⟩
      · exact ⟨c :: before, after, rfl⟩
    · rintro ⟨before, after, split⟩
      cases before with
      | nil => exact .inl ⟨after, split.symm⟩
      | cons first before => exact .inr ⟨before, after, (List.cons.inj split).2⟩

theorem afterPrefix?_append (start rest : List Char) :
    afterPrefix? start (start ++ rest) = some rest := by
  induction start with
  | nil => rfl
  | cons c start ih => simp [afterPrefix?, ih]

theorem afterPrefix?_eq_some {start text rest : List Char} :
    afterPrefix? start text = some rest ↔ text = start ++ rest := by
  induction start generalizing text with
  | nil => simp [afterPrefix?]
  | cons a start ih =>
    cases text with
    | nil => simp [afterPrefix?]
    | cons b text =>
      simp only [afterPrefix?, List.cons_append, List.cons.injEq]
      split <;> simp_all [eq_comm]

theorem cutAt_append {mark : Char} {before : List Char} (h : mark ∉ before) (after : List Char) :
    cutAt mark (before ++ mark :: after) = (before, some after) := by
  induction before with
  | nil => simp [cutAt]
  | cons c before ih =>
    simp only [List.mem_cons, not_or] at h
    simp [cutAt, ih h.2, Ne.symm h.1]

theorem cutAt_of_notMem {mark : Char} {text : List Char} (h : mark ∉ text) :
    cutAt mark text = (text, none) := by
  induction text with
  | nil => rfl
  | cons c text ih =>
    simp only [List.mem_cons, not_or] at h
    simp [cutAt, ih h.2, Ne.symm h.1]

end BuildWatch.Text
