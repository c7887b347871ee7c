import BuildWatch.Address.Web
import Mathlib.Data.List.DropRight
import Mathlib.Data.List.TakeWhile

namespace BuildWatch.Address

/-! ## Characters -/

def isUnreserved (c : Char) : Bool :=
  c.isAlphanum || c == '-' || c == '.' || c == '_' || c == '~'

variable {c : Char} {text : List Char} {set : Char → Bool}

theorem toNat_of_unreserved (unreserved : isUnreserved c) : c.toNat < 127 := by
  delta isUnreserved Char.isAlphanum Char.isAlpha Char.isUpper Char.isLower Char.isDigit
    at unreserved
  simp only [Bool.or_eq_true, Bool.and_eq_true, decide_eq_true_eq, beq_iff_eq, ge_iff_le,
    UInt32.le_iff_toNat_le, or_assoc] at unreserved
  rcases unreserved with bounds | bounds | bounds | rfl | rfl | rfl | rfl
  · exact Nat.lt_of_le_of_lt bounds.2 (by decide)
  · exact Nat.lt_of_le_of_lt bounds.2 (by decide)
  · exact Nat.lt_of_le_of_lt bounds.2 (by decide)
  all_goals decide

theorem forall_unreserved (holds : Char → Prop) [DecidablePred holds]
    (each : ∀ n < 127, isUnreserved (Char.ofNat n) → holds (Char.ofNat n))
    (unreserved : isUnreserved c) : holds c := by
  have same : Char.ofNat c.toNat = c := Char.ofNat_toNat c
  have found := each c.toNat (toNat_of_unreserved unreserved)
  rw [same] at found
  exact found unreserved

theorem inPath_of_unreserved : isUnreserved c → inPath c = false :=
  forall_unreserved (inPath · = false) (by decide)

theorem inQuery_of_unreserved : isUnreserved c → inQuery c = false :=
  forall_unreserved (inQuery · = false) (by decide)

theorem isAuthorityEnd_of_unreserved : isUnreserved c → isAuthorityEnd c = false :=
  forall_unreserved (isAuthorityEnd · = false) (by decide)

theorem toLower_of_unreserved : isUnreserved c → c.toLower ≠ '%' ∧ (c.toLower = '.' → c = '.') :=
  forall_unreserved (fun c => c.toLower ≠ '%' ∧ (c.toLower = '.' → c = '.')) (by decide)

theorem visible_of_unreserved : isUnreserved c → 0x20 < c.toNat :=
  forall_unreserved (0x20 < ·.toNat) (by decide)

theorem escape_eq_self (kept : ∀ c ∈ text, set c = false) : escape set text = text := by
  induction text with
  | nil => rfl
  | cons c text ih =>
    obtain ⟨here, later⟩ := List.forall_mem_cons.mp kept
    rw [escape, List.flatMap_cons, here, if_neg Bool.false_ne_true]
    exact congrArg (c :: ·) (ih later)

/-! ## Steps -/

/-- A step that leads to what it names. -/
structure IsPlain (step : List Char) : Prop where
  unreserved : ∀ c ∈ step, isUnreserved c
  notHere : step ≠ ['.']
  notBack : step ≠ ['.', '.']

theorem isPlain_iff (step : List Char) :
    (step.all isUnreserved ∧ step ≠ ['.'] ∧ step ≠ ['.', '.']) ↔ IsPlain step :=
  ⟨fun ⟨unreserved, notHere, notBack⟩ => ⟨List.all_eq_true.mp unreserved, notHere, notBack⟩,
    fun ⟨unreserved, notHere, notBack⟩ => ⟨List.all_eq_true.mpr unreserved, notHere, notBack⟩⟩

instance (step : List Char) : Decidable (IsPlain step) :=
  decidable_of_iff _ (isPlain_iff step)

variable {step : List Char} {others plain : List (List Char)}

theorem lower_eq_dots (unreserved : ∀ c ∈ step, isUnreserved c) {n : Nat}
    (same : Text.lower step = List.replicate n '.') : step = List.replicate n '.' := by
  rw [List.eq_replicate_iff] at same ⊢
  refine ⟨(List.length_map _).symm.trans same.1, fun c among => ?_⟩
  exact (toLower_of_unreserved (unreserved c among)).2 (same.2 _ (List.mem_map_of_mem among))

theorem percent_notMem_lower (unreserved : ∀ c ∈ step, isUnreserved c) :
    '%' ∉ Text.lower step := by
  intro among
  obtain ⟨c, present, same⟩ := List.mem_map.mp among
  exact (toLower_of_unreserved (unreserved c present)).1 same

theorem isStay_iff : isStay step ↔
    Text.lower step = ['.'] ∨ Text.lower step = ['%', '2', 'e'] := by
  simp [isStay, Text.lowered, ← String.toList_inj]

theorem isBack_iff : isBack step ↔
    Text.lower step = ['.', '.'] ∨ Text.lower step = ['.', '%', '2', 'e'] ∨
      Text.lower step = ['%', '2', 'e', '.'] ∨
      Text.lower step = ['%', '2', 'e', '%', '2', 'e'] := by
  simp [isBack, Text.lowered, ← String.toList_inj]

theorem IsPlain.isStay (isPlain : IsPlain step) : isStay step = false := by
  have noPercent := percent_notMem_lower isPlain.unreserved
  rw [Bool.eq_false_iff, ne_eq, isStay_iff]
  rintro (same | same)
  · exact isPlain.notHere (lower_eq_dots isPlain.unreserved (n := 1) same)
  · rw [same] at noPercent
    exact noPercent (by decide)

theorem IsPlain.isBack (isPlain : IsPlain step) : isBack step = false := by
  have noPercent := percent_notMem_lower isPlain.unreserved
  rw [Bool.eq_false_iff, ne_eq, isBack_iff]
  rintro (same | same | same | same)
  · exact isPlain.notBack (lower_eq_dots isPlain.unreserved (n := 2) same)
  all_goals
    rw [same] at noPercent
    exact noPercent (by decide)

/-! ## Walks -/

def taken (before : List (List Char)) (step : List Char) : List (List Char) :=
  if isBack step then before.dropLast else if isStay step then before else before ++ [step]

theorem walk_cons (before : List (List Char)) (step : List Char) (given : others ≠ []) :
    walk before (step :: others) = walk (taken before step) others := by
  cases others with
  | nil => exact absurd rfl given
  | cons next others =>
    rw [walk.eq_3 _ _ _ given, taken]
    split
    · rfl
    · split <;> rfl

theorem taken_of_plain (isPlain : IsPlain step) (before : List (List Char)) :
    taken before step = before ++ [step] := by
  rw [taken, isPlain.isBack, isPlain.isStay]
  rfl

theorem walk_plain (each : ∀ step ∈ plain, IsPlain step) (before : List (List Char)) :
    walk before plain = before ++ plain := by
  induction plain generalizing before with
  | nil => rw [walk, List.append_nil]
  | cons step plain ih =>
    obtain ⟨here, later⟩ := List.forall_mem_cons.mp each
    cases plain with
    | nil =>
      rw [walk, here.isBack, here.isStay]
      rfl
    | cons next plain =>
      rw [walk_cons _ _ (List.cons_ne_nil next plain), ih later, taken_of_plain here,
        ← List.append_cons]

theorem walk_append (given : plain ≠ []) (each : ∀ step ∈ plain, IsPlain step)
    (before others : List (List Char)) :
    walk before (others ++ plain) = others.foldl taken before ++ plain := by
  induction others generalizing before with
  | nil => exact walk_plain each before
  | cons step others ih =>
    have goesOn : others ++ plain ≠ [] := List.append_ne_nil_of_right_ne_nil others given
    rw [List.cons_append, walk_cons _ _ goesOn, ih, List.foldl_cons]

/-! ## Paths -/

def pathOf (others : List (List Char)) : List Char :=
  others.flatMap fun step => '/' :: step

theorem pathOf_cons (step : List Char) (others : List (List Char)) :
    pathOf (step :: others) = '/' :: (step ++ pathOf others) :=
  rfl

theorem pathText_eq (path : List Char) :
    pathText path = pathOf (walk [] ((steps path).map (escape inPath))) :=
  rfl

theorem exists_parts (mark : Char) (text : List Char) :
    ∃ first others, Text.parts mark text = first :: others := by
  cases text with
  | nil => exact ⟨[], [], rfl⟩
  | cons c text =>
    rw [Text.parts]
    split
    · exact ⟨_, _, rfl⟩
    · split <;> exact ⟨_, _, rfl⟩

theorem parts_append (mark : Char) (before after : List Char) :
    Text.parts mark (before ++ mark :: after) =
      Text.parts mark before ++ Text.parts mark after := by
  induction before with
  | nil => simp [Text.parts]
  | cons c before ih =>
    obtain ⟨first, others, found⟩ := exists_parts mark before
    rw [found] at ih
    rw [List.cons_append, Text.parts, Text.parts, ih, found]
    split <;> rfl

theorem parts_of_notMem {mark : Char} (absent : mark ∉ text) : Text.parts mark text = [text] := by
  induction text with
  | nil => rfl
  | cons c text ih =>
    rw [List.mem_cons, not_or] at absent
    obtain ⟨here, later⟩ := absent
    rw [Text.parts, if_neg (Ne.symm here), ih later]

theorem IsPlain.slash_notMem (isPlain : IsPlain step) : '/' ∉ step := by
  intro among
  have ends := isAuthorityEnd_of_unreserved (isPlain.unreserved _ among)
  cases ends

theorem parts_plain (isPlain : IsPlain step) (each : ∀ step ∈ plain, IsPlain step) :
    Text.parts '/' (step ++ pathOf plain) = step :: plain := by
  induction plain generalizing step with
  | nil =>
    rw [pathOf, List.flatMap_nil, List.append_nil]
    exact parts_of_notMem isPlain.slash_notMem
  | cons next plain ih =>
    obtain ⟨here, later⟩ := List.forall_mem_cons.mp each
    rw [pathOf_cons, parts_append, ih here later, parts_of_notMem isPlain.slash_notMem]
    rfl

theorem eq_slash_or_unreserved (each : ∀ step ∈ plain, IsPlain step) (among : c ∈ pathOf plain) :
    c = '/' ∨ isUnreserved c := by
  obtain ⟨step, present, inStep⟩ := List.mem_flatMap.mp among
  rcases List.mem_cons.mp inStep with same | within
  · exact .inl same
  · exact .inr ((each step present).unreserved c within)

def stepsBefore : List Char → List (List Char)
  | [] => []
  | first :: path => steps (first :: path)

def withSlashes (path : List Char) : List Char :=
  path.map fun c => if isSlash c then '/' else c

theorem withSlashes_pathOf (each : ∀ step ∈ plain, IsPlain step) :
    withSlashes (pathOf plain) = pathOf plain := by
  refine (List.map_congr_left fun c among => ?_).trans (List.map_id _)
  rcases eq_slash_or_unreserved each among with rfl | unreserved
  · rfl
  · have goesOn := isAuthorityEnd_of_unreserved unreserved
    simp only [isAuthorityEnd, Bool.or_eq_false_iff] at goesOn
    rw [goesOn.1.1]
    rfl

theorem steps_append (given : plain ≠ []) (each : ∀ step ∈ plain, IsPlain step)
    (path : List Char) : steps (path ++ pathOf plain) = stepsBefore path ++ plain := by
  obtain ⟨step, others, rfl⟩ := List.exists_cons_of_ne_nil given
  obtain ⟨here, later⟩ := List.forall_mem_cons.mp each
  have split : steps (path ++ pathOf (step :: others)) =
      Text.parts '/' ((withSlashes path ++ '/' :: (step ++ pathOf others)).drop 1) := by
    have kept := withSlashes_pathOf each
    rw [steps, List.map_append, ← withSlashes, ← withSlashes, kept]
    rfl
  rw [split]
  cases path with
  | nil => exact parts_plain here later
  | cons first path =>
    rw [withSlashes, List.map_cons, List.cons_append, List.drop_one, List.tail_cons, parts_append,
      parts_plain here later]
    rfl

theorem escape_plain (each : ∀ step ∈ plain, IsPlain step) :
    plain.map (escape inPath) = plain := by
  refine (List.map_congr_left fun step among => ?_).trans (List.map_id plain)
  exact escape_eq_self fun c within => inPath_of_unreserved ((each step among).unreserved c within)

theorem pathText_append (given : plain ≠ []) (each : ∀ step ∈ plain, IsPlain step)
    (path : List Char) : pathText (path ++ pathOf plain) =
      pathOf (((stepsBefore path).map (escape inPath)).foldl taken []) ++ pathOf plain := by
  rw [pathText_eq, steps_append given each, List.map_append, escape_plain each,
    walk_append given each]
  exact List.flatMap_append

/-! ## Parts of an address -/

theorem cutAt_append (mark : Char) {after : List Char} (absent : mark ∉ after)
    (before : List Char) : Text.cutAt mark (before ++ after) =
      match Text.cutAt mark before with
      | (first, none) => (first ++ after, none)
      | (first, some second) => (first, some (second ++ after)) := by
  induction before with
  | nil => exact Text.cutAt_of_notMem absent
  | cons c before ih =>
    rw [List.cons_append, Text.cutAt, Text.cutAt, ih]
    split
    · rfl
    · cases Text.cutAt mark before with
      | mk first second => cases second <;> rfl

theorem pathOf_kept (each : ∀ step ∈ plain, IsPlain step) (slash : set '/' = false)
    (spares : ∀ c, isUnreserved c → set c = false) :
    escape set (pathOf plain) = pathOf plain := by
  refine escape_eq_self fun c among => ?_
  rcases eq_slash_or_unreserved each among with rfl | unreserved
  · exact slash
  · exact spares c unreserved

theorem inFragment_of_unreserved (unreserved : isUnreserved c) : inFragment c = false :=
  (Bool.or_eq_false_iff.mp (inPath_of_unreserved unreserved)).1

theorem mark_notMem_pathOf (each : ∀ step ∈ plain, IsPlain step) {mark : Char}
    (ends : isAuthorityEnd mark) (other : mark ≠ '/') : mark ∉ pathOf plain := by
  intro among
  rcases eq_slash_or_unreserved each among with same | unreserved
  · exact other same
  · rw [isAuthorityEnd_of_unreserved unreserved] at ends
    cases ends

def pathAndQuery (text : List Char) : List Char :=
  let (path, query) := Text.cutAt '?' text
  pathText path ++ tail '?' inQuery query

def afterAuthority (text : List Char) : List Char :=
  let (text, fragment) := Text.cutAt '#' text
  pathAndQuery text ++ tail '#' inFragment fragment

def pathAndQueryFront (text : List Char) : List Char :=
  match Text.cutAt '?' text with
  | (path, some query) => pathText path ++ tail '?' inQuery (some query)
  | (path, none) => pathOf (((stepsBefore path).map (escape inPath)).foldl taken [])

def afterAuthorityFront (text : List Char) : List Char :=
  match Text.cutAt '#' text with
  | (text, some fragment) => pathAndQuery text ++ tail '#' inFragment (some fragment)
  | (text, none) => pathAndQueryFront text

theorem escape_append (first second : List Char) :
    escape set (first ++ second) = escape set first ++ escape set second :=
  List.flatMap_append

theorem pathAndQuery_append (given : plain ≠ []) (each : ∀ step ∈ plain, IsPlain step)
    (text : List Char) :
    pathAndQuery (text ++ pathOf plain) = pathAndQueryFront text ++ pathOf plain := by
  have absent := mark_notMem_pathOf each (by decide : isAuthorityEnd '?') (by decide)
  have kept := pathOf_kept each (by decide) fun _ => inQuery_of_unreserved
  rw [pathAndQuery, cutAt_append '?' absent, pathAndQueryFront]
  cases Text.cutAt '?' text with
  | mk path query =>
    cases query with
    | some query => simp only [tail, escape_append, kept, List.append_assoc, List.cons_append]
    | none => simp only [tail, pathText_append given each, List.append_nil]

theorem afterAuthority_append (given : plain ≠ []) (each : ∀ step ∈ plain, IsPlain step)
    (text : List Char) :
    afterAuthority (text ++ pathOf plain) = afterAuthorityFront text ++ pathOf plain := by
  have absent := mark_notMem_pathOf each (by decide : isAuthorityEnd '#') (by decide)
  have kept := pathOf_kept each (by decide) fun _ => inFragment_of_unreserved
  rw [afterAuthority, cutAt_append '#' absent, afterAuthorityFront]
  cases Text.cutAt '#' text with
  | mk text fragment =>
    cases fragment with
    | some fragment => simp only [tail, escape_append, kept, List.append_assoc, List.cons_append]
    | none => simp only [tail, pathAndQuery_append given each, List.append_nil]

/-! ## Addresses -/

theorem rest?_eq (usual : Nat) (text : List Char) :
    rest? usual text =
      (authority? usual ((text.dropWhile isSlash).takeWhile fun c => !isAuthorityEnd c)).map
        (· ++ afterAuthority ((text.dropWhile isSlash).dropWhile fun c => !isAuthorityEnd c)) := by
  rw [rest?]
  cases authority? usual ((text.dropWhile isSlash).takeWhile fun c => !isAuthorityEnd c) with
  | none => rfl
  | some authority =>
    simp only [afterAuthority, pathAndQuery, Option.map_some, List.append_assoc]
    rfl

theorem span_authority (given : plain ≠ []) (text : List Char) :
    (text ++ pathOf plain).takeWhile (fun c => !isAuthorityEnd c) =
        text.takeWhile (fun c => !isAuthorityEnd c) ∧
      (text ++ pathOf plain).dropWhile (fun c => !isAuthorityEnd c) =
        text.dropWhile (fun c => !isAuthorityEnd c) ++ pathOf plain := by
  obtain ⟨step, others, rfl⟩ := List.exists_cons_of_ne_nil given
  induction text with
  | nil => exact ⟨rfl, rfl⟩
  | cons c text ih =>
    rw [List.cons_append, List.takeWhile_cons, List.takeWhile_cons, List.dropWhile_cons,
      List.dropWhile_cons, ih.1, ih.2]
    split <;> exact ⟨rfl, rfl⟩

theorem rest?_append (given : plain ≠ []) (each : ∀ step ∈ plain, IsPlain step) (usual : Nat)
    {text : List Char} (start : List Char)
    (starts : text.dropWhile isSlash = start ++ pathOf plain) :
    rest? usual text =
      ((authority? usual (start.takeWhile fun c => !isAuthorityEnd c)).map
        (· ++ afterAuthorityFront (start.dropWhile fun c => !isAuthorityEnd c))).map
          (· ++ pathOf plain) := by
  obtain ⟨authority, behind⟩ := span_authority given start
  rw [rest?_eq, starts, authority, behind, afterAuthority_append given each, Option.map_map]
  simp only [Function.comp_def, List.append_assoc]

theorem dropWhile_of_plain (isPlain : IsPlain step) (given : step ≠ []) (text : List Char) :
    ('/' :: (step ++ text)).dropWhile isSlash = step ++ text := by
  obtain ⟨c, rest, rfl⟩ := List.exists_cons_of_ne_nil given
  have goesOn := isAuthorityEnd_of_unreserved (isPlain.unreserved c List.mem_cons_self)
  simp only [isAuthorityEnd, Bool.or_eq_false_iff] at goesOn
  rw [List.dropWhile_cons_of_pos rfl, List.cons_append,
    List.dropWhile_cons_of_neg (Bool.eq_false_iff.mp goesOn.1.1)]

theorem exists_front_rest? (usual : Nat) (text : List Char) {first : List Char}
    (isPlain : IsPlain first) (given : first ≠ []) :
    ∃ front : Option (List Char), ∀ plain, plain ≠ [] → (∀ step ∈ plain, IsPlain step) →
      rest? usual (text ++ pathOf (first :: plain)) = front.map (· ++ pathOf plain) := by
  by_cases slashesOnly : text.dropWhile isSlash = []
  · refine ⟨_, fun plain some each => rest?_append some each usual first ?_⟩
    have slashes : ∀ c ∈ text, isSlash c := List.dropWhile_eq_nil_iff.mp slashesOnly
    rw [List.dropWhile_append_of_pos slashes, pathOf_cons, dropWhile_of_plain isPlain given]
  · let start := text.dropWhile isSlash
    let front := (authority? usual (start.takeWhile fun c => !isAuthorityEnd c)).map
      (· ++ afterAuthorityFront (start.dropWhile fun c => !isAuthorityEnd c))
    refine ⟨front.map (· ++ '/' :: first), fun plain _ each => ?_⟩
    have starts : (text ++ pathOf (first :: plain)).dropWhile isSlash =
        start ++ pathOf (first :: plain) := by
      rw [List.dropWhile_append, if_neg (by simpa using slashesOnly)]
    rw [rest?_append (List.cons_ne_nil first plain) (List.forall_mem_cons.mpr ⟨isPlain, each⟩) usual
      start starts, pathOf_cons]
    simp only [front, Option.map_map, Function.comp_def, List.append_assoc, List.cons_append]

theorem visible_of_mem_pathOf (each : ∀ step ∈ plain, IsPlain step) (among : c ∈ pathOf plain) :
    0x20 < c.toNat := by
  rcases eq_slash_or_unreserved each among with rfl | unreserved
  · decide
  · exact visible_of_unreserved unreserved

def isOuter (c : Char) : Bool :=
  c.toNat ≤ 0x20

def isKept (c : Char) : Bool :=
  c ∉ ['\t', '\n', '\r']

theorem cleaned_eq (text : List Char) :
    cleaned text = ((text.dropWhile isOuter).rdropWhile isOuter).filter isKept :=
  rfl

theorem dropWhile_append_pathOf (plain : List (List Char)) (text : List Char) :
    (text ++ pathOf plain).dropWhile isOuter = text.dropWhile isOuter ++ pathOf plain := by
  have kept : (pathOf plain).dropWhile isOuter = pathOf plain := by cases plain <;> rfl
  rw [List.dropWhile_append, kept]
  split
  · rename_i nothing
    rw [List.isEmpty_iff.mp nothing, List.nil_append]
  · rfl

theorem cleaned_append (given : plain ≠ []) (each : ∀ step ∈ plain, IsPlain step)
    (text : List Char) : cleaned (text ++ pathOf plain) =
      (text.dropWhile isOuter).filter isKept ++ pathOf plain := by
  have present : pathOf plain ≠ [] := by
    obtain ⟨step, others, rfl⟩ := List.exists_cons_of_ne_nil given
    exact List.cons_ne_nil _ _
  have toEnd : (text.dropWhile isOuter ++ pathOf plain).rdropWhile isOuter =
      text.dropWhile isOuter ++ pathOf plain := by
    refine List.rdropWhile_eq_self_iff.mpr fun _ => ?_
    rw [List.getLast_append_of_ne_nil _ present]
    have visible := visible_of_mem_pathOf each (List.getLast_mem present)
    rwa [isOuter, decide_eq_true_eq, Nat.not_le]
  have kept : (pathOf plain).filter isKept = pathOf plain := by
    refine List.filter_eq_self.mpr fun c among => ?_
    have visible := visible_of_mem_pathOf each among
    rw [isKept, decide_eq_true_eq]
    intro breaks
    simp only [List.mem_cons, List.not_mem_nil, or_false] at breaks
    rcases breaks with rfl | rfl | rfl <;> exact absurd visible (by decide)
  rw [cleaned_eq, dropWhile_append_pathOf, toEnd, List.filter_append, kept]

theorem afterPrefix?_append {start : List Char} (absent : '/' ∉ start) (text rest : List Char) :
    Text.afterPrefix? start (text ++ '/' :: rest) =
      (Text.afterPrefix? start text).map (· ++ '/' :: rest) := by
  induction start generalizing text with
  | nil => rfl
  | cons c start ih =>
    rw [List.mem_cons, not_or] at absent
    obtain ⟨here, later⟩ := absent
    cases text with
    | nil => exact if_neg (Ne.symm here)
    | cons first text =>
      rw [List.cons_append, Text.afterPrefix?, Text.afterPrefix?, ih later]
      split <;> rfl

theorem normal?_append (address : String) {first : List Char} (isPlain : IsPlain first)
    (given : first ≠ []) :
    ∃ front : Option String, ∀ plain, plain ≠ [] → (∀ step ∈ plain, IsPlain step) →
      normal? (address ++ String.ofList (pathOf (first :: plain))) =
        front.map (· ++ String.ofList (pathOf plain)) := by
  let start := (address.toList.dropWhile isOuter).filter isKept
  have cleans (plain) (each : ∀ step ∈ plain, IsPlain step) :
      cleaned (address ++ String.ofList (pathOf (first :: plain))).toList =
        start ++ '/' :: (first ++ pathOf plain) := by
    rw [String.toList_append, String.toList_ofList]
    exact cleaned_append (List.cons_ne_nil first plain) (List.forall_mem_cons.mpr ⟨isPlain, each⟩) _
  have finds (scheme : String) (absent : '/' ∉ scheme.toList) (plain : List (List Char)) :
      Text.afterPrefix? scheme.toList (start ++ '/' :: (first ++ pathOf plain)) =
        (Text.afterPrefix? scheme.toList start).map (· ++ pathOf (first :: plain)) :=
    afterPrefix?_append absent start _
  have http := finds "http:" (by decide)
  have https := finds "https:" (by decide)
  cases found : Text.afterPrefix? "http:".toList start with
  | some rest =>
    obtain ⟨front, behind⟩ := exists_front_rest? 80 rest isPlain given
    refine ⟨front.map fun front => "http://" ++ String.ofList front, fun plain some each => ?_⟩
    rw [normal?, cleans plain each]
    simp only [http, found, Option.map_some, behind plain some each, Option.map_map,
      Function.comp_def, String.ofList_append, String.append_assoc]
  | none =>
    cases foundSecure : Text.afterPrefix? "https:".toList start with
    | some rest =>
      obtain ⟨front, behind⟩ := exists_front_rest? 443 rest isPlain given
      refine ⟨front.map fun front => "https://" ++ String.ofList front, fun plain some each => ?_⟩
      rw [normal?, cleans plain each]
      simp only [http, https, found, foundSecure, Option.map_some, Option.map_none,
        behind plain some each, Option.map_map, Function.comp_def, String.ofList_append,
        String.append_assoc]
    | none =>
      refine ⟨none, fun plain some each => ?_⟩
      rw [normal?, cleans plain each]
      simp only [http, https, found, foundSecure, Option.map_none]

end BuildWatch.Address
