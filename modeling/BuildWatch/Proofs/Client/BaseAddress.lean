import BuildWatch.Client.Settings
import BuildWatch.Proofs.Wire.Paths
import Mathlib.Data.List.DropRight

namespace BuildWatch

/-! ## A mark at the end -/

namespace Text

variable {mark : Char} {text core : List Char}

theorem dropFinal_eq (mark : Char) (text : List Char) :
    dropFinal mark text = text.rdropWhile (· == mark) :=
  rfl

theorem dropFinal_append_marks (mark : Char) (text : List Char) (n : Nat) :
    dropFinal mark (text ++ List.replicate n mark) = dropFinal mark text := by
  induction n with
  | zero => rw [List.replicate_zero, List.append_nil]
  | succ n ih =>
    rw [List.replicate_succ', ← List.append_assoc, dropFinal_eq,
      List.rdropWhile_concat_pos (· == mark) _ _ (beq_self_eq_true mark)]
    exact ih

theorem dropFinal_eq_self (bare : text.getLast? ≠ some mark) : dropFinal mark text = text := by
  refine List.rdropWhile_eq_self_iff.mpr fun given => ?_
  rw [List.getLast?_eq_some_getLast given] at bare
  simpa using bare

theorem getLast?_dropFinal (mark : Char) (text : List Char) :
    (dropFinal mark text).getLast? ≠ some mark := by
  intro ends
  have given : dropFinal mark text ≠ [] := by
    intro nothing
    rw [nothing] at ends
    cases ends
  rw [List.getLast?_eq_some_getLast given, Option.some.injEq] at ends
  exact List.rdropWhile_last_not _ _ given (beq_iff_eq.mpr ends)

theorem exists_marks (mark : Char) (text : List Char) :
    ∃ n, text = dropFinal mark text ++ List.replicate n mark := by
  let dropped := text.rtakeWhile (· == mark)
  have marks : ∀ c ∈ dropped, c = mark := fun c among =>
    beq_iff_eq.mp (@List.mem_rtakeWhile_imp _ (· == mark) text c among)
  refine ⟨dropped.length, ?_⟩
  rw [← List.eq_replicate_of_mem marks, dropFinal_eq]
  exact List.rdropWhile_append_rtakeWhile.symm

theorem dropFinal_eq_iff : dropFinal mark text = core ↔
    core.getLast? ≠ some mark ∧ ∃ n, text = core ++ List.replicate n mark := by
  constructor
  · rintro rfl
    exact ⟨getLast?_dropFinal mark text, exists_marks mark text⟩
  · rintro ⟨bare, n, rfl⟩
    rw [dropFinal_append_marks, dropFinal_eq_self bare]

end Text

namespace Client

def slashes (n : Nat) : String :=
  String.ofList (List.replicate n '/')

def EndsInSlash (url : String) : Prop :=
  url.toList.getLast? = some '/'

instance (url : String) : Decidable (EndsInSlash url) :=
  inferInstanceAs (Decidable (url.toList.getLast? = some '/'))

theorem endsInSlash_append {rest : String} (given : rest ≠ "") (start : String) :
    EndsInSlash (start ++ rest) ↔ EndsInSlash rest := by
  have present : rest.toList ≠ [] := fun nothing => given (String.toList_inj.mp nothing)
  rw [EndsInSlash, EndsInSlash, String.toList_append, List.getLast?_append_of_ne_nil _ present]

/-! ## Schemes -/

inductive Scheme where
  | plain
  | secure
  deriving DecidableEq, Repr

namespace Scheme

def name : Scheme → String
  | plain => "http:"
  | secure => "https:"

def web : Scheme → String
  | plain => "http://"
  | secure => "https://"

def socket : Scheme → String
  | plain => "ws://"
  | secure => "wss://"

end Scheme

namespace Settings

variable {url base stream rest : String} {scheme : Scheme} {settings : Settings}

theorem withoutSlashes_eq_iff :
    withoutSlashes url = base ↔ ¬ EndsInSlash base ∧ ∃ n, url = base ++ slashes n := by
  have ofChars : withoutSlashes url = base ↔ Text.dropFinal '/' url.toList = base.toList := by
    rw [withoutSlashes, ← String.toList_inj, String.toList_ofList]
  rw [ofChars, Text.dropFinal_eq_iff]
  refine and_congr_right fun _ => exists_congr fun n => ?_
  rw [slashes, ← String.toList_inj, String.toList_append, String.toList_ofList]

theorem withoutSlashes_append (url : String) (n : Nat) :
    withoutSlashes (url ++ slashes n) = withoutSlashes url := by
  rw [withoutSlashes, withoutSlashes, slashes, String.toList_append, String.toList_ofList,
    Text.dropFinal_append_marks]

theorem afterPrefix?_eq_some_iff {start : String} {after : List Char} :
    Text.afterPrefix? start.toList base.toList = some after ↔
      base = start ++ String.ofList after := by
  rw [Text.afterPrefix?_eq_some, ← String.toList_inj, String.toList_append, String.toList_ofList]

theorem afterPrefix?_web (scheme : Scheme) (rest : String) :
    Text.afterPrefix? scheme.web.toList (scheme.web ++ rest).toList = some rest.toList := by
  rw [afterPrefix?_eq_some_iff, String.ofList_toList]

theorem afterPrefix?_plain (rest : String) :
    Text.afterPrefix? Scheme.secure.web.toList (Scheme.plain.web ++ rest).toList = none := by
  rw [String.toList_append]
  rfl

theorem streamUrlOf?_web (scheme : Scheme) (rest : String) :
    streamUrlOf? (scheme.web ++ rest) = some (scheme.socket ++ rest) := by
  have found := afterPrefix?_web scheme rest
  cases scheme with
  | secure =>
    change Text.afterPrefix? "https://".toList _ = _ at found
    rw [streamUrlOf?, found]
    simp only [String.ofList_toList]
    rfl
  | plain =>
    have other := afterPrefix?_plain rest
    change Text.afterPrefix? "http://".toList _ = _ at found
    change Text.afterPrefix? "https://".toList _ = _ at other
    rw [streamUrlOf?, other, found]
    simp only [Option.map_some, String.ofList_toList]
    rfl

theorem streamUrlOf?_eq_some_iff : streamUrlOf? base = some stream ↔
    ∃ scheme : Scheme, ∃ rest, base = scheme.web ++ rest ∧ stream = scheme.socket ++ rest := by
  constructor
  · intro derived
    rw [streamUrlOf?] at derived
    split at derived
    · rename_i after found
      cases derived
      exact ⟨.secure, _, afterPrefix?_eq_some_iff.mp found, rfl⟩
    · obtain ⟨after, found, rfl⟩ := Option.map_eq_some_iff.mp derived
      exact ⟨.plain, _, afterPrefix?_eq_some_iff.mp found, rfl⟩
  · rintro ⟨scheme, rest, rfl, rfl⟩
    exact streamUrlOf?_web scheme rest

theorem streamUrlOf?_eq_none_iff : streamUrlOf? base = none ↔
    ¬ ∃ scheme : Scheme, ∃ rest, base = scheme.web ++ rest := by
  rw [Option.eq_none_iff_forall_ne_some]
  constructor
  · rintro underived ⟨scheme, rest, rfl⟩
    exact underived _ (streamUrlOf?_web scheme rest)
  · intro apart stream derived
    obtain ⟨scheme, rest, based, -⟩ := streamUrlOf?_eq_some_iff.mp derived
    exact apart ⟨scheme, rest, based⟩

/-! ## Addresses of the platform -/

/-- An address: a scheme, the rest, and slashes that do not count. -/
structure Spells (url : String) (scheme : Scheme) (rest : String) : Prop where
  spelled : ∃ n, url = scheme.web ++ rest ++ slashes n
  given : rest ≠ ""
  bare : ¬ EndsInSlash rest

def ofParts (scheme : Scheme) (rest : String) : Settings where
  baseUrl := scheme.web ++ rest
  streamUrl := scheme.socket ++ rest

theorem spells_iff : Spells url scheme rest ↔ withoutSlashes url = scheme.web ++ rest := by
  rw [withoutSlashes_eq_iff]
  constructor
  · rintro ⟨spelled, given, bare⟩
    exact ⟨mt (endsInSlash_append given _).mp bare, spelled⟩
  · rintro ⟨bare, spelled⟩
    have given : rest ≠ "" := by
      rintro rfl
      exact bare (by cases scheme <;> rfl)
    exact ⟨spelled, given, mt (endsInSlash_append given _).mpr bare⟩

theorem ofUrl_eq_ok_iff : ofUrl url = .ok settings ↔
    ∃ scheme rest, Spells url scheme rest ∧ settings = ofParts scheme rest := by
  simp only [spells_iff]
  constructor
  · intro taken
    rw [ofUrl] at taken
    split at taken
    · rename_i stream derived
      obtain ⟨scheme, rest, based, rfl⟩ := streamUrlOf?_eq_some_iff.mp derived
      cases taken
      exact ⟨scheme, rest, based, by rw [ofParts, based]⟩
    · cases taken
  · rintro ⟨scheme, rest, based, rfl⟩
    rw [ofUrl, based, streamUrlOf?_web]
    rfl

theorem ofUrl_eq_error_iff {problem : SettingsError} : ofUrl url = .error problem ↔
    problem = .badScheme (withoutSlashes url) ∧ ¬ ∃ scheme rest, Spells url scheme rest := by
  simp only [spells_iff, ← streamUrlOf?_eq_none_iff]
  constructor
  · intro refused
    rw [ofUrl] at refused
    split at refused
    · cases refused
    · rename_i underived
      cases refused
      exact ⟨rfl, underived⟩
  · rintro ⟨rfl, underived⟩
    rw [ofUrl, underived]

theorem Spells.again (spells : Spells url scheme rest) :
    Spells (scheme.web ++ rest) scheme rest :=
  ⟨⟨0, String.append_empty.symm⟩, spells.given, spells.bare⟩

theorem ofUrl_bare_scheme (scheme : Scheme) (n : Nat) :
    ofUrl (scheme.name ++ slashes n) = .error (.badScheme scheme.name) := by
  have bare : withoutSlashes (scheme.name ++ slashes n) = scheme.name :=
    withoutSlashes_eq_iff.mpr ⟨by cases scheme <;> decide, n, rfl⟩
  rw [ofUrl, bare]
  cases scheme <;> rfl

/-! ## Paths behind an address -/

/-- Settings as they can be put together. -/
inductive Built : Settings → Prop
  | ofUrl {url : String} {settings : Settings} (taken : ofUrl url = .ok settings) : Built settings
  | withStreamUrl {settings : Settings} (built : Built settings) (url : String) :
      Built (settings.withStreamUrl url)
  | withToken {settings : Settings} (built : Built settings) (token : String) :
      Built (settings.withToken token)
  | withTimeout {settings : Settings} (built : Built settings) (millis : Nat) :
      Built (settings.withTimeout millis)

theorem not_endsInSlash_withStreamUrl (settings : Settings) (url : String) :
    ¬ EndsInSlash (settings.withStreamUrl url).streamUrl :=
  (withoutSlashes_eq_iff.mp rfl).1

theorem Built.bare (built : Built settings) :
    ¬ EndsInSlash settings.baseUrl ∧ ¬ EndsInSlash settings.streamUrl := by
  induction built with
  | ofUrl taken =>
    obtain ⟨scheme, rest, spells, rfl⟩ := ofUrl_eq_ok_iff.mp taken
    exact ⟨mt (endsInSlash_append spells.given _).mp spells.bare,
      mt (endsInSlash_append spells.given _).mp spells.bare⟩
  | withStreamUrl _ url ih => exact ⟨ih.1, not_endsInSlash_withStreamUrl _ url⟩
  | withToken _ _ ih | withTimeout _ _ ih => exact ih

/-- Two slashes in a row do not touch the place where a path goes on from an address: they are in
the address, or in the path behind its first character. -/
def Seamless (address path : String) : Prop :=
  ∀ before after : List Char, (address ++ path).toList = before ++ '/' :: '/' :: after →
    before.length + 2 ≤ address.length ∨ address.length < before.length

theorem seam_cases {left right before after : List Char} {c : Char}
    (bare : left.getLast? ≠ some '/') (other : c ≠ '/')
    (split : left ++ '/' :: c :: right = before ++ '/' :: '/' :: after) :
    before.length + 2 ≤ left.length ∨ left.length < before.length := by
  by_contra touching
  have near : before.length = left.length ∨ before.length + 1 = left.length := by omega
  rcases near with same | last
  · obtain ⟨-, behind⟩ := List.append_inj split.symm same
    have second := (List.cons.inj (List.cons.inj behind).2).1
    exact other second.symm
  · rw [List.append_cons before] at split
    have long : left.length = (before ++ ['/']).length := by simp [last]
    obtain ⟨rfl, -⟩ := List.append_inj split long
    exact bare (List.getLast?_concat ..)

theorem seamless_of_bare {address : String} (bare : ¬ EndsInSlash address)
    (resource : Wire.Resource) : Seamless address resource.path := by
  intro before after split
  obtain ⟨rest, begins⟩ := resource.exists_path
  rw [String.toList_append, begins] at split
  rw [← String.length_toList]
  exact seam_cases bare (by decide) split

theorem Built.seamless (built : Built settings) (resource : Wire.Resource) :
    Seamless settings.baseUrl resource.path ∧ Seamless settings.streamUrl resource.path :=
  ⟨seamless_of_bare built.bare.1 resource, seamless_of_bare built.bare.2 resource⟩

/-! ## The normal form -/

/-- Slashes at the end of an address do not count. It is taken exactly if it is a scheme, a rest
that does not end in a slash, and slashes; then the base address is the scheme and the rest, which
is taken for itself, and the address of the streams has the same rest. It is refused otherwise, and
a scheme with nothing but slashes is. No address that is kept ends in a slash, so that a path goes
behind it with one slash. -/
theorem base_address_is_normalised (url : String) :
    (∀ n, ofUrl (url ++ slashes n) = ofUrl url) ∧
    (∀ settings, ofUrl url = .ok settings ↔ ∃ scheme rest, Spells url scheme rest ∧
      settings = { baseUrl := scheme.web ++ rest, streamUrl := scheme.socket ++ rest }) ∧
    (∀ problem, ofUrl url = .error problem ↔
      problem = .badScheme (withoutSlashes url) ∧ ¬ ∃ scheme rest, Spells url scheme rest) ∧
    (∀ scheme : Scheme, ∀ n, ofUrl (scheme.name ++ slashes n) = .error (.badScheme scheme.name)) ∧
    (∀ settings, ofUrl url = .ok settings → ofUrl settings.baseUrl = .ok settings) ∧
    (∀ settings : Settings, ¬ EndsInSlash (settings.withStreamUrl url).streamUrl) ∧
    ∀ settings, Built settings → ∀ resource : Wire.Resource,
      Seamless settings.baseUrl resource.path ∧ Seamless settings.streamUrl resource.path := by
  refine ⟨fun n => ?_, fun _ => ofUrl_eq_ok_iff, fun _ => ofUrl_eq_error_iff, ofUrl_bare_scheme,
    fun settings taken => ?_, fun settings => not_endsInSlash_withStreamUrl settings url,
    fun _ built => built.seamless⟩
  · rw [ofUrl, ofUrl, withoutSlashes_append]
  · obtain ⟨scheme, rest, spells, rfl⟩ := ofUrl_eq_ok_iff.mp taken
    exact ofUrl_eq_ok_iff.mpr ⟨scheme, rest, spells.again, rfl⟩

theorem slashed_address_is_normalised :
    ofUrl "http:///api//v1///" = .ok (ofParts .plain "/api//v1") ∧
    ofUrl "http:///api//v1" = .ok (ofParts .plain "/api//v1") ∧
    Seamless "http:///api//v1" (Wire.logPath "j1") := by
  obtain ⟨-, takes, -, -, again, -, seamless⟩ := base_address_is_normalised "http:///api//v1///"
  have taken : ofUrl "http:///api//v1///" = .ok (ofParts .plain "/api//v1") :=
    (takes _).mpr ⟨.plain, "/api//v1", ⟨⟨3, by decide⟩, by decide, by decide⟩, rfl⟩
  have kept := again _ taken
  have single := (seamless _ (.ofUrl taken) ⟨.log, "j1"⟩).1
  rw [show (ofParts .plain "/api//v1").baseUrl = "http:///api//v1" by decide] at kept single
  exact ⟨taken, kept, single⟩

end Settings

end Client

end BuildWatch
