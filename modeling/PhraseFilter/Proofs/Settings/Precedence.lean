import Mathlib.Logic.Function.Basic
import PhraseFilter.Command.Run
import PhraseFilter.Proofs.Text.Decimal

/-!
# Which settings count

* `Settings.Variable` : what the environment may set, each with the type of what settings hold for it; `Settings.eq_iff` :
  settings are told by these and by the accounts;
* `Settings.readSeconds?_eq_some_iff` : the texts that are numbers of seconds;
* `Settings.get_override` : a variable that is set goes before the settings, and one that is not leaves them as they are;
  `Settings.override_override`, `Settings.override_eq_iff` : **what was in its place does not matter**;
* `Settings.inFile?`, `Settings.userPath?` : the two usual files; `Settings.ofUsualFiles_eq` : the local file goes first;
* `Settings.usual_precedence` : **the environment goes before the local file, this before the user's file, and this before
  the defaults**.
-/

namespace PhraseFilter

namespace Settings

open Text

/-- What the environment may set. -/
inductive Variable
  | defaultPlayer
  | baseUrl
  | apiKey
  | timeoutSecs
  | level
  | format
  deriving Repr, DecidableEq

namespace Variable

def all : List Variable := [.defaultPlayer, .baseUrl, .apiKey, .timeoutSecs, .level, .format]

def name : Variable → String
  | .defaultPlayer => "DOTAFILTER_DEFAULT_PLAYER"
  | .baseUrl => "DOTAFILTER_OPENDOTA_URL"
  | .apiKey => "DOTAFILTER_API_KEY"
  | .timeoutSecs => "DOTAFILTER_REQUEST_TIMEOUT"
  | .level => "DOTAFILTER_LOG_LEVEL"
  | .format => "DOTAFILTER_LOG_FORMAT"

/-- The type of what settings hold for the variable. -/
def Held : Variable → Type
  | .defaultPlayer | .apiKey => Option String
  | .timeoutSecs => UInt64
  | .baseUrl | .level | .format => String

def get : (v : Variable) → Settings → v.Held
  | .defaultPlayer, s => s.defaultPlayer
  | .baseUrl, s => s.service.baseUrl
  | .apiKey, s => s.service.apiKey
  | .timeoutSecs, s => s.service.timeoutSecs
  | .level, s => s.log.level
  | .format, s => s.log.format

/-- What a text sets the variable to: any text sets a text, and a number of seconds has to be read. -/
def read? : (v : Variable) → String → Option v.Held
  | .defaultPlayer, text => some (some text)
  | .baseUrl, text => some text
  | .apiKey, text => some (some text)
  | .timeoutSecs, text => readSeconds? text
  | .level, text => some text
  | .format, text => some text

/-- What the environment sets the variable to. -/
def value? (env : Environment) (v : Variable) : Option v.Held := (env v.name).bind v.read?

end Variable

/-! ## The environment -/

section Environment

variable {env : Environment} {s t : Settings}

theorem eq_iff : s = t ↔ s.accounts = t.accounts ∧ ∀ v : Variable, v.get s = v.get t := by
  constructor
  · rintro rfl
    exact ⟨rfl, fun v => rfl⟩
  · rintro ⟨haccounts, hget⟩
    obtain ⟨_, ⟨_, _, _⟩, ⟨_, _⟩, _⟩ := s
    obtain ⟨_, ⟨_, _, _⟩, ⟨_, _⟩, _⟩ := t
    obtain rfl := haccounts
    obtain rfl := hget .defaultPlayer
    obtain rfl := hget .baseUrl
    obtain rfl := hget .apiKey
    obtain rfl := hget .timeoutSecs
    obtain rfl := hget .level
    obtain rfl := hget .format
    rfl

theorem accounts_override (env : Environment) (s : Settings) : (s.override env).accounts = s.accounts := rfl

/-- **A variable that is set goes before the settings**, and one that is not leaves them as they are. -/
theorem get_override (env : Environment) (s : Settings) (v : Variable) :
    v.get (s.override env) = (v.value? env).getD (v.get s) := by
  have htext : ∀ (x : Option String) (old : String), x.getD old = (x.bind fun text => some text).getD old := by
    intro x old
    cases x <;> rfl
  have hpresent : ∀ x old : Option String, x.or old = (x.bind fun text => some (some text)).getD old := by
    intro x old
    cases x <;> rfl
  cases v with
  | defaultPlayer => exact hpresent (env "DOTAFILTER_DEFAULT_PLAYER") s.defaultPlayer
  | baseUrl => exact htext (env "DOTAFILTER_OPENDOTA_URL") s.service.baseUrl
  | apiKey => exact hpresent (env "DOTAFILTER_API_KEY") s.service.apiKey
  | timeoutSecs => rfl
  | level => exact htext (env "DOTAFILTER_LOG_LEVEL") s.log.level
  | format => exact htext (env "DOTAFILTER_LOG_FORMAT") s.log.format

/-- Settings that differ only in what the environment sets are the same with it, and no others are. -/
theorem override_eq_iff : s.override env = t.override env ↔
    s.accounts = t.accounts ∧ ∀ v : Variable, v.value? env = none → v.get s = v.get t := by
  rw [eq_iff, accounts_override, accounts_override]
  refine and_congr_right fun _ => forall_congr' fun v => ?_
  rw [get_override, get_override]
  cases v.value? env with
  | none => simp
  | some x => simp

theorem override_override (env : Environment) (s : Settings) : (s.override env).override env = s.override env := by
  rw [override_eq_iff]
  refine ⟨accounts_override env s, fun v hv => ?_⟩
  rw [get_override, hv, Option.getD_none]

/-- The texts that are numbers of seconds: ASCII digits, perhaps after a plus sign, that stand for a 64-bit number. -/
theorem readSeconds?_eq_some_iff {text : String} {secs : UInt64} : readSeconds? text = some secs ↔
    ∃ digits, (text.toList = digits ∨ text.toList = '+' :: digits) ∧ digits ≠ [] ∧
      (∀ d ∈ digits, d.isDigit = true) ∧ decimalValue digits = secs.toNat := by
  unfold readSeconds?
  split
  · next digits htext =>
    rw [readWord64?_eq_some_iff]
    constructor
    · intro h
      exact ⟨digits, Or.inr htext, h⟩
    · rintro ⟨digits', hdigits' | hdigits', h⟩
      · -- A plus sign is no digit.
        have hplus := h.2.1 '+' (by rw [← hdigits', htext]; exact List.mem_cons_self)
        exact absurd hplus (by decide)
      · rw [htext, List.cons.injEq] at hdigits'
        rw [hdigits'.2]
        exact h
  · next hplus =>
    rw [readWord64?_eq_some_iff]
    constructor
    · intro h
      exact ⟨text.toList, Or.inl rfl, h⟩
    · rintro ⟨digits, rfl | hdigits, h⟩
      · exact h
      · exact absurd hdigits (hplus digits)

end Environment

/-! ## The usual files -/

/-- The settings in the file at a path, if it is there and can be read. -/
def inFile? (content : String → Except FileError String) (path : String) : Option Settings :=
  (content path).toOption.bind read?

/-- The path of the user's file, given the directory of the user's settings if there is one. -/
def userPath? (userDir : Option String) : Option String := userDir.map fun dir => dir ++ "/dotafilter/config.toml"

/-- The settings of a run that names no file. -/
def usual (env : Environment) (userDir : Option String) (content : String → Except FileError String) : Settings :=
  (ofUsualFiles ((usualPaths userDir).map content)).override env

section Files

variable {env : Environment} {userDir : Option String} {content : String → Except FileError String}

/-- The local file goes first, and what cannot be read is passed over. -/
theorem ofUsualFiles_eq : ofUsualFiles ((usualPaths userDir).map content) =
    ((inFile? content localPath).or ((userPath? userDir).bind (inFile? content))).getD {} := by
  have hpaths : usualPaths userDir = localPath :: (userPath? userDir).toList := rfl
  rw [ofUsualFiles, hpaths, List.findSome?_map]
  cases hlocal : inFile? content localPath with
  | some s =>
      have hfirst : ((fun c => c.toOption.bind read?) ∘ content) localPath = some s := hlocal
      rw [List.findSome?_cons, hfirst]
      rfl
  | none =>
      have hfirst : ((fun c => c.toOption.bind read?) ∘ content) localPath = none := hlocal
      rw [List.findSome?_cons, hfirst]
      cases userPath? userDir with
      | none => rfl
      | some path =>
          show (List.findSome? _ [path]).getD {} = (inFile? content path).getD {}
          rw [List.findSome?_singleton]
          rfl

theorem loadSettings_eq_usual {m : Type → Type} [Monad m] [LawfulMonad m] (host : Host m)
    (hread : ∀ path, host.files.read path = pure (content path)) :
    Command.loadSettings host none = pure (.ok (usual host.env host.userDir content)) := by
  have hcontents : (usualPaths host.userDir).mapM host.files.read = pure ((usualPaths host.userDir).map content) := by
    rw [funext hread]
    exact List.mapM_pure
  show (usualPaths host.userDir).mapM host.files.read >>= _ = _
  rw [hcontents, pure_bind]
  rfl

theorem usual_eq_update (h : inFile? content localPath = none) :
    usual env userDir content = usual env userDir (Function.update content localPath (.error .notFound)) := by
  have hsame : inFile? (Function.update content localPath (.error .notFound)) = inFile? content := by
    funext path
    by_cases hpath : path = localPath
    · rw [hpath, h, inFile?, Function.update_self]
      rfl
    · rw [inFile?, inFile?, Function.update_of_ne hpath]
  rw [usual, usual, ofUsualFiles_eq, ofUsualFiles_eq, hsame]

end Files

/-- **Which settings count.** A run that names no file takes those of the local file, or else of the user's file, or else
the defaults, with what the environment sets in their place; a local file that cannot be read might as well be missing.
The environment sets a variable to its text, or to the number of seconds that the text is. What it sets goes before the
settings and nothing else changes, however often it sets it and whatever was there before. -/
theorem usual_precedence (env : Environment) (userDir : Option String) (content : String → Except FileError String) :
    (∀ (m : Type → Type) [Monad m] [LawfulMonad m] (host : Host m), host.env = env → host.userDir = userDir →
      (∀ path, host.files.read path = pure (content path)) →
      Command.loadSettings host none = pure (.ok (usual env userDir content))) ∧
    (∀ s, inFile? content localPath = some s → usual env userDir content = s.override env) ∧
    (inFile? content localPath = none →
      (∀ s, (userPath? userDir).bind (inFile? content) = some s → usual env userDir content = s.override env) ∧
      ((userPath? userDir).bind (inFile? content) = none → usual env userDir content = override env {}) ∧
      usual env userDir content = usual env userDir (Function.update content localPath (.error .notFound))) ∧
    (∀ s : Settings, (s.override env).accounts = s.accounts ∧
      ∀ v : Variable, v.get (s.override env) = (v.value? env).getD (v.get s)) ∧
    (∀ v : Variable, v ≠ .timeoutSecs → ∀ text, v.read? text ≠ none) ∧
    (∀ text secs, Variable.timeoutSecs.read? text = some secs ↔
      ∃ digits, (text.toList = digits ∨ text.toList = '+' :: digits) ∧ digits ≠ [] ∧
        (∀ d ∈ digits, d.isDigit = true) ∧ decimalValue digits = UInt64.toNat secs) ∧
    (∀ s : Settings, (s.override env).override env = s.override env) ∧
    ∀ s t : Settings, s.override env = t.override env ↔
      s.accounts = t.accounts ∧ ∀ v : Variable, v.value? env = none → v.get s = v.get t := by
  refine ⟨?_, fun s hlocal => ?_, fun hlocal => ⟨fun s huser => ?_, fun huser => ?_, usual_eq_update hlocal⟩,
    fun s => ⟨accounts_override env s, get_override env s⟩, fun v hv text => ?_, fun text secs => readSeconds?_eq_some_iff,
    override_override env, fun s t => override_eq_iff⟩
  · rintro m _ _ host rfl rfl hread
    exact loadSettings_eq_usual host hread
  · rw [usual, ofUsualFiles_eq, hlocal]
    rfl
  · rw [usual, ofUsualFiles_eq, hlocal, huser]
    rfl
  · rw [usual, ofUsualFiles_eq, hlocal, huser]
    rfl
  · cases v with
    | timeoutSecs => exact absurd rfl hv
    | _ => exact Option.some_ne_none _

/-- The local file is broken, the user's file names a player, and the environment sets a key and a number of seconds that
cannot be read. -/
theorem usual_precedence_dendi :
    usual
      (fun name => if name = "DOTAFILTER_API_KEY" then some "key"
        else if name = "DOTAFILTER_REQUEST_TIMEOUT" then some "ten" else none)
      (some "/home/user/.config")
      (fun path => if path = "/home/user/.config/dotafilter/config.toml" then .ok "default_player = \"dendi\""
        else .ok "[opendota\n") =
      { defaultPlayer := some "dendi", service := { apiKey := some "key" } } := by
  rw [((usual_precedence _ _ _).2.2.1 (by decide +kernel)).1 { defaultPlayer := some "dendi" } (by decide +kernel)]
  decide +kernel

end Settings

end PhraseFilter
