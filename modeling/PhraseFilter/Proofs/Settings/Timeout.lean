import PhraseFilter.Proofs.Settings.Precedence

/-!
# How long the client waits

Settings have the seconds that the client waits for an answer, and the client has the milliseconds.

* `ServiceSettings.mostSecs` : the most seconds whose milliseconds are a 64-bit number;
  `ServiceSettings.toService?_eq_some_iff`, `ServiceSettings.toService?_eq_none_iff` : settings make a client up to them, and
  none above them;
* `Settings.Source` : **the ways in which settings are loaded**, `Settings.Source.load?` : and the settings themselves;
* `Settings.Source.Writes` : the seconds that the user has written, in a document (`Settings.WritesSecs`) or in the environment;
  `Settings.Source.timeoutSecs_of_load?` : all others are the default ones, `Settings.exists_load?_timeoutSecs` : and any 64-bit
  number can be written;
* `Settings.toService?_of_load?` : **the client waits for a thousand times the seconds, unless the user has written more than
  the most seconds.**
-/

namespace PhraseFilter

open Text

namespace Toml

variable {α : Type} {reads? : Toml → Option α} {default x : α} {key : String} {entries : List (String × Toml)}

theorem fieldOr?_eq_some_iff : fieldOr? reads? default key entries = some x ↔
    (lookup key entries = none ∧ x = default) ∨ ∃ v, lookup key entries = some v ∧ reads? v = some x := by
  unfold fieldOr?
  cases lookup key entries with
  | none => simp [eq_comm]
  | some v => simp

end Toml

namespace ServiceSettings

/-- The most seconds whose milliseconds are a 64-bit number. -/
def mostSecs : Nat := (UInt64.size - 1) / millisPerSecond

example : mostSecs = 18446744073709551 := by decide

variable {s : ServiceSettings} {client : Service} {v : Toml}

theorem millis_lt_iff (secs : Nat) : secs * millisPerSecond < UInt64.size ↔ secs ≤ mostSecs := by
  have hsecond : 0 < millisPerSecond := by decide
  have hsize : 0 < UInt64.size := by decide
  rw [mostSecs, Nat.le_div_iff_mul_le hsecond, Nat.le_sub_one_iff_lt hsize]

/-- Settings make a client with their address and key, if their milliseconds are a 64-bit number. -/
theorem toService?_eq_some_iff : s.toService? = some client ↔
    s.timeoutSecs.toNat ≤ mostSecs ∧ client = ⟨s.baseUrl, s.apiKey, s.timeoutSecs.toNat * millisPerSecond⟩ := by
  unfold toService?
  dsimp only
  rw [← millis_lt_iff, Option.ite_none_right_eq_some, Option.some_inj, eq_comm (a := client)]

theorem toService?_eq_none_iff : s.toService? = none ↔ mostSecs < s.timeoutSecs.toNat := by
  simp only [toService?, ite_eq_right_iff, reduceCtorEq, imp_false, millis_lt_iff, Nat.not_le]

theorem timeoutSecs_of_ofToml? (h : ofToml? v = some s) :
    s.timeoutSecs = ({} : ServiceSettings).timeoutSecs ∨ ∃ fields number, v.group? fieldNames = some fields ∧
      Toml.lookup "request_timeout_secs" fields = some number ∧ number.unsigned? = some s.timeoutSecs := by
  unfold ofToml? at h
  simp only [bind, Option.bind_eq_some_iff, pure, Option.some_inj] at h
  obtain ⟨fields, hfields, baseUrl, -, apiKey, -, secs, hsecs, rfl⟩ := h
  rcases Toml.fieldOr?_eq_some_iff.mp hsecs with ⟨-, rfl⟩ | ⟨number, hnumber, hread⟩
  · exact Or.inl rfl
  · exact Or.inr ⟨fields, number, hfields, hnumber, hread⟩

end ServiceSettings

namespace Settings

/-! ## Where seconds come from -/

/-- Does a document have the seconds? -/
def WritesSecs (text : String) (secs : UInt64) : Prop :=
  ∃ entries group fields number, Toml.read? text = some entries ∧ Toml.lookup "opendota" entries = some group ∧
    group.group? ServiceSettings.fieldNames = some fields ∧
    Toml.lookup "request_timeout_secs" fields = some number ∧ number.unsigned? = some secs

/-- The ways in which settings are loaded: from the text of a document, from a file, from a file and the environment, from
the environment alone, and from the usual files and the environment. -/
inductive Source
  | document (text : String)
  | file (path : String)
  | fileAndEnvironment (path : String)
  | environment
  | usual
  deriving Repr, DecidableEq

namespace Source

/-- Does the environment count? -/
def readsEnvironment : Source → Bool
  | .document _ | .file _ => false
  | .fileAndEnvironment _ | .environment | .usual => true

/-- What reading the documents yields that may count, in their order. -/
def contents (userDir : Option String) (content : String → Except FileError String) : Source → List (Except FileError String)
  | .document text => [.ok text]
  | .file path | .fileAndEnvironment path => [content path]
  | .environment => []
  | .usual => (usualPaths userDir).map content

/-- The settings without what the environment sets, if they can be had. -/
def base? (userDir : Option String) (content : String → Except FileError String) : Source → Option Settings
  | .document text => read? text
  | .file path | .fileAndEnvironment path => (ofFile path (content path)).toOption
  | .environment => some {}
  | .usual => some (ofUsualFiles ((usualPaths userDir).map content))

/-- The settings that are loaded, if they can be had. -/
def load? (env : Environment) (userDir : Option String) (content : String → Except FileError String) (src : Source) :
    Option Settings :=
  (src.base? userDir content).map fun s => if src.readsEnvironment then s.override env else s

/-- The seconds that the user has written where they count: in the environment, or in the document that the settings are
those of. -/
inductive Writes (env : Environment) (userDir : Option String) (content : String → Except FileError String) (src : Source)
    (secs : UInt64) : Prop
  | environment {text : String} (hsrc : src.readsEnvironment = true) (henv : env "DOTAFILTER_REQUEST_TIMEOUT" = some text)
      (h : readSeconds? text = some secs)
  | document {text : String} (htext : .ok text ∈ src.contents userDir content) (hread : read? text = src.base? userDir content)
      (h : WritesSecs text secs)

end Source

section Sources

variable {env : Environment} {userDir : Option String} {content : String → Except FileError String} {text path : String}
  {s : Settings} {src : Source}

theorem timeoutSecs_of_read? (h : read? text = some s) :
    s.service.timeoutSecs = ({} : ServiceSettings).timeoutSecs ∨ WritesSecs text s.service.timeoutSecs := by
  obtain ⟨entries, hentries, h⟩ := Option.bind_eq_some_iff.mp h
  unfold ofToml? at h
  simp only [bind, Option.bind_eq_some_iff, pure, Option.some_inj] at h
  obtain ⟨defaultPlayer, -, service, hservice, log, -, accounts, -, rfl⟩ := h
  rcases Toml.fieldOr?_eq_some_iff.mp hservice with ⟨-, rfl⟩ | ⟨group, hgroup, hread⟩
  · exact Or.inl rfl
  · rcases ServiceSettings.timeoutSecs_of_ofToml? hread with hdefault | ⟨fields, number, hfields, hnumber, hsecs⟩
    · exact Or.inl hdefault
    · exact Or.inr ⟨entries, group, fields, number, hentries, hgroup, hfields, hnumber, hsecs⟩

theorem exists_of_ofFile {c : Except FileError String} (h : (ofFile path c).toOption = some s) :
    ∃ text, c = .ok text ∧ read? text = some s := by
  unfold ofFile at h
  split at h
  · cases h
  · next text =>
    split at h
    · next s' hread =>
      cases h
      exact ⟨text, rfl, hread⟩
    · cases h

/-- The settings of the usual files are the default ones or those of a document. -/
theorem exists_of_ofUsualFiles (contents : List (Except FileError String)) : ofUsualFiles contents = {} ∨
    ∃ text, .ok text ∈ contents ∧ read? text = some (ofUsualFiles contents) := by
  unfold ofUsualFiles
  cases hfound : contents.findSome? fun c => c.toOption.bind read? with
  | none => exact Or.inl rfl
  | some s =>
      obtain ⟨c, hmem, hc⟩ := List.exists_of_findSome?_eq_some hfound
      cases c with
      | error e => cases hc
      | ok text => exact Or.inr ⟨text, hmem, hc⟩

theorem Source.exists_of_base? (h : src.base? userDir content = some s) :
    s = {} ∨ ∃ text, .ok text ∈ src.contents userDir content ∧ read? text = some s := by
  cases src with
  | document text => exact Or.inr ⟨text, List.mem_cons_self, h⟩
  | file path | fileAndEnvironment path =>
      obtain ⟨text, hcontent, hread⟩ := exists_of_ofFile h
      exact Or.inr ⟨text, List.mem_singleton.mpr hcontent.symm, hread⟩
  | environment => exact Or.inl (Option.some.inj h).symm
  | usual =>
      obtain rfl := Option.some.inj h
      exact exists_of_ofUsualFiles _

theorem timeoutSecs_override (env : Environment) (s : Settings) :
    (s.override env).service.timeoutSecs = s.service.timeoutSecs ∨
      ∃ text, env "DOTAFILTER_REQUEST_TIMEOUT" = some text ∧
        readSeconds? text = some (s.override env).service.timeoutSecs := by
  have hget : (s.override env).service.timeoutSecs = (Variable.timeoutSecs.value? env).getD s.service.timeoutSecs :=
    get_override env s .timeoutSecs
  rw [hget]
  cases hvalue : Variable.timeoutSecs.value? env with
  | none => exact Or.inl rfl
  | some secs => exact Or.inr (Option.bind_eq_some_iff.mp hvalue)

/-- The seconds of settings are the default ones, or the user has written them where they count. -/
theorem Source.timeoutSecs_of_load? (h : src.load? env userDir content = some s) :
    s.service.timeoutSecs = ({} : ServiceSettings).timeoutSecs ∨ src.Writes env userDir content s.service.timeoutSecs := by
  obtain ⟨base, hbase, rfl⟩ := Option.map_eq_some_iff.mp h
  have hsecs : base.service.timeoutSecs = ({} : ServiceSettings).timeoutSecs ∨
      src.Writes env userDir content base.service.timeoutSecs := by
    rcases src.exists_of_base? hbase with rfl | ⟨text, htext, hread⟩
    · exact Or.inl rfl
    · exact (timeoutSecs_of_read? hread).imp_right (Writes.document htext (hread.trans hbase.symm))
  cases hsrc : src.readsEnvironment with
  | false => exact hsecs
  | true =>
      rcases timeoutSecs_override env base with hsame | ⟨text, henv, hread⟩
      · rw [if_pos rfl, hsame]
        exact hsecs
      · exact Or.inr (.environment hsrc henv hread)

theorem exists_load?_timeoutSecs (userDir : Option String) (content : String → Except FileError String) (secs : UInt64) :
    ∃ env s, Source.load? env userDir content .environment = some s ∧ s.service.timeoutSecs = secs := by
  obtain ⟨env, henv⟩ : ∃ env : Environment, env "DOTAFILTER_REQUEST_TIMEOUT" = some (toString secs.toNat) :=
    ⟨fun _ => some (toString secs.toNat), rfl⟩
  have hsecs : readSeconds? (toString secs.toNat) = some secs := by
    have hdigits := readWord64?_eq_some_iff.mp (readWord64?_zeros 0 secs)
    exact readSeconds?_eq_some_iff.mpr ⟨_, Or.inl rfl, hdigits⟩
  have hvalue : Variable.timeoutSecs.value? env = some secs := Option.bind_eq_some_iff.mpr ⟨_, henv, hsecs⟩
  have hget := get_override env {} .timeoutSecs
  rw [hvalue] at hget
  exact ⟨env, override env {}, rfl, hget⟩

end Sources

/-! ## The client -/

/-- **How long the client waits.** Whatever way settings are loaded in: as long as their seconds are at most `mostSecs`, they
make a client that waits for exactly a thousand times as many milliseconds, a 64-bit number, and that has the address and
the key of the settings. Seconds above `mostSecs` make no client, since a thousand times as many is no 64-bit number. These
are never the default ones: the user has written them, in the environment or in the document that the settings are those
of. -/
theorem toService?_of_load? {env : Environment} {userDir : Option String} {content : String → Except FileError String}
    {src : Source} {s : Settings} (h : src.load? env userDir content = some s) :
    (s.service.timeoutSecs.toNat ≤ ServiceSettings.mostSecs → ∃ client, s.service.toService? = some client ∧
      client.timeoutMs = 1000 * s.service.timeoutSecs.toNat ∧ client.timeoutMs < UInt64.size ∧
      client.baseUrl = s.service.baseUrl ∧ client.apiKey = s.service.apiKey) ∧
    (ServiceSettings.mostSecs < s.service.timeoutSecs.toNat → s.service.toService? = none ∧
      UInt64.size ≤ 1000 * s.service.timeoutSecs.toNat ∧ src.Writes env userDir content s.service.timeoutSecs) := by
  constructor
  · intro hle
    refine ⟨_, ServiceSettings.toService?_eq_some_iff.mpr ⟨hle, rfl⟩, Nat.mul_comm _ _, ?_, rfl, rfl⟩
    exact (ServiceSettings.millis_lt_iff _).mpr hle
  · intro hlt
    have hover : ¬ s.service.timeoutSecs.toNat * ServiceSettings.millisPerSecond < UInt64.size :=
      fun hmillis => Nat.not_le.mpr hlt ((ServiceSettings.millis_lt_iff _).mp hmillis)
    rw [Nat.not_lt, Nat.mul_comm] at hover
    have hdefault : s.service.timeoutSecs ≠ ({} : ServiceSettings).timeoutSecs := by
      intro hdefault
      rw [hdefault] at hlt
      exact absurd hlt (by decide)
    exact ⟨ServiceSettings.toService?_eq_none_iff.mpr hlt, hover, (Source.timeoutSecs_of_load? h).resolve_left hdefault⟩

/-- The most seconds, in a document, make a client, and one second more in the environment makes none. -/
theorem toService?_of_load?_most :
    ∃ s, read? "[opendota]\nrequest_timeout_secs = 18446744073709551" = some s ∧
      (∃ client, s.service.toService? = some client ∧ client.timeoutMs = 18446744073709551000) ∧
      (override (fun _ => some "18446744073709552") {}).service.toService? = none := by
  obtain ⟨s, hread, hsecs⟩ : ∃ s, read? "[opendota]\nrequest_timeout_secs = 18446744073709551" = some s ∧
      s.service.timeoutSecs = 18446744073709551 :=
    ⟨{ service := { timeoutSecs := 18446744073709551 } }, by decide +kernel, rfl⟩
  have hdocument : Source.load? (fun _ => none) none (fun _ => .error .notFound)
      (.document "[opendota]\nrequest_timeout_secs = 18446744073709551") = some s := by
    rw [Source.load?, Source.base?, hread]
    rfl
  have henvironment : Source.load? (fun _ => some "18446744073709552") none (fun _ => .error .notFound) .environment =
      some (override (fun _ => some "18446744073709552") {}) := rfl
  have hmore : (override (fun _ => some "18446744073709552") {}).service.timeoutSecs = 18446744073709552 := by
    decide +kernel
  obtain ⟨hclient, -⟩ := toService?_of_load? hdocument
  obtain ⟨-, hnone⟩ := toService?_of_load? henvironment
  rw [hsecs] at hclient
  rw [hmore] at hnone
  obtain ⟨client, hservice, hmillis, -⟩ := hclient (by decide)
  exact ⟨s, hread, ⟨client, hservice, hmillis⟩, (hnone (by decide)).1⟩

/-- A document whose seconds make no client. -/
theorem toService?_of_read?_above_most :
    ∃ s, read? "[opendota]\nrequest_timeout_secs = 18446744073709552" = some s ∧
      s.service.timeoutSecs = 18446744073709552 ∧ s.service.toService? = none := by
  refine ⟨{ service := { timeoutSecs := 18446744073709552 } }, ?_, rfl, ?_⟩ <;> decide +kernel

end Settings

end PhraseFilter
