import PhraseFilter.Command.Run
import PhraseFilter.Proofs.Clause.Consistency
import PhraseFilter.Proofs.Player.Basic

/-!
# The world of a run

* `Act` : what a run does to the outside; `Act.requests` : its requests in their order; `Act.trace` : requests, then what is
  printed;
* `World` : what a run meets, where the service may answer a request in view of those made before it; `World.host` : the
  host of a run that keeps its acts;
* `Session.tell_eq`, `Session.ask_eq`, `Session.readPhrase_eq`, `Session.run_findPlayer` : the parts of a run, of which
  only questions to the service and printing leave a trace;
* `World.resolved`, `World.profileRequests` : who is meant, and what the service is asked for that.
-/

namespace PhraseFilter

/-! ## Acts -/

/-- What a run does to the outside. -/
inductive Act
  | request (address : String)
  | output (text : String)
  deriving Repr, DecidableEq

namespace Act

def address? : Act → Option String
  | .request address => some address
  | .output _ => none

def requests (acts : List Act) : List String := acts.filterMap address?

/-- First requests, then what is printed. -/
def trace (asked texts : List String) : List Act := asked.map .request ++ texts.map .output

section Traces

variable (acts acts' : List Act) (asked texts : List String)

@[simp] theorem requests_append : requests (acts ++ acts') = requests acts ++ requests acts' := List.filterMap_append

@[simp] theorem requests_map_request : requests (asked.map .request) = asked :=
  List.filterMap_map.trans List.filterMap_some

@[simp] theorem requests_trace : requests (trace asked texts) = asked := by
  have houtputs : requests (texts.map .output) = [] := by simp [requests, List.filterMap_map, Function.comp_def, address?]
  rw [trace, requests_append, requests_map_request, houtputs, List.append_nil]

end Traces

end Act

/-- A run that keeps its acts. -/
abbrev Acting := StateM (List Act)

/-! ## Worlds -/

/-- What a run meets: the environment, what operations on files yield, and what the service answers to a request in view
of those made before it. -/
structure World where
  env : Environment
  userDir : Option String := none
  content : String → Except FileError String
  writes : String → String → Except FileError Unit := fun _ _ => .error .denied
  makes : String → Except FileError Unit := fun _ => .error .denied
  isDir : String → Bool := fun _ => false
  answer : List String → String → Reply

namespace World

def host (w : World) : Host Acting where
  env := w.env
  userDir := w.userDir
  files :=
    { read := fun path => pure (w.content path)
      write := fun path text => pure (w.writes path text)
      makeDir := fun path => pure (w.makes path)
      isDir := fun path => pure (w.isDir path) }
  ask := fun address => modifyGet fun acts => (w.answer (Act.requests acts) address, acts ++ [.request address])
  print := fun text => modify (· ++ [.output text])
  log := fun _ _ => pure ()

def settings (w : World) : Option String → Except SettingsError Settings
  | some path => (Settings.ofFile path (w.content path)).map (Settings.override w.env)
  | none => .ok (Settings.override w.env (Settings.ofUsualFiles ((Settings.usualPaths w.userDir).map w.content)))

/-- The player who is meant, after the given requests. -/
def resolved (w : World) (service : Service) (links : Links) (given : Option String) (asked : List String) :
    Except PlayerError Player :=
  Id.run (Player.resolve given links fun id => (w.answer asked (service.playerAddress id)).profile)

/-- What the service is asked for to know who is meant: the profile of an account that is referred to by its number. -/
def profileRequests (service : Service) (links : Links) (given : Option String) : List String :=
  match Player.choose given links with
  | .ok (.account id) => [service.playerAddress id]
  | _ => []

section Players

variable {w : World} {service : Service} {links : Links} {given : Option String} {asked : List String} {p : Player}

theorem loadSettings_eq (w : World) (path : Option String) :
    Command.loadSettings w.host path = pure (w.settings path) := by
  cases path with
  | some path => rfl
  | none =>
      have hread : ∀ paths : List String, paths.mapM w.host.files.read = pure (paths.map w.content) :=
        fun paths => List.mapM_pure
      show (Settings.usualPaths w.userDir).mapM w.host.files.read >>= _ = _
      rw [hread, pure_bind]
      rfl

/-- A player is resolved by what the service answers, and the requests for that are made. -/
theorem run_resolve (w : World) (service : Service) (links : Links) (given : Option String) (acts : List Act) :
    (Player.resolve given links fun id => Reply.profile <$> w.host.ask (service.playerAddress id)).run acts =
      (w.resolved service links given (Act.requests acts),
        acts ++ (profileRequests service links given).map .request) := by
  unfold resolved profileRequests Player.resolve
  cases Player.choose given links with
  | error e => exact Prod.ext rfl (List.append_nil acts).symm
  | ok r =>
      cases r with
      | account id => rfl
      | mention user => exact Prod.ext rfl (List.append_nil acts).symm
      | name name => exact Prod.ext rfl (List.append_nil acts).symm

theorem profileRequests_cases (service : Service) (links : Links) (given : Option String) :
    profileRequests service links given = [] ∨ ∃ id, profileRequests service links given = [service.playerAddress id] := by
  unfold profileRequests
  split
  · exact Or.inr ⟨_, rfl⟩
  · exact Or.inl rfl

/-- The profile that is asked for is that of the player who is found. -/
theorem profileRequests_of_resolved (h : w.resolved service links given asked = .ok p) :
    profileRequests service links given = [] ∨
      profileRequests service links given = [service.playerAddress p.account] := by
  unfold resolved Player.resolve at h
  unfold profileRequests
  split
  · next id hchoose =>
    rw [hchoose] at h
    rw [Player.account_ofChoice h]
    exact Or.inr rfl
  · exact Or.inl rfl

end Players

def session (w : World) (settings : Settings) (format : Format) : Session Acting :=
  ⟨w.host, settings, (Command.logDirectives w.env settings).1, format⟩

/-- What a run says about directives that cannot be read. -/
def warnings (w : World) (settings : Settings) : String :=
  String.join ((Command.logDirectives w.env settings).2.map Command.ignoredText)

end World

/-! ## The parts of a run -/

namespace Step

theorem run_orMessage {m : Type → Type} [Monad m] {ε α : Type} (message : ε → String) (x : Except ε α) :
    (orMessage message x : Step m α).run = pure (x.mapError fun e => .message (message e)) := by
  cases x <;> rfl

variable {α β : Type} {x : Step Acting α} {f : α → Step Acting β} {a : α} {e : Failure} {acts acts' : List Act}

theorem run_bind_of_ok (h : x.run.run acts = (.ok a, acts')) : (x >>= f).run.run acts = (f a).run.run acts' := by
  rw [ExceptT.run_bind, StateT.run_bind, h]
  rfl

theorem run_bind_of_error (h : x.run.run acts = (.error e, acts')) : (x >>= f).run.run acts = (.error e, acts') := by
  rw [ExceptT.run_bind, StateT.run_bind, h]
  rfl

end Step

namespace Session

variable {w : World} {s : Session Acting} {service : Service}

theorem tell_eq (hs : s.host = w.host) (e : Event) : s.tell e = pure () := by
  unfold tell
  rw [hs]
  split <;> rfl

theorem tellAll_eq (hs : s.host = w.host) (events : List Event) : s.tellAll events = pure () := by
  induction events with
  | nil => rfl
  | cons e events ih => rw [tellAll, tell_eq hs, pure_bind, ih]

theorem ask_eq (hs : s.host = w.host) (address : String) : s.ask address = w.host.ask address := by
  unfold ask
  simp only [tell_eq hs, pure_bind, ite_self, hs, bind_pure]

theorem askProfile_eq (hs : s.host = w.host) :
    s.askProfile service = fun id => Reply.profile <$> w.host.ask (service.playerAddress id) := by
  funext id
  rw [askProfile, ask_eq hs]

theorem askRecords_eq (hs : s.host = w.host) (id : AccountId) (query : String) :
    s.askRecords service id query = Reply.records <$> w.host.ask (service.matchesAddress id query) := by
  unfold askRecords
  simp only [tell_eq hs, ask_eq hs, pure_bind]
  rw [map_eq_pure_bind]
  congr 1
  funext reply
  cases reply.records <;> rfl

/-- A phrase that is refused ends a run with a message, since the standard filter is never at fault itself. -/
theorem readPhrase_eq (hs : s.host = w.host) (words : List String) :
    s.readPhrase words = Step.orMessage PhraseError.message (Standard.parse (" ".intercalate words)) := by
  unfold readPhrase
  rw [Standard.filter_eq, Standard.parse_eq]
  simp only [Step.orError, pure_bind, tellAll_eq hs]
  cases hparse : Filter.parse ⟨Standard.Topic.all.map Standard.Topic.clause⟩ (" ".intercalate words) with
  | ok r => rfl
  | error e =>
      have hfault : e.isInternal = false := Filter.isInternal_of_parse (fun c hc => Standard.declared_of_mem hc) hparse
      have hrefuse : s.refuse e = throw (.message e.message) := by
        rw [refuse, hfault]
        rfl
      simp only [hrefuse]
      rfl

theorem run_findPlayer (hs : s.host = w.host) (given : Option String) (acts : List Act) :
    (s.findPlayer service given).run.run acts =
      ((w.resolved service s.settings.links given (Act.requests acts)).mapError fun e => .message e.message,
        acts ++ (World.profileRequests service s.settings.links given).map .request) := by
  have hfind : (s.findPlayer service given).run =
      (Player.resolve given s.settings.links (s.askProfile service) : Acting _) >>= fun p =>
        (Step.orMessage PlayerError.message p : Step Acting Player).run := by
    unfold findPlayer Player.resolve
    simp only [tell_eq hs]
    cases Player.choose given s.settings.links <;> rfl
  rw [hfind, askProfile_eq hs, StateT.run_bind, World.run_resolve]
  simp only [Step.run_orMessage]
  rfl

end Session

end PhraseFilter
