import PhraseFilter.Proofs.Command.Printing
import PhraseFilter.Proofs.Service.Query

/-!
# The requests of a listing

* `Session.kept`, `Session.listed` : what a listing comes to when the service has answered;
* `Session.run_list_of_refused`, `Session.run_list_of_unresolved`, `Session.run_list_of_resolved` : the requests of a
  listing whose phrase is refused, whose player is not found, and of any other;
* `Command.call_list_requests` : **a listing asks for matches once and last, and only if the phrase is understood and
  the player known**.
-/

namespace PhraseFilter

/-- What is asked for besides the phrase, as constants of its reading. -/
def ListRequest.constants (request : ListRequest) : List (String × Value) :=
  (request.hero.map fun n => ("hero_id", Value.int n)).toList ++
    (request.limit.map fun n => ("limit", Value.int n)).toList

namespace Session

/-- What is kept of the records of a player: nothing at all for a reading that asks for nothing is a failure. -/
def kept (p : Player) (r : Reading) (records : List Record) : Except Failure (List Record) :=
  if records.isEmpty && r.isUnfiltered then .error (.message (PlayerError.noHistory p.account).message)
  else .ok (r.keep records)

def listed (p : Player) (r : Reading) : Except ServiceError (List Record) → Except Failure Unit
  | .error e => .error (.error "Failed to fetch matches" (some e.message))
  | .ok records => (kept p r records).map fun _ => ()

section Listings

variable {w : World} {s : Session Acting} {service : Service} {request : ListRequest} {r : Reading} {p : Player}

theorem addCounts_eq (r : Reading) (request : ListRequest) : addCounts r request = r.addConstants request.constants := by
  unfold addCounts ListRequest.constants
  cases request.hero <;> cases request.limit <;> rfl

theorem run_keepRecords (hs : s.host = w.host) (p : Player) (r : Reading) (records : List Record) (acts : List Act) :
    (s.keepRecords p r records).run.run acts = (kept p r records, acts) := by
  unfold keepRecords kept
  simp only [tell_eq hs]
  split <;> rfl

theorem run_readPhrase_of_ok (hs : s.host = w.host) {words : List String}
    (h : Standard.parse (" ".intercalate words) = .ok r) (acts : List Act) :
    (s.readPhrase words).run.run acts = (.ok r, acts) := by
  rw [readPhrase_eq hs, h]
  rfl

theorem run_readPhrase_of_error (hs : s.host = w.host) {words : List String} {e : PhraseError}
    (h : Standard.parse (" ".intercalate words) = .error e) (acts : List Act) :
    (s.readPhrase words).run.run acts = (.error (.message e.message), acts) := by
  rw [readPhrase_eq hs, h]
  rfl

theorem run_ask (w : World) (address : String) (acts : List Act) :
    (Reply.records <$> w.host.ask address).run acts =
      ((w.answer (Act.requests acts) address).records, acts ++ [.request address]) := rfl

/-- Once the records are there, nothing is left to do but to print what is kept of them. -/
theorem exists_run_keep_print (hs : s.host = w.host) (p : Player) (r : Reading) (records : List Record) (acts : List Act) :
    ∃ texts : List String, (s.keepRecords p r records >>= fun rs => liftM (s.printRecords p rs) : Step Acting Unit).run.run acts =
      ((kept p r records).map fun _ => (), acts ++ texts.map .output) := by
  have hkeep := run_keepRecords hs p r records acts
  cases hkept : kept p r records with
  | error e =>
      rw [hkept] at hkeep
      exact ⟨[], by rw [Step.run_bind_of_error hkeep, List.map_nil, List.append_nil]; rfl⟩
  | ok rs =>
      obtain ⟨texts, -, hprint⟩ := exists_run_printRecords hs p rs
      rw [hkept] at hkeep
      exact ⟨texts, by rw [Step.run_bind_of_ok hkeep, Step.run_liftM (hprint acts)]; rfl⟩

theorem run_list_of_refused (hs : s.host = w.host) {e : PhraseError}
    (h : Standard.parse (" ".intercalate request.phrase) = .error e) (acts : List Act) :
    (s.list request).run.run acts = (.error (.message e.message), acts) :=
  Step.run_bind_of_error (run_readPhrase_of_error hs h acts)

theorem run_list_of_unresolved (hs : s.host = w.host) (hservice : s.settings.service.toService? = some service)
    (h : Standard.parse (" ".intercalate request.phrase) = .ok r) (acts : List Act) {e : PlayerError}
    (hplayer : w.resolved service s.settings.links request.player (Act.requests acts) = .error e) :
    (s.list request).run.run acts = (.error (.message e.message),
      acts ++ (World.profileRequests service s.settings.links request.player).map .request) := by
  unfold list
  rw [Step.run_bind_of_ok (run_readPhrase_of_ok hs h acts)]
  simp only [hservice]
  apply Step.run_bind_of_error
  rw [run_findPlayer hs, hplayer]
  rfl

/-- **A listing with a player** asks for the matches of the player that fit the phrase, and for nothing after them. -/
theorem run_list_of_resolved (hs : s.host = w.host) (hservice : s.settings.service.toService? = some service)
    (h : Standard.parse (" ".intercalate request.phrase) = .ok r) (acts : List Act) {sought : List String} {address : String}
    (hplayer : w.resolved service s.settings.links request.player (Act.requests acts) = .ok p)
    (hsought : sought = World.profileRequests service s.settings.links request.player)
    (haddress : address = service.matchesAddress p.account (r.addConstants request.constants).query) :
    ∃ texts, (s.list request).run.run acts =
      (listed p (r.addConstants request.constants) (w.answer (Act.requests acts ++ sought) address).records,
        acts ++ Act.trace (sought ++ [address]) texts) := by
  have hfind : (s.findPlayer service request.player).run.run acts = (.ok p, acts ++ sought.map .request) := by
    rw [run_findPlayer hs, hplayer, hsought]
    rfl
  have hask := run_ask w address (acts ++ sought.map .request)
  rw [Act.requests_append, Act.requests_map_request] at hask
  have htell : (pure () : Acting Unit).run (acts ++ sought.map .request) = ((), acts ++ sought.map .request) := rfl
  have htrace : ∀ texts : List String, acts ++ sought.map .request ++ [.request address] ++ texts.map .output =
      acts ++ Act.trace (sought ++ [address]) texts := by simp [Act.trace]
  unfold list
  rw [Step.run_bind_of_ok (run_readPhrase_of_ok hs h acts)]
  simp only [hservice, tell_eq hs, askRecords_eq hs, addCounts_eq]
  rw [Step.run_bind_of_ok hfind, Step.run_bind_of_ok (Step.run_liftM htell), ← haddress,
    Step.run_bind_of_ok (Step.run_liftM hask)]
  cases (w.answer (Act.requests acts ++ sought) address).records with
  | error e => exact ⟨[], by rw [← htrace, List.map_nil, List.append_nil]; rfl⟩
  | ok records =>
      obtain ⟨texts, hrun⟩ := exists_run_keep_print hs p (r.addConstants request.constants) records
        (acts ++ sought.map .request ++ [.request address])
      exact ⟨texts, by rw [← htrace]; exact hrun⟩

theorem isUnfiltered_addConstants_iff (r : Reading) (request : ListRequest) :
    (r.addConstants request.constants).isUnfiltered = true ↔
      r.isUnfiltered = true ∧ request.hero = none ∧ request.limit = none := by
  rw [Reading.isUnfiltered_addConstants, ListRequest.constants]
  cases request.hero <;> cases request.limit <;> simp

end Listings

end Session

/-! ## Runs -/

namespace Command

theorem outcome_listed_nil_iff (errors : String) (p : Player) (r : Reading) :
    outcome errors (Session.listed p r (.ok [])) =
        outcome errors (.error (.message (PlayerError.noHistory p.account).message)) ↔ r.isUnfiltered = true := by
  cases hr : r.isUnfiltered with
  | true => simp [Session.listed, Session.kept, hr, Except.map]
  | false =>
      have hcode : (outcome errors (Session.listed p r (.ok []))).code = 0 := by
        simp [Session.listed, Session.kept, hr, Except.map, outcome]
      refine iff_of_false (fun h => ?_) (by decide)
      rw [h] at hcode
      cases hcode

/-- **The requests of a listing.** A phrase that is refused leads to no request. A player who is not found leads to one
for a profile at most. Otherwise the matches of the player are asked for once and last, with the parameters of the
phrase, then the hero and then the limit, if they are given; no matches for a phrase that says nothing, without hero and
limit, are reported as a hidden history, and in no other case is an empty list. Printing comes after all requests, and a
run fails if and only if it prints nothing. -/
theorem call_list_requests {w : World} {path : Option String} {settings : Settings} {service : Service}
    (hsettings : w.settings path = .ok settings) (hservice : settings.service.toService? = some service)
    (format : Format) (request : ListRequest) :
    (∀ id id' query, service.playerAddress id ≠ service.matchesAddress id' query) ∧
    ∃ o asked texts, (call w.host ⟨path, format, .list request⟩).run [] = (o, Act.trace asked texts) ∧
      (o.code ≠ 0 ↔ texts = []) ∧
      (∀ e, Standard.parse (" ".intercalate request.phrase) = .error e → asked = [] ∧ o.code = 1) ∧
      ∀ r, Standard.parse (" ".intercalate request.phrase) = .ok r →
        (∀ e, w.resolved service settings.links request.player [] = .error e →
          (asked = [] ∨ ∃ id, asked = [service.playerAddress id]) ∧ o.code = 1) ∧
        ∀ p, w.resolved service settings.links request.player [] = .ok p → ∃ sought address,
          (sought = [] ∨ sought = [service.playerAddress p.account]) ∧
          address = service.matchesAddress p.account
            ("&".intercalate ((r.assignments ++ request.constants).map Reading.argumentText)) ∧
          asked = sought ++ [address] ∧
          ((w.answer sought address).records = .ok [] →
            (o = outcome (w.warnings settings) (.error (.message (PlayerError.noHistory p.account).message)) ↔
              r.isUnfiltered = true ∧ request.hero = none ∧ request.limit = none)) := by
  refine ⟨service.playerAddress_ne_matchesAddress, ?_⟩
  obtain ⟨o, asked, texts, hcall, hcode⟩ := call_prints_last w ⟨path, format, .list request⟩
  refine ⟨o, asked, texts, hcall, hcode, ?_⟩
  have hs : (w.session settings format).host = w.host := rfl
  -- What the listing comes to is what the run comes to, and its requests are those of the run.
  have hlist : ∀ {result acts}, ((w.session settings format).list request).run.run [] = (result, acts) →
      o = outcome (w.warnings settings) result ∧ asked = Act.requests acts := by
    intro result acts hrun
    have hboth := hcall.symm.trans (run_call (i := ⟨path, format, .list request⟩) hsettings hrun)
    exact ⟨congrArg Prod.fst hboth, (Act.requests_trace asked texts).symm.trans (congrArg (Act.requests ·.2) hboth)⟩
  cases hparse : Standard.parse (" ".intercalate request.phrase) with
  | error e =>
      obtain ⟨rfl, rfl⟩ := hlist (Session.run_list_of_refused hs hparse [])
      exact ⟨fun _ _ => ⟨rfl, rfl⟩, nofun⟩
  | ok r =>
      refine ⟨nofun, ?_⟩
      rintro r' ⟨⟩
      cases hplayer : w.resolved service settings.links request.player [] with
      | error e =>
          obtain ⟨rfl, rfl⟩ := hlist (Session.run_list_of_unresolved hs hservice hparse [] hplayer)
          refine ⟨fun _ _ => ⟨?_, rfl⟩, nofun⟩
          rw [List.nil_append, Act.requests_map_request]
          exact World.profileRequests_cases service settings.links request.player
      | ok p =>
          refine ⟨nofun, ?_⟩
          rintro p' ⟨⟩
          obtain ⟨printed, hrun⟩ := Session.run_list_of_resolved hs hservice hparse [] hplayer rfl rfl
          obtain ⟨rfl, hasked⟩ := hlist hrun
          rw [List.nil_append, Act.requests_trace] at hasked
          refine ⟨World.profileRequests service settings.links request.player, _,
            World.profileRequests_of_resolved hplayer, ?_, hasked, fun hreply => ?_⟩
          · rw [Reading.query_eq, Reading.assignments_addConstants]
          · rw [← Session.isUnfiltered_addConstants_iff, ← outcome_listed_nil_iff _ p, ← hreply]
            rfl

theorem eq_ok_of_toOption {ε α : Type} {x : Except ε α} {a : α} (h : x.toOption = some a) : x = .ok a := by
  cases x with
  | error e => cases h
  | ok b => exact congrArg Except.ok (Option.some.inj h)

/-- A world without settings, in which the account 42 has a profile without a name and nobody has matches. -/
def bareWorld : World where
  env _ := none
  content _ := .error .notFound
  answer _ address := .answer 200 (if address = Service.playerAddress {} 42 then "[[42, null]]" else "[]")

/-- A phrase that is understood, a player who is found, a limit and a hero. -/
theorem call_list_requests_won : bareWorld.settings none = .ok {} ∧ ({} : Settings).service.toService? = some {} ∧
    ∃ o sought texts, (call bareWorld.host ⟨none, .table, .list ⟨["won"], some "42", some 5, some 7⟩⟩).run [] =
        (o, Act.trace (sought ++ [Service.matchesAddress {} 42 "win=1&hero_id=7&limit=5"]) texts) ∧
      (sought = [] ∨ sought = [Service.playerAddress {} 42]) ∧
      o ≠ outcome (bareWorld.warnings {}) (.error (.message (PlayerError.noHistory 42).message)) := by
  have hsettings : bareWorld.settings none = .ok {} := by rfl
  have hservice : ({} : Settings).service.toService? = some {} := by decide +kernel
  have hread : (Standard.parse "won").toOption.map Reading.assignments = some [("win", .int 1)] := by
    rw [Standard.parse_eq]
    decide +kernel
  have hfound : (bareWorld.resolved {} ({} : Settings).links (some "42") []).toOption.map Player.account = some 42 := by
    decide +kernel
  have hquery : "&".intercalate (([("win", Value.int 1)] ++
      (ListRequest.constants ⟨["won"], some "42", some 5, some 7⟩)).map Reading.argumentText) =
        "win=1&hero_id=7&limit=5" := by
    decide +kernel
  have hlength : (Reply.answer 200 "[]").records.toOption.map List.length = some 0 := by decide +kernel
  obtain ⟨r, hr, hassigned⟩ := Option.map_eq_some_iff.mp hread
  obtain ⟨p, hp, haccount⟩ := Option.map_eq_some_iff.mp hfound
  obtain ⟨records, hrecords, hnone⟩ := Option.map_eq_some_iff.mp hlength
  obtain rfl := List.length_eq_zero_iff.mp hnone
  replace hr := eq_ok_of_toOption hr
  replace hp := eq_ok_of_toOption hp
  replace hrecords := eq_ok_of_toOption hrecords
  obtain ⟨hapart, o, asked, texts, hcall, -, -, hunderstood⟩ :=
    call_list_requests hsettings hservice .table ⟨["won"], some "42", some 5, some 7⟩
  obtain ⟨sought, address, hsought, haddress, hasked, hhistory⟩ := (hunderstood r hr).2 p hp
  rw [hassigned, haccount, hquery] at haddress
  rw [haccount] at hsought hhistory
  subst haddress hasked
  have hanswer : bareWorld.answer sought (Service.matchesAddress {} 42 "win=1&hero_id=7&limit=5") = .answer 200 "[]" :=
    congrArg (Reply.answer 200) (if_neg (hapart 42 42 _).symm)
  rw [hanswer] at hhistory
  refine ⟨hsettings, hservice, o, sought, texts, hcall, hsought, fun ho => ?_⟩
  obtain ⟨-, hhero, -⟩ := (hhistory hrecords).mp ho
  cases hhero

end Command

end PhraseFilter
