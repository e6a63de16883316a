import Mathlib
import PhraseFilter.Proofs.Command.World
import PhraseFilter.Proofs.Json.Place
import PhraseFilter.Proofs.Service.Address
import PhraseFilter.Proofs.Service.Profile
import PhraseFilter.Proofs.Text.Decimal
import PhraseFilter.Proofs.Text.Letters

/-!
# What a request comes to

* `Reply.decoded` : what a reply comes to when its body is read in some way, `Reply.Outcome` : how status and body decide
  it, `Reply.Classified` : how the transport decides before them; `Reply.classified` : **the transport first, then the
  status, and the body of a success only**;
* `Reply.readRecords?_eq_some_iff` : the records of a body are the objects of an array, all of them and in their order;
* `Network` : for which addresses requests can be made, and the replies to them; `Network.Takes` : **a base that can be
  used**, `Service.canAsk_playerAddress`, `Service.canAsk_matchesAddress` : **below it, every address can be asked**;
* `Session.FetchesFrom` : a question to the service makes one request; `Session.fetch_sends_one_request` : **what the two
  questions come to, for any network**.
-/

namespace PhraseFilter

namespace Reply

/-! ## Transport, status and body -/

def IsSuccess (status : Nat) : Prop := 200 ≤ status ∧ status < 300

/-- What a reply comes to when the body of a success is read in the given way. -/
def decoded {α : Type} (read : String → Option α) (r : Reply) : Except ServiceError α :=
  r.body.bind fun body =>
    match read body with
    | some a => .ok a
    | none => .error unreadable

theorem profile_eq (r : Reply) : r.profile = r.decoded Profile.readBody? := by
  unfold profile decoded
  congr 1
  funext body
  cases Profile.readBody? body <;> rfl

/-- The records in a body that is a JSON array of objects. -/
def readRecords? (body : String) : Option (List Record) := (Json.read? body).bind recordsOf?

theorem records_eq (r : Reply) : r.records = r.decoded readRecords? := by
  unfold records decoded readRecords?
  congr 1
  funext body
  cases (Json.read? body).bind recordsOf? <;> rfl

/-- **How an answer decides what a request comes to**, given what receiving its body yields. Status 429 asks to slow down.
Any other status that is no success is an error with this status and the whole body, as far as it was received. The body
of a success is read, and that is all that it is good for. -/
structure Outcome {α : Type} (read : String → Option α) (status : Nat) (received : Except String String)
    (result : Except ServiceError α) : Prop where
  rateLimited_iff : result = .error .rateLimited ↔ status = 429
  api_iff : ∀ code text, result = .error (.api code text) ↔
    code = status ∧ text = received.toOption.getD "" ∧ ¬ IsSuccess status ∧ status ≠ 429
  ok_iff : ∀ a, result = .ok a ↔ IsSuccess status ∧ ∃ body, received = .ok body ∧ read body = some a
  parse_iff : (∃ reason, result = .error (.parse reason)) ↔
    IsSuccess status ∧ ∀ body, received = .ok body → read body = none

/-- How a reply decides what a request comes to: an answer by its status and its body, and no answer by what the transport
says. -/
structure Classified {α : Type} (read : String → Option α) (reply : Reply) (result : Except ServiceError α) : Prop where
  answer : ∀ status body, reply = .answer status body → Outcome read status (.ok body) result
  brokenOff : ∀ status reason, reply = .brokenOff status reason → Outcome read status (.error reason) result
  silence : reply = .silence → result = .error .timeout
  refusal : reply = .refusal → result = .error .unavailable
  failure : ∀ reason, reply = .failure reason → result = .error (.request reason)

section Outcome

variable {α : Type} (read : String → Option α) {status : Nat} {received : Except String String} {r : Reply}

theorem ne_rateLimit_of_isSuccess (h : IsSuccess status) : status ≠ 429 := by
  rintro rfl
  exact absurd h.2 (by decide)

theorem bodyOf_of_success (h : IsSuccess status) : bodyOf status received = received.mapError .parse := by
  rw [bodyOf, if_neg (ne_rateLimit_of_isSuccess h)]
  exact if_pos h

theorem bodyOf_of_failure (h : ¬ IsSuccess status) (hslow : status ≠ 429) :
    bodyOf status received = .error (.api status (received.toOption.getD "")) := by
  rw [bodyOf, if_neg hslow]
  exact if_neg h

/-- **The status decides first**, and the body of a success only is read. -/
theorem outcome_decoded (h : r.body = bodyOf status received) : Outcome read status received (r.decoded read) := by
  unfold decoded
  rw [h]
  by_cases hsuccess : IsSuccess status
  · have hslow := ne_rateLimit_of_isSuccess hsuccess
    rw [bodyOf_of_success hsuccess]
    cases received with
    | error reason => exact ⟨by simp [Except.mapError, Except.bind, hslow], by simp [Except.mapError, Except.bind, hsuccess],
        by simp [Except.mapError, Except.bind], by simp [Except.mapError, Except.bind, hsuccess]⟩
    | ok body =>
        cases hread : read body with
        | none => exact ⟨by simp [Except.mapError, Except.bind, hread, unreadable, hslow],
            by simp [Except.mapError, Except.bind, hread, unreadable, hsuccess],
            by simp [Except.mapError, Except.bind, hread],
            by simp [Except.mapError, Except.bind, hread, unreadable, hsuccess]⟩
        | some a => exact ⟨by simp [Except.mapError, Except.bind, hread, hslow],
            by simp [Except.mapError, Except.bind, hread, hsuccess],
            by simp [Except.mapError, Except.bind, hread, hsuccess],
            by simp [Except.mapError, Except.bind, hread]⟩
  · by_cases hslow : status = 429
    · subst hslow
      have hbody : bodyOf 429 received = .error .rateLimited := rfl
      rw [hbody]
      exact ⟨by simp [Except.bind], by simp [Except.bind], by simp [Except.bind, hsuccess], by simp [Except.bind, hsuccess]⟩
    · rw [bodyOf_of_failure hsuccess hslow]
      refine ⟨by simp [Except.bind, hslow], fun code text => ?_, by simp [Except.bind, hsuccess],
        by simp [Except.bind, hsuccess]⟩
      simp [Except.bind, hsuccess, hslow, eq_comm]

theorem classified (r : Reply) : Classified read r (r.decoded read) where
  answer status body h := outcome_decoded read (by rw [h]; rfl)
  brokenOff status reason h := outcome_decoded read (by rw [h]; rfl)
  silence h := by rw [h]; rfl
  refusal h := by rw [h]; rfl
  failure reason h := by rw [h]; rfl

end Outcome

/-! ## Records -/

theorem mapM_ofJson?_eq_some_iff {items : List Json} {records : List Record} :
    items.mapM Record.ofJson? = some records ↔ items = records.map Record.toJson := by
  have hitem : ∀ (j : Json) (r : Record), Record.ofJson? j = some r ↔ j = r.toJson := by
    intro j r
    obtain ⟨fields⟩ := r
    cases j <;> simp [Record.ofJson?, Record.toJson]
  induction items generalizing records with
  | nil => simp [eq_comm]
  | cons j items ih =>
      simp only [List.mapM_cons, Option.bind_eq_bind, Option.bind_eq_some_iff, Option.pure_def, Option.some.injEq, hitem, ih]
      cases records <;> simp

/-- **The records of a body** are the objects of an array, all of them and in their order. -/
theorem readRecords?_eq_some_iff {body : String} {records : List Record} :
    readRecords? body = some records ↔ Json.read? body = some (.array (records.map Record.toJson)) := by
  rw [readRecords?, Option.bind_eq_some_iff]
  constructor
  · rintro ⟨j, hj, hrecords⟩
    cases j with
    | array items => rw [hj, mapM_ofJson?_eq_some_iff.mp hrecords]
    | _ => cases hrecords
  · intro h
    exact ⟨_, h, mapM_ofJson?_eq_some_iff.mpr rfl⟩

end Reply

/-! ## Requests -/

/-- What stands between a run and the service: for which addresses a request can be made and what is said of the others,
how long an address may be, and the reply to a request in view of those before it. -/
structure Network where
  canAsk : String → Bool
  complaint : String → String
  longest : Nat
  server : List String → String → Reply

namespace Network

/-- The requests that are made when the given addresses are asked for. -/
def requests (net : Network) (asked : List String) : List String := asked.filter net.canAsk

/-- The reply when an address is asked for after others. No request is made for one that cannot be asked. -/
def reply (net : Network) (asked : List String) (address : String) : Reply :=
  if net.canAsk address then net.server (net.requests asked) address else .failure (net.complaint address)

/-- A character that stands for itself in the path and in the query of an address. -/
def IsPlain (c : Char) : Prop := Percent.isUnreserved c = true ∨ c ∈ ['/', '?', '&', '=', '%']

/-- **A base that can be used**: an address that goes on from it with a slash and plain characters can be asked, unless it
is too long. -/
def Takes (net : Network) (base : List Char) : Prop :=
  ∀ rest : List Char, rest.head? = some '/' → (∀ c ∈ rest, IsPlain c) →
    (String.ofList (base ++ rest)).length ≤ net.longest → net.canAsk (String.ofList (base ++ rest)) = true

end Network

namespace Service

open Network Text

variable {net : Network} {s : Service}

theorem isPlain_of_all {t : List Char}
    (ht : t.all (fun c => Percent.isUnreserved c || ['/', '?', '&', '=', '%'].contains c) = true) {c : Char} (hc : c ∈ t) :
    IsPlain c := by
  have hplain := List.all_eq_true.mp ht c hc
  rwa [Bool.or_eq_true, List.contains_iff_mem] at hplain

theorem isPlain_of_mem_playerPath {id : AccountId} {c : Char} (h : c ∈ playerPath id) : IsPlain c := by
  rcases List.mem_append.mp h with h | h
  · exact isPlain_of_all (by decide) h
  · have hdigit := isDigit_of_mem_toString h
    refine Or.inl ?_
    rw [Percent.isUnreserved, Char.isAlphanum, hdigit]
    simpa using toNat_lt_of_isDigit hdigit

theorem isPlain_of_mem_keyArgument {key : String} {c : Char} (h : c ∈ keyArgument key) : IsPlain c := by
  rw [encodeParameter_key] at h
  rcases mem_encodeParameter h with h | rfl | rfl
  · exact Or.inl h
  · exact Or.inr (by decide)
  · exact Or.inr (by decide)

/-- **Below a base that can be used, every address can be asked** that is not too long: that of a profile, and that of
matches. -/
theorem canAsk_playerAddress (h : net.Takes s.base) {id : AccountId} (hlong : (s.playerAddress id).length ≤ net.longest) :
    net.canAsk (s.playerAddress id) = true := by
  unfold playerAddress at hlong ⊢
  rw [List.append_assoc] at hlong ⊢
  refine h _ rfl (fun c hc => ?_) hlong
  rcases List.mem_append.mp hc with hc | hc
  · exact isPlain_of_mem_playerPath hc
  · split at hc
    · rcases List.mem_cons.mp hc with rfl | hc
      · exact Or.inr (by decide)
      · exact isPlain_of_mem_keyArgument hc
    · cases hc

theorem canAsk_matchesAddress (h : net.Takes s.base) {id : AccountId} {query : String}
    (hlong : (s.matchesAddress id query).length ≤ net.longest) : net.canAsk (s.matchesAddress id query) = true := by
  have hsigns : ∀ c ∈ ['%', '=', '&'], c ∈ ['/', '?', '&', '=', '%'] := by simp
  unfold matchesAddress at hlong ⊢
  rw [List.append_assoc, List.append_assoc] at hlong ⊢
  refine h _ rfl (fun c hc => ?_) hlong
  rcases List.mem_append.mp hc with hc | hc
  · exact isPlain_of_mem_playerPath hc
  · rcases List.mem_append.mp hc with hc | hc
    · exact isPlain_of_all (by decide) hc
    · exact (mem_arguments hc).imp_right (hsigns c)

end Service

namespace Session

variable {w : World} {net : Network} {s : Session Acting} {service : Service}

/-- The question does nothing but make one request, for the given address, and its result is what the reply of the service
to it comes to. -/
def FetchesFrom {α : Type} (net : Network) (address : String) (read : String → Option α)
    (question : Acting (Except ServiceError α)) : Prop :=
  ∀ acts, ∃ result, question.run acts = (result, acts ++ [.request address]) ∧
    net.requests (Act.requests (acts ++ [.request address])) = net.requests (Act.requests acts) ++ [address] ∧
    (net.server (net.requests (Act.requests acts)) address).Classified read result

theorem fetchesFrom_of_run {α : Type} (hw : w.answer = net.reply) {address : String} (hask : net.canAsk address = true)
    {read : String → Option α} {question : Acting (Except ServiceError α)}
    (hrun : ∀ acts, question.run acts =
      ((w.answer (Act.requests acts) address).decoded read, acts ++ [.request address])) :
    FetchesFrom net address read question := by
  intro acts
  refine ⟨_, hrun acts, ?_, ?_⟩
  · have hrequest : Act.requests [.request address] = [address] := rfl
    rw [Act.requests_append, hrequest, Network.requests, List.filter_append, List.filter_cons_of_pos hask]
    rfl
  · rw [hw, Network.reply, if_pos hask]
    exact Reply.classified read _

/-- **What the two questions to the service come to**, for any network and any base that can be used: each makes one
request, for its own address, and tells the reply apart by transport, then status, then body. The profile of a success
is the one that is written in the body, and the records are the objects of the array that the body is, all of them and in
order; a body that is anything else is unreadable. Nothing is left out of a body that is read, and its whole numbers of
the 64-bit ranges are exact: only a zero that is written with a sign is a floating point number, the zero with this
sign. -/
theorem fetch_sends_one_request (hs : s.host = w.host) (hw : w.answer = net.reply) (hbase : net.Takes service.base)
    (id : AccountId) (query : String) (hplayer : (service.playerAddress id).length ≤ net.longest)
    (hmatches : (service.matchesAddress id query).length ≤ net.longest) :
    FetchesFrom net (service.playerAddress id) Profile.readBody? (s.askProfile service id) ∧
    FetchesFrom net (service.matchesAddress id query) Reply.readRecords? (s.askRecords service id query) ∧
    (∀ body profile, Profile.readBody? body = some profile ↔
      ∃ raw, Json.Raw.read? body.toList = some raw ∧ Profile.WritesPlayer raw profile) ∧
    (∀ body records, Reply.readRecords? body = some records ↔
      Json.read? body = some (.array (records.map Record.toJson))) ∧
    ∀ body j, Json.read? body = some j → ∃ raw, Json.Raw.read? body.toList = some raw ∧
      ∀ path, (raw.at? path).isSome = (j.at? path).isSome ∧
        ∀ n z, raw.at? path = some (.number n) → n.integer? = some z → Json.minSigned ≤ z → z ≤ Json.maxUnsigned →
          j.at? path = some (if n.negative = true ∧ z = 0 then .real ⟨true, .zero⟩ else .whole z) := by
  refine ⟨fetchesFrom_of_run hw (Service.canAsk_playerAddress hbase hplayer) fun acts => ?_,
    fetchesFrom_of_run hw (Service.canAsk_matchesAddress hbase hmatches) fun acts => ?_,
    fun body profile => Profile.readBody?_eq_some_iff, fun body records => Reply.readRecords?_eq_some_iff,
    fun body j hj => ?_⟩
  · rw [askProfile_eq hs, ← Reply.profile_eq]
    rfl
  · rw [askRecords_eq hs, ← Reply.records_eq]
    rfl
  · obtain ⟨raw, hraw, hreads⟩ := Option.bind_eq_some_iff.mp hj
    refine ⟨raw, hraw, fun path => ⟨Json.isSome_at? hreads path, fun n z hn hz hlow hhigh => ?_⟩⟩
    rw [Json.at?_of_number hreads hn, Json.Literal.value?_of_integer? hz hlow hhigh]

def wakingProfile : String :=
  "\x7b\"rank_tier\": 80, \"profile\": \x7b\"avatarfull\": \"x.png\", \"account_id\": 42\x7d\x7d"

/-- A network with one host, whose server answers its first request with an error and readable JSON, the second with a
profile, and all others with one match, whose number no floating point number is. -/
def wakingNetwork : Network where
  canAsk address := "http://opendota.test/".toList.isPrefixOf address.toList
  complaint _ := "builder error"
  longest := 65534
  server asked _ :=
    match asked with
    | [] => .answer 503 "[]"
    | [_] => .answer 200 wakingProfile
    | _ => .answer 200 "[\x7b\"match_id\": 9007199254740993\x7d]"

def wakingWorld : World where
  env _ := none
  content _ := .error .notFound
  answer := wakingNetwork.reply

def wakingService : Service := { baseUrl := "http://opendota.test/api/" }

/-- A base with a slash at its end: first an error whose body is JSON, then a profile without a name, then a match with a
long number. -/
theorem fetch_sends_one_request_waking : wakingNetwork.Takes wakingService.base ∧ ∃ acts acts' acts'',
    ((wakingWorld.session {} .table).askRecords wakingService 42 "win=1").run [] =
      (.error (.api 503 "[]"), acts) ∧
    ((wakingWorld.session {} .table).askProfile wakingService 42).run acts =
      (.ok (some ⟨42, none, some "x.png"⟩), acts') ∧
    ((wakingWorld.session {} .table).askRecords wakingService 42 "win=1").run acts' =
      (.ok [⟨[("match_id", .whole 9007199254740993)]⟩], acts'') ∧
    (wakingNetwork.requests (Act.requests acts'')).length = 3 := by
  have hbase : wakingNetwork.Takes wakingService.base := by
    intro rest _ _ _
    have hstarts : wakingService.base = "http://opendota.test/".toList ++ "api".toList := by decide
    have haddress : (String.ofList (wakingService.base ++ rest)).toList =
        "http://opendota.test/".toList ++ ("api".toList ++ rest) := by
      rw [String.toList_ofList, hstarts, List.append_assoc]
    show List.isPrefixOf "http://opendota.test/".toList (String.ofList (wakingService.base ++ rest)).toList = true
    rw [haddress, List.isPrefixOf_iff_prefix]
    exact List.prefix_append _ _
  have hread : Json.read? "[\x7b\"match_id\": 9007199254740993\x7d]" =
      some (.array [.object [("match_id", .whole 9007199254740993)]]) := by
    cbv
  have hprofile : Profile.readBody? wakingProfile = some (some ⟨42, none, some "x.png"⟩) := by decide +kernel
  have hplayer : (wakingService.playerAddress 42).length ≤ wakingNetwork.longest := by
    rw [Service.playerAddress, String.length_ofList]
    decide +kernel
  have hmatches : (wakingService.matchesAddress 42 "win=1").length ≤ wakingNetwork.longest := by
    rw [Service.matchesAddress, String.length_ofList]
    decide +kernel
  have hw : wakingWorld.answer = wakingNetwork.reply := rfl
  obtain ⟨hasksProfile, hasksRecords, -, hdecoded, -⟩ :=
    fetch_sends_one_request (s := wakingWorld.session {} .table) rfl hw hbase 42 "win=1" hplayer hmatches
  obtain ⟨result, hrun, hsent, hanswer⟩ := hasksRecords []
  obtain ⟨result', hrun', hsent', hanswer'⟩ := hasksProfile ([] ++ [.request (wakingService.matchesAddress 42 "win=1")])
  obtain ⟨result'', hrun'', hsent'', hanswer''⟩ :=
    hasksRecords ([] ++ [.request (wakingService.matchesAddress 42 "win=1")] ++ [.request (wakingService.playerAddress 42)])
  have hfirst := hanswer.answer 503 "[]" rfl
  have hsecond := hanswer'.answer 200 wakingProfile (by rw [hsent]; rfl)
  have hthird := hanswer''.answer 200 _ (by rw [hsent', hsent]; rfl)
  have hmatch := (hdecoded _ [⟨[("match_id", .whole 9007199254740993)]⟩]).mpr hread
  rw [(hfirst.api_iff 503 "[]").mpr ⟨rfl, rfl, fun h => absurd h.2 (by decide), by decide⟩] at hrun
  rw [(hsecond.ok_iff _).mpr ⟨⟨by decide, by decide⟩, _, rfl, hprofile⟩] at hrun'
  rw [(hthird.ok_iff _).mpr ⟨⟨by decide, by decide⟩, _, rfl, hmatch⟩] at hrun''
  exact ⟨hbase, _, _, _, hrun, hrun', hrun'', by rw [hsent'', hsent', hsent]; rfl⟩

end Session

end PhraseFilter
