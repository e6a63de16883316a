import PhraseFilter.Proofs.Command.World

/-!
# Printing comes last

* `Step.Asks` : a step that does nothing to the outside but make requests; `Step.PrintsLast` : one that prints after its
  last request, and prints unless it fails; `Step.Asks.printsLast` : **asking first does not change this**;
* `Files.exists_writeWithin_eq` : what is done to files is neither a request nor printed;
* `Session.execute_printsLast` : **so every command prints last**, `Command.run_prints_last` : and so does every run of the
  program, which ends in failure if and only if it has printed nothing.
-/

namespace PhraseFilter

/-! ## Steps -/

namespace Step

variable {α β : Type}

/-- The step does nothing to the outside but make requests. -/
def Asks (x : Step Acting α) : Prop := ∀ acts, ∃ asked : List String, (x.run.run acts).2 = acts ++ asked.map .request

/-- The step makes its requests before it prints, and prints unless it fails. -/
def PrintsLast (x : Step Acting Unit) : Prop :=
  ∀ acts, ∃ asked texts : List String, (x.run.run acts).2 = acts ++ Act.trace asked texts ∧
    (texts = [] ↔ ∃ e, (x.run.run acts).1 = .error e)

section Steps

variable {x : Step Acting α} {f : α → Step Acting Unit}

theorem asks_of_run
    (h : ∀ acts, ∃ result, ∃ asked : List String, x.run.run acts = (result, acts ++ asked.map .request)) : x.Asks := by
  intro acts
  obtain ⟨result, asked, hrun⟩ := h acts
  exact ⟨asked, congrArg Prod.snd hrun⟩

theorem asks_liftM_pure (a : α) : Asks (liftM (pure a : Acting α) : Step Acting α) :=
  fun acts => ⟨[], (List.append_nil acts).symm⟩

theorem asks_orMessage {ε : Type} (message : ε → String) (result : Except ε α) :
    Asks (orMessage message result : Step Acting α) := by
  intro acts
  rw [run_orMessage]
  exact ⟨[], (List.append_nil acts).symm⟩

theorem asks_orError {ε : Type} (message : ε → String) (result : Except ε α) :
    Asks (orError message result : Step Acting α) := by
  intro acts
  cases result <;> exact ⟨[], (List.append_nil acts).symm⟩

theorem printsLast_throw (e : Failure) : PrintsLast (throw e) :=
  fun acts => ⟨[], [], (List.append_nil acts).symm, iff_of_true rfl ⟨e, rfl⟩⟩

/-- **A step that only asks may go before one that prints last**: when it fails, nothing has been printed. -/
theorem Asks.printsLast (hx : x.Asks) (hf : ∀ a, (f a).PrintsLast) : (x >>= f).PrintsLast := by
  intro acts
  obtain ⟨asked, hasked⟩ := hx acts
  obtain ⟨result, acts', hrun⟩ : ∃ result acts', x.run.run acts = (result, acts') := ⟨_, _, rfl⟩
  rw [hrun] at hasked
  cases result with
  | error e =>
      rw [run_bind_of_error hrun]
      exact ⟨asked, [], by simpa [Act.trace] using hasked, iff_of_true rfl ⟨e, rfl⟩⟩
  | ok a =>
      rw [run_bind_of_ok hrun]
      obtain ⟨asked', texts, htrace, htexts⟩ := hf a acts'
      refine ⟨asked ++ asked', texts, ?_, htexts⟩
      rw [htrace, show acts' = acts ++ asked.map .request from hasked]
      simp [Act.trace]

theorem run_liftM {act : Acting α} {a : α} {acts acts' : List Act} (h : act.run acts = (a, acts')) :
    (liftM act : Step Acting α).run.run acts = (.ok a, acts') := by
  show (act >>= fun a => pure (Except.ok a)).run acts = _
  rw [StateT.run_bind, h]
  rfl

theorem printsLast_liftM {act : Acting Unit} {texts : List String} (hne : texts ≠ [])
    (h : ∀ acts, act.run acts = ((), acts ++ texts.map .output)) : PrintsLast (liftM act) := by
  intro acts
  rw [run_liftM (h acts)]
  exact ⟨[], texts, rfl, iff_of_false hne nofun⟩

end Steps

end Step

/-! ## Files -/

section Files

variable (w : World)

theorem Files.exists_makeParts_eq (isAbsolute : Bool) (parts : List String) :
    ∃ result, w.host.files.makeParts isAbsolute parts = pure result := by
  have hunless : ∀ path e, ∃ result, w.host.files.unlessDir path e = pure result := fun path e => ⟨_, rfl⟩
  induction parts with
  | nil => exact ⟨_, rfl⟩
  | cons part outer ih =>
      obtain ⟨made, hmade⟩ := ih
      have hmakeDir : ∀ path, w.host.files.makeDir path = pure (w.makes path) := fun path => rfl
      rw [Files.makeParts]
      simp only [hmakeDir, hmade, pure_bind]
      cases w.makes (Path.mk isAbsolute (part :: outer)).toText with
      | ok => exact ⟨_, rfl⟩
      | error e =>
          dsimp only
          split
          · cases made with
            | error e' => exact ⟨_, rfl⟩
            | ok => exact hunless _ e
          · exact hunless _ e

theorem Files.exists_writeWithin_eq (path text : String) :
    ∃ result, w.host.files.writeWithin path text = pure result := by
  unfold Files.writeWithin
  cases (Path.read path).parent? with
  | none => exact ⟨_, rfl⟩
  | some parent =>
      obtain ⟨made, hmade⟩ := exists_makeParts_eq w parent.isAbsolute parent.innermost
      have hdirs : w.host.files.makeDirs parent = pure made := hmade
      simp only [hdirs, pure_bind]
      cases made <;> exact ⟨_, rfl⟩

end Files

/-! ## Commands -/

namespace Session

open Step

variable {w : World} {s : Session Acting}

theorem asks_tell (hs : s.host = w.host) (e : Event) : Asks (liftM (s.tell e) : Step Acting Unit) := by
  rw [tell_eq hs]
  exact asks_liftM_pure ()

theorem asks_readPhrase (hs : s.host = w.host) (words : List String) : (s.readPhrase words).Asks := by
  rw [readPhrase_eq hs]
  exact asks_orMessage _ _

theorem asks_findPlayer (hs : s.host = w.host) (service : Service) (given : Option String) :
    (s.findPlayer service given).Asks :=
  asks_of_run fun acts => ⟨_, _, run_findPlayer hs given acts⟩

theorem asks_askRecords (hs : s.host = w.host) (service : Service) (id : AccountId) (query : String) :
    Asks (liftM (s.askRecords service id query) : Step Acting (Except ServiceError (List Record))) := by
  rw [askRecords_eq hs]
  exact asks_of_run fun acts => ⟨_, [service.matchesAddress id query], rfl⟩

theorem asks_keepRecords (hs : s.host = w.host) (p : Player) (r : Reading) (records : List Record) :
    (s.keepRecords p r records).Asks := by
  unfold keepRecords
  simp only [tell_eq hs]
  split
  · exact fun acts => ⟨[], (List.append_nil acts).symm⟩
  · exact fun acts => ⟨[], (List.append_nil acts).symm⟩

theorem printsLast_print (hs : s.host = w.host) (text : String) : PrintsLast (liftM (s.host.print text)) := by
  rw [hs]
  exact printsLast_liftM (List.cons_ne_nil text []) fun acts => rfl

theorem exists_run_printRecords (hs : s.host = w.host) (p : Player) (records : List Record) :
    ∃ texts : List String, texts ≠ [] ∧ ∀ acts, (s.printRecords p records).run acts = ((), acts ++ texts.map .output) := by
  unfold printRecords
  rw [hs]
  cases s.format with
  | json => exact ⟨[_], List.cons_ne_nil _ _, fun acts => rfl⟩
  | table =>
      refine ⟨["Matches for " ++ p.mention ++ "\n", "\n", MatchRow.table (records.filterMap MatchRow.ofRecord?)],
        List.cons_ne_nil _ _, fun acts => ?_⟩
      show ((), acts ++ [_] ++ [_] ++ [_]) = _
      simp

theorem printsLast_printRecords (hs : s.host = w.host) (p : Player) (records : List Record) :
    PrintsLast (liftM (s.printRecords p records)) := by
  obtain ⟨texts, hne, hrun⟩ := exists_run_printRecords hs p records
  exact printsLast_liftM hne hrun

theorem parse_printsLast (hs : s.host = w.host) (words : List String) : (s.parse words).PrintsLast := by
  refine (asks_readPhrase hs words).printsLast fun reading => ?_
  cases s.format with
  | json => exact printsLast_print hs _
  | table => exact printsLast_print hs _

theorem list_printsLast (hs : s.host = w.host) (request : ListRequest) : (s.list request).PrintsLast := by
  refine (asks_readPhrase hs request.phrase).printsLast fun reading => ?_
  dsimp only
  cases s.settings.service.toService? with
  | none => exact printsLast_throw _
  | some service =>
      refine (asks_findPlayer hs service request.player).printsLast fun player => ?_
      refine (asks_tell hs _).printsLast fun _ => ?_
      refine (asks_askRecords hs service _ _).printsLast fun records => ?_
      cases records with
      | error e => exact printsLast_throw _
      | ok records =>
          refine (asks_keepRecords hs player _ records).printsLast fun kept => ?_
          exact printsLast_printRecords hs player kept

theorem template_printsLast (hs : s.host = w.host) (path : Option String) : (s.template path).PrintsLast := by
  cases path with
  | none => exact printsLast_print hs _
  | some path =>
      obtain ⟨written, hwritten⟩ := Files.exists_writeWithin_eq w path Settings.template
      unfold template
      simp only [hs, hwritten]
      refine (asks_liftM_pure written).printsLast fun result => ?_
      refine (asks_orError FileError.message result).printsLast fun _ => ?_
      rw [← hs]
      exact printsLast_print hs _

/-- **Every command prints last.** -/
theorem execute_printsLast (hs : s.host = w.host) (c : Command) : (s.execute c).PrintsLast := by
  cases c with
  | parse words => exact parse_printsLast hs words
  | list request => exact list_printsLast hs request
  | template path => exact template_printsLast hs path

end Session

/-! ## Runs -/

namespace Command

theorem code_outcome_ne_zero_iff {errors : String} {result : Except Failure Unit} :
    (outcome errors result).code ≠ 0 ↔ ∃ e, result = .error e := by
  cases result with
  | ok => exact iff_of_false (fun h => h rfl) nofun
  | error e => exact iff_of_true Nat.one_ne_zero ⟨e, rfl⟩

theorem run_call {w : World} {i : Invocation} {settings : Settings} {result : Except Failure Unit} {acts : List Act}
    (hsettings : w.settings i.settingsPath = .ok settings)
    (h : ((w.session settings i.format).execute i.command).run.run [] = (result, acts)) :
    (call w.host i).run [] = (outcome (w.warnings settings) result, acts) := by
  unfold call
  rw [World.loadSettings_eq, hsettings, pure_bind]
  show StateT.run (((w.session settings i.format).execute i.command).run >>= _) [] = _
  rw [StateT.run_bind, h]
  rfl

/-- A command that is called prints after its last request, and ends in failure if and only if it prints nothing. -/
theorem call_prints_last (w : World) (i : Invocation) : ∃ o asked texts,
    (call w.host i).run [] = (o, Act.trace asked texts) ∧ (o.code ≠ 0 ↔ texts = []) := by
  cases hsettings : w.settings i.settingsPath with
  | error e =>
      refine ⟨outcome "" (.error (.error e.message none)), [], [], ?_, iff_of_true Nat.one_ne_zero rfl⟩
      unfold call
      rw [World.loadSettings_eq, hsettings, pure_bind]
      rfl
  | ok settings =>
      obtain ⟨asked, texts, htrace, htexts⟩ :=
        Session.execute_printsLast (w := w) (s := w.session settings i.format) rfl i.command []
      obtain ⟨result, acts, hrun⟩ : ∃ result acts,
          ((w.session settings i.format).execute i.command).run.run [] = (result, acts) := ⟨_, _, rfl⟩
      rw [hrun] at htrace htexts
      exact ⟨_, asked, texts, (run_call hsettings hrun).trans (Prod.ext rfl htrace),
        code_outcome_ne_zero_iff.trans htexts.symm⟩

/-- **Every run prints last**: it makes its requests, then it prints, and it ends in failure if and only if it has printed
nothing. -/
theorem run_prints_last (w : World) (args : List String) : ∃ o asked texts,
    (run w.host args).run [] = (o, Act.trace asked texts) ∧ (o.code ≠ 0 ↔ texts = []) := by
  unfold run
  cases Invocation.read args with
  | ok i => exact call_prints_last w i
  | error reason =>
      cases reason with
      | misuse => exact ⟨_, [], [], rfl, by decide⟩
      | help topic isFull => exact ⟨⟨0, ""⟩, [], [topic.page isFull], rfl, iff_of_false (fun h => h rfl) nofun⟩
      | version => exact ⟨⟨0, ""⟩, [], [Topic.versionLine ++ "\n"], rfl, iff_of_false (fun h => h rfl) nofun⟩

end Command

end PhraseFilter
