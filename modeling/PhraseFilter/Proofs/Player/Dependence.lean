import PhraseFilter.Proofs.Player.Default
import PhraseFilter.Proofs.Player.Links
import PhraseFilter.Proofs.Player.OrderedChoice

/-!
# What resolving a reference depends on

* `Reference.link?` : what a mention or a name is looked up by among the links, and how the player is then mentioned;
* `Links.exists_lookup_iff` : the names that links lead from;
* `Player.exists_ofLink_iff`, `Player.eq_of_ofLink`, `Player.eq_notLinked_of_ofLink` : what a reference by link comes to;
* `Player.resolve_of_link?`, `Player.resolve_of_account` : what the service is asked for each kind of reference;
* `Player.resolve_reads` : **mentions and names read the links alone, and accounts one answer of the service alone.**
-/

namespace PhraseFilter

open Text

/-- What a reference by link is looked up by, and how the player is mentioned. -/
def Reference.link? : Reference → Option (String × String)
  | .account _ => none
  | .mention user => some (toString user.toNat, "<@" ++ toString user.toNat ++ ">")
  | .name key => some (key, key)

/-- Links lead from the names that agree in lower case with a linked one. -/
theorem Links.exists_lookup_iff {l : Links} {name : String} :
    (∃ account, l.lookup name = some account) ↔ lower name ∈ l.names := by
  unfold lookup names
  simp only [Option.map_eq_some_iff, List.mem_map]
  constructor
  · rintro ⟨account, e, he, -⟩
    exact ⟨e, List.mem_of_find?_eq_some he, by simpa using List.find?_some he⟩
  · rintro ⟨e, he, hname⟩
    have hfound : (l.accounts.find? (·.1 == lower name)).isSome = true :=
      List.find?_isSome.mpr ⟨e, he, beq_iff_eq.mpr hname⟩
    obtain ⟨e', he'⟩ := Option.isSome_iff_exists.mp hfound
    exact ⟨e'.2, e', he', rfl⟩

namespace Player

section Links

variable {l : Links} {key mention : String} {p : Player} {e : PlayerError}

theorem exists_ofLink_iff : (∃ p, ofLink l key mention = .ok p) ↔ lower key ∈ l.names := by
  rw [← Links.exists_lookup_iff]
  unfold ofLink
  cases l.lookup key with
  | none => simp
  | some account => simp

theorem eq_of_ofLink (h : ofLink l key mention = .ok p) :
    l.lookup key = some p.account ∧ p.mention = mention ∧ p.isDefault = false := by
  unfold ofLink at h
  split at h
  · next account haccount =>
    cases h
    exact ⟨haccount, rfl, rfl⟩
  · cases h

theorem eq_notLinked_of_ofLink (h : ofLink l key mention = .error e) : e = .notLinked (some mention) := by
  unfold ofLink at h
  split at h
  · cases h
  · cases h
    rfl

end Links

section Resolving

variable {m : Type → Type} [Monad m] [LawfulMonad m] {text key mention : String} {l : Links} {r : Reference}
  {e : PlayerError} {id : AccountId}

theorem resolve_of_error (h : readReference text = .error e) (l : Links)
    (ask : AccountId → m (Except ServiceError (Option Profile))) : resolve (some text) l ask = pure (.error e) := by
  rw [resolve_some, h]

theorem resolve_of_link? (h : readReference text = .ok r) (hlink : r.link? = some (key, mention)) (l : Links)
    (ask : AccountId → m (Except ServiceError (Option Profile))) :
    resolve (some text) l ask = pure (ofLink l key mention) := by
  rw [resolve_some, h]
  cases r with
  | account id => cases hlink
  | mention user => cases hlink; rfl
  | name name => cases hlink; rfl

theorem resolve_of_account (h : readReference text = .ok (.account id)) (l : Links)
    (ask : AccountId → m (Except ServiceError (Option Profile))) :
    resolve (some text) l ask = ofProfile id <$> ask id := by
  rw [resolve_some, h]
  rfl

end Resolving

/-- **What resolving a reference depends on.** A text that is no reference is refused, whatever links and service there
are. For a mention or a name the service is not asked, so any two services give the same result: a player is found just
when the name, or the digits of the user's number, agree in lower case with a linked name, and is the linked account
under that mention. For the number of an account the service is asked once, for the account with that number, and nothing
but its answer decides: links do not matter, an error is passed on, no profile is a missing history, and a profile is the
player, called by the profile's name or else by the number. -/
theorem resolve_reads (text : String) (l : Links) :
    (∀ e, readReference text = .error e → ∀ (m : Type → Type) [Monad m] [LawfulMonad m]
      (ask : AccountId → m (Except ServiceError (Option Profile))) (l' : Links),
        resolve (some text) l' ask = pure (.error e)) ∧
    (∀ r key mention, readReference text = .ok r → r.link? = some (key, mention) →
      ∃ outcome : Except PlayerError Player,
        (∀ (m : Type → Type) [Monad m] [LawfulMonad m] (ask : AccountId → m (Except ServiceError (Option Profile))),
          resolve (some text) l ask = pure outcome) ∧
        ((∃ p, outcome = .ok p) ↔ lower key ∈ l.names) ∧
        (∀ table d, l = .ofTable table d → ((∃ p, outcome = .ok p) ↔ ∃ e ∈ table, lower e.1 = lower key)) ∧
        (∀ p, outcome = .ok p → l.lookup key = some p.account ∧ p.mention = mention ∧ p.isDefault = false) ∧
        ∀ e, outcome = .error e → e = .notLinked (some mention)) ∧
    ∀ id, readReference text = .ok (.account id) →
      (∃ n, id = .ofAny n ∧ Reference.ByNumber (trim text.toList) (.account (.ofAny n))) ∧
      ∃ outcome : Except ServiceError (Option Profile) → Except PlayerError Player,
        (∀ (m : Type → Type) [Monad m] [LawfulMonad m] (ask : AccountId → m (Except ServiceError (Option Profile)))
          (l' : Links), resolve (some text) l' ask = outcome <$> ask id) ∧
        (∀ e, outcome (.error e) = .error (.service e)) ∧
        outcome (.ok none) = .error (.noHistory id) ∧
        ∀ profile, outcome (.ok (some profile)) =
          .ok ⟨id, "[" ++ profile.name.getD (toString id.toNat) ++ "](" ++ id.profilePage ++ ")", false⟩ := by
  refine ⟨fun e h m _ _ ask l' => resolve_of_error h l' ask, fun r key mention h hlink => ?_, fun id h => ?_⟩
  · refine ⟨ofLink l key mention, fun m _ _ ask => resolve_of_link? h hlink l ask, exists_ofLink_iff, ?_,
      fun p hp => eq_of_ofLink hp, fun e he => eq_notLinked_of_ofLink he⟩
    rintro table d rfl
    rw [exists_ofLink_iff, Links.mem_names_ofTable]
  · exact ⟨(readReference_eq_ok_iff.mp h).exists_byNumber, ofProfile id, fun m _ _ ask l' => resolve_of_account h l' ask,
      fun e => rfl, rfl, fun profile => rfl⟩

/-- A name that is linked in other letters, for two services, and a 64-bit number, for two services and without links. -/
theorem resolve_reads_dendi :
    readReference "@Dendi" = .ok (.name "Dendi") ∧ readReference "76561198047011640" = .ok (.account 86745912) ∧
    ∃ l p : _, l = Links.ofTable [("DENDI", 76561198030654385)] none ∧ p = Player.mk 70388657 "Dendi" false ∧
      resolve (m := Id) (some "@Dendi") l (fun _ => pure (.error .timeout)) = pure (.ok p) ∧
      resolve (m := Id) (some "@Dendi") l (fun id => pure (.ok (some ⟨id, some "Dendi", none⟩))) = pure (.ok p) ∧
      resolve (m := Id) (some "76561198047011640") l (fun _ => pure (.error .timeout)) =
        pure (.error (.service .timeout)) ∧
      resolve (m := Id) (some "76561198047011640") {} (fun id => pure (.ok (some ⟨id, none, none⟩))) =
        pure (.ok ⟨86745912, "[86745912](https://www.opendota.com/players/86745912)", false⟩) := by
  have hname : readReference "@Dendi" = .ok (.name "Dendi") := by rfl
  have hnumber : readReference "76561198047011640" = .ok (.account 86745912) := by decide +kernel
  have hlookup : (Links.ofTable [("DENDI", 76561198030654385)] none).lookup "Dendi" = some 70388657 := by decide +kernel
  obtain ⟨-, hlink, -⟩ := resolve_reads "@Dendi" (.ofTable [("DENDI", 76561198030654385)] none)
  obtain ⟨outcome, hresolve, -, hfound, hplayer, -⟩ := hlink _ _ _ hname rfl
  obtain ⟨p, rfl⟩ := (hfound _ _ rfl).mpr ⟨_, List.mem_cons_self, by decide +kernel⟩
  obtain ⟨haccount, hmention, hdefault⟩ := hplayer p rfl
  rw [hlookup] at haccount
  obtain ⟨-, -, haccount'⟩ := resolve_reads "76561198047011640" {}
  obtain ⟨-, outcome', hresolve', herror, -, hprofile⟩ := haccount' _ hnumber
  refine ⟨hname, hnumber, _, p, rfl, ?_, hresolve Id _, hresolve Id _, ?_, ?_⟩
  · obtain ⟨account, mention, isDefault⟩ := p
    obtain rfl := Option.some.inj haccount
    obtain rfl : mention = "Dendi" := hmention
    obtain rfl : isDefault = false := hdefault
    rfl
  · rw [hresolve', map_pure, herror]
  · have hmention : "[" ++ toString (86745912 : AccountId).toNat ++ "](" ++ AccountId.profilePage 86745912 ++ ")" =
        "[86745912](https://www.opendota.com/players/86745912)" := by decide +kernel
    rw [hresolve', map_pure, hprofile, ← hmention]
    rfl

end Player

end PhraseFilter
