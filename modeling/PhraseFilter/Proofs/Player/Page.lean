import PhraseFilter.Proofs.Player.Accounts
import PhraseFilter.Proofs.Player.Default
import PhraseFilter.Proofs.Player.OrderedChoice

/-!
# Profile pages as references

The page of a player is printed for people, who may give its address as a reference again.

* `AccountId.ofAny_eq_self_iff`, `AccountId.ofAny_ofAny_eq_iff` : the offset is removed again from what it was removed from,
  if that is still above it;
* `Reference.readReference_profilePage` : the page of an account is read as the account with that number;
* `Player.Reached` : the accounts that a reference can lead to; `Player.liftp_reaches_resolve` : it leads to no others, whatever
  the service says;
* `Player.profilePage_refersBack` : **the page of a player refers back to them just when the number they were found by is at
  most twice the offset.**
-/

namespace PhraseFilter

open Text

namespace AccountId

variable {n : UInt64} {id : AccountId}

theorem ofAny_eq_self_iff : ofAny id = id ↔ id.toNat ≤ offset.toNat := by
  have hoffset : 0 < offset.toNat := by decide
  rw [← UInt64.toNat_inj, toNat_ofAny]
  split <;> omega

/-- The account with a number stands for itself unless the number is so large that the offset can be removed twice. -/
theorem ofAny_ofAny_eq_iff : ofAny (ofAny n) = ofAny n ↔ n.toNat ≤ 2 * offset.toNat := by
  rw [ofAny_eq_self_iff, toNat_ofAny]
  split <;> omega

end AccountId

namespace Reference

theorem givesNumber_profilePage (id : AccountId) : GivesNumber id id.profilePage := by
  have haddress : IsNumber id ("https://".toList ++ ("www.".toList ++
      (("opendota.com".toList ++ "/players/".toList) ++ (numeral 0 id ++ [])))) :=
    .address (Or.inr (Or.inr rfl)) (Or.inr rfl) (.opendota rfl) (Or.inl rfl) 0
  refine ⟨_, haddress, [], [], nofun, nofun, ?_⟩
  unfold AccountId.profilePage
  rw [String.toList_append]
  simp [numeral]

theorem readReference_profilePage (id : AccountId) :
    Player.readReference id.profilePage = .ok (.account (.ofAny id)) := by
  unfold Player.readReference
  rw [read?_of_givesNumber (givesNumber_profilePage id)]

end Reference

namespace Player

/-- The accounts that a reference can lead to, when it is given or is the default one: the account whose number is written
in it, and those that the table of links has. -/
inductive Reached (given : Option String) (table : List (String × UInt64)) (d : Option String) (id : AccountId) : Prop
  | number {text : String} (hgiven : given.or d = some text) (h : Reference.ByNumber (trim text.toList) (.account id))
  | link {e : String × UInt64} (h : e ∈ table) (haccount : id = .ofAny e.2)

/-- Is the player, if one is found, one that the reference can lead to? -/
def Reaches (given : Option String) (table : List (String × UInt64)) (d : Option String) (x : Except PlayerError Player) :
    Prop := ∀ p, x = .ok p → Reached given table d p.account

section Outcomes

variable {given d : Option String} {table : List (String × UInt64)} {l : Links} {id : AccountId} {r : Reference}
  {text : String} {x : Except PlayerError Player} {p : Player} {n : UInt64}

theorem Reached.exists_ofAny (h : Reached given table d id) : ∃ n, id = .ofAny n := by
  cases h with
  | number _ h =>
      obtain ⟨n, hn⟩ := h.exists_ofAny
      exact ⟨n, hn⟩
  | link _ haccount => exact ⟨_, haccount⟩

theorem reaches_ofProfile (hgiven : given.or d = some text) (h : Reference.ByNumber (trim text.toList) (.account id))
    (reply : Except ServiceError (Option Profile)) : Reaches given table d (ofProfile id reply) :=
  fun _ hp => account_ofProfile hp ▸ .number hgiven h

theorem reaches_ofLink (given : Option String) (table : List (String × UInt64)) (d : Option String) (key mention : String) :
    Reaches given table d (ofLink (.ofTable table d) key mention) := by
  intro p hp
  unfold ofLink at hp
  split at hp
  · next account haccount =>
    cases hp
    obtain ⟨e, he, -, heq⟩ := Links.exists_of_lookup_ofTable haccount
    exact .link he heq.symm
  · cases hp

theorem Reaches.shown (h : Reaches given table d x) (isGiven : Bool) : Reaches given table d (shown isGiven x) := by
  intro p hp
  obtain ⟨q, hq, haccount⟩ := exists_of_shown hp
  exact haccount ▸ h q hq

theorem exists_of_choose (h : choose given l = .ok r) :
    ∃ text, given.or l.defaultPlayer = some text ∧ Reference.Refers (trim text.toList) r := by
  unfold choose at h
  split at h
  · next text => exact ⟨text, rfl, readReference_eq_ok_iff.mp h⟩
  · next text hd => exact ⟨text, hd, readReference_eq_ok_iff.mp h⟩
  · cases h

/-- The page of a player refers back to them just when a number of their account is at most twice the offset. -/
theorem readReference_profilePage_iff (h : p.account = .ofAny n) :
    readReference p.profilePage = .ok (.account p.account) ↔ n.toNat ≤ 2 * AccountId.offset.toNat := by
  have hread : readReference p.profilePage = .ok (.account (.ofAny p.account)) :=
    Reference.readReference_profilePage p.account
  rw [hread, Except.ok.injEq, Reference.account.injEq, h]
  exact AccountId.ofAny_ofAny_eq_iff

end Outcomes

section Resolving

variable {m : Type → Type} [Monad m] [LawfulMonad m] {given d : Option String} {table : List (String × UInt64)}
  {text : String} {r : Reference}

theorem liftp_map {α β : Type} {P : α → Prop} {Q : β → Prop} {f : α → β} {x : m α} (h : Functor.Liftp P x)
    (hf : ∀ a, P a → Q (f a)) : Functor.Liftp Q (f <$> x) := by
  obtain ⟨u, rfl⟩ := h
  refine ⟨(fun a => ⟨f a.1, hf a.1 a.2⟩) <$> u, ?_⟩
  rw [← comp_map, ← comp_map]
  rfl

theorem liftp_reaches_ofReference (hgiven : given.or d = some text) (h : Reference.Refers (trim text.toList) r)
    (ask : AccountId → m (Except ServiceError (Option Profile))) :
    Functor.Liftp (Reaches given table d) (ofReference (.ofTable table d) ask r) := by
  refine liftp_ofReference (fun id hid reply => ?_) (reaches_ofLink given table d) ask
  subst hid
  obtain ⟨n, rfl, hnumber⟩ := h.exists_byNumber
  exact reaches_ofProfile hgiven hnumber reply

/-- A reference leads to no other accounts than those it can lead to, whatever the service says. -/
theorem liftp_reaches_resolve (given : Option String) (table : List (String × UInt64)) (d : Option String)
    (ask : AccountId → m (Except ServiceError (Option Profile))) :
    Functor.Liftp (Reaches given table d) (resolve given (.ofTable table d) ask) := by
  unfold resolve
  cases hchoose : choose given (.ofTable table d) with
  | error e => exact ⟨pure ⟨.error e, nofun⟩, map_pure _ _⟩
  | ok r =>
      obtain ⟨text, hgiven, hrefers⟩ := exists_of_choose hchoose
      rw [Links.defaultPlayer_ofTable] at hgiven
      dsimp only
      rw [ofChoice_eq]
      exact liftp_map (liftp_reaches_ofReference hgiven hrefers ask) fun x hx => hx.shown given.isSome

/-- **The page of a player as a reference.** Whatever links and service there are, a player who is found has an account
whose number is written in the reference or is in the table of links. Their page is read as the account with the number of
that account, from which the offset is removed if it is above it. So the page refers back to the player just when the number
that they were found by is at most twice the offset. -/
theorem profilePage_refersBack (given : Option String) (table : List (String × UInt64)) (d : Option String)
    (ask : AccountId → m (Except ServiceError (Option Profile))) :
    Functor.Liftp (fun x : Except PlayerError Player => ∀ p, x = .ok p →
      Reached given table d p.account ∧ readReference p.profilePage = .ok (.account (.ofAny p.account)) ∧
      (∃ n, p.account = .ofAny n) ∧ ∀ n, p.account = .ofAny n →
        (readReference p.profilePage = .ok (.account p.account) ↔ n.toNat ≤ 2 * AccountId.offset.toNat))
      (resolve given (.ofTable table d) ask) := by
  rw [← id_map (resolve given (.ofTable table d) ask)]
  refine liftp_map (liftp_reaches_resolve given table d ask) fun x hx p hp => ?_
  have hreached : Reached given table d p.account := hx p hp
  exact ⟨hreached, Reference.readReference_profilePage p.account, hreached.exists_ofAny,
    fun n hn => readReference_profilePage_iff hn⟩

end Resolving

/-- The 64-bit number of an account: the page of the player who is found refers back to them. -/
theorem profilePage_refersBack_dendi :
    ∃ p : Player, resolve (m := Id) (some "76561198030654385") (.ofTable [] none)
        (fun id => pure (.ok (some ⟨id, some "Dendi", none⟩))) = pure (.ok p) ∧
      p.account = 70388657 ∧ p.profilePage = "https://www.opendota.com/players/70388657" ∧
      readReference p.profilePage = .ok (.account p.account) := by
  have hgiven : (some "76561198030654385").or (Links.ofTable [] none).defaultPlayer = some "76561198030654385" := rfl
  have hread : Reference.read? "76561198030654385" = some (.account 70388657) := by decide +kernel
  obtain ⟨p, hp⟩ : ∃ p, ofProfile 70388657 (.ok (some ⟨70388657, some "Dendi", none⟩)) = .ok p := ⟨_, rfl⟩
  have hresolve : resolve (m := Id) (some "76561198030654385") (.ofTable [] none)
      (fun id => pure (.ok (some ⟨id, some "Dendi", none⟩))) = pure (.ok p) := by
    rw [resolve_of_read hgiven hread, ← hp]
    rfl
  have haccount : p.account = 70388657 := account_ofProfile hp
  obtain ⟨u, hu⟩ := profilePage_refersBack (m := Id) (some "76561198030654385") [] none
    fun id => pure (.ok (some ⟨id, some "Dendi", none⟩))
  obtain ⟨-, -, -, hback⟩ := u.2 p (hu.trans hresolve)
  refine ⟨p, hresolve, haccount, ?_, (hback 76561198030654385 haccount).mpr (by decide)⟩
  rw [Player.profilePage, haccount]
  decide +kernel

/-- A number above twice the offset: the page of the player who is found refers to another account. -/
theorem profilePage_of_above_twice_offset :
    ∃ p : Player, resolve (m := Id) (some "153122395920531457") (.ofTable [] none)
        (fun id => pure (.ok (some ⟨id, none, none⟩))) = pure (.ok p) ∧
      p.account = 76561197960265729 ∧ p.profilePage = "https://www.opendota.com/players/76561197960265729" ∧
      readReference p.profilePage = .ok (.account 1) ∧ readReference p.profilePage ≠ .ok (.account p.account) := by
  have hgiven : (some "153122395920531457").or (Links.ofTable [] none).defaultPlayer = some "153122395920531457" := rfl
  have hread : Reference.read? "153122395920531457" = some (.account 76561197960265729) := by decide +kernel
  have hpage : AccountId.profilePage 76561197960265729 = "https://www.opendota.com/players/76561197960265729" := by
    decide +kernel
  have hback : readReference (AccountId.profilePage 76561197960265729) = .ok (.account 1) := by
    rw [Reference.readReference_profilePage]
    decide +kernel
  obtain ⟨p, hp⟩ : ∃ p, ofProfile 76561197960265729 (.ok (some ⟨76561197960265729, none, none⟩)) = .ok p := ⟨_, rfl⟩
  have haccount : p.account = 76561197960265729 := account_ofProfile hp
  refine ⟨p, ?_, haccount, ?_, ?_, ?_⟩
  · rw [resolve_of_read hgiven hread, ← hp]
    rfl
  · rw [Player.profilePage, haccount, hpage]
  · rw [Player.profilePage, haccount, hback]
  · rw [Player.profilePage, haccount, hback]
    decide

end Player

end PhraseFilter
