import PhraseFilter.Proofs.Player.Basic
import PhraseFilter.Proofs.Player.Links
import PhraseFilter.Proofs.Player.Reference

/-!
# One account by many references

* `AccountId.toNat_ofAny` : the offset is removed from a number above it, once;
* `Links.HasLinked` : the links in which a name was linked to a number; `Links.HasLinked.lookup_eq` : they lead from the name to the
  account with that number;
* `Player.resolve_of_givesNumber`, `Player.resolve_of_givesKey` : what a reference by number and one by link come to;
* `Player.resolve_same_account` : **all references to a number lead to the same account**.
-/

namespace PhraseFilter

open Text

namespace AccountId

/-- The offset is removed from a number above it, once. -/
theorem toNat_ofAny (n : UInt64) :
    (ofAny n).toNat = if offset.toNat < n.toNat then n.toNat - offset.toNat else n.toNat := by
  unfold ofAny
  by_cases h : offset < n
  · have hlt : offset.toNat < n.toNat := UInt64.lt_iff_toNat_lt.mp h
    rw [if_pos h, if_pos hlt, UInt64.toNat_sub_of_le _ _ (UInt64.le_iff_toNat_le.mpr (Nat.le_of_lt hlt))]
  · have hle : ¬ offset.toNat < n.toNat := fun hlt => h (UInt64.lt_iff_toNat_lt.mpr hlt)
    rw [if_neg h, if_neg hle]

end AccountId

/-! ## Links -/

namespace Links

/-- The links in which a name was linked to a number, by a table of names that differ in lower case or on its own, and in
which no other number was given to the name after that. -/
inductive HasLinked (name : String) (n : UInt64) : Links → Prop
  | table {table : List (String × UInt64)} {d : Option String} (hnames : (table.map fun e => lower e.1).Nodup)
      (h : (name, n) ∈ table) : HasLinked name n (ofTable table d)
  | link (l : Links) : HasLinked name n (l.link name n)
  | linkOther {l : Links} {other : String} {id : UInt64} (hname : lower other ≠ lower name) (h : HasLinked name n l) :
      HasLinked name n (l.link other id)
  | withDefaultPlayer {l : Links} {reference : String} (h : HasLinked name n l) :
      HasLinked name n (l.withDefaultPlayer reference)

variable {name : String} {n : UInt64} {l : Links}

theorem lookup_ofTable_of_mem {table : List (String × UInt64)} {d : Option String}
    (hnames : (table.map fun e => lower e.1).Nodup) (h : (name, n) ∈ table) :
    (ofTable table d).lookup name = some (.ofAny n) := by
  cases hlookup : (ofTable table d).lookup name with
  | none => exact absurd rfl (lookup_ofTable_eq_none_iff.mp hlookup (name, n) h)
  | some account =>
      obtain ⟨e, he, hname, rfl⟩ := exists_of_lookup_ofTable hlookup
      obtain rfl : e = (name, n) := List.inj_on_of_nodup_map hnames he h hname
      rfl

theorem HasLinked.lookup_eq (h : HasLinked name n l) : l.lookup name = some (.ofAny n) := by
  induction h with
  | table hnames h => exact lookup_ofTable_of_mem hnames h
  | link l => rw [lookup_link, if_pos rfl]
  | linkOther hname _ ih => rw [lookup_link, if_neg hname, ih]
  | withDefaultPlayer _ ih => exact ih

end Links

/-! ## Players -/

namespace Player

section Resolving

variable {m : Type → Type} [Monad m] [LawfulMonad m] {given : Option String} {l : Links} {text key : String} {n : UInt64}

/-- A reference by number leads to the account with that number, if the service knows it. -/
theorem resolve_of_givesNumber (hnumber : Reference.GivesNumber n text) (hgiven : given.or l.defaultPlayer = some text)
    (ask : AccountId → m (Except ServiceError (Option Profile))) :
    resolve given l ask = (fun reply => shown given.isSome (ofProfile (.ofAny n) reply)) <$> ask (.ofAny n) := by
  rw [resolve_of_read hgiven (Reference.read?_of_givesNumber hnumber)]
  exact (comp_map _ _ _).symm

/-- A reference by link leads to the account that the name or the user is linked to, and asks for nothing. -/
theorem resolve_of_givesKey {account : AccountId} (hkey : Reference.GivesKey key text)
    (hlookup : l.lookup key = some account) (hgiven : given.or l.defaultPlayer = some text)
    (ask : AccountId → m (Except ServiceError (Option Profile))) :
    ∃ p, resolve given l ask = pure (.ok p) ∧ p.account = account := by
  have hreference : ∃ r mention, Reference.read? text = some r ∧ ofReference l ask r = pure (ofLink l key mention) := by
    rcases Reference.read?_of_givesKey hkey with hread | ⟨user, rfl, hread⟩
    · exact ⟨.name key, key, hread, rfl⟩
    · exact ⟨.mention user, "<@" ++ toString user.toNat ++ ">", hread, rfl⟩
  obtain ⟨r, mention, hread, hlink⟩ := hreference
  have hfound : ofLink l key mention = .ok ⟨account, mention, false⟩ := by
    unfold ofLink
    rw [hlookup]
  obtain ⟨p, hp, haccount⟩ := exists_shown given.isSome ⟨account, mention, false⟩
  refine ⟨p, ?_, haccount⟩
  rw [resolve_of_read hgiven hread, hlink, hfound, map_pure, hp]

end Resolving

/-- **All references to a number lead to the same account.** A name or a user that was linked to the number leads to
it without a question to the service. Its digits, with zeros and blanks, and every address of a profile page with it
lead to the same account just when the service knows that account. The number of the account is the given one, from
which the offset is removed once if it is above it. -/
theorem resolve_same_account {m : Type → Type} [Monad m] [LawfulMonad m] {n : UInt64} {key text reference : String}
    {l l' : Links} {given given' : Option String} (hnumber : Reference.GivesNumber n text)
    (hgiven : given.or l.defaultPlayer = some text) (hlinked : l'.HasLinked key n) (hkey : Reference.GivesKey key reference)
    (hgiven' : given'.or l'.defaultPlayer = some reference)
    (ask ask' : AccountId → m (Except ServiceError (Option Profile))) :
    ∃ linked, resolve given' l' ask' = pure (.ok linked) ∧
      linked.account.toNat =
        (if AccountId.offset.toNat < n.toNat then n.toNat - AccountId.offset.toNat else n.toNat) ∧
      ∃ result, resolve given l ask = result <$> ask linked.account ∧
        (∀ reply p, result reply = .ok p → p.account = linked.account) ∧
        ∀ reply, (∃ p, result reply = .ok p) ↔ ∃ profile, reply = .ok (some profile) := by
  obtain ⟨linked, hresolve, haccount⟩ := resolve_of_givesKey hkey hlinked.lookup_eq hgiven' ask'
  refine ⟨linked, hresolve, ?_, fun reply => shown given.isSome (ofProfile linked.account reply), ?_, ?_, ?_⟩
  · rw [haccount, AccountId.toNat_ofAny]
  · rw [haccount]
    exact resolve_of_givesNumber hnumber hgiven ask
  · intro reply p hp
    obtain ⟨q, hq, heq⟩ := exists_of_shown hp
    rw [← heq, account_ofProfile hq]
  · intro reply
    rw [exists_shown_iff, exists_ofProfile_iff]

/-- The address of a profile page as the default player, and a name that was linked by a table. -/
theorem resolve_same_account_dendi :
    Reference.GivesNumber 76561198047011640 " HTTPS://OpenDota.com/players/076561198047011640/matches " ∧
    (Links.ofTable [("Dendi", 76561198047011640), ("Miracle-", 105248644)] none).HasLinked "Dendi" 76561198047011640 ∧
    Reference.GivesKey "Dendi" "@Dendi" ∧
    ∃ linked : Player, linked.account = 86745912 ∧
      resolve (m := Id) (some "@Dendi") (.ofTable [("Dendi", 76561198047011640), ("Miracle-", 105248644)] none)
        (fun _ => pure (.ok none)) = pure (.ok linked) ∧
      ∃ p : Player, p.account = linked.account ∧
        resolve (m := Id) none ⟨[], some " HTTPS://OpenDota.com/players/076561198047011640/matches "⟩
          (fun id => pure (.ok (some ⟨id, none, none⟩))) = pure (.ok p) := by
  have hscheme : Reference.IsScheme "HTTPS://".toList := Or.inr (Or.inr (by unfold Alike; decide))
  have hhost : Alike "opendota.com".toList "OpenDota.com".toList := by
    unfold Alike
    decide
  have hnumber : Reference.GivesNumber 76561198047011640 " HTTPS://OpenDota.com/players/076561198047011640/matches " :=
    ⟨_, .address hscheme (Or.inl rfl) (.opendota hhost) (Or.inr ⟨"matches".toList, rfl⟩) 1, [' '], [' '],
      List.forall_mem_singleton.mpr rfl, List.forall_mem_singleton.mpr rfl, by decide +kernel⟩
  have hlinked : (Links.ofTable [("Dendi", 76561198047011640), ("Miracle-", 105248644)] none).HasLinked "Dendi"
      76561198047011640 := .table (by decide +kernel) List.mem_cons_self
  have hname : Reference.IsName "Dendi" := ⟨by decide, by decide, List.all_eq_true.mp (by decide +kernel)⟩
  have hkey : Reference.GivesKey "Dendi" "@Dendi" := ⟨_, .name hname, [], [], nofun, nofun, rfl⟩
  have hgiven : (none : Option String).or
      (Links.mk [] (some " HTTPS://OpenDota.com/players/076561198047011640/matches ")).defaultPlayer =
        some " HTTPS://OpenDota.com/players/076561198047011640/matches " := rfl
  have hgiven' : (some "@Dendi").or
      (Links.ofTable [("Dendi", 76561198047011640), ("Miracle-", 105248644)] none).defaultPlayer = some "@Dendi" := rfl
  obtain ⟨linked, hresolve, haccount, result, hresult, hsame, hfound⟩ :=
    resolve_same_account (m := Id) hnumber hgiven hlinked hkey hgiven' (fun id => pure (.ok (some ⟨id, none, none⟩)))
      fun _ => pure (.ok none)
  obtain ⟨p, hp⟩ := (hfound _).mpr ⟨⟨linked.account, none, none⟩, rfl⟩
  refine ⟨hnumber, hlinked, hkey, linked, UInt64.toNat_inj.mp haccount, hresolve, p, hsame _ _ hp, ?_⟩
  rw [hresult, map_pure, hp]

end Player

end PhraseFilter
