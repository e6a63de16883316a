import PhraseFilter.Player.Basic

/-!
# What resolving a reference comes to

* `Player.account_ofProfile`, `Player.exists_ofProfile_iff` : an account that the service knows is that of the player, and the
  others lead to none;
* `Player.shown` : the result for a reference that is given or is the default one, `Player.exists_of_shown` : which is for
  the same account;
* `Player.resolve_of_read` : resolving is reading the text that is given, or else the default one.
-/

namespace PhraseFilter.Player

section Results

variable {p : Player} {id : AccountId} {reply : Except ServiceError (Option Profile)} {x : Except PlayerError Player}
  {isGiven : Bool}

theorem account_ofProfile (h : ofProfile id reply = .ok p) : p.account = id := by
  unfold ofProfile at h
  split at h
  · cases h
  · cases h
  · cases h
    rfl

/-- A player is found just when the service knows the account. -/
theorem exists_ofProfile_iff : (∃ p, ofProfile id reply = .ok p) ↔ ∃ profile, reply = .ok (some profile) := by
  constructor
  · rintro ⟨p, h⟩
    unfold ofProfile at h
    split at h
    · cases h
    · cases h
    · next profile => exact ⟨profile, rfl⟩
  · rintro ⟨profile, rfl⟩
    exact ⟨_, rfl⟩

theorem exists_of_asDefault (h : asDefault x = .ok p) : ∃ q, x = .ok q ∧ q.account = p.account := by
  unfold asDefault at h
  split at h
  · next q =>
    cases h
    exact ⟨q, rfl, rfl⟩
  · cases h
  · cases h

/-- The result for a reference that is given, or is the default one. -/
def shown (isGiven : Bool) (x : Except PlayerError Player) : Except PlayerError Player :=
  if isGiven then x else asDefault x

theorem exists_of_shown (h : shown isGiven x = .ok p) : ∃ q, x = .ok q ∧ q.account = p.account := by
  cases isGiven with
  | true => exact ⟨p, h, rfl⟩
  | false => exact exists_of_asDefault h

theorem exists_shown (isGiven : Bool) (p : Player) : ∃ q, shown isGiven (.ok p) = .ok q ∧ q.account = p.account := by
  cases isGiven with
  | true => exact ⟨p, rfl, rfl⟩
  | false => exact ⟨{ p with isDefault := true }, rfl, rfl⟩

theorem exists_shown_iff : (∃ p, shown isGiven x = .ok p) ↔ ∃ p, x = .ok p := by
  constructor
  · rintro ⟨p, h⟩
    obtain ⟨q, hq, -⟩ := exists_of_shown h
    exact ⟨q, hq⟩
  · rintro ⟨p, rfl⟩
    obtain ⟨q, hq, -⟩ := exists_shown isGiven p
    exact ⟨q, hq⟩

end Results

section Resolving

variable {m : Type → Type} [Monad m] {given : Option String} {links : Links} {text : String} {r : Reference}
  {ask : AccountId → m (Except ServiceError (Option Profile))}

theorem ofChoice_eq (isGiven : Bool) (links : Links) (ask : AccountId → m (Except ServiceError (Option Profile)))
    (r : Reference) : ofChoice isGiven links ask r = shown isGiven <$> ofReference links ask r := by
  cases isGiven <;> rfl

theorem resolve_of_read (hgiven : given.or links.defaultPlayer = some text) (hread : Reference.read? text = some r) :
    resolve given links ask = shown given.isSome <$> ofReference links ask r := by
  have hreference : readReference text = .ok r := by
    unfold readReference
    rw [hread]
  have hchoose : choose given links = .ok r := by
    unfold choose
    cases given with
    | some other =>
        obtain rfl : other = text := Option.some.inj hgiven
        exact hreference
    | none =>
        rw [Option.none_or] at hgiven
        rw [hgiven]
        exact hreference
  unfold resolve
  rw [hchoose]
  exact ofChoice_eq _ _ _ _

end Resolving

theorem account_ofChoice {p : Player} {id : AccountId} {isGiven : Bool} {links : Links}
    {ask : AccountId → Except ServiceError (Option Profile)}
    (h : Id.run (ofChoice isGiven links ask (.account id)) = .ok p) : p.account = id := by
  rw [ofChoice_eq] at h
  obtain ⟨q, hq, haccount⟩ := exists_of_shown h
  rw [← haccount]
  exact account_ofProfile hq

end PhraseFilter.Player
