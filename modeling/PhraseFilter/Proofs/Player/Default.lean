import Mathlib.Control.Functor
import PhraseFilter.Proofs.Player.Basic

/-!
# The default player

The reference of the default player may also be given by itself.

* `Player.Agree` : how the outcome for the default player agrees with the outcome for the reference when it is given;
* `Player.liftp_ofReference` : what holds of all that a reference may come to, whatever the service says;
* `Player.Named` : the outcomes in which nobody is the default player; `Player.liftp_named_resolve` : a reference that is
  given comes to those only;
* `Player.resolve_default` : the default player is who is found when their reference is given, and is told to be the default
  one; `Player.Named.agree` : to tell this keeps the outcome;
* `Player.resolve_default_agrees` : **the default player is who is found when their reference is given.**
-/

namespace PhraseFilter.Player

/-- The outcome for the default player agrees with the outcome for the same reference when it is given: the player is the
same, and so is any error that does not tell who is not linked. -/
inductive Agree : (default named : Except PlayerError Player) → Prop
  | found {p q : Player} (haccount : p.account = q.account) (hmention : p.mention = q.mention)
      (hdefault : p.isDefault = true) (hnamed : q.isDefault = false) : Agree (.ok p) (.ok q)
  | notLinked (user : Option String) : Agree (.error (.notLinked none)) (.error (.notLinked user))
  | failed {e : PlayerError} (h : ∀ user, e ≠ .notLinked user) : Agree (.error e) (.error e)

/-- Is the player, if one is found, not the default one? -/
def Named (x : Except PlayerError Player) : Prop := ∀ p, x = .ok p → p.isDefault = false

section Outcomes

variable {x : Except PlayerError Player}

theorem named_ofProfile (id : AccountId) (reply : Except ServiceError (Option Profile)) : Named (ofProfile id reply) := by
  intro p h
  unfold ofProfile at h
  split at h
  · cases h
  · cases h
  · cases h
    rfl

theorem named_ofLink (l : Links) (key mention : String) : Named (ofLink l key mention) := by
  intro p h
  unfold ofLink at h
  split at h
  · cases h
    rfl
  · cases h

/-- To tell that a player is the default one keeps who they are, and to hide who is not linked keeps all other errors. -/
theorem Named.agree (h : Named x) : Agree (asDefault x) x := by
  cases x with
  | ok p => exact .found rfl rfl rfl (h p rfl)
  | error e =>
      cases e with
      | notLinked user => exact .notLinked user
      | noHistory id => exact .failed nofun
      | badReference text => exact .failed nofun
      | service e => exact .failed nofun

end Outcomes

section Resolving

variable {m : Type → Type} [Monad m] {l : Links} {d : String} {x : m (Except PlayerError Player)}
  {ask : AccountId → m (Except ServiceError (Option Profile))}

theorem resolve_of_no_default (h : l.defaultPlayer = none) : resolve none l ask = pure (.error (.notLinked none)) := by
  unfold resolve choose
  rw [h]

variable [LawfulMonad m]

theorem liftr_agree (h : Functor.Liftp Named x) : Functor.Liftr Agree (asDefault <$> x) x := by
  obtain ⟨u, rfl⟩ := h
  refine ⟨(fun y => ⟨(asDefault y.1, y.1), y.2.agree⟩) <$> u, ?_, ?_⟩
  · rw [← comp_map, ← comp_map]
    rfl
  · rw [← comp_map]
    rfl

theorem liftp_ofReference {P : Except PlayerError Player → Prop} {r : Reference}
    (hprofile : ∀ id, r = .account id → ∀ reply, P (ofProfile id reply)) (hlink : ∀ key mention, P (ofLink l key mention))
    (ask : AccountId → m (Except ServiceError (Option Profile))) : Functor.Liftp P (ofReference l ask r) := by
  cases r with
  | account id => exact ⟨(fun reply => ⟨_, hprofile id rfl reply⟩) <$> ask id, (comp_map _ _ _).symm⟩
  | mention user => exact ⟨pure ⟨_, hlink _ _⟩, map_pure _ _⟩
  | name name => exact ⟨pure ⟨_, hlink _ _⟩, map_pure _ _⟩

/-- Whatever the service says about an account, a reference does not lead to a default player. -/
theorem liftp_named_ofReference (l : Links) (ask : AccountId → m (Except ServiceError (Option Profile))) (r : Reference) :
    Functor.Liftp Named (ofReference l ask r) :=
  liftp_ofReference (fun id _ reply => named_ofProfile id reply) (named_ofLink l) ask

theorem resolve_some (text : String) (l : Links) (ask : AccountId → m (Except ServiceError (Option Profile))) :
    resolve (some text) l ask =
      match readReference text with
      | .ok r => ofReference l ask r
      | .error e => pure (.error e) := by
  have hchoose : choose (some text) l = readReference text := rfl
  unfold resolve
  rw [hchoose]
  cases readReference text with
  | ok r => exact id_map _
  | error e => rfl

theorem liftp_named_resolve (text : String) (l : Links) (ask : AccountId → m (Except ServiceError (Option Profile))) :
    Functor.Liftp Named (resolve (some text) l ask) := by
  rw [resolve_some]
  cases readReference text with
  | ok r => exact liftp_named_ofReference l ask r
  | error e => exact ⟨pure ⟨.error e, nofun⟩, map_pure _ _⟩

theorem asDefault_of_readReference {text : String} {e : PlayerError} (h : readReference text = .error e) :
    asDefault (.error e) = .error e := by
  unfold readReference at h
  split at h
  · cases h
  · cases h
    rfl

theorem resolve_default (h : l.defaultPlayer = some d) : resolve none l ask = asDefault <$> resolve (some d) l ask := by
  have hchoose : choose none l = readReference d := by
    unfold choose
    rw [h]
  rw [resolve_some]
  unfold resolve
  rw [hchoose]
  cases hread : readReference d with
  | ok r => rfl
  | error e =>
      dsimp only
      rw [map_pure, asDefault_of_readReference hread]

/-- **The default player is who is found when their reference is given.** Each outcome for the default player agrees with
the outcome for the reference, after the same questions to the service. Without a default player nobody is linked, and the
service is asked nothing. -/
theorem resolve_default_agrees (l : Links) (ask : AccountId → m (Except ServiceError (Option Profile))) :
    (∀ d, l.defaultPlayer = some d → Functor.Liftr Agree (resolve none l ask) (resolve (some d) l ask)) ∧
      (l.defaultPlayer = none → resolve none l ask = pure (.error (.notLinked none))) := by
  refine ⟨fun d hd => ?_, resolve_of_no_default⟩
  rw [resolve_default hd]
  exact liftr_agree (liftp_named_resolve d l ask)

end Resolving

/-- The default player is linked by name, and the service is not asked. -/
theorem resolve_default_agrees_dendi :
    ∃ l : Links, l = ⟨[("dendi", 70388657)], some "@Dendi"⟩ ∧
      Agree (resolve (m := Id) none l fun _ => pure (.ok none)).run
        (resolve (m := Id) (some "@Dendi") l fun _ => pure (.ok none)).run ∧
      (resolve (m := Id) none l fun _ => pure (.ok none)).run = .ok ⟨70388657, "Dendi", true⟩ ∧
      (resolve (m := Id) (some "@Dendi") l fun _ => pure (.ok none)).run = .ok ⟨70388657, "Dendi", false⟩ := by
  obtain ⟨l, hl⟩ : ∃ l : Links, l = ⟨[("dendi", 70388657)], some "@Dendi"⟩ := ⟨_, rfl⟩
  have hdefault : l.defaultPlayer = some "@Dendi" := by rw [hl]
  have hread : readReference "@Dendi" = .ok (.name "Dendi") := by rfl
  have hgiven : (resolve (m := Id) (some "@Dendi") l fun _ => pure (.ok none)).run = .ok ⟨70388657, "Dendi", false⟩ := by
    rw [resolve_some, hread, hl]
    rfl
  refine ⟨l, hl, ?_, ?_, hgiven⟩
  · obtain ⟨u, hx, hy⟩ := (resolve_default_agrees (m := Id) l fun _ => pure (.ok none)).1 "@Dendi" hdefault
    rw [← hx, ← hy]
    exact u.2
  · rw [resolve_default hdefault, Id.run_map, hgiven]
    rfl

end PhraseFilter.Player
