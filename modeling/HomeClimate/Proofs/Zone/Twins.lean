import HomeClimate.Proofs.Zone.EconomizerCalls
import HomeClimate.Proofs.Zone.Rendering

/-!
# Two zones side by side

Of all that a zone is told, its thermostat hears no more than the setpoint.  So two zones
that begin with one thermostat and one setpoint have one thermostat for ever, if they
take the same samples and are told the same setpoints, however they differ in their
flags, their blocks for the economizer, their economizers and what these know of the
air outside.  Replays, and what else is done to one of the two alone, do not matter.

What the two say of a sample has one time, one health and one error.  Where neither is
muted it has one verdict too (`twins_stay_alike`).

A sample may end in an economizer that faults, before the thermostat has it.  That needs
a reading outside: an economizer that has none does not fault (`IsSealed.takes`).
-/

namespace HomeClimate

variable {ν : Type} [Scalar ν]

/-! ## Economizers without a reading outside -/

/-- Whether a call brings a reading outside. -/
def ZoneCall.isAmbient : ZoneCall ν → Bool
  | .ambient _ _ => true
  | _ => false

namespace Economizer

/-- Without a reading outside there is nothing to decide. -/
theorem update_of_ambient_eq_none {e : Economizer ν} (h : e.ambient = none) (now : Instant) :
    (e.update now).1.ambient = none ∧ ∃ combined, (e.update now).2 = .ok combined := by
  have hambient : (e.update now).1.ambient = none := by
    rcases readings_update e now with ⟨-, hkept⟩ | ⟨-, hnone⟩
    · exact hkept.trans h
    · exact hnone
  refine ⟨hambient, ?_⟩
  rw [update]
  by_cases hs : e.settings.isEnabled = true
  · rw [if_pos hs]
    rcases e.combine_cases now with ⟨hv, -⟩ | ⟨-, indoor, ambient, hpaired⟩
    · cases hc : e.combine now with
      | mk e₁ combined =>
          rw [hc] at hv
          simp only [hv]
          exact ⟨combined, rfl⟩
    · rw [hpaired.outside] at h
      cases h
  · rw [if_neg hs]
    exact ⟨_, rfl⟩

theorem ambient_setSettings {e e' : Economizer ν} {s : EconomizerSettings ν}
    (h : e.setSettings s = .ok e') : e'.ambient = e.ambient := by
  have hafter : (e.after (.settings s)).ambient = e.ambient := (e.readings_after rfl).2
  rw [Economizer.after, h] at hafter
  exact hafter

end Economizer

namespace Zone

/-- Nothing is known of the air outside. -/
def IsSealed (z : Zone ν) : Prop := ∀ e, z.economizer = some e → e.ambient = none

/-- A sample gets as far as the thermostat. -/
def Takes (z : Zone ν) (now : Instant) (sample : Signal ν) : Prop :=
  ∀ e f, z.economizer = some e → (e.recordIndoor now sample).2 ≠ .error f

theorem takes_iff {z : Zone ν} {now : Instant} {sample : Signal ν} :
    z.economizer.all (fun e => (e.recordIndoor now sample).2.isOk) = true ↔ z.Takes now sample := by
  rw [Takes]
  cases z.economizer with
  | none => exact iff_of_true rfl fun e f he => nomatch he
  | some e =>
      cases he : (e.recordIndoor now sample).2 with
      | error f =>
          simp only [Option.all_some, he]
          exact iff_of_false Bool.false_ne_true fun h => h e f rfl he
      | ok combined =>
          simp only [Option.all_some, he]
          refine iff_of_true rfl fun e' f he' hf => ?_
          cases he'
          cases he.symm.trans hf

instance (z : Zone ν) (now : Instant) (sample : Signal ν) : Decidable (z.Takes now sample) :=
  decidable_of_iff _ takes_iff

theorem IsSealed.takes {z : Zone ν} (h : z.IsSealed) (now : Instant) (sample : Signal ν) :
    z.Takes now sample := by
  intro e f he hf
  have hnone : ({ e with indoor := some (sample.attributed none) } : Economizer ν).ambient = none :=
    h e he
  obtain ⟨-, combined, hok⟩ := Economizer.update_of_ambient_eq_none hnone now
  rw [Economizer.recordIndoor, hok] at hf
  cases hf

/-- Adjusting brings no reading. -/
theorem IsSealed.adjusts {z z' : Zone ν} (h : z.IsSealed) (hadjusts : z.Adjusts z') :
    z'.IsSealed := by
  intro e' he'
  rcases hadjusts.economizer with hsame | ⟨e, e₁, s, he, hset, he₁⟩
  · exact h e' (hsame ▸ he')
  · rw [he₁] at he'
    cases he'
    exact (Economizer.ambient_setSettings hset).trans (h e he)

theorem IsSealed.attempt {z : Zone ν} (h : z.IsSealed) (now : Instant) (sample : Signal ν) :
    (z.attempt now sample).1.IsSealed := by
  obtain ⟨thermostat, lastVerdict, hfst, -⟩ := z.attempt_fst now sample
  rw [hfst]
  intro e' he'
  obtain ⟨e, he, rfl⟩ := Option.map_eq_some_iff.mp he'
  have hnone : ({ e with indoor := some (sample.attributed none) } : Economizer ν).ambient = none :=
    h e he
  exact (Economizer.update_of_ambient_eq_none hnone now).1

theorem IsSealed.close {z : Zone ν} (h : z.IsSealed) : z.close.IsSealed := by
  rw [Zone.close]
  split
  · exact h
  · intro e' he'
    obtain ⟨e, he, rfl⟩ := Option.map_eq_some_iff.mp he'
    have hclose : (e.after .close).ambient = e.ambient := (e.readings_after rfl).2
    exact hclose.trans (h e he)

/-- Only a call that brings a reading outside makes one known. -/
theorem IsSealed.call {z : Zone ν} (h : z.IsSealed) {c : ZoneCall ν} (hc : c.isAmbient = false) :
    (z.call c).IsSealed := by
  cases c with
  | sample clock sample => exact h.attempt clock sample
  | ambient clock reading => cases hc
  | settings update => exact h.adjusts (z.adjusts_setSettings update)
  | period period => exact h.adjusts (z.adjusts_setPeriod period)
  | replay => exact h
  | look => exact h.adjusts z.adjusts_answerWakeUp
  | close => exact h.close

/-- A zone begins with its thermostat at the setpoint, no verdict, and what its economizer knows. -/
theorem begins_of_create {thermostat : Thermostat ν} {settings : ZoneSettings ν}
    {economizer : Option (Economizer ν)} {z : Zone ν}
    (h : create thermostat settings economizer = .ok z) :
    thermostat.setSetpoint (settings.setpoint.getD thermostat.setpoint) = .ok z.thermostat ∧
      z.lastVerdict = none ∧ ((∀ e, economizer = some e → e.ambient = none) → z.IsSealed) := by
  obtain ⟨t, ht, h⟩ := Outcome.of_bind_eq_ok h
  obtain ⟨economizer', he, h⟩ := Outcome.of_bind_eq_ok h
  cases h
  refine ⟨ht, rfl, fun hsealed e' he' => ?_⟩
  rcases configureEconomizer_cases he with hsame | ⟨e, e₁, s, hsome, hset, he₁⟩
  · exact hsealed e' (hsame ▸ he')
  · cases he₁.symm.trans he'
    exact (Economizer.ambient_setSettings hset).trans (hsealed e hsome)

/-! ## What the thermostat hears -/

/-- A sample that gets to the thermostat changes it and the last verdict as the thermostat says. -/
theorem attempt_of_takes {z : Zone ν} {now : Instant} {sample : Signal ν} (h : z.Takes now sample) :
    (z.attempt now sample).1.thermostat = (z.thermostat.attemptSample (sample.attributed none)).1 ∧
      match (z.thermostat.attemptSample (sample.attributed none)).2 with
      | .ok verdict => (z.attempt now sample).1.lastVerdict = some verdict ∧
          (z.attempt now sample).2 = .ok ((z.attempt now sample).1.render verdict)
      | .error f => (z.attempt now sample).1.lastVerdict = z.lastVerdict ∧
          (z.attempt now sample).2 = .error f := by
  have hfst := withEconomizer_fst z (·.recordIndoor now sample)
  have htaken : ∀ f, (z.withEconomizer (·.recordIndoor now sample)).2 ≠ .error f := by
    intro f hf
    obtain ⟨e, he, hfault⟩ := withEconomizer_error hf
    exact h e f he hfault
  rw [attempt]
  cases hw : z.withEconomizer (·.recordIndoor now sample) with
  | mk z' answer =>
      rw [hw] at hfst htaken
      simp only at hfst
      subst hfst
      cases answer with
      | error f => exact absurd rfl (htaken f)
      | ok _ =>
          dsimp only
          cases ht : z.thermostat.attemptSample (sample.attributed none) with
          | mk thermostat answer =>
              cases answer with
              | ok verdict => exact ⟨rfl, rfl, rfl⟩
              | error f => exact ⟨rfl, rfl, rfl⟩

/-- An update that is taken changes the thermostat by its setpoint alone. -/
theorem retarget_of_setSettings {z : Zone ν} {update merged : ZoneSettings ν}
    (h : (z.setSettings update).2 = .ok merged) :
    retarget z.thermostat update = .ok (z.setSettings update).1.thermostat := by
  rw [setSettings] at h ⊢
  rcases z.apply_outcome update with ⟨f, hf, -⟩ | ⟨thermostat, economizer, ht, heq⟩
  · cases ha : z.apply update with
    | mk z' answer =>
        rw [ha] at h hf
        cases hf
        cases h
  · rw [heq]
    exact ht

/-- A zone that is not muted shows the verdict itself. -/
theorem calling_render_of_not_isMuted {z : Zone ν} (h : ¬ z.IsMuted)
    (verdict : Signal (CallingStatus ν)) :
    (z.render verdict).value?.map ZoneStatus.calling = verdict.value? := by
  have hid : ZoneStatus.calling ∘ z.beside = id := funext (calling_beside_of_not_isMuted h)
  rw [render_eq]
  show (verdict.health.map z.beside).value?.map ZoneStatus.calling = verdict.health.value?
  rw [Health.value?_map, Option.map_map, hid, Option.map_id_fun, id]

end Zone

/-! ## Twins -/

/-- Whether a call tells the thermostat nothing. -/
def ZoneCall.isAside : ZoneCall ν → Bool
  | .ambient _ _ => true
  | .replay => true
  | .look => true
  | .close => true
  | _ => false

theorem Zone.call_of_isAside (z : Zone ν) {c : ZoneCall ν} (h : c.isAside = true) :
    (z.call c).thermostat = z.thermostat ∧ (z.call c).lastVerdict = z.lastVerdict := by
  cases c with
  | sample clock sample => cases h
  | settings update => cases h
  | period period => cases h
  | ambient clock reading =>
      rw [call, recordAmbient, withEconomizer_fst]
      exact ⟨rfl, rfl⟩
  | replay => exact ⟨rfl, rfl⟩
  | look =>
      rw [call, answerWakeUp]
      split <;> exact ⟨rfl, rfl⟩
  | close =>
      rw [call, close]
      split <;> exact ⟨rfl, rfl⟩

/-- Two zones. -/
structure Twins (ν : Type) where
  first : Zone ν
  second : Zone ν

/-- What is done to two zones side by side. -/
inductive TwinAct (ν : Type) where
  /-- Both take a sample, each at a time of its own clock. -/
  | sample (clock₁ clock₂ : Instant) (sample : Signal ν)
  /-- A user changes the settings of both, each by an update of its own. -/
  | settings (update₁ update₂ : ZoneSettings ν)
  /-- Something is done to the first one alone. -/
  | first (c : ZoneCall ν)
  /-- Something is done to the second one alone. -/
  | second (c : ZoneCall ν)

/-- Whether an act brings a reading outside. -/
def TwinAct.isAmbient : TwinAct ν → Bool
  | .first c => c.isAmbient
  | .second c => c.isAmbient
  | _ => false

namespace Twins

/-- Two zones after an act. -/
def step (t : Twins ν) : TwinAct ν → Twins ν
  | .sample clock₁ clock₂ sample =>
    ⟨t.first.call (.sample clock₁ sample), t.second.call (.sample clock₂ sample)⟩
  | .settings update₁ update₂ =>
    ⟨t.first.call (.settings update₁), t.second.call (.settings update₂)⟩
  | .first c => ⟨t.first.call c, t.second⟩
  | .second c => ⟨t.first, t.second.call c⟩

/-- Two zones after some acts. -/
def after (t : Twins ν) (acts : List (TwinAct ν)) : Twins ν := acts.foldl step t

/-- What may be done to the two: any sample, updates with one setpoint that both take, and to one
alone what its thermostat does not hear of. -/
def Allows (t : Twins ν) : TwinAct ν → Prop
  | .sample _ _ _ => True
  | .settings update₁ update₂ =>
    update₁.setpoint = update₂.setpoint ∧ Outcome.Succeeds (t.first.setSettings update₁).2 ∧
      Outcome.Succeeds (t.second.setSettings update₂).2
  | .first c => c.isAside = true
  | .second c => c.isAside = true

/-- A sample, if the act is one, gets as far as both thermostats. -/
def Reaches (t : Twins ν) : TwinAct ν → Prop
  | .sample clock₁ clock₂ sample => t.first.Takes clock₁ sample ∧ t.second.Takes clock₂ sample
  | _ => True

/-- Something is so of each of some acts when its turn comes. -/
def Along (P : Twins ν → TwinAct ν → Prop) (t : Twins ν) : List (TwinAct ν) → Prop
  | [] => True
  | a :: acts => P t a ∧ (t.step a).Along P acts

section Decidable

instance [DecidableEq ν] (t : Twins ν) : (a : TwinAct ν) → Decidable (t.Allows a)
  | .sample _ _ _ => .isTrue trivial
  | .settings update₁ update₂ =>
    inferInstanceAs (Decidable (update₁.setpoint = update₂.setpoint ∧
      Outcome.Succeeds (t.first.setSettings update₁).2 ∧
      Outcome.Succeeds (t.second.setSettings update₂).2))
  | .first c => inferInstanceAs (Decidable (c.isAside = true))
  | .second c => inferInstanceAs (Decidable (c.isAside = true))

instance (t : Twins ν) : (a : TwinAct ν) → Decidable (t.Reaches a)
  | .sample clock₁ clock₂ sample =>
    inferInstanceAs (Decidable (t.first.Takes clock₁ sample ∧ t.second.Takes clock₂ sample))
  | .settings _ _ => .isTrue trivial
  | .first _ => .isTrue trivial
  | .second _ => .isTrue trivial

instance decidableAlong (P : Twins ν → TwinAct ν → Prop) [∀ t a, Decidable (P t a)] :
    (acts : List (TwinAct ν)) → (t : Twins ν) → Decidable (t.Along P acts)
  | [], _ => .isTrue trivial
  | a :: acts, t =>
    have := decidableAlong P acts (t.step a)
    inferInstanceAs (Decidable (P t a ∧ (t.step a).Along P acts))

end Decidable

/-- The two differ in nothing that a sample changes. -/
structure Alike (t : Twins ν) : Prop where
  thermostat : t.first.thermostat = t.second.thermostat
  lastVerdict : t.first.lastVerdict = t.second.lastVerdict

/-- Two statuses that say the same, and have the same verdict if neither zone is muted. -/
structure Agree (t : Twins ν) (s₁ s₂ : Signal (ZoneStatus ν)) : Prop where
  time : s₁.time = s₂.time
  status : s₁.status = s₂.status
  error : s₁.error? = s₂.error?
  calling : ¬ t.first.IsMuted → ¬ t.second.IsMuted →
    s₁.value?.map ZoneStatus.calling = s₂.value?.map ZoneStatus.calling

/-- Two zones show one verdict in ways that agree. -/
theorem agree_render (t : Twins ν) (verdict : Signal (CallingStatus ν)) :
    t.Agree (t.first.render verdict) (t.second.render verdict) := by
  have h₁ := t.first.shows_render verdict
  have h₂ := t.second.shows_render verdict
  refine ⟨h₁.time.trans h₂.time.symm, h₁.status.trans h₂.status.symm,
    h₁.error.trans h₂.error.symm, fun hm₁ hm₂ => ?_⟩
  rw [Zone.calling_render_of_not_isMuted hm₁, Zone.calling_render_of_not_isMuted hm₂]

theorem Alike.agree_replay {t : Twins ν} (h : t.Alike) :
    (t.first.replay? = none ∧ t.second.replay? = none) ∨
      ∃ s₁ s₂, t.first.replay? = some s₁ ∧ t.second.replay? = some s₂ ∧ t.Agree s₁ s₂ := by
  rw [Zone.replay?, Zone.replay?, ← h.lastVerdict]
  cases t.first.lastVerdict with
  | none => exact .inl ⟨rfl, rfl⟩
  | some verdict => exact .inr ⟨_, _, rfl, rfl, t.agree_render verdict⟩

/-- What a sample gets from the two: one fault, or two statuses that agree. -/
theorem Alike.sample {t : Twins ν} (h : t.Alike) {clock₁ clock₂ : Instant} {sample : Signal ν}
    (h₁ : t.first.Takes clock₁ sample) (h₂ : t.second.Takes clock₂ sample) :
    (t.step (.sample clock₁ clock₂ sample)).Alike ∧
      ((∃ f, (t.first.attempt clock₁ sample).2 = .error f ∧
          (t.second.attempt clock₂ sample).2 = .error f) ∨
        ∃ s₁ s₂, (t.first.attempt clock₁ sample).2 = .ok s₁ ∧
          (t.second.attempt clock₂ sample).2 = .ok s₂ ∧
          (t.step (.sample clock₁ clock₂ sample)).Agree s₁ s₂) := by
  obtain ⟨ht₁, hrest₁⟩ := Zone.attempt_of_takes h₁
  obtain ⟨ht₂, hrest₂⟩ := Zone.attempt_of_takes h₂
  rw [← h.thermostat] at ht₂ hrest₂
  cases hv : (t.first.thermostat.attemptSample (sample.attributed none)).2 with
  | error f =>
      rw [hv] at hrest₁ hrest₂
      obtain ⟨hlast₁, hf₁⟩ := hrest₁
      obtain ⟨hlast₂, hf₂⟩ := hrest₂
      refine ⟨⟨ht₁.trans ht₂.symm, ?_⟩, .inl ⟨f, hf₁, hf₂⟩⟩
      exact hlast₁.trans (h.lastVerdict.trans hlast₂.symm)
  | ok verdict =>
      rw [hv] at hrest₁ hrest₂
      obtain ⟨hlast₁, hs₁⟩ := hrest₁
      obtain ⟨hlast₂, hs₂⟩ := hrest₂
      refine ⟨⟨ht₁.trans ht₂.symm, hlast₁.trans hlast₂.symm⟩, .inr ⟨_, _, hs₁, hs₂, ?_⟩⟩
      exact agree_render (t.step (.sample clock₁ clock₂ sample)) verdict

theorem Alike.step {t : Twins ν} (h : t.Alike) {a : TwinAct ν} (ha : t.Allows a)
    (hreaches : t.Reaches a) : (t.step a).Alike := by
  cases a with
  | sample clock₁ clock₂ sample => exact (h.sample hreaches.1 hreaches.2).1
  | settings update₁ update₂ =>
      obtain ⟨hsetpoint, ⟨merged₁, hok₁⟩, merged₂, hok₂⟩ := ha
      have ht₁ := Zone.retarget_of_setSettings hok₁
      have ht₂ := Zone.retarget_of_setSettings hok₂
      have hsame : Zone.retarget t.first.thermostat update₁ =
          Zone.retarget t.second.thermostat update₂ := by
        rw [Zone.retarget, Zone.retarget, h.thermostat, hsetpoint]
      refine ⟨Except.ok.inj (ht₁.symm.trans (hsame.trans ht₂)), ?_⟩
      exact (t.first.adjusts_setSettings update₁).lastVerdict.trans
        (h.lastVerdict.trans (t.second.adjusts_setSettings update₂).lastVerdict.symm)
  | first c =>
      obtain ⟨hthermostat, hlast⟩ := t.first.call_of_isAside ha
      exact ⟨hthermostat.trans h.thermostat, hlast.trans h.lastVerdict⟩
  | second c =>
      obtain ⟨hthermostat, hlast⟩ := t.second.call_of_isAside ha
      exact ⟨h.thermostat.trans hthermostat.symm, h.lastVerdict.trans hlast.symm⟩

theorem Alike.after {t : Twins ν} (h : t.Alike) {acts : List (TwinAct ν)}
    (hallows : t.Along Allows acts) (hreaches : t.Along Reaches acts) : (t.after acts).Alike := by
  induction acts generalizing t with
  | nil => exact h
  | cons a acts ih => exact ih (h.step hallows.1 hreaches.1) hallows.2 hreaches.2

/-- Neither of the two knows of the air outside. -/
def AreSealed (t : Twins ν) : Prop := t.first.IsSealed ∧ t.second.IsSealed

theorem AreSealed.step {t : Twins ν} (h : t.AreSealed) {a : TwinAct ν} (ha : a.isAmbient = false) :
    (t.step a).AreSealed := by
  cases a with
  | sample clock₁ clock₂ sample => exact ⟨h.1.attempt clock₁ sample, h.2.attempt clock₂ sample⟩
  | settings update₁ update₂ =>
      exact ⟨h.1.adjusts (t.first.adjusts_setSettings update₁),
        h.2.adjusts (t.second.adjusts_setSettings update₂)⟩
  | first c => exact ⟨h.1.call ha, h.2⟩
  | second c => exact ⟨h.1, h.2.call ha⟩

/-- Without readings outside every sample gets to both thermostats, and neither economizer ever
knows a reading. -/
theorem AreSealed.reaches {t : Twins ν} (h : t.AreSealed) {acts : List (TwinAct ν)}
    (hacts : ∀ a ∈ acts, a.isAmbient = false) :
    t.Along Reaches acts ∧ (t.after acts).AreSealed := by
  induction acts generalizing t with
  | nil => exact ⟨trivial, h⟩
  | cons a acts ih =>
      obtain ⟨ha, hacts⟩ := List.forall_mem_cons.mp hacts
      obtain ⟨hreaches, hsealed⟩ := ih (h.step ha) hacts
      refine ⟨⟨?_, hreaches⟩, hsealed⟩
      cases a with
      | sample clock₁ clock₂ sample => exact ⟨h.1.takes clock₁ sample, h.2.takes clock₂ sample⟩
      | settings update₁ update₂ => trivial
      | first c => trivial
      | second c => trivial

/-- Neither the economizers that two zones are made with nor some acts bring a reading outside. -/
def BringNothing (economizer₁ economizer₂ : Option (Economizer ν)) (acts : List (TwinAct ν)) :
    Prop :=
  (∀ e, economizer₁ = some e → e.ambient = none) ∧
    (∀ e, economizer₂ = some e → e.ambient = none) ∧ ∀ a ∈ acts, a.isAmbient = false

/-- Two zones that were made of one thermostat, with one setpoint, have one thermostat and one last
verdict whatever is done to them, and what they say of it agrees.  If readings come from outside it
takes that no economizer faults before a thermostat has the sample; without any it takes nothing. -/
theorem twins_stay_alike {thermostat : Thermostat ν} {settings₁ settings₂ : ZoneSettings ν}
    {economizer₁ economizer₂ : Option (Economizer ν)} {z₁ z₂ : Zone ν}
    (h₁ : Zone.create thermostat settings₁ economizer₁ = .ok z₁)
    (h₂ : Zone.create thermostat settings₂ economizer₂ = .ok z₂)
    (hsetpoint : settings₁.setpoint.getD thermostat.setpoint =
      settings₂.setpoint.getD thermostat.setpoint)
    (acts : List (TwinAct ν)) (hallows : Along Allows ⟨z₁, z₂⟩ acts)
    (hreaches : BringNothing economizer₁ economizer₂ acts ∨ Along Reaches ⟨z₁, z₂⟩ acts) :
    let t := after ⟨z₁, z₂⟩ acts
    t.first.thermostat = t.second.thermostat ∧ t.first.lastVerdict = t.second.lastVerdict ∧
      (∀ clock₁ clock₂ sample,
        BringNothing economizer₁ economizer₂ acts ∨ t.Reaches (.sample clock₁ clock₂ sample) →
        (t.step (.sample clock₁ clock₂ sample)).first.thermostat =
            (t.step (.sample clock₁ clock₂ sample)).second.thermostat ∧
          ((∃ f, (t.first.attempt clock₁ sample).2 = .error f ∧
              (t.second.attempt clock₂ sample).2 = .error f) ∨
            ∃ s₁ s₂, (t.first.attempt clock₁ sample).2 = .ok s₁ ∧
              (t.second.attempt clock₂ sample).2 = .ok s₂ ∧
              (t.step (.sample clock₁ clock₂ sample)).Agree s₁ s₂)) ∧
      ((t.first.replay? = none ∧ t.second.replay? = none) ∨
        ∃ s₁ s₂, t.first.replay? = some s₁ ∧ t.second.replay? = some s₂ ∧ t.Agree s₁ s₂) := by
  obtain ⟨ht₁, hlast₁, hsealed₁⟩ := Zone.begins_of_create h₁
  obtain ⟨ht₂, hlast₂, hsealed₂⟩ := Zone.begins_of_create h₂
  have hbegin : Alike ⟨z₁, z₂⟩ := by
    refine ⟨?_, hlast₁.trans hlast₂.symm⟩
    rw [hsetpoint] at ht₁
    exact Except.ok.inj (ht₁.symm.trans ht₂)
  have hnothing : BringNothing economizer₁ economizer₂ acts →
      Along Reaches ⟨z₁, z₂⟩ acts ∧ (after ⟨z₁, z₂⟩ acts).AreSealed := by
    intro ⟨hnone₁, hnone₂, hacts⟩
    exact AreSealed.reaches (t := ⟨z₁, z₂⟩) ⟨hsealed₁ hnone₁, hsealed₂ hnone₂⟩ hacts
  have hafter := hbegin.after hallows (hreaches.elim (fun h => (hnothing h).1) id)
  refine ⟨hafter.thermostat, hafter.lastVerdict, fun clock₁ clock₂ sample hnext => ?_,
    hafter.agree_replay⟩
  obtain ⟨htakes₁, htakes₂⟩ :
      Reaches (after ⟨z₁, z₂⟩ acts) (.sample clock₁ clock₂ sample) := hnext.elim
    (fun h => ⟨(hnothing h).2.1.takes clock₁ sample, (hnothing h).2.2.takes clock₂ sample⟩) id
  obtain ⟨halike, hanswers⟩ := hafter.sample htakes₁ htakes₂
  exact ⟨halike.thermostat, hanswers⟩

/-- A den with an economizer that is on, and one that is disabled and has none.  They take a warm
sample, hear of another setpoint, and have one thermostat. -/
theorem twins_stay_alike_in_dens :
    let clock : Instant := .ofEpoch 60 0
    let acts : List (TwinAct Rat) :=
      [.first (.ambient clock (.healthy clock 10)),
       .sample clock clock (.healthy clock 25), .second .replay,
       .settings { setpoint := some 22, enabled := some false }
         { setpoint := some 22, voting := some false, hold := some true }, .first .look]
    ∃ (thermostat : Thermostat Rat) (e : Economizer Rat) (den plain : Zone Rat),
      Thermostat.create "den" 20 .standard (PidSettings.ofGains 1 1 0 0) = .ok thermostat ∧
      Economizer.create "den" (.standard .cooling (.ofTarget 2 18)) ⟨"damper", [.cooling]⟩ = .ok e ∧
      Zone.create thermostat { economizer := some (.ofTarget 2 18) } (some e) = .ok den ∧
      Zone.create thermostat { enabled := some false } none = .ok plain ∧
      Along Allows ⟨den, plain⟩ acts ∧ Along Reaches ⟨den, plain⟩ acts ∧
      (after ⟨den, plain⟩ acts).first.thermostat = (after ⟨den, plain⟩ acts).second.thermostat ∧
      (after ⟨den, plain⟩ acts).first.lastVerdict.isSome = true := by
  intro clock acts
  have hruns : Outcome.holds (do
      let thermostat ← Thermostat.create "den" (20 : Rat) .standard (PidSettings.ofGains 1 1 0 0)
      let e ← Economizer.create "den" (.standard .cooling (.ofTarget 2 18)) ⟨"damper", [.cooling]⟩
      let den ← Zone.create thermostat { economizer := some (.ofTarget 2 18) } (some e)
      let plain ← Zone.create thermostat { enabled := some false } none
      return (thermostat, e, den, plain))
    (fun (_, _, den, plain) => decide (Along Allows ⟨den, plain⟩ acts) &&
      decide (Along Reaches ⟨den, plain⟩ acts) &&
      (after ⟨den, plain⟩ acts).first.lastVerdict.isSome) = true := by decide +kernel
  obtain ⟨⟨thermostat, e, den, plain⟩, hbuilt, htest⟩ := Outcome.exists_of_holds hruns
  obtain ⟨_, hthermostat, hbuilt⟩ := Outcome.of_bind_eq_ok hbuilt
  obtain ⟨_, he, hbuilt⟩ := Outcome.of_bind_eq_ok hbuilt
  obtain ⟨_, hden, hbuilt⟩ := Outcome.of_bind_eq_ok hbuilt
  obtain ⟨_, hplain, hbuilt⟩ := Outcome.of_bind_eq_ok hbuilt
  cases hbuilt
  obtain ⟨halong, hlast⟩ := Bool.and_eq_true_iff.mp htest
  obtain ⟨hallows, hreaches⟩ := Bool.and_eq_true_iff.mp halong
  have hallows : Along Allows ⟨den, plain⟩ acts := of_decide_eq_true hallows
  have hreaches : Along Reaches ⟨den, plain⟩ acts := of_decide_eq_true hreaches
  exact ⟨_, _, _, _, hthermostat, he, hden, hplain, hallows, hreaches,
    (twins_stay_alike hden hplain rfl acts hallows (.inr hreaches)).1, hlast⟩

end Twins

end HomeClimate
