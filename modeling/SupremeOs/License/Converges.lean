import SupremeOs.License.MergeGrants

/-!
# Refreshes converge

When no refresh is in flight the effective license should be the merge of what
the providers that are set have answered to the last refresh that was started.

A refresh writes its merge whenever its providers have answered, so one that was
started earlier and is slower puts an older license back.
-/

namespace SupremeOs.License

open Support List

variable {parse : String → Option ℤ}

/-- The license is that of the refresh started last, which asked the providers that are set. -/
def Converged (parse : String → Option ℤ) (config : Config ServiceState Refresh) : Prop :=
  config.pending = [] → 0 < config.shared.started →
    ∃ refresh ∈ config.shared.finished, refresh.number + 1 = config.shared.started ∧
      refresh.providers = config.shared.providers ∧
      config.shared.effective = mergeGrants parse (refresh.grants parse)

/--
No load throws before it returns a promise, and a refresh that goes through while
no other one is in flight is the one started last.
-/
def lastGoesLast (config : Config ServiceState Refresh) : Schedule ServiceRequest
    ServiceReply → Prop
  | .call (.refresh _ throws) => config.shared.providers.any throws = false
  | .call (.setProviders providers _ throws) => providers.any throws = false
  | .resume index .all => config.pending.length = 1 →
      ∀ refresh ∈ config.pending[index]?, refresh.number + 1 = config.shared.started
  | .resume _ (.load _ _) => True

instance (config : Config ServiceState Refresh) : ∀ label, Decidable (lastGoesLast config label) := by
  intro label
  unfold lastGoesLast
  split <;> infer_instance

/-- A refresh that is under way, the last one of them with the providers that are set. -/
def UnderWay (state : ServiceState) (refresh : Refresh) : Prop :=
  refresh.number < state.started ∧
    (refresh.number + 1 = state.started → refresh.providers = state.providers)

def ServiceSound (parse : String → Option ℤ) (config : Config ServiceState Refresh) : Prop :=
  (∀ refresh ∈ config.pending, UnderWay config.shared refresh) ∧ Converged parse config

theorem serviceSound_start (parse : String → Option ℤ) (providers : List LicenseProvider) :
    ServiceSound parse (start providers) := by
  constructor
  · simp [start, Program.idle]
  · intro _ some
    simp [start, Program.idle] at some

theorem serviceSound_begin {state : ServiceState} {pending : List Refresh} {now : ℤ}
    {throws : LicenseProvider → Bool} (started : ∀ refresh ∈ pending, refresh.number
      < state.started)
    (quiet : state.providers.any throws = false) :
    ServiceSound parse ⟨(state.beginRefresh now throws).1,
      pending ++ (state.beginRefresh now throws).2⟩ := by
  simp only [ServiceState.beginRefresh, quiet, Bool.false_eq_true, if_false]
  constructor
  · intro refresh member
    rcases mem_append.mp member with old | new
    · have below := started refresh old
      exact ⟨Nat.lt_succ_of_lt below, fun last => by simp only at last; omega⟩
    · obtain rfl := mem_singleton.mp new
      exact ⟨Nat.lt_succ_self _, fun _ => rfl⟩
  · intro idle
    simp at idle

theorem serviceSound_step {config next : Config ServiceState Refresh}
    {label : Schedule ServiceRequest ServiceReply} (sound : ServiceSound parse config)
    (met : lastGoesLast config label)
    (step : (program parse).machine.step config label = some next) : ServiceSound parse next := by
  rcases sound with ⟨underWay, converged⟩
  cases label with
  | call request =>
    obtain rfl := Program.step_call_eq_some.mp step
    have started : ∀ refresh ∈ config.pending, refresh.number < config.shared.started :=
      fun refresh member => (underWay refresh member).1
    cases request with
    | refresh now throws => exact serviceSound_begin started met
    | setProviders providers now throws =>
      exact @serviceSound_begin parse { config.shared with providers } _ now throws started met
  | resume index reply =>
    rcases Program.step_resume_eq_some.mp step with
      ⟨before, refresh, after, shared, more, split, place, resumed, rfl⟩
    have own : UnderWay config.shared refresh := underWay refresh (by simp [split])
    have others : ∀ other ∈ before ++ after, UnderWay config.shared other := by
      intro other member
      refine underWay other ?_
      rw [split]
      simp only [mem_append, mem_cons] at member ⊢
      exact member.imp_right .inr
    cases reply with
    | load place load =>
      simp only [program] at resumed
      split at resumed
      · simp only [Option.some.injEq, Prod.mk.injEq] at resumed
        rcases resumed with ⟨rfl, rfl⟩
        constructor
        · intro other member
          simp only [mem_append, mem_singleton] at member others
          rcases member with (left | rfl) | right
          · exact others other (.inl left)
          · exact own
          · exact others other (.inr right)
        · intro idle
          simp at idle
      · cases resumed
    | all =>
      simp only [program] at resumed
      split at resumed
      · simp only [Option.some.injEq, Prod.mk.injEq] at resumed
        rcases resumed with ⟨rfl, rfl⟩
        constructor
        · intro other member
          rw [append_nil] at member
          exact others other member
        · intro idle _
          rw [append_nil, append_eq_nil_iff] at idle
          rcases idle with ⟨rfl, rfl⟩
          have last : refresh.number + 1 = config.shared.started :=
            met (by simp [split]) refresh (by simp [split, ← place])
          exact ⟨refresh, by simp, last, own.2 last, rfl⟩
      · cases resumed

/--
Refreshes converge, if none of them is overtaken by the last one; the order of
the grants matters only to a merge of dates and other texts; and a further grant
takes nothing away.
-/
theorem license_converges (parse : String → Option ℤ) (providers : List LicenseProvider)
    (labels : List (Schedule ServiceRequest ServiceReply))
    (inOrder : (program parse).machine.Guarded lastGoesLast (start providers) labels) :
    (program parse).machine.Throughout (Converged parse) (start providers) labels ∧
      (∀ grants : List ProviderGrant, (∀ order : List ProviderGrant, order.Perm grants →
          SameLicense parse (mergeGrants parse order) (mergeGrants parse grants)) ↔
        datedAlike parse grants) ∧
      ∀ before after grant, EntitlesTo (mergeGrants parse (before ++ after))
        (mergeGrants parse (before ++ grant :: after)) :=
  ⟨(Machine.throughout_of_guarded (fun _ _ _ => serviceSound_step)
      (serviceSound_start parse providers) inOrder).mono fun _ sound => sound.2,
    sameLicense_perm_iff parse, mergeGrants_entitlesTo parse⟩

def someDates (text : String) : Option ℤ :=
  if text = "2026-12-31T00:00:00.000Z" then some 1798675200000
  else if text = "2026-06-01T00:00:00.000Z" then some 1780272000000
  else none

def grantOf (source sku : String) (expiresAt : Option String) : ProviderGrant :=
  ⟨source, .professional, .professional, .only [sku], .only ["ai"], expiresAt, false, none⟩

def silent : LicenseProvider → Bool := fun _ => false

/-- A refresh is overtaken by none: the cloud answers it before the last one goes through. -/
def answeredInTurn : List (Schedule ServiceRequest ServiceReply) :=
  [.call (.refresh 1790000000000 silent),
    .call (.setProviders [⟨"offline"⟩, ⟨"cloud"⟩] 1790000001000 silent),
    .resume 0 (.load 0 .rejected), .resume 1 (.load 1 (.resolved (some
      (grantOf "cloud" "oem" (some "2026-12-31T00:00:00.000Z"))))), .resume 0 .all,
    .resume 0 (.load 0 (.resolved (some (grantOf "offline" "pro"
      (some "2026-06-01T00:00:00.000Z"))))), .resume 0 .all]

theorem license_converges_answeredInTurn :
    (program someDates).machine.Throughout (Converged someDates) (start [⟨"cloud"⟩])
        answeredInTurn ∧ (∀ grants : List ProviderGrant,
        (∀ order : List ProviderGrant, order.Perm grants →
          SameLicense someDates (mergeGrants someDates order) (mergeGrants someDates grants)) ↔
        datedAlike someDates grants) ∧
      ∀ before after grant, EntitlesTo (mergeGrants someDates (before ++ after))
        (mergeGrants someDates (before ++ grant :: after)) :=
  license_converges someDates [⟨"cloud"⟩] answeredInTurn (by decide +kernel)

/-- The offline grant has expired, so only that of the cloud counts. -/
example : ((program someDates).machine.run (start [⟨"cloud"⟩]) answeredInTurn).map
    (fun config => (config.pending, config.shared.effective.skus)) = some ([], .only {"oem"}) := by
  decide +kernel

/-- No load throws before it returns a promise. -/
def neverThrows : Schedule ServiceRequest ServiceReply → Prop
  | .call (.refresh _ throws) | .call (.setProviders _ _ throws) => ∀ provider,
    throws provider = false
  | .resume _ _ => True

/-- The providers are replaced while the cloud is slow to answer an older refresh. -/
def answeredLate : List (Schedule ServiceRequest ServiceReply) :=
  [.call (.refresh 1790000000000 silent), .call (.setProviders [⟨"offline"⟩] 1790000001000 silent),
    .resume 1 (.load 0 (.resolved (some (grantOf "offline" "pro" none)))), .resume 1 .all,
    .resume 0 (.load 0 (.resolved (some (grantOf "cloud" "oem" none)))), .resume 0 .all]

/-- The grant of a provider that has been replaced is back. -/
theorem license_converges_fails_answeredLate :
    ¬ ∀ (parse : String → Option ℤ) (providers : List LicenseProvider)
      (labels : List (Schedule ServiceRequest ServiceReply)),
      (∀ label ∈ labels, neverThrows label) →
      (program parse).machine.Throughout (Converged parse) (start providers) labels := by
  intro every
  have observed : ((program someDates).machine.run (start [⟨"cloud"⟩]) answeredLate).map
      (fun config => (config.pending, config.shared.started,
        config.shared.finished.map fun refresh =>
          (refresh.number, (mergeGrants someDates (refresh.grants someDates)).skus),
        config.shared.effective.skus)) =
      some ([], 2, [(1, .only {"pro"}), (0, .only {"oem"})], .only {"oem"}) := by
    decide +kernel
  rcases Option.map_eq_some_iff.mp observed with ⟨final, reached, fields⟩
  simp only [Prod.mk.injEq] at fields
  rcases fields with ⟨idle, started, finished, skus⟩
  have silentThroughout : ∀ label ∈ answeredLate, neverThrows label := by
    simp [answeredLate, neverThrows, silent]
  have converged := Machine.property_of_throughout
    (every someDates [⟨"cloud"⟩] answeredLate silentThroughout) reached
  rcases converged idle (by omega) with ⟨refresh, member, last, _, merged⟩
  have listed : (refresh.number, final.shared.effective.skus) ∈ final.shared.finished.map
      fun refresh => (refresh.number, (mergeGrants someDates (refresh.grants someDates)).skus) :=
    mem_map.mpr ⟨refresh, member, by rw [merged]⟩
  rw [finished, skus] at listed
  simp only [mem_cons, not_mem_nil, or_false, Prod.mk.injEq] at listed
  rcases listed with ⟨_, others⟩ | ⟨older, _⟩
  · exact absurd others (by decide +kernel)
  · omega

end SupremeOs.License
